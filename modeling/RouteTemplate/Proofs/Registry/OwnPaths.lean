import RouteTemplate.Registry.Standard
import RouteTemplate.Proofs.Path.Built
import RouteTemplate.Proofs.Pattern.Separation
import RouteTemplate.Proofs.Registry.Priority
import RouteTemplate.Proofs.Route

/-! # Resolving the paths that a registry builds

A path is resolved without its extension, and an extension is what follows the last point. A point
in a literal is therefore taken for the start of an extension unless the path ends with a point, and
the route that built the path no longer fits what is left of it: `captures_filled_iff` counts the
points. -/
namespace RouteTemplate

open Alphabet (isVariable spells)

/-- No literal of the pattern holds a point, or the pattern ends with one. -/
def Pattern.Rereadable (pattern : Text) : Prop :=
  (∀ literal ∈ (Shape.ofPattern pattern).literals, '.' ∉ literal) ∨ pattern.getLast? = some '.'

instance (pattern : Text) : Decidable (Pattern.Rereadable pattern) :=
  inferInstanceAs (Decidable ((∀ literal ∈ _, _ ∉ literal) ∨ _ = _))

namespace Matcher

variable {separator : Text} {matcher : Matcher} {base : Text} {values row : List Text}

/-- A text that makes values has a point for every point of a literal. -/
theorem literalCount_le_of_captures (captured : matcher.tolerantCaptures? separator base = some row)
    (c : Char) : matcher.literalCount c ≤ base.count c := by
  obtain ⟨⟨counted, -, rest, rfl, -⟩, -⟩ := values?_eq_some_iff.mp captured
  rw [List.count_append]
  exact Nat.le_trans (literalCount_le_filled counted) (Nat.le_add_right _ _)

theorem tolerantCaptures?_filled_ne_none (counted : values.length = matcher.groups)
    (spelt : ∀ value ∈ values, spells isVariable value = true) :
    matcher.tolerantCaptures? separator (matcher.filled values) ≠ none := by
  intro missed
  refine values?_eq_none_iff.mp missed values ⟨counted, spelt, [], ?_, rfl⟩
  rw [List.append_nil]

end Matcher

/-- Whether the matcher of a pattern takes the base of a path that was built from the pattern. -/
theorem Pattern.captures_filled_iff {separator : Char} {pattern : Text} {row : List Text}
    (legal : (isVariable separator || Alphabet.isBrace separator) = false)
    (valid : violation? [separator] pattern = none)
    (counted : row.length = (matcher pattern).groups)
    (spelt : ∀ value ∈ row, spells isVariable value = true)
    (pointless : ∀ value ∈ row, '.' ∉ value) :
    (matcher pattern).tolerantCaptures? [separator]
        (Path.split ((matcher pattern).filled row)).base ≠ none ↔
      Rereadable pattern := by
  obtain ⟨foreign, noBrace⟩ := Bool.or_eq_false_iff.mp legal
  have closed : Path.Closed ((matcher pattern).filled row) ↔ _ :=
    Shape.closed_filled_iff counted spelt pointless
  rw [text_ofPattern valid] at closed
  rw [Rereadable, ← closed]
  constructor
  · intro captured
    apply Classical.byContradiction
    intro unclosed
    have leads : ((matcher pattern).filled row).head? = some separator :=
      (wellFormed_ofPattern noBrace valid).head?_filled row
    have other : separator ≠ '.' := by
      rintro rfl
      cases foreign
    obtain ⟨extension, found⟩ := Path.exists_extension_of_not_closed leads other unclosed
    obtain ⟨taken, captured⟩ := Option.ne_none_iff_exists'.mp captured
    -- The base has lost a point, but the literals still ask for all of them.
    have enough := Matcher.literalCount_le_of_captures captured '.'
    have lost := Path.count_base_lt found
    rw [Matcher.count_filled counted pointless] at lost
    omega
  · intro closed
    rw [Path.split_of_closed closed]
    exact Matcher.tolerantCaptures?_filled_ne_none counted spelt

namespace Registry

variable {settings : Settings} {templates : List Template} {registry : Registry} {route : Route}
  {raw : RawValue} {values : Assignment}

/-- A route takes the base of a path that was built from its pattern when no point is lost. -/
theorem WellBuilt.binds_filled_iff (well : registry.WellBuilt) (member : route ∈ registry.routes)
    {row : List Text} (counted : row.length = (Pattern.matcher route.pattern).groups)
    (spelt : ∀ value ∈ row, spells isVariable value = true)
    (pointless : ∀ value ∈ row, '.' ∉ value) :
    route.bindings? registry.settings.separatorText
        (Path.split ((Pattern.matcher route.pattern).filled row)).base ≠ none ↔
      Pattern.Rereadable route.pattern := by
  have valid := well.valid route member
  rw [well.routed route member, ne_eq, Route.bindings?_eq_none_iff valid]
  exact Pattern.captures_filled_iff registry.settings.separator_free valid counted spelt pointless

theorem WellBuilt.eq_of_idxOf_eq (well : registry.WellBuilt) {other : Route}
    (member : route ∈ registry.routes) (among : other ∈ registry.routes)
    (same : registry.keys.idxOf other.key = registry.keys.idxOf route.key) : other = route := by
  have keys := (List.idxOf_inj (List.mem_map_of_mem among)).mp same
  exact List.inj_on_of_nodup_map well.distinct among member keys

/-- A merge into a route that is registered gives a path, and a path within the limit is resolved at
the place of that route or before it, unless points in its literals are lost to the extension. -/
theorem resolve_merge_iff (built : build settings templates = .ok registry)
    (got : registry.get raw = .ok route) (fills : values.Fills route.pattern)
    (pointless : ∀ name value, values.get? name = some value → '.' ∉ value) :
    ∃ path, registry.merge raw (some values) = .ok path ∧
      (path.length ≤ settings.limit →
        ∃ result, registry.resolve (some path) = .ok result ∧
          ((∃ found, result = some found ∧
              registry.keys.idxOf found.route.key ≤ registry.keys.idxOf route.key) ↔
            Pattern.Rereadable route.pattern ∨
              ∃ earlier ∈ registry.routes,
                registry.keys.idxOf earlier.key < registry.keys.idxOf route.key ∧
                  earlier.bindings? settings.separatorText (Path.split path).base ≠ none)) := by
  have well := wellBuilt_of_build built
  obtain rfl := settings_of_build built
  obtain ⟨member, -⟩ := well.get_eq_ok_iff.mp got
  have valid := well.valid route member
  have counted := Assignment.length_row_eq_groups valid values
  have bare : ∀ value ∈ values.row (Pattern.placeholderNames route.pattern), '.' ∉ value := by
    intro value held
    obtain ⟨name, found⟩ := fills.get?_of_mem_row held
    exact pointless name value found
  have own := well.binds_filled_iff member counted fills.spells_of_mem_row bare
  refine ⟨_, (merge_of_get got values).trans (Pattern.merge_of_fills valid fills), fun short => ?_⟩
  have wellFormed := Pattern.wellFormed_ofPattern registry.settings.isBrace_separator valid
  have faultless : Path.fault? registry.settings.separatorText registry.settings.limit
      ((Pattern.matcher route.pattern).filled
        (values.row (Pattern.placeholderNames route.pattern)) ++ []) = none :=
    wellFormed.fault?_filled counted fills.spells_of_mem_row (List.forall_mem_nil _)
      (by rw [List.append_nil]; exact Int.ofNat_le.mpr short)
  rw [List.append_nil] at faultless
  refine ⟨_, resolve_eq_ok_iff.mpr ⟨_, rfl, faultless, rfl⟩, ?_⟩
  rw [← own]
  apply (Resolution.exists_first?_le_iff well.distinct).trans
  -- A route that takes the path up to this place is this one or an earlier one.
  constructor
  · rintro ⟨other, among, near, binds⟩
    rcases Nat.lt_or_eq_of_le near with earlier | same
    · exact .inr ⟨other, among, earlier, binds⟩
    · exact .inl (well.eq_of_idxOf_eq member among same ▸ binds)
  · rintro (binds | ⟨other, among, earlier, binds⟩)
    · exact ⟨route, member, Nat.le_refl _, binds⟩
    · exact ⟨other, among, Nat.le_of_lt earlier, binds⟩

/-- A point in a literal keeps a path from being resolved by the one route there is. -/
theorem resolve_merge_dotted :
    let values := Assignment.ofList [("id".toList, "7".toList)]
    values.Fills "/v1.2/\x7bid\x7d".toList ∧
      (∀ name value, values.get? name = some value → '.' ∉ value) ∧
      ∃ registry, build Settings.standard [⟨.view, "/v1.2/\x7bid\x7d".toList⟩] = .ok registry ∧
        registry.merge (.key .view) (some values) = .ok "/v1.2/7".toList ∧
        "/v1.2/7".toList.length ≤ Settings.standard.limit ∧
        registry.resolve (some "/v1.2/7".toList) = .ok none := by
  have valid : Pattern.violation? ['/'] "/v1.2/\x7bid\x7d".toList = none := rfl
  refine ⟨?_, fun name value found => ?_, _, rfl, ?_, ?_, ?_⟩
  · exact @Pattern.fills_ofList_zip ['/'] _ ["7".toList] valid rfl
      (List.forall_mem_singleton.mpr rfl)
  · obtain ⟨rfl, rfl⟩ := Prod.mk.inj (List.mem_singleton.mp (Assignment.mem_entries_of_get? found))
    decide
  · rfl
  · decide
  · rfl

theorem resolve_merge_standard :
    let pattern := "/\x7bprefix\x7d/\x7bid\x7d".toList
    let row := ["users".toList, "7".toList]
    let values := Assignment.ofList ((Pattern.placeholderNames pattern).zip row)
    ∃ path found, standard.merge (.text "show".toList) (some values) = .ok path ∧
      standard.resolve (some path) = .ok (some found) := by
  intro pattern row values
  have valid : Pattern.violation? ['/'] pattern = none := rfl
  have got : standard.get (.text "show".toList) = .ok (Route.ofTemplate ⟨.view, pattern⟩) := by rfl
  have counted : row.length = (Pattern.placeholderNames pattern).length := by rfl
  have fills : values.Fills pattern := Pattern.fills_ofList_zip valid counted (by decide)
  have pointless : ∀ entry ∈ values.entries, '.' ∉ entry.2 := by decide
  obtain ⟨path, merged, resolved⟩ := resolve_merge_iff build_standardTemplates got fills
    fun name value found => pointless _ (Assignment.mem_entries_of_get? found)
  have short : path.length ≤ Settings.standard.limit := by
    have whole : standard.merge (.text "show".toList) (some values) = .ok "/users/7".toList := rfl
    obtain rfl := Except.ok.inj (merged.symm.trans whole)
    decide
  obtain ⟨_, answered, reached⟩ := resolved short
  obtain ⟨found, rfl, -⟩ := reached.mpr (.inl (by decide))
  exact ⟨path, found, merged, answered⟩

end Registry

end RouteTemplate
