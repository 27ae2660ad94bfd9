import RouteTemplate.Registry.Standard
import RouteTemplate.Proofs.Path.Built
import RouteTemplate.Proofs.Pattern.Separation
import RouteTemplate.Proofs.Registry.Priority
import RouteTemplate.Proofs.Route

/-! # Canonical paths

Merging what a path was resolved to gives its canonical path, which has lost the extra segment and the
extension. No way to cut a canonical path leaves a segment over, so that each of them cuts the old base
as well, and the one that was greatest there still is (`tolerantCaptures?_filled_of_captures`). The
route of the old path therefore takes the canonical one with the same values, whatever extension
follows (`resolve_canonical`). -/
namespace RouteTemplate

open Alphabet (isVariable isPathCharacter spells spells_iff)

theorem Matcher.tolerantCaptures?_filled_of_captures {separator : Char} {matcher : Matcher}
    {base : Text} {row : List Text} (foreign : isVariable separator = false)
    (captured : matcher.tolerantCaptures? [separator] base = some row) :
    matcher.tolerantCaptures? [separator] (matcher.filled row) = some row := by
  obtain ⟨⟨counted, spelt, rest, rfl, tolerated⟩, greatest⟩ := values?_eq_some_iff.mp captured
  have fits : matcher.Admits (toleratesRest [separator]) row (matcher.filled row) :=
    ⟨counted, spelt, [], (List.append_nil _).symm, rfl⟩
  refine values?_eq_some_iff.mpr ⟨fits, fun others admits => ?_⟩
  -- The other values make the canonical text without a rest, so the old rest follows them too.
  have same := admits.filled_eq foreign counted spelt
  exact greatest others ⟨admits.counted, admits.spelt, rest, by rw [same], tolerated⟩

/-- A route binds the same values to the text that its bindings make. -/
theorem Route.exists_core_of_bindings? {separator : Char} {key : Key} {pattern base : Text}
    {bindings : Assignment} (legal : (isVariable separator || Alphabet.isBrace separator) = false)
    (valid : Pattern.violation? [separator] pattern = none)
    (bound : (ofTemplate ⟨key, pattern⟩).bindings? [separator] base = some bindings) :
    ∃ core, Pattern.merge pattern bindings = .ok core ∧ core ≠ [] ∧
      (∀ c ∈ core, isPathCharacter [separator] c = true) ∧
      (ofTemplate ⟨key, pattern⟩).bindings? [separator] core = some bindings := by
  obtain ⟨foreign, noBrace⟩ := Bool.or_eq_false_iff.mp legal
  rw [bindings?_ofTemplate valid, Option.map_eq_some_iff] at bound
  obtain ⟨row, captured, rfl⟩ := bound
  obtain ⟨⟨counted, spelt, -⟩, -⟩ := Matcher.values?_eq_some_iff.mp captured
  have wellFormed := Pattern.wellFormed_ofPattern noBrace valid
  have again := Matcher.tolerantCaptures?_filled_of_captures foreign captured
  refine ⟨_, Pattern.merge_ofList_zip valid (counted.trans (Pattern.groups_eq_length valid)) spelt,
    wellFormed.filled_ne_nil row, wellFormed.isPathCharacter_of_mem_filled counted spelt, ?_⟩
  rw [bindings?_ofTemplate valid]
  exact Option.map_eq_some_iff.mpr ⟨row, again, rfl⟩

namespace Path

variable {separator : Char} {base : Text}

theorem carries_of_spells {extension : Text} (spelt : spells isVariable extension = true)
    (pointless : '.' ∉ extension) : Carries separator base (some extension) := by
  obtain ⟨filled, admitted⟩ := spells_iff.mp spelt
  refine ⟨filled, pointless, fun c stands => ?_⟩
  rw [isPathCharacter, admitted c stands, Bool.true_or]

theorem fault?_append_suffix {extension : Option Text} {limit : Int} (filled : base ≠ [])
    (admitted : ∀ c ∈ base, isPathCharacter [separator] c = true)
    (carries : Carries separator base extension) (short : (base ++ suffix extension).length ≤ limit) :
    fault? [separator] limit (base ++ suffix extension) = none := by
  refine fault?_eq_none_iff.mpr ⟨List.append_ne_nil_of_left_ne_nil filled _, short, ?_⟩
  exact List.forall_mem_append.mpr ⟨admitted, isPathCharacter_of_mem_suffix carries⟩

end Path

namespace Registry

variable {settings : Settings} {templates : List Template} {registry : Registry}
  {path : Option Text} {found : Resolution} {extension : Text}

/-- The canonical path of a resolved path, with any extension, is resolved at the place of its route
or before it, and if at its place, to the same bindings. There is no place before that of the only
template of a registry. -/
theorem resolve_canonical (built : build settings templates = .ok registry)
    (resolved : registry.resolve path = .ok (some found))
    (spelt : spells isVariable extension = true) (pointless : '.' ∉ extension) :
    ∃ core, registry.merge (.key found.route.key) (some found.bindings) = .ok core ∧
      ((core ++ '.' :: extension).length ≤ settings.limit →
        ∃ again, registry.resolve (some (core ++ '.' :: extension)) = .ok (some again) ∧
          again.extension = some extension ∧
          registry.keys.idxOf again.route.key ≤ registry.keys.idxOf found.route.key ∧
          (again.route.key = found.route.key → again.bindings = found.bindings) ∧
          (templates.length = 1 → again.bindings = found.bindings)) := by
  have well := wellBuilt_of_build built
  obtain rfl := settings_of_build built
  obtain ⟨text, rfl, -, first⟩ := resolve_eq_ok_iff.mp resolved
  obtain ⟨-, before, after, split, bound, -⟩ := Resolution.first?_eq_some_iff.mp first.symm
  have member : found.route ∈ registry.routes := by simp [split]
  have got : registry.get (.key found.route.key) = .ok found.route :=
    well.get_eq_ok_iff.mpr ⟨member, rfl⟩
  rw [well.routed found.route member] at bound
  obtain ⟨core, merged, filled, admitted, rebound⟩ :=
    Route.exists_core_of_bindings? registry.settings.separator_free (well.valid _ member) bound
  rw [← well.routed found.route member] at rebound
  refine ⟨core, (merge_of_get got _).trans merged, fun short => ?_⟩
  have carries : Path.Carries registry.settings.separator core (some extension) :=
    Path.carries_of_spells spelt pointless
  have whole : Path.split (core ++ '.' :: extension) = ⟨core, some extension⟩ :=
    Path.split_append_suffix filled carries
  have faultless : Path.fault? registry.settings.separatorText registry.settings.limit
      (core ++ '.' :: extension) = none :=
    Path.fault?_append_suffix filled admitted carries (Int.ofNat_le.mpr short)
  -- The old route takes the canonical path, so that the first route to do so is not a later one.
  have taken : found.route.bindings? registry.settings.separatorText
      (Path.split (core ++ '.' :: extension)).base = some found.bindings := by
    rw [whole]
    exact rebound
  obtain ⟨again, answered, near⟩ := (Resolution.exists_first?_le_iff well.distinct).mpr
    ⟨found.route, member, Nat.le_refl _, by rw [taken]; exact Option.some_ne_none _⟩
  obtain ⟨carried, earlier, later, cut, binds, -⟩ := Resolution.first?_eq_some_iff.mp answered
  have among : again.route ∈ registry.routes := by simp [cut]
  have kept (same : again.route.key = found.route.key) : again.bindings = found.bindings := by
    rw [List.inj_on_of_nodup_map well.distinct among member same, taken] at binds
    exact (Option.some.inj binds).symm
  refine ⟨again, resolve_eq_ok_iff.mpr ⟨_, rfl, faultless, answered.symm⟩, ?_, near, kept,
    fun single => kept ?_⟩
  · rw [carried, whole]
  · obtain ⟨-, -, -, listed⟩ := build_eq_ok_iff.mp built
    have only : registry.routes.length = 1 := by rw [listed, List.length_map, single]
    obtain ⟨route, alone⟩ := List.length_eq_one_iff.mp only
    rw [alone, List.mem_singleton] at among member
    rw [among, member]

/-- Values side by side in one segment: the extra segment and the extension go, the values stay. -/
theorem resolve_canonical_side_by_side :
    let pattern := "/\x7ba\x7d-\x7bb\x7d".toList
    let templates : List Template := [⟨.view, pattern⟩]
    let bindings := Assignment.ofList
      ((Pattern.placeholderNames pattern).zip ["x-y".toList, "z".toList])
    let found : Resolution := ⟨Route.ofTemplate ⟨.view, pattern⟩, bindings, some "json".toList⟩
    ∃ registry again, build Settings.standard templates = .ok registry ∧
      registry.resolve (some "/x-y-z/more.json".toList) = .ok (some found) ∧
      registry.resolve (some "/x-y-z.xml".toList) = .ok (some again) ∧
      again.bindings = found.bindings := by
  intro pattern templates bindings found
  have built : build Settings.standard templates =
      .ok ⟨Settings.standard, [Route.ofTemplate ⟨.view, pattern⟩]⟩ := by rfl
  have resolved : Registry.resolve ⟨Settings.standard, [Route.ofTemplate ⟨.view, pattern⟩]⟩
      (some "/x-y-z/more.json".toList) = .ok (some found) := by rfl
  obtain ⟨core, merged, stable⟩ :=
    @resolve_canonical _ _ _ _ _ "xml".toList built resolved (by rfl) (by decide)
  have whole : Registry.merge ⟨Settings.standard, [Route.ofTemplate ⟨.view, pattern⟩]⟩
      (.key .view) (some bindings) = .ok "/x-y-z".toList := by rfl
  obtain rfl := Except.ok.inj (merged.symm.trans whole)
  obtain ⟨again, answered, -, -, -, alone⟩ := stable (by decide)
  exact ⟨_, again, built, resolved, answered, alone rfl⟩

end Registry

end RouteTemplate
