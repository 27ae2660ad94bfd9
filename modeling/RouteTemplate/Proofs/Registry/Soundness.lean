import RouteTemplate.Registry.Standard
import RouteTemplate.Proofs.Path.Extension
import RouteTemplate.Proofs.Pattern.Separation
import RouteTemplate.Proofs.Registry.Priority
import RouteTemplate.Proofs.Route

/-! # What a resolution says about its path

A resolved path can be written down again from its resolution: merging the bindings under the key of
the route gives the path up to one tolerated segment and the extension. -/
namespace RouteTemplate

open Alphabet (isVariable spells)

/-- A base that a route takes is what the bindings make, with at most one more segment. -/
theorem Route.merge_of_bindings? {separator : Char} {key : Key} {pattern base : Text}
    {bindings : Assignment} (valid : Pattern.violation? [separator] pattern = none)
    (bound : (ofTemplate ⟨key, pattern⟩).bindings? [separator] base = some bindings) :
    bindings.Fills pattern ∧
      ∃ core extra, Pattern.merge pattern bindings = .ok core ∧ base = core ++ extra ∧
        (extra = [] ∨
          ∃ segment, extra = separator :: segment ∧ spells isVariable segment = true) := by
  rw [bindings?_ofTemplate valid, Option.map_eq_some_iff] at bound
  obtain ⟨row, captured, rfl⟩ := bound
  obtain ⟨⟨counted, spelt, extra, cut, tolerated⟩, -⟩ := Matcher.values?_eq_some_iff.mp captured
  have counted := counted.trans (Pattern.groups_eq_length valid)
  exact ⟨Pattern.fills_ofList_zip valid counted spelt, _, extra,
    Pattern.merge_ofList_zip valid counted spelt, cut, Matcher.toleratesRest_iff.mp tolerated⟩

namespace Registry

variable {settings : Settings} {templates : List Template} {registry : Registry}
  {path : Option Text} {found : Resolution}

theorem resolve_sound (built : build settings templates = .ok registry)
    (resolved : registry.resolve path = .ok (some found)) :
    found.bindings.Fills found.route.pattern ∧
      (∀ name value, found.bindings.get? name = some value → settings.separator ∉ value) ∧
      ∃ core extra,
        registry.merge (.key found.route.key) (some found.bindings) = .ok core ∧
          path = some (core ++ (extra ++ Path.suffix found.extension)) ∧
          (extra = [] ∨
            ∃ segment, extra = settings.separator :: segment ∧ spells isVariable segment = true) ∧
          ∀ extension, found.extension = some extension → extension ≠ [] ∧ '.' ∉ extension := by
  have well := wellBuilt_of_build built
  obtain rfl := settings_of_build built
  obtain ⟨text, rfl, -, first⟩ := resolve_eq_ok_iff.mp resolved
  obtain ⟨same, before, after, split, bound, -⟩ := Resolution.first?_eq_some_iff.mp first.symm
  have member : found.route ∈ registry.routes := by simp [split]
  have valid := well.valid found.route member
  rw [well.routed found.route member] at bound
  obtain ⟨fills, core, extra, merged, cut, segment⟩ := Route.merge_of_bindings? valid bound
  have got : registry.get (.key found.route.key) = .ok found.route :=
    well.get_eq_ok_iff.mpr ⟨member, rfl⟩
  refine ⟨fills, fun name value stands => ?_, core, extra, ?_, ?_, segment,
    fun extension ends => ?_⟩
  · exact Matcher.not_mem_of_spells registry.settings.isVariable_separator
      (fills.spelt name value stands)
  · rw [merge_of_get got, merged]
  · rw [same, ← List.append_assoc, ← cut, ← Path.base_append_suffix]
  · exact Path.extension_of_split (same ▸ ends)

/-- A segment too many and an extension, below the standard templates. -/
theorem resolve_sound_standard :
    let pattern := "/\x7bprefix\x7d/\x7bid\x7d".toList
    let row := ["users".toList, "7".toList]
    let found : Resolution :=
      ⟨Route.ofTemplate ⟨.view, pattern⟩,
        Assignment.ofList ((Pattern.placeholderNames pattern).zip row), some "json".toList⟩
    standard.resolve (some "/users/7/more.json".toList) = .ok (some found) ∧
      found.bindings.Fills found.route.pattern := by
  intro pattern row found
  have resolved : standard.resolve (some "/users/7/more.json".toList) = .ok (some found) := by rfl
  exact ⟨resolved, (resolve_sound build_standardTemplates resolved).1⟩

end Registry

end RouteTemplate
