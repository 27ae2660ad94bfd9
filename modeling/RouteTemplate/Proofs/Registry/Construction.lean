import Mathlib.Data.List.Nodup
import RouteTemplate.Registry

/-! # Building registries

A registry is built from templates exactly when there are some, no two of them share a key, and
every pattern is valid (`build_eq_ok_iff`). Every registry that was built is well built, whichever
way it came about: a key stands for one route, and each route is the route of its pattern. -/
namespace RouteTemplate

namespace Settings

variable (settings : Settings)

theorem isVariable_separator : Alphabet.isVariable settings.separator = false :=
  (Bool.or_eq_false_iff.mp settings.separator_free).1

theorem isBrace_separator : Alphabet.isBrace settings.separator = false :=
  (Bool.or_eq_false_iff.mp settings.separator_free).2

end Settings

namespace Registry

/-- What holds of every registry that was built. -/
structure WellBuilt (registry : Registry) : Prop where
  filled : registry.routes ≠ []
  distinct : registry.keys.Nodup
  routed : ∀ route ∈ registry.routes, route = Route.ofTemplate ⟨route.key, route.pattern⟩
  valid : ∀ route ∈ registry.routes,
    Pattern.violation? registry.settings.separatorText route.pattern = none

theorem defect?_eq_none_iff {separator : Text} {seen : List Key} {templates : List Template} :
    defect? separator seen templates = none ↔
      (templates.map Template.key).Nodup ∧ (∀ template ∈ templates, template.key ∉ seen) ∧
        ∀ template ∈ templates, Pattern.violation? separator template.pattern = none := by
  induction templates generalizing seen with
  | nil => simp [defect?]
  | cons template templates ih =>
      rw [defect?]
      by_cases repeated : template.key ∈ seen
      · simp [repeated]
      · rw [if_neg repeated]
        cases broken : Pattern.violation? separator template.pattern with
        | some rule => simp [broken]
        | none =>
            rw [ih, List.map_cons, List.nodup_cons, List.forall_mem_cons, List.forall_mem_cons]
            constructor
            · rintro ⟨distinct, fresh, valid⟩
              refine ⟨⟨fun member => ?_, distinct⟩, ⟨repeated, fun other member => ?_⟩, broken,
                valid⟩
              · obtain ⟨other, member, same⟩ := List.mem_map.mp member
                exact fresh other member (same ▸ List.mem_cons_self)
              · exact fun stands => fresh other member (List.mem_cons_of_mem _ stands)
            · rintro ⟨⟨absent, distinct⟩, ⟨-, fresh⟩, -, valid⟩
              refine ⟨distinct, fun other member stands => ?_, valid⟩
              rcases List.mem_cons.mp stands with same | stands
              · exact absent (same ▸ List.mem_map_of_mem member)
              · exact fresh other member stands

theorem build_eq_ok_iff {settings : Settings} {templates : List Template} {registry : Registry} :
    build settings templates = .ok registry ↔
      templates ≠ [] ∧ (templates.map Template.key).Nodup ∧
        (∀ template ∈ templates,
          Pattern.violation? settings.separatorText template.pattern = none) ∧
        registry = ⟨settings, templates.map Route.ofTemplate⟩ := by
  have defects := @defect?_eq_none_iff settings.separatorText [] templates
  rw [build]
  cases templates with
  | nil => simp
  | cons template templates =>
      rw [if_neg (by simp)]
      cases found : defect? settings.separatorText [] (template :: templates) with
      | some failure =>
          have flawed := mt defects.mpr (by simp [found])
          constructor
          · intro built
            cases built
          · rintro ⟨-, distinct, valid, -⟩
            exact absurd ⟨distinct, by simp, valid⟩ flawed
      | none =>
          obtain ⟨distinct, -, valid⟩ := defects.mp found
          constructor
          · intro built
            cases built
            exact ⟨List.cons_ne_nil _ _, distinct, valid, rfl⟩
          · rintro ⟨-, -, -, rfl⟩
            rfl

section

variable {settings : Settings} {templates : List Template} {registry : Registry} {route : Route}

theorem settings_of_build (built : build settings templates = .ok registry) :
    registry.settings = settings := by
  obtain ⟨-, -, -, rfl⟩ := build_eq_ok_iff.mp built
  rfl

theorem wellBuilt_of_build (built : build settings templates = .ok registry) :
    registry.WellBuilt := by
  obtain ⟨filled, distinct, valid, rfl⟩ := build_eq_ok_iff.mp built
  refine ⟨by simpa using filled, ?_, fun route member => ?_, fun route member => ?_⟩
  · rw [keys, List.map_map]
    exact distinct
  · obtain ⟨template, -, rfl⟩ := List.mem_map.mp member
    rfl
  · obtain ⟨template, among, rfl⟩ := List.mem_map.mp member
    exact valid template among

/-! ## Looking up keys -/

theorem WellBuilt.route?_eq_some_iff (well : registry.WellBuilt) {key : Key} :
    registry.route? key = some route ↔ route ∈ registry.routes ∧ route.key = key := by
  rw [route?]
  constructor
  · intro found
    exact ⟨List.mem_of_find?_eq_some found, by simpa using List.find?_some found⟩
  · rintro ⟨member, rfl⟩
    cases found : registry.routes.find? (fun other => other.key = route.key) with
    | none => exact absurd (decide_eq_true rfl) (List.find?_eq_none.mp found route member)
    | some other =>
        have among := List.mem_of_find?_eq_some found
        have same : other.key = route.key := by simpa using List.find?_some found
        rw [List.inj_on_of_nodup_map well.distinct among member same]

theorem get_eq_ok_iff {raw : RawValue} :
    registry.get raw = .ok route ↔
      ∃ key, raw.key? = some key ∧ registry.route? key = some route := by
  rw [get, Key.ofRaw]
  cases raw.key? with
  | none =>
      constructor
      · intro found
        cases found
      · rintro ⟨key, named, -⟩
        cases named
  | some key =>
      simp only [bind, Except.bind]
      cases found : registry.route? key <;> simp [found]

theorem WellBuilt.get_eq_ok_iff (well : registry.WellBuilt) {raw : RawValue} :
    registry.get raw = .ok route ↔ route ∈ registry.routes ∧ raw.key? = some route.key := by
  rw [Registry.get_eq_ok_iff]
  constructor
  · rintro ⟨key, named, found⟩
    obtain ⟨member, rfl⟩ := well.route?_eq_some_iff.mp found
    exact ⟨member, named⟩
  · rintro ⟨member, named⟩
    exact ⟨route.key, named, well.route?_eq_some_iff.mpr ⟨member, rfl⟩⟩

theorem merge_of_get {raw : RawValue} (found : registry.get raw = .ok route) (values : Assignment) :
    registry.merge raw (some values) = Pattern.merge route.pattern values := by
  rw [merge, found]
  rfl

end

end Registry

end RouteTemplate
