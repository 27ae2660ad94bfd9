import RouteTemplate.Proofs.Registry.Canonical

/-! # Extensions do not matter for resolving

Routes only see the base of a path, and the extension is added to what they answer. So whatever
extension is written after a base, or none where the base shows none, a registry answers with the same
route and the same bindings (`resolve_append_suffix`). -/
namespace RouteTemplate

open Alphabet (isPathCharacter)

namespace Resolution

variable {separator path : Text} {routes : List Route}

/-- The first route that takes a base, with what it binds. -/
def ofBase? (separator : Text) (routes : List Route) (base : Text) : Option (Route × Assignment) :=
  routes.findSome? (fun route =>
    (route.bindings? separator base).map (fun bindings => (route, bindings)))

/-- An answer about a base, with the extension that followed the base. -/
def withExtension (extension : Option Text) (answer : Route × Assignment) : Resolution :=
  ⟨answer.1, answer.2, extension⟩

theorem first?_eq_map_ofBase? :
    first? separator routes path =
      (ofBase? separator routes (Path.split path).base).map
        (withExtension (Path.split path).extension) := by
  rw [first?, ofBase?, List.map_findSome?]
  congr 1
  funext route
  rw [Function.comp_apply, Option.map_map]
  rfl

end Resolution

namespace Registry

/-- What is resolved does not depend on the extension: each extension that may be written after the base
gives the same route and bindings, or each gives none. -/
theorem resolve_append_suffix (registry : Registry) (base : Text) (filled : base ≠ [])
    (spelt : ∀ c ∈ base, isPathCharacter registry.settings.separatorText c = true) :
    ∃ answer : Option (Route × Assignment), ∀ extension : Option Text,
      Path.Carries registry.settings.separator base extension →
      (base ++ Path.suffix extension).length ≤ registry.settings.limit →
      registry.resolve (some (base ++ Path.suffix extension)) =
        .ok (answer.map (Resolution.withExtension extension)) := by
  refine ⟨Resolution.ofBase? registry.settings.separatorText registry.routes base,
    fun extension carries short => ?_⟩
  have faultless : Path.fault? registry.settings.separatorText registry.settings.limit
      (base ++ Path.suffix extension) = none :=
    Path.fault?_append_suffix filled spelt carries (Int.ofNat_le.mpr short)
  refine resolve_eq_ok_iff.mpr ⟨_, rfl, faultless, ?_⟩
  rw [Resolution.first?_eq_map_ofBase?, Path.split_append_suffix filled carries]

/-- An extension that holds a separator, after a base that ends with a point. -/
theorem resolve_append_suffix_pointed :
    let base := "/v1.2/x.".toList
    Path.Carries '/' base (some "a/b".toList) ∧ Path.Carries '/' base none ∧
      ∃ route bindings,
        standard.resolve (some "/v1.2/x..a/b".toList) =
          .ok (some ⟨route, bindings, some "a/b".toList⟩) ∧
        standard.resolve (some base) = .ok (some ⟨route, bindings, none⟩) := by
  intro base
  have carries : Path.Carries '/' base (some "a/b".toList) :=
    ⟨by decide, by decide, List.all_eq_true.mp (by rfl)⟩
  have closed : Path.Carries '/' base none := .inr rfl
  obtain ⟨answer, same⟩ := resolve_append_suffix standard base (by decide)
    (List.all_eq_true.mp (by rfl))
  have first : standard.resolve (some "/v1.2/x..a/b".toList) =
      .ok (answer.map (Resolution.withExtension (some "a/b".toList))) := same _ carries (by decide)
  have second : standard.resolve (some base) = .ok (answer.map (Resolution.withExtension none)) :=
    same _ closed (by decide)
  cases answer with
  | none =>
      have found : (standard.resolve (some "/v1.2/x..a/b".toList)).map Option.isSome = .ok true := by
        rfl
      rw [first] at found
      cases found
  | some answer => exact ⟨carries, closed, answer.1, answer.2, first, second⟩

end Registry

end RouteTemplate
