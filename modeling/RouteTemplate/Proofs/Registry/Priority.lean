import Mathlib.Data.List.Basic
import RouteTemplate.Proofs.Registry.Construction

/-! # First come, first served

Resolving gives an answer exactly for the paths without a fault (`resolve_eq_ok_iff`) and reports
the fault of the others (`resolve_eq_error_iff`). The answer is the first route of the registry that
binds values for the base of the path (`first?_eq_some_iff`). No route that binds values stands
before it (`first?_le`). -/
namespace RouteTemplate

namespace Resolution

variable {separator path : Text} {routes : List Route} {found : Resolution}

theorem first?_eq_some_iff :
    first? separator routes path = some found ↔
      found.extension = (Path.split path).extension ∧
        ∃ before after, routes = before ++ found.route :: after ∧
          found.route.bindings? separator (Path.split path).base = some found.bindings ∧
          ∀ route ∈ before, route.bindings? separator (Path.split path).base = none := by
  rw [first?, List.findSome?_eq_some_iff]
  constructor
  · rintro ⟨before, route, after, rfl, bound, earlier⟩
    obtain ⟨bindings, values, rfl⟩ := Option.map_eq_some_iff.mp bound
    exact ⟨rfl, before, after, rfl, values, fun other member =>
      Option.map_eq_none_iff.mp (earlier other member)⟩
  · rintro ⟨extension, before, after, rfl, bound, earlier⟩
    refine ⟨before, found.route, after, rfl, ?_, fun other member =>
      Option.map_eq_none_iff.mpr (earlier other member)⟩
    rw [bound, ← extension]
    rfl

theorem first?_eq_none_iff :
    first? separator routes path = none ↔
      ∀ route ∈ routes, route.bindings? separator (Path.split path).base = none := by
  simp only [first?, List.findSome?_eq_none_iff, Option.map_eq_none_iff]

/-! ## Positions of routes -/

theorem idxOf_of_split {before after : List Route} {route : Route}
    (distinct : (routes.map Route.key).Nodup) (split : routes = before ++ route :: after) :
    (routes.map Route.key).idxOf route.key = before.length := by
  rw [split, List.map_append, List.map_cons, List.nodup_append] at distinct
  have absent : route.key ∉ before.map Route.key := fun member =>
    distinct.2.2 _ member _ List.mem_cons_self rfl
  rw [split, List.map_append, List.map_cons, List.idxOf_append_of_notMem absent,
    List.idxOf_cons_self, List.length_map, Nat.add_zero]

/-- The first route stands no later than any route that binds values. -/
theorem first?_le (distinct : (routes.map Route.key).Nodup)
    (first : first? separator routes path = some found) {route : Route} (member : route ∈ routes)
    (binds : route.bindings? separator (Path.split path).base ≠ none) :
    (routes.map Route.key).idxOf found.route.key ≤ (routes.map Route.key).idxOf route.key := by
  obtain ⟨-, before, after, split, -, earlier⟩ := first?_eq_some_iff.mp first
  have late : route ∈ found.route :: after := by
    rw [split] at member
    apply (List.mem_append.mp member).resolve_left
    intro early
    exact binds (earlier route early)
  obtain ⟨between, rest, cut⟩ := List.append_of_mem late
  have whole : routes = (before ++ between) ++ route :: rest := by
    rw [split, cut, List.append_assoc]
  rw [idxOf_of_split distinct split, idxOf_of_split distinct whole, List.length_append]
  exact Nat.le_add_right _ _

/-- A route up to a position is found where some route up to there binds values. -/
theorem exists_first?_le_iff (distinct : (routes.map Route.key).Nodup) {position : Nat} :
    (∃ found, first? separator routes path = some found ∧
        (routes.map Route.key).idxOf found.route.key ≤ position) ↔
      ∃ route ∈ routes, (routes.map Route.key).idxOf route.key ≤ position ∧
        route.bindings? separator (Path.split path).base ≠ none := by
  constructor
  · rintro ⟨found, first, near⟩
    obtain ⟨-, before, after, split, bound, -⟩ := first?_eq_some_iff.mp first
    exact ⟨found.route, by simp [split], near, by simp [bound]⟩
  · rintro ⟨route, member, near, binds⟩
    cases first : first? separator routes path with
    | none => exact absurd (first?_eq_none_iff.mp first route member) binds
    | some found => exact ⟨found, rfl, Nat.le_trans (first?_le distinct first member binds) near⟩

/-! ## Paths that are resolved -/

theorem resolve_eq_ok_iff {limit : Int} {given : Option Text} {result : Option Resolution} :
    resolve separator limit routes given = .ok result ↔
      ∃ text, given = some text ∧ Path.fault? separator limit text = none ∧
        result = first? separator routes text := by
  rw [resolve, Path.accept]
  cases given with
  | none =>
      constructor
      · intro answered
        cases answered
      · rintro ⟨text, missing, -⟩
        cases missing
  | some text =>
      rw [Option.getD_some]
      cases faulty : Path.fault? separator limit text with
      | some fault =>
          constructor
          · intro answered
            cases answered
          · rintro ⟨_, given, faultless, -⟩
            cases given
            rw [faulty] at faultless
            cases faultless
      | none =>
          constructor
          · intro answered
            cases answered
            exact ⟨text, rfl, faulty, rfl⟩
          · rintro ⟨_, given, -, rfl⟩
            cases given
            rfl

theorem resolve_eq_error_iff {limit : Int} {given : Option Text} {failure : Failure} :
    resolve separator limit routes given = .error failure ↔
      ∃ fault, Path.fault? separator limit (given.getD []) = some fault ∧
        failure = .invalidInput given fault := by
  rw [resolve, Path.accept]
  cases Path.fault? separator limit (given.getD []) with
  | none => simp [Except.map]
  | some fault => simp [Except.map, eq_comm]

end Resolution

theorem Registry.resolve_eq_ok_iff {registry : Registry} {path : Option Text}
    {result : Option Resolution} :
    registry.resolve path = .ok result ↔
      ∃ text, path = some text ∧
        Path.fault? registry.settings.separatorText registry.settings.limit text = none ∧
        result = Resolution.first? registry.settings.separatorText registry.routes text :=
  Resolution.resolve_eq_ok_iff

end RouteTemplate
