import RouteTemplate.Proofs.Registry.Construction

/-! # What a registry refuses

A registry refuses a key under which it has no template (`get_eq_error_iff`), and one that was built
refuses an assignment only for a count of names that is not the count of placeholders
(`merge_eq_error_iff`). -/
namespace RouteTemplate

namespace Pattern

variable {separator pattern : Text} {values : Assignment} {failure : Failure}

theorem ne_nil_of_valid (valid : violation? separator pattern = none) : pattern ≠ [] := by
  rintro rfl
  cases violation?_eq_none_iff.mp valid .empty

theorem merge_eq_error_iff (filled : pattern ≠ []) :
    merge pattern values = .error failure ↔
      replacedCount values pattern ≠ expectedCount pattern ∧
        failure =
          .incompleteMerge pattern (expectedCount pattern) (replacedCount values pattern) := by
  rw [merge, if_neg (mt List.isEmpty_iff.mp filled)]
  by_cases complete : replacedCount values pattern = expectedCount pattern
  · simp [complete]
  · simp [complete, eq_comm]

end Pattern

namespace Registry

variable {registry : Registry} {raw : RawValue} {values : Assignment} {failure : Failure}

/-- A key that is recognised is shown as such when it is refused, any other value as it was given. -/
def refusedKey (raw : RawValue) : RawValue := (raw.key?.map RawValue.key).getD raw

theorem contains_iff : registry.contains raw = true ↔ ∃ route, registry.get raw = .ok route := by
  simp only [get_eq_ok_iff, contains, Option.any_eq_true, Option.isSome_iff_exists]
  rw [exists_comm]
  simp only [exists_and_left]

theorem get_eq_error_iff :
    registry.get raw = .error failure ↔
      registry.contains raw = false ∧ failure = .unknownKey (refusedKey raw) := by
  rw [get, contains, Key.ofRaw, refusedKey]
  cases raw.key? with
  | none => simp [bind, Except.bind, eq_comm]
  | some key =>
      simp only [bind, Except.bind]
      cases found : registry.route? key <;> simp [found, eq_comm]

/-- A registry that was built has no empty pattern, so that there is always something to merge. -/
theorem WellBuilt.merge_eq_error_iff (well : registry.WellBuilt) :
    registry.merge raw (some values) = .error failure ↔
      (registry.contains raw = false ∧ failure = .unknownKey (refusedKey raw)) ∨
        ∃ route, registry.get raw = .ok route ∧
          Pattern.replacedCount values route.pattern ≠ Pattern.expectedCount route.pattern ∧
          failure = .incompleteMerge route.pattern (Pattern.expectedCount route.pattern)
            (Pattern.replacedCount values route.pattern) := by
  cases got : registry.get raw with
  | error refusal =>
      obtain ⟨absent, rfl⟩ := get_eq_error_iff.mp got
      simp [merge, got, bind, Except.bind, absent, eq_comm]
  | ok route =>
      have present := contains_iff.mpr ⟨route, got⟩
      have valid := well.valid route (well.get_eq_ok_iff.mp got).1
      rw [merge_of_get got, Pattern.merge_eq_error_iff (Pattern.ne_nil_of_valid valid)]
      simp [present]

end Registry

end RouteTemplate
