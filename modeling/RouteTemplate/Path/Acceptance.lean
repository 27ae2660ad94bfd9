import RouteTemplate.Alphabet
import RouteTemplate.Failure

/-! # Acceptable paths

A path is accepted for matching if it is not empty, no longer than the limit, and spelt with variable
characters and characters of the separator. The first fault in that order is reported. -/
namespace RouteTemplate.Path

def fault? (separator : Text) (limit : Int) (path : Text) : Option InputFault :=
  if path.isEmpty then some .empty
  else if limit < path.length then some (.tooLong limit)
  else if Alphabet.spells (Alphabet.isPathCharacter separator) path then none
  else some (.disallowedCharacters separator)

/-- The path itself if it has no fault; a missing path counts as an empty one. -/
def accept (separator : Text) (limit : Int) (path : Option Text) : Except Failure Text :=
  match fault? separator limit (path.getD []) with
  | some fault => .error (.invalidInput path fault)
  | none => .ok (path.getD [])

theorem fault?_eq_none_iff {separator path : Text} {limit : Int} :
    fault? separator limit path = none ↔
      path ≠ [] ∧ path.length ≤ limit ∧
        ∀ c ∈ path, Alphabet.isPathCharacter separator c = true := by
  fun_cases fault? separator limit path with
  | case1 empty => simp [List.isEmpty_iff.mp empty]
  | case2 _ long =>
      have tooLong : ¬ (path.length ≤ limit) := by omega
      simp [tooLong]
  | case3 filled short spelt =>
      have inLimit : path.length ≤ limit := by omega
      have ⟨present, admitted⟩ := Alphabet.spells_iff.mp spelt
      simp only [true_iff]
      exact ⟨present, inLimit, admitted⟩
  | case4 filled _ misspelt =>
      have present : path ≠ [] := fun empty => filled (List.isEmpty_iff.mpr empty)
      simp only [reduceCtorEq, false_iff]
      exact fun ⟨_, _, admitted⟩ => misspelt (Alphabet.spells_iff.mpr ⟨present, admitted⟩)

end RouteTemplate.Path
