import RouteTemplate.Text

/-! # Character classes

Values of placeholders are spelt with ASCII letters, digits and six marks. Paths add the separator
to that class, and patterns add the separator and the braces. `mem_variableCharacters_iff` says that
the class of variable characters, given by a test, is the one given by its members. -/
namespace RouteTemplate.Alphabet

def marks : Text := ['_', '-', '.', '=', ':', ';']

def isVariable (c : Char) : Bool := c.isAlphanum || marks.contains c

/-- The variable characters one by one. -/
def variableCharacters : Text :=
  "ABCDEFGHIJKLMNOPQRSTUVWXYZabcdefghijklmnopqrstuvwxyz0123456789".toList ++ marks

def isBrace (c : Char) : Bool := c = '{' || c = '}'

def isPathCharacter (separator : Text) (c : Char) : Bool := isVariable c || separator.contains c

def isPatternCharacter (separator : Text) (c : Char) : Bool :=
  isPathCharacter separator c || isBrace c

/-- Whether the text is one character that the test of the class admits. -/
def isOneVariable : Text → Bool
  | [c] => isVariable c
  | _ => false

/-- Whether the text is one of the members of the class, each taken as a text. -/
def isMember (text : Text) : Bool := variableCharacters.any (fun c => text = [c])

/-- Whether the text is made of one or more admitted characters. -/
def spells (admitted : Char → Bool) (text : Text) : Bool := !text.isEmpty && text.all admitted

theorem spells_iff {admitted : Char → Bool} {text : Text} :
    spells admitted text = true ↔ text ≠ [] ∧ ∀ c ∈ text, admitted c = true := by
  simp [spells]

theorem toNat_lt_of_isAlphanum {c : Char} (admitted : c.isAlphanum = true) : c.toNat < 128 := by
  have below {last : UInt32} (low : last.toNat < 128) (within : c.val ≤ last) : c.toNat < 128 :=
    Nat.lt_of_le_of_lt within low
  rcases (Bool.or_eq_true_iff.mp admitted : c.isAlpha = true ∨ c.isDigit = true) with letter | digit
  · rcases (Bool.or_eq_true_iff.mp letter : c.isUpper = true ∨ c.isLower = true) with upper | lower
    · exact below (by decide) (of_decide_eq_true upper).2
    · exact below (by decide) (of_decide_eq_true (Bool.and_eq_true_iff.mp lower).2)
  · exact below (by decide) (of_decide_eq_true (Bool.and_eq_true_iff.mp digit).2)

theorem toNat_lt_of_isVariable {c : Char} (admitted : isVariable c = true) : c.toNat < 128 := by
  rcases Bool.or_eq_true_iff.mp admitted with alphanumeric | mark
  · exact toNat_lt_of_isAlphanum alphanumeric
  · have low : marks.all (fun d => d.toNat < 128) = true := by decide +kernel
    exact of_decide_eq_true (List.all_eq_true.mp low c (List.contains_iff_mem.mp mark))

theorem mem_variableCharacters_iff {c : Char} : c ∈ variableCharacters ↔ isVariable c = true := by
  constructor
  · have all : variableCharacters.all isVariable = true := by decide +kernel
    exact List.all_eq_true.mp all c
  · intro admitted
    have low : ∀ n < 128, isVariable (Char.ofNat n) = true → Char.ofNat n ∈ variableCharacters := by
      decide +kernel
    have found := low c.toNat (toNat_lt_of_isVariable admitted)
    rw [Char.ofNat_toNat] at found
    exact found admitted

theorem isMember_eq_isOneVariable (text : Text) : isMember text = isOneVariable text := by
  rw [Bool.eq_iff_iff, isMember, List.any_eq_true]
  constructor
  · rintro ⟨c, member, same⟩
    rw [of_decide_eq_true same]
    exact mem_variableCharacters_iff.mp member
  · intro admitted
    match text with
    | [c] => exact ⟨c, mem_variableCharacters_iff.mpr admitted, decide_eq_true rfl⟩

end RouteTemplate.Alphabet
