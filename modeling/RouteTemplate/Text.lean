/-! # Texts

A text is the list of its characters, so that lengths and positions count characters and every
function on texts is a recursion on a list. This module holds the few operations on texts that the
rest of the library shares; `occursIn_iff` and `after?_eq_some_iff` say what searching and
stripping mean. -/
namespace RouteTemplate

abbrev Text := List Char

namespace Text

/-- Whether `part` stands somewhere in the given text as one block. -/
def occursIn (part : Text) : Text → Bool
  | [] => part.isEmpty
  | c :: rest => part.isPrefixOf (c :: rest) || occursIn part rest

/-- What follows `lead` at the start of a text. -/
def after? : Text → Text → Option Text
  | [], text => some text
  | _ :: _, [] => none
  | c :: lead, d :: text => if c = d then after? lead text else none

/-- Whether the first text comes no later than the second in the order of code points. -/
def le : Text → Text → Bool
  | [], _ => true
  | _ :: _, [] => false
  | c :: first, d :: second => c.toNat < d.toNat || (c = d && le first second)

/-- The text filled up with blanks to at least `width` characters. -/
def padRight (width : Nat) (text : Text) : Text :=
  text ++ List.replicate (width - text.length) ' '

def ofNat (n : Nat) : Text := Nat.toDigits 10 n

def ofInt : Int → Text
  | .ofNat n => ofNat n
  | .negSucc n => '-' :: ofNat (n + 1)

/-- What stands before the first `mark`, and what stands after it. -/
def cutAtFirst (mark : Char) : Text → Option (Text × Text)
  | [] => none
  | c :: rest =>
      if c = mark then some ([], rest)
      else (cutAtFirst mark rest).map (fun (before, after) => (c :: before, after))

/-- What stands before the last `mark`, and what stands after it. -/
def cutAtLast (mark : Char) : Text → Option (Text × Text)
  | [] => none
  | c :: rest =>
      match cutAtLast mark rest with
      | some (before, after) => some (c :: before, after)
      | none => if c = mark then some ([], rest) else none

/-! ## What the operations mean -/

theorem occursIn_iff {part text : Text} : occursIn part text = true ↔ part <:+: text := by
  induction text with
  | nil => simp [occursIn]
  | cons c rest ih =>
      rw [occursIn, Bool.or_eq_true, ih, List.isPrefixOf_iff_prefix, List.infix_cons_iff]

theorem after?_eq_some_iff {lead text rest : Text} :
    after? lead text = some rest ↔ text = lead ++ rest := by
  induction lead generalizing text with
  | nil => simp [after?]
  | cons c lead ih =>
      cases text with
      | nil => simp [after?]
      | cons d text =>
          by_cases same : c = d
          · simp [after?, same, ih]
          · simp [after?, same, Ne.symm same]

theorem length_padRight (width : Nat) (text : Text) :
    (padRight width text).length = max text.length width := by
  simp [padRight]
  omega

theorem cutAtFirst_eq_some_iff {mark : Char} {text before after : Text} :
    cutAtFirst mark text = some (before, after) ↔
      text = before ++ mark :: after ∧ mark ∉ before := by
  induction text generalizing before with
  | nil => simp [cutAtFirst]
  | cons c rest ih =>
      by_cases found : c = mark
      · subst found
        cases before <;> simp [cutAtFirst]
        intro eq
        simp [eq]
      · cases before with
        | nil => simp [cutAtFirst, found]
        | cons d before => simp [cutAtFirst, found, ih]; grind

theorem cutAtLast_eq_none_iff {mark : Char} {text : Text} :
    cutAtLast mark text = none ↔ mark ∉ text := by
  induction text with
  | nil => simp [cutAtLast]
  | cons c rest ih =>
      cases cut : cutAtLast mark rest with
      | none =>
          have absent := ih.mp cut
          by_cases found : c = mark
          · simp [cutAtLast, cut, found]
          · simp [cutAtLast, cut, found, absent, Ne.symm found]
      | some halves =>
          have present : mark ∈ rest := by
            by_cases h : mark ∈ rest
            · exact h
            · simp [ih.mpr h] at cut
          simp [cutAtLast, cut, present]

theorem cutAtLast_eq_some_iff {mark : Char} {text before after : Text} :
    cutAtLast mark text = some (before, after) ↔
      text = before ++ mark :: after ∧ mark ∉ after := by
  induction text generalizing before with
  | nil => simp [cutAtLast]
  | cons c rest ih =>
      cases cut : cutAtLast mark rest with
      | none =>
          have absent := cutAtLast_eq_none_iff.mp cut
          cases before with
          | nil => grind [cutAtLast]
          | cons d before => grind [cutAtLast]
      | some halves =>
          obtain ⟨first, second⟩ := halves
          have present : mark ∈ rest := by
            grind [cutAtLast_eq_none_iff]
          cases before with
          | nil => grind [cutAtLast]
          | cons d before => grind [cutAtLast]

end Text
end RouteTemplate
