import RouteTemplate.Text

/-! # Cutting a pattern at its braces

Every brace of a pattern starts a new gap, whether or not it opens or closes anything. The cut keeps
which brace stands where, so that nothing is lost: `text_ofText`. -/
namespace RouteTemplate

inductive Brace where
  | opening
  | closing
  deriving DecidableEq, Repr

namespace Brace

def char : Brace → Char
  | opening => '{'
  | closing => '}'

def ofChar? (c : Char) : Option Brace :=
  if c = '{' then some opening else if c = '}' then some closing else none

theorem ofChar?_eq_some_iff {c : Char} {brace : Brace} :
    ofChar? c = some brace ↔ c = brace.char := by
  constructor
  · intro found
    unfold ofChar? at found
    split at found
    · next same => cases found; exact same
    · split at found
      · next same => cases found; exact same
      · cases found
  · rintro rfl
    cases brace <;> decide

end Brace

/-- The text before the first brace, and every brace with the text after it. -/
structure Cut where
  head : Text
  gaps : List (Brace × Text)
  deriving DecidableEq

namespace Cut

def ofText : Text → Cut
  | [] => ⟨[], []⟩
  | c :: rest =>
      let cut := ofText rest
      match Brace.ofChar? c with
      | some brace => ⟨[], (brace, cut.head) :: cut.gaps⟩
      | none => ⟨c :: cut.head, cut.gaps⟩

def gapsText : List (Brace × Text) → Text
  | [] => []
  | (brace, gap) :: gaps => brace.char :: (gap ++ gapsText gaps)

def text (cut : Cut) : Text := cut.head ++ gapsText cut.gaps

theorem text_ofText (pattern : Text) : (ofText pattern).text = pattern := by
  induction pattern with
  | nil => rfl
  | cons c rest ih =>
      unfold ofText
      cases found : Brace.ofChar? c with
      | none => exact congrArg (c :: ·) ih
      | some brace =>
          rw [Brace.ofChar?_eq_some_iff.mp found]
          exact congrArg (brace.char :: ·) ih

end Cut
end RouteTemplate
