import RouteTemplate.Pattern.Cut

/-! # Pieces of a pattern

A pattern read from left to right is a row of literal texts and placeholders. A placeholder is an
opening brace, a name of one or more characters other than braces, and a closing brace; a brace that
belongs to no placeholder is literal. The pieces spell the pattern: `flatMap_text_pieces`. -/
namespace RouteTemplate

inductive Piece where
  | literal (text : Text)
  | placeholder (name : Text)
  deriving DecidableEq

namespace Piece

def text : Piece → Text
  | literal text => text
  | placeholder name => '{' :: (name ++ ['}'])

def name? : Piece → Option Text
  | literal _ => none
  | placeholder name => some name

def ofGaps : List (Brace × Text) → List Piece
  | (.opening, c :: name) :: (.closing, after) :: gaps =>
      .placeholder (c :: name) :: .literal after :: ofGaps gaps
  | (brace, gap) :: gaps => .literal (brace.char :: gap) :: ofGaps gaps
  | [] => []

theorem flatMap_text_ofGaps (gaps : List (Brace × Text)) :
    (ofGaps gaps).flatMap text = Cut.gapsText gaps := by
  fun_induction ofGaps gaps with
  | case1 c name after gaps ih => simp [text, Cut.gapsText, Brace.char, ih]
  | case2 brace gap gaps _ ih => simp [text, Cut.gapsText, ih]
  | case3 => rfl

end Piece

namespace Pattern

def pieces (pattern : Text) : List Piece :=
  .literal (Cut.ofText pattern).head :: Piece.ofGaps (Cut.ofText pattern).gaps

/-- The names of the placeholders, from left to right. -/
def placeholderNames (pattern : Text) : List Text := (pieces pattern).filterMap Piece.name?

theorem flatMap_text_pieces (pattern : Text) : (pieces pattern).flatMap Piece.text = pattern := by
  rw [pieces, List.flatMap_cons, Piece.flatMap_text_ofGaps]
  exact Cut.text_ofText pattern

end Pattern
end RouteTemplate
