import RouteTemplate.Alphabet
import RouteTemplate.Failure
import RouteTemplate.Pattern.Piece

/-! # Valid patterns

Each rule is a test of its own, and the violation of a pattern is the first broken rule in the order
of `Rule.all`. -/
namespace RouteTemplate

namespace Pattern

/-- Whether braces open and close in turns to the end; `inside` tells whether one is open. -/
def balancedFrom : Bool → Text → Bool
  | inside, [] => !inside
  | inside, c :: rest =>
      if c = '{' then !inside && balancedFrom true rest
      else if c = '}' then inside && balancedFrom false rest
      else balancedFrom inside rest

def balanced (pattern : Text) : Bool := balancedFrom false pattern

end Pattern

def Rule.isBroken (separator pattern : Text) : Rule → Bool
  | .empty => pattern.isEmpty
  | .missingLeadingSeparator => pattern.take 1 != separator
  | .trailingSeparator => pattern.getLast?.toList == separator
  | .adjacentPlaceholders => Text.occursIn ['}', '{'] pattern
  | .emptyPlaceholder => Text.occursIn ['{', '}'] pattern
  | .invalidCharacters => !Alphabet.spells (Alphabet.isPatternCharacter separator) pattern
  | .unbalancedBraces => !Pattern.balanced pattern
  | .duplicatePlaceholder => !decide (Pattern.placeholderNames pattern).Nodup

namespace Pattern

/-- The first rule that the pattern breaks. -/
def violation? (separator pattern : Text) : Option Rule :=
  Rule.all.find? (Rule.isBroken separator pattern)

/-- A missing pattern counts as an empty one. -/
def violationOfGiven? (separator : Text) (pattern : Option Text) : Option Rule :=
  violation? separator (pattern.getD [])

/-- The pattern itself if it breaks no rule. -/
def check (separator : Text) (pattern : Option Text) : Except Failure Text :=
  match violationOfGiven? separator pattern with
  | some rule => .error (.invalidTemplate pattern rule)
  | none => .ok (pattern.getD [])

theorem violation?_eq_none_iff {separator pattern : Text} :
    violation? separator pattern = none ↔ ∀ rule : Rule, rule.isBroken separator pattern = false := by
  simp [violation?, Rule.mem_all]

theorem check_eq_ok_iff {separator pattern text : Text} :
    check separator (some pattern) = .ok text ↔
      text = pattern ∧ violation? separator pattern = none := by
  unfold check violationOfGiven?
  cases broken : violation? separator pattern with
  | none => simp [broken, eq_comm]
  | some rule => simp [broken]

end Pattern
end RouteTemplate
