import RouteTemplate.Assignment
import RouteTemplate.Failure
import RouteTemplate.Pattern.Piece

/-! # Merging values into a pattern

Merging writes the value of its name in the place of each placeholder, in one pass, so that braces
inside a value are never read again. It succeeds when as many names of the assignment stand in the
pattern between braces as the pattern has opening braces. -/
namespace RouteTemplate

/-- A placeholder without a value stays as it is. -/
def Piece.filled (values : Assignment) : Piece → Text
  | .literal text => text
  | .placeholder name => (values.get? name).getD (Piece.placeholder name).text

namespace Pattern

def substitute (values : Assignment) (pattern : Text) : Text :=
  (pieces pattern).flatMap (Piece.filled values)

/-- The number of placeholders that a merge has to replace. -/
def expectedCount (pattern : Text) : Nat := pattern.count '{'

/-- The number of names of the assignment that stand in the pattern between braces. -/
def replacedCount (values : Assignment) (pattern : Text) : Nat :=
  values.names.countP (fun name => Text.occursIn (Piece.placeholder name).text pattern)

def merge (pattern : Text) (values : Assignment) : Except Failure Text :=
  if pattern.isEmpty then .error .nothingToMerge
  else if replacedCount values pattern = expectedCount pattern then .ok (substitute values pattern)
  else .error (.incompleteMerge pattern (expectedCount pattern) (replacedCount values pattern))

/-- Merging where the pattern or the values may be missing. -/
def mergeGiven (pattern : Option Text) (values : Option Assignment) : Except Failure Text :=
  match pattern, values with
  | some pattern, some values => merge pattern values
  | _, _ => .error .nothingToMerge

end Pattern
end RouteTemplate
