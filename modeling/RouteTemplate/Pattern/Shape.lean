import RouteTemplate.Pattern.Cut

/-! # Shapes of patterns

The shape of a pattern is what matching uses of it: a literal, then slots, each a name with the
literal after it. Braces of either kind take turns in starting a name and a literal, so every pattern
has a shape. `Shape.text` writes a shape as a pattern. -/
namespace RouteTemplate

/-- A name to bind, and the literal that follows its value. -/
structure Slot where
  name : Text
  after : Text
  deriving DecidableEq

structure Shape where
  head : Text
  slots : List Slot
  deriving DecidableEq

namespace Shape

/-- An odd number of braces leaves a last name with nothing after it. -/
def slotsOfGaps : List (Brace × Text) → List Slot
  | (_, name) :: (_, after) :: gaps => ⟨name, after⟩ :: slotsOfGaps gaps
  | [(_, name)] => [⟨name, []⟩]
  | [] => []

def ofPattern (pattern : Text) : Shape :=
  ⟨(Cut.ofText pattern).head, slotsOfGaps (Cut.ofText pattern).gaps⟩

def names (shape : Shape) : List Text := shape.slots.map Slot.name

def literals (shape : Shape) : List Text := shape.head :: shape.slots.map Slot.after

def slotsText : List Slot → Text
  | [] => []
  | slot :: slots => '{' :: (slot.name ++ '}' :: (slot.after ++ slotsText slots))

def text (shape : Shape) : Text := shape.head ++ slotsText shape.slots

end Shape
end RouteTemplate
