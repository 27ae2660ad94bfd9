import RouteTemplate.Alphabet
import RouteTemplate.Failure

/-! # Settings of a registry

A registry has a separator, one character that no value and no brace can be confused with, and a
positive limit on the length of the paths that it matches. -/
namespace RouteTemplate

structure Settings where
  separator : Char
  limit : Nat
  separator_free : (Alphabet.isVariable separator || Alphabet.isBrace separator) = false
  limit_pos : 0 < limit
  deriving DecidableEq

namespace Settings

def standardSeparator : Char := '/'

def standardLimit : Nat := 2048

def standard : Settings := ⟨standardSeparator, standardLimit, by decide, by decide⟩

/-- Checks the length of the separator, then what it is, then the limit. -/
def make? (separator : Text) (limit : Int) : Except Failure Settings :=
  match separator with
  | [c] =>
      if free : (Alphabet.isVariable c || Alphabet.isBrace c) = false then
        if positive : 0 < limit.toNat then .ok ⟨c, limit.toNat, free, positive⟩
        else .error (.configuration (.limitNotPositive limit))
      else .error (.configuration (.separatorReserved separator))
  | _ => .error (.configuration (.separatorLength separator))

/-- The separator as a text. -/
def separatorText (settings : Settings) : Text := [settings.separator]

end Settings
end RouteTemplate
