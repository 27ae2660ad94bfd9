import RouteTemplate.Alphabet
import RouteTemplate.Pattern.Shape

/-! # Matching

A matcher is a literal followed by places for values, each with the literal after it. A value is one
or more variable characters. Of all ways to cut a text into values and literals the one is taken
whose first value is longest, among those the one whose second value is longest, and so on: a value
gives up its last character only if nothing fits otherwise. -/
namespace RouteTemplate

structure Matcher where
  lead : Text
  tails : List Text
  deriving DecidableEq

namespace Matcher

def ofShape (shape : Shape) : Matcher := ⟨shape.head, shape.slots.map Slot.after⟩

/-- The number of values that a match binds. -/
def groups (matcher : Matcher) : Nat := matcher.tails.length

/-- The longest run of variable characters after which `next` succeeds, with what `next` gives. -/
def longestRun {α : Type} (next : Text → Option α) : Text → Option (Text × α)
  | [] => none
  | c :: rest =>
      if Alphabet.isVariable c then
        match longestRun next rest with
        | some (run, result) => some (c :: run, result)
        | none => (next rest).map (fun result => ([c], result))
      else none

/-- Values for the places before the given literals, such that `finish` accepts what is left. -/
def valuesBefore (finish : Text → Bool) : List Text → Text → Option (List Text)
  | [], text => if finish text then some [] else none
  | literal :: tails, text =>
      (longestRun (fun rest => (Text.after? literal rest).bind (valuesBefore finish tails)) text).map
        (fun (value, values) => value :: values)

def values? (finish : Text → Bool) (matcher : Matcher) (text : Text) : Option (List Text) :=
  (Text.after? matcher.lead text).bind (valuesBefore finish matcher.tails)

/-- Nothing may be left over, or one segment: the separator and one or more variable characters. -/
def toleratesRest (separator rest : Text) : Bool :=
  rest.isEmpty || (Text.after? separator rest).any (Alphabet.spells Alphabet.isVariable)

/-- The values with which the whole text fits. -/
def captures? (matcher : Matcher) (text : Text) : Option (List Text) :=
  matcher.values? List.isEmpty text

/-- The values with which the text fits, one more segment at its end being tolerated. -/
def tolerantCaptures? (separator : Text) (matcher : Matcher) (text : Text) : Option (List Text) :=
  matcher.values? (toleratesRest separator) text

/-! ## One value for each place -/

theorem length_of_valuesBefore {finish : Text → Bool} {tails values : List Text} {text : Text}
    (found : valuesBefore finish tails text = some values) : values.length = tails.length := by
  induction tails generalizing text values with
  | nil =>
      unfold valuesBefore at found
      split at found
      · cases found; rfl
      · cases found
  | cons literal tails ih =>
      have run (rest : Text) (value : Text) (others : List Text)
          (reached : longestRun (fun rest =>
            (Text.after? literal rest).bind (valuesBefore finish tails)) rest = some (value, others)) :
          others.length = tails.length := by
        induction rest generalizing value with
        | nil => cases reached
        | cons c rest longer =>
            unfold longestRun at reached
            split at reached
            · split at reached
              · next halves => cases reached; exact longer _ halves
              · obtain ⟨result, bound, same⟩ := Option.map_eq_some_iff.mp reached
                cases same
                obtain ⟨_, _, later⟩ := Option.bind_eq_some_iff.mp bound
                exact ih later
            · cases reached
      obtain ⟨⟨value, others⟩, reached, same⟩ := Option.map_eq_some_iff.mp found
      cases same
      exact congrArg (· + 1) (run text value others reached)

theorem length_of_values? {finish : Text → Bool} {matcher : Matcher} {text : Text}
    {values : List Text} (found : matcher.values? finish text = some values) :
    values.length = matcher.groups := by
  obtain ⟨_, _, later⟩ := Option.bind_eq_some_iff.mp found
  exact length_of_valuesBefore later

end Matcher
end RouteTemplate
