import RouteTemplate.Route
import RouteTemplate.Proofs.Pattern.Fit
import RouteTemplate.Proofs.Pattern.Reading

/-! # The parts of a pattern

Splitting a pattern on its braces gives a literal, a name, a literal, and so on, whichever braces they
are and however they pair. These parts are all that matching uses of a pattern (`literals_ofPattern`,
`names_ofPattern`). A text matches when it is the literals with a value in the place of each name, and
of all such rows of values the one is found whose lengths come last in lexicographic order
(`captures?_greatest`). -/
namespace RouteTemplate

open Alphabet (isBrace isVariable spells spells_iff)

theorem Brace.isBrace_char (brace : Brace) : isBrace brace.char = true := by
  cases brace <;> rfl

namespace Pattern

/-- The texts between the braces of a pattern. -/
def parts (pattern : Text) : List Text := pattern.splitOnP isBrace

/-- Every second part, from the first on. A name that ends the pattern has an empty literal after it. -/
def literalParts : List Text → List Text
  | literal :: _ :: parts => literal :: literalParts parts
  | [literal] => [literal]
  | [] => [[]]

/-- Every second part, from the second on. -/
def nameParts : List Text → List Text
  | _ :: name :: parts => name :: nameParts parts
  | _ => []

/-- The literals with the values between them. -/
def woven : List Text → List Text → Text
  | literal :: literals, value :: values => literal ++ (value ++ woven literals values)
  | literals, _ => literals.flatten

/-- The text is the literals of the pattern with a value in the place of each name, up to a rest. -/
structure Writes (pattern : Text) (left : Text → Prop) (values : List Text) (text : Text) : Prop where
  counted : values.length = (nameParts (parts pattern)).length
  spelt : ∀ value ∈ values, value ≠ [] ∧ ∀ c ∈ value, isVariable c = true
  whole : ∃ rest, left rest ∧ text = woven (literalParts (parts pattern)) values ++ rest

/-- What a match may leave over: nothing, or the separator and one or more variable characters. -/
def Tolerated (separator rest : Text) : Prop :=
  rest = [] ∨ ∃ segment, rest = separator ++ segment ∧ segment ≠ [] ∧
    ∀ c ∈ segment, isVariable c = true

/-! ## Parts and shapes -/

theorem parts_eq_cut (pattern : Text) :
    parts pattern = (Cut.ofText pattern).head :: (Cut.ofText pattern).gaps.map Prod.snd := by
  induction pattern with
  | nil => rfl
  | cons c rest ih =>
      rw [parts] at ih ⊢
      rw [List.splitOnP_cons_eq_if_modifyHead, ih, Cut.ofText]
      cases found : Brace.ofChar? c with
      | none =>
          rw [if_neg (by rw [Brace.ofChar?_eq_none_iff.mp found]; decide)]
          rfl
      | some brace =>
          rw [Brace.ofChar?_eq_some_iff.mp found, if_pos (Brace.isBrace_char brace)]
          rfl

theorem literalParts_cons (head : Text) (gaps : List (Brace × Text)) :
    literalParts (head :: gaps.map Prod.snd) =
      head :: (Shape.slotsOfGaps gaps).map Slot.after := by
  fun_induction Shape.slotsOfGaps gaps generalizing head with
  | case1 _ name _ after gaps ih => exact congrArg (head :: ·) (ih after)
  | case2 => rfl
  | case3 => rfl

theorem nameParts_cons (head : Text) (gaps : List (Brace × Text)) :
    nameParts (head :: gaps.map Prod.snd) = (Shape.slotsOfGaps gaps).map Slot.name := by
  fun_induction Shape.slotsOfGaps gaps generalizing head with
  | case1 _ name _ after gaps ih => exact congrArg (name :: ·) (ih after)
  | case2 => rfl
  | case3 => rfl

theorem literals_ofPattern (pattern : Text) :
    (Shape.ofPattern pattern).literals = literalParts (parts pattern) := by
  rw [parts_eq_cut, literalParts_cons]
  rfl

theorem names_ofPattern (pattern : Text) :
    (Shape.ofPattern pattern).names = nameParts (parts pattern) := by
  rw [parts_eq_cut, nameParts_cons]
  rfl

end Pattern

/-! ## Matching is writing -/

section

variable {finish : Text → Bool} {left : Text → Prop} {matcher : Matcher} {text : Text}
  {values : List Text}

theorem Matcher.filled_eq_woven (counted : values.length = matcher.groups) :
    matcher.filled values = Pattern.woven (matcher.lead :: matcher.tails) values := by
  obtain ⟨lead, tails⟩ := matcher
  show lead ++ interleave tails values = _
  induction tails generalizing lead values with
  | nil =>
      rw [List.length_eq_zero_iff.mp counted]
      simp [interleave, Pattern.woven]
  | cons literal tails ih =>
      obtain ⟨value, values, rfl⟩ := List.exists_cons_of_length_eq_add_one counted
      rw [interleave, Pattern.woven, ← ih literal (Nat.succ.inj counted)]

/-- Of the admitted rows of values, the one whose lengths come last in lexicographic order. -/
structure Matcher.Greatest (admitted : List Text → Prop) (values : List Text) : Prop where
  among : admitted values
  greatest : ∀ others, admitted others → others ≠ values →
    others.map List.length < values.map List.length

theorem Matcher.values?_eq_some_iff_greatest :
    matcher.values? finish text = some values ↔
      Greatest (fun row => matcher.Admits finish row text) values := by
  rw [values?_eq_some_iff]
  constructor
  · rintro ⟨admits, most⟩
    refine ⟨admits, fun others other differs => lt_of_le_of_ne (most others other) ?_⟩
    exact fun same => differs (admits.eq_of_lengths_eq other same)
  · rintro ⟨admits, most⟩
    refine ⟨admits, fun others other => ?_⟩
    by_cases same : others = values
    · rw [same]
    · exact le_of_lt (most others other same)

namespace Pattern

theorem groups_eq_length_names (key : Key) (pattern : Text) :
    (Route.ofTemplate ⟨key, pattern⟩).matcher.groups = (nameParts (parts pattern)).length := by
  rw [← names_ofPattern]
  exact Matcher.groups_ofShape _

theorem filled_eq_woven_literals {key : Key} {pattern : Text}
    (counted : values.length = (Route.ofTemplate ⟨key, pattern⟩).matcher.groups) :
    (Route.ofTemplate ⟨key, pattern⟩).matcher.filled values =
      woven (literalParts (parts pattern)) values := by
  rw [Matcher.filled_eq_woven counted, ← literals_ofPattern]
  rfl

theorem admits_iff_writes (key : Key) (pattern : Text)
    (accepts : ∀ rest, finish rest = true ↔ left rest) :
    (Route.ofTemplate ⟨key, pattern⟩).matcher.Admits finish values text ↔
      Writes pattern left values text := by
  have groups := groups_eq_length_names key pattern
  constructor
  · rintro ⟨counted, spelt, rest, cut, accepted⟩
    rw [filled_eq_woven_literals counted] at cut
    exact ⟨counted.trans groups, fun value member => spells_iff.mp (spelt value member), rest,
      (accepts rest).mp accepted, cut⟩
  · rintro ⟨counted, spelt, rest, accepted, cut⟩
    have counted := counted.trans groups.symm
    rw [← filled_eq_woven_literals counted] at cut
    exact ⟨counted, fun value member => spells_iff.mpr (spelt value member), rest, cut,
      (accepts rest).mpr accepted⟩

/-- The search of a matcher for any kind of rest. -/
theorem values?_iff_writes (key : Key) (pattern text : Text)
    (accepts : ∀ rest, finish rest = true ↔ left rest) :
    let found := (Route.ofTemplate ⟨key, pattern⟩).matcher.values? finish text
    (found.isSome = true ↔ ∃ values, Writes pattern left values text) ∧
      ∀ values, found = some values ↔
        Matcher.Greatest (fun row => Writes pattern left row text) values := by
  intro found
  have admits : ∀ row, (Route.ofTemplate ⟨key, pattern⟩).matcher.Admits finish row text ↔
      Writes pattern left row text := fun _ => admits_iff_writes key pattern accepts
  constructor
  · rw [← Option.ne_none_iff_isSome, Ne, Matcher.values?_eq_none_iff, Classical.not_forall]
    simp only [Classical.not_not, admits]
  · intro values
    rw [Matcher.values?_eq_some_iff_greatest]
    simp only [admits]

end Pattern

end

/-- A text matches a pattern, valid or not, when it is the literals with a value in the place of each
name; with tolerance, when it is this or this with one more segment. The values found are the
greatest that make the text. -/
theorem Pattern.captures?_greatest (key : Key) (pattern : Text) :
    let route := Route.ofTemplate ⟨key, pattern⟩
    route.names = nameParts (parts pattern) ∧
    (∀ text,
      ((route.matcher.captures? text).isSome = true ↔
        ∃ values, Writes pattern (· = []) values text) ∧
      ∀ values, route.matcher.captures? text = some values ↔
        Matcher.Greatest (fun row => Writes pattern (· = []) row text) values) ∧
    ∀ separator text,
      ((route.matcher.tolerantCaptures? separator text).isSome = true ↔
        ∃ values, Writes pattern (Tolerated separator) values text) ∧
      ∀ values, route.matcher.tolerantCaptures? separator text = some values ↔
        Matcher.Greatest (fun row => Writes pattern (Tolerated separator) row text) values := by
  refine ⟨names_ofPattern pattern, fun text => ?_, fun separator text => ?_⟩
  · exact values?_iff_writes key pattern text fun rest => List.isEmpty_iff
  · refine values?_iff_writes key pattern text fun rest => ?_
    simp only [Matcher.toleratesRest_iff_append, spells_iff, Tolerated]

/-- Three braces in the wrong order make two places side by side; the first takes all it can. -/
example : (Route.ofTemplate ⟨.view, "\x7d\x7b\x7d".toList⟩).matcher.captures? "a.b".toList =
    some ["a.".toList, "b".toList] := by decide

end RouteTemplate
