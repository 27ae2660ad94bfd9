import Mathlib.Data.List.Lex
import RouteTemplate.Pattern.Matcher

/-! # Ways to fit a text

A text fits a matcher when it can be cut into the literals, one value for each place, and a rest
that is accepted. `Fits` says so without a search. The search finds a way to fit whenever there is
one (`valuesBefore_eq_none_iff`), and of all ways it finds the one whose lengths, read as a row of
numbers, are greatest (`valuesBefore_eq_some_iff`). -/
namespace RouteTemplate.Matcher

open Alphabet (isVariable spells)

/-- Each value with the literal after it. -/
def interleave : List Text → List Text → Text
  | literal :: tails, value :: values => value ++ (literal ++ interleave tails values)
  | _, _ => []

/-- The values stand in the text, each before its literal, and what is left over is accepted. -/
inductive Fits (finish : Text → Bool) : List Text → List Text → Text → Prop where
  | rest {text : Text} (accepted : finish text = true) : Fits finish [] [] text
  | value {literal value rest : Text} {tails values : List Text}
      (spelt : spells isVariable value = true) (later : Fits finish tails values rest) :
      Fits finish (literal :: tails) (value :: values) (value ++ (literal ++ rest))

/-! ## Fitting, place by place and as a whole -/

section

variable {finish : Text → Bool} {literal text : Text} {tails values : List Text}

theorem fits_nil_iff : Fits finish [] values text ↔ values = [] ∧ finish text = true := by
  constructor
  · intro fits
    cases fits with
    | rest accepted => exact ⟨rfl, accepted⟩
  · rintro ⟨rfl, accepted⟩
    exact .rest accepted

theorem fits_cons_iff :
    Fits finish (literal :: tails) values text ↔
      ∃ value others rest, values = value :: others ∧ text = value ++ (literal ++ rest) ∧
        spells isVariable value = true ∧ Fits finish tails others rest := by
  constructor
  · intro fits
    cases fits with
    | value spelt later => exact ⟨_, _, _, rfl, rfl, spelt, later⟩
  · rintro ⟨value, others, rest, rfl, rfl, spelt, later⟩
    exact .value spelt later

theorem Fits.length_eq (fits : Fits finish tails values text) : values.length = tails.length := by
  induction fits with
  | rest => rfl
  | value _ _ ih => simp [ih]

theorem Fits.spelt (fits : Fits finish tails values text) :
    ∀ value ∈ values, spells isVariable value = true := by
  induction fits with
  | rest => simp
  | value spelt _ ih => exact List.forall_mem_cons.mpr ⟨spelt, ih⟩

theorem Fits.exists_rest (fits : Fits finish tails values text) :
    ∃ rest, text = interleave tails values ++ rest ∧ finish rest = true := by
  induction fits with
  | @rest text accepted => exact ⟨text, rfl, accepted⟩
  | value _ _ ih =>
      obtain ⟨left, cut, accepted⟩ := ih
      exact ⟨left, by simp [interleave, cut], accepted⟩

theorem fits_interleave (counted : values.length = tails.length)
    (spelt : ∀ value ∈ values, spells isVariable value = true)
    {rest : Text} (accepted : finish rest = true) :
    Fits finish tails values (interleave tails values ++ rest) := by
  induction tails generalizing values with
  | nil =>
      cases values with
      | nil => exact .rest accepted
      | cons value values => simp at counted
  | cons literal tails ih =>
      cases values with
      | nil => simp at counted
      | cons value values =>
          have later := ih (by simpa using counted)
            (fun other member => spelt other (List.mem_cons_of_mem value member))
          have here : Fits finish (literal :: tails) (value :: values) _ :=
            .value (spelt value List.mem_cons_self) later
          simpa [interleave] using here

theorem fits_iff_exists_rest :
    Fits finish tails values text ↔
      values.length = tails.length ∧ (∀ value ∈ values, spells isVariable value = true) ∧
        ∃ rest, text = interleave tails values ++ rest ∧ finish rest = true := by
  constructor
  · intro fits
    exact ⟨fits.length_eq, fits.spelt, fits.exists_rest⟩
  · rintro ⟨counted, spelt, rest, rfl, accepted⟩
    exact fits_interleave counted spelt accepted

/-- Values of the same lengths are cut from the same places. -/
theorem Fits.eq_of_lengths_eq {others : List Text} (fits : Fits finish tails values text)
    (other : Fits finish tails others text)
    (same : others.map List.length = values.map List.length) : others = values := by
  induction fits generalizing others with
  | rest => exact (fits_nil_iff.mp other).1
  | value _ _ ih =>
      obtain ⟨first, more, rest, rfl, cut, _, later⟩ := fits_cons_iff.mp other
      rw [List.map_cons, List.map_cons, List.cons.injEq] at same
      obtain ⟨rfl, rests⟩ := List.append_inj cut same.1.symm
      obtain rfl := List.append_cancel_left rests
      rw [ih later same.2]

end

/-! ## The longest run -/

section

variable {α : Type} {next : Text → Option α} {text run rest : Text} {result : α}

theorem spells_cons_iff {admitted : Char → Bool} {c : Char} :
    spells admitted (c :: text) = true ↔
      admitted c = true ∧ (text = [] ∨ spells admitted text = true) := by
  cases text <;> simp [spells]

/-- A run at the start of a text takes the first character and perhaps a run after it. -/
theorem run_of_cons_eq_append {c : Char} (cut : c :: text = run ++ rest)
    (spelt : spells isVariable run = true) :
    ∃ later, run = c :: later ∧ text = later ++ rest ∧ isVariable c = true ∧
      (later = [] ∨ spells isVariable later = true) := by
  cases run with
  | nil => cases spelt
  | cons d later =>
      obtain ⟨rfl, cut'⟩ := List.cons.inj cut
      exact ⟨later, rfl, cut', spells_cons_iff.mp spelt⟩

theorem longestRun_eq_none_iff :
    longestRun next text = none ↔
      ∀ run rest, text = run ++ rest → spells isVariable run = true → next rest = none := by
  induction text with
  | nil =>
      refine ⟨fun _ run rest cut spelt => ?_, fun _ => rfl⟩
      rw [(List.append_eq_nil_iff.mp cut.symm).1] at spelt
      cases spelt
  | cons c text ih =>
      by_cases admitted : isVariable c = true
      · have split : longestRun next (c :: text) = none ↔
            longestRun next text = none ∧ next text = none := by
          rw [longestRun, if_pos admitted]
          cases longestRun next text <;> simp
        rw [split, ih]
        constructor
        · rintro ⟨longer, here⟩ run rest cut spelt
          obtain ⟨later, rfl, cut, -, rfl | spelt⟩ := run_of_cons_eq_append cut spelt
          · rwa [← show text = rest from cut]
          · exact longer later rest cut spelt
        · intro missed
          constructor
          · intro run rest cut spelt
            exact missed (c :: run) rest (congrArg (c :: ·) cut)
              (spells_cons_iff.mpr ⟨admitted, .inr spelt⟩)
          · exact missed [c] text rfl (spells_cons_iff.mpr ⟨admitted, .inl rfl⟩)
      · refine ⟨fun _ run rest cut spelt => ?_, fun _ => by rw [longestRun, if_neg admitted]⟩
        obtain ⟨-, -, -, admitted', -⟩ := run_of_cons_eq_append cut spelt
        exact absurd admitted' admitted

theorem longestRun_sound (found : longestRun next text = some (run, result)) :
    ∃ rest, text = run ++ rest ∧ spells isVariable run = true ∧ next rest = some result ∧
      ∀ longer left, text = longer ++ left → spells isVariable longer = true →
        run.length < longer.length → next left = none := by
  induction text generalizing run with
  | nil => cases found
  | cons c text ih =>
      by_cases admitted : isVariable c = true
      · rw [longestRun, if_pos admitted] at found
        cases inner : longestRun next text with
        | some pair =>
            simp only [inner, Option.some.injEq, Prod.mk.injEq] at found
            obtain ⟨rfl, rfl⟩ := found
            obtain ⟨rest, rfl, spelt, reached, longest⟩ := ih inner
            refine ⟨rest, rfl, spells_cons_iff.mpr ⟨admitted, .inr spelt⟩, reached, ?_⟩
            intro longer left cut spelt more
            obtain ⟨later, rfl, cut, -, rfl | spelt⟩ := run_of_cons_eq_append cut spelt
            · exact absurd (Nat.lt_of_succ_lt_succ more) (Nat.not_lt_zero _)
            · exact longest later left cut spelt (Nat.lt_of_succ_lt_succ more)
        | none =>
            simp only [inner, Option.map_eq_some_iff, Prod.mk.injEq] at found
            obtain ⟨reached, here, rfl, rfl⟩ := found
            refine ⟨text, rfl, spells_cons_iff.mpr ⟨admitted, .inl rfl⟩, here, ?_⟩
            intro longer left cut spelt more
            obtain ⟨later, rfl, cut, -, rfl | spelt⟩ := run_of_cons_eq_append cut spelt
            · exact absurd more (Nat.lt_irrefl 1)
            · exact longestRun_eq_none_iff.mp inner later left cut spelt
      · rw [longestRun, if_neg admitted] at found
        cases found

end

/-! ## The search finds the greatest way to fit -/

section

variable {finish : Text → Bool} {literal text : Text} {tails values others : List Text}

theorem bind_after?_eq_some_iff {α : Type} {next : Text → Option α} {result : α} :
    (Text.after? literal text).bind next = some result ↔
      ∃ rest, text = literal ++ rest ∧ next rest = some result := by
  simp only [Option.bind_eq_some_iff, Text.after?_eq_some_iff]

theorem bind_after?_eq_none_iff {α : Type} {next : Text → Option α} :
    (Text.after? literal text).bind next = none ↔
      ∀ rest, text = literal ++ rest → next rest = none := by
  simp only [Option.bind_eq_none_iff, Text.after?_eq_some_iff]

theorem valuesBefore_eq_none_iff :
    valuesBefore finish tails text = none ↔ ∀ values, ¬ Fits finish tails values text := by
  induction tails generalizing text with
  | nil => simp [valuesBefore, fits_nil_iff]
  | cons literal tails ih =>
      simp only [valuesBefore, Option.map_eq_none_iff, longestRun_eq_none_iff,
        bind_after?_eq_none_iff, ih]
      constructor
      · intro missed values fits
        obtain ⟨value, others, rest, -, cut, spelt, later⟩ := fits_cons_iff.mp fits
        exact missed value _ cut spelt rest rfl others later
      · rintro missed value - rfl spelt rest rfl others later
        exact missed _ (.value spelt later)

/-- What the search finds fits, and no other way to fit has greater lengths. -/
theorem valuesBefore_sound (found : valuesBefore finish tails text = some values) :
    Fits finish tails values text ∧
      ∀ others, Fits finish tails others text →
        others.map List.length ≤ values.map List.length := by
  induction tails generalizing text values with
  | nil =>
      rw [valuesBefore] at found
      split at found
      · next accepted =>
          cases found
          refine ⟨.rest accepted, fun others fits => ?_⟩
          rw [(fits_nil_iff.mp fits).1]
      · cases found
  | cons literal tails ih =>
      rw [valuesBefore, Option.map_eq_some_iff] at found
      obtain ⟨⟨value, later⟩, run, rfl⟩ := found
      obtain ⟨_, rfl, spelt, next, longest⟩ := longestRun_sound run
      obtain ⟨rest, rfl, reached⟩ := bind_after?_eq_some_iff.mp next
      obtain ⟨fits, greatest⟩ := ih reached
      refine ⟨.value spelt fits, fun others other => ?_⟩
      obtain ⟨first, more, left, rfl, cut, spelt', fits'⟩ := fits_cons_iff.mp other
      rw [List.map_cons, List.map_cons]
      rcases Nat.lt_trichotomy first.length value.length with shorter | same | longer
      · exact le_of_lt (List.Lex.rel shorter)
      · -- The same first value leaves the same rest, on which the search was greatest before.
        obtain ⟨rfl, rests⟩ := List.append_inj cut same.symm
        obtain rfl := List.append_cancel_left rests
        exact List.cons_le_cons _ (greatest more fits')
      · have missed := bind_after?_eq_none_iff.mp (longest first _ cut spelt' longer) left rfl
        exact absurd fits' (valuesBefore_eq_none_iff.mp missed more)

theorem exists_valuesBefore (fits : Fits finish tails values text) :
    ∃ found, valuesBefore finish tails text = some found := by
  cases search : valuesBefore finish tails text with
  | none => exact absurd fits (valuesBefore_eq_none_iff.mp search values)
  | some found => exact ⟨found, rfl⟩

theorem valuesBefore_eq_some_iff :
    valuesBefore finish tails text = some values ↔
      Fits finish tails values text ∧
        ∀ others, Fits finish tails others text →
          others.map List.length ≤ values.map List.length := by
  refine ⟨valuesBefore_sound, ?_⟩
  rintro ⟨fits, greatest⟩
  obtain ⟨found, search⟩ := exists_valuesBefore fits
  obtain ⟨fits', greatest'⟩ := valuesBefore_sound search
  have same := le_antisymm (greatest found fits') (greatest' values fits)
  rw [search, fits.eq_of_lengths_eq fits' same]

end

/-! ## Whole matchers -/

/-- What may be left over: nothing, or the separator and a value. -/
theorem toleratesRest_iff_append {separator rest : Text} :
    toleratesRest separator rest = true ↔
      rest = [] ∨ ∃ segment, rest = separator ++ segment ∧ spells isVariable segment = true := by
  rw [toleratesRest, Bool.or_eq_true_iff, List.isEmpty_iff, Option.any_eq_true]
  simp only [Text.after?_eq_some_iff]

theorem groups_ofShape (shape : Shape) : (ofShape shape).groups = shape.names.length := by
  simp [groups, ofShape, Shape.names]

/-- The text that the values make with the literals. -/
def filled (matcher : Matcher) (values : List Text) : Text :=
  matcher.lead ++ interleave matcher.tails values

/-- The values, one for each place, make the text up to a rest that is accepted. -/
structure Admits (finish : Text → Bool) (matcher : Matcher) (values : List Text) (text : Text) :
    Prop where
  counted : values.length = matcher.groups
  spelt : ∀ value ∈ values, spells isVariable value = true
  cut : ∃ rest, text = matcher.filled values ++ rest ∧ finish rest = true

section

variable {finish : Text → Bool} {matcher : Matcher} {text : Text} {values others : List Text}

theorem admits_iff_fits :
    matcher.Admits finish values text ↔
      ∃ rest, text = matcher.lead ++ rest ∧ Fits finish matcher.tails values rest := by
  constructor
  · rintro ⟨counted, spelt, rest, rfl, accepted⟩
    have fits := fits_iff_exists_rest.mpr ⟨counted, spelt, rest, rfl, accepted⟩
    exact ⟨_, List.append_assoc _ _ _, fits⟩
  · rintro ⟨rest, rfl, fits⟩
    obtain ⟨counted, spelt, left, rfl, accepted⟩ := fits_iff_exists_rest.mp fits
    exact ⟨counted, spelt, left, (List.append_assoc _ _ _).symm, accepted⟩

theorem Admits.eq_of_lengths_eq (admits : matcher.Admits finish values text)
    (other : matcher.Admits finish others text)
    (same : others.map List.length = values.map List.length) : others = values := by
  obtain ⟨rest, rfl, fits⟩ := admits_iff_fits.mp admits
  obtain ⟨_, cut, fits'⟩ := admits_iff_fits.mp other
  obtain rfl := List.append_cancel_left cut
  exact fits.eq_of_lengths_eq fits' same

theorem values?_eq_none_iff :
    matcher.values? finish text = none ↔ ∀ values, ¬ matcher.Admits finish values text := by
  simp only [values?, bind_after?_eq_none_iff, valuesBefore_eq_none_iff, admits_iff_fits]
  constructor
  · rintro missed values ⟨rest, cut, fits⟩
    exact missed rest cut values fits
  · intro missed rest cut values fits
    exact missed values ⟨rest, cut, fits⟩

theorem values?_eq_some_iff :
    matcher.values? finish text = some values ↔
      matcher.Admits finish values text ∧
        ∀ others, matcher.Admits finish others text →
          others.map List.length ≤ values.map List.length := by
  simp only [values?, bind_after?_eq_some_iff, valuesBefore_eq_some_iff, admits_iff_fits]
  constructor
  · rintro ⟨rest, rfl, fits, greatest⟩
    refine ⟨⟨rest, rfl, fits⟩, ?_⟩
    rintro others ⟨left, cut, fits'⟩
    obtain rfl := List.append_cancel_left cut
    exact greatest others fits'
  · rintro ⟨⟨rest, rfl, fits⟩, greatest⟩
    exact ⟨rest, rfl, fits, fun others fits' => greatest others ⟨rest, rfl, fits'⟩⟩

end

end RouteTemplate.Matcher
