import Mathlib.Data.List.Basic
import RouteTemplate.Path.Acceptance
import RouteTemplate.Proofs.Path.Extension
import RouteTemplate.Proofs.Pattern.Fit
import RouteTemplate.Proofs.Pattern.Grammar

/-! # Built paths

A path built from a valid pattern starts with the separator and is spelt with path characters. Where
no value holds a point, the pattern alone settles whether an extension is read out of the built
path: `closed_filled_iff` looks at its literals and its last character. -/
namespace RouteTemplate

open Alphabet (isVariable spells spells_iff isPathCharacter)

namespace Matcher

variable {tails row : List Text}

theorem mem_interleave_iff {c : Char} (counted : row.length = tails.length) :
    c ∈ interleave tails row ↔ (∃ literal ∈ tails, c ∈ literal) ∨ ∃ value ∈ row, c ∈ value := by
  induction tails generalizing row with
  | nil =>
      obtain rfl := List.length_eq_zero_iff.mp counted
      simp [interleave]
  | cons literal tails ih =>
      obtain ⟨value, row, rfl⟩ := List.exists_cons_of_length_eq_add_one counted
      rw [interleave, List.mem_append, List.mem_append, ih (Nat.succ.inj counted)]
      simp only [List.mem_cons, exists_eq_or_imp]
      constructor
      · rintro (here | here | here | here)
        · exact .inr (.inl here)
        · exact .inl (.inl here)
        · exact .inl (.inr here)
        · exact .inr (.inr here)
      · rintro ((here | here) | here | here)
        · exact .inr (.inl here)
        · exact .inr (.inr (.inl here))
        · exact .inl here
        · exact .inr (.inr (.inr here))

/-- Values that are not empty and hold no point leave the last character to the literals. -/
theorem getLast?_interleave_iff {slots : List Slot} (counted : row.length = slots.length)
    (spelt : ∀ value ∈ row, spells isVariable value = true)
    (pointless : ∀ value ∈ row, '.' ∉ value) :
    (interleave (slots.map Slot.after) row).getLast? = some '.' ↔
      (Shape.slotsText slots).getLast? = some '.' := by
  induction slots generalizing row with
  | nil =>
      obtain rfl := List.length_eq_zero_iff.mp counted
      rfl
  | cons slot slots ih =>
      obtain ⟨value, row, rfl⟩ := List.exists_cons_of_length_eq_add_one counted
      obtain ⟨here, spelt⟩ := List.forall_mem_cons.mp spelt
      obtain ⟨bare, pointless⟩ := List.forall_mem_cons.mp pointless
      have later := ih (Nat.succ.inj counted) spelt pointless
      have split : Shape.slotsText (slot :: slots) =
          (('{' :: slot.name) ++ ['}']) ++ (slot.after ++ Shape.slotsText slots) := by
        simp [Shape.slotsText]
      rw [List.map_cons, interleave, split]
      cases slots with
      | cons next slots =>
          obtain ⟨other, row, rfl⟩ := List.exists_cons_of_length_eq_add_one (Nat.succ.inj counted)
          have filled := (spells_iff.mp (spelt other List.mem_cons_self)).1
          rw [← List.append_assoc, List.getLast?_append_of_ne_nil _ (by simp [interleave, filled]),
            ← List.append_assoc, List.getLast?_append_of_ne_nil _ (by simp [Shape.slotsText])]
          exact later
      | nil =>
          obtain rfl := List.length_eq_zero_iff.mp (Nat.succ.inj counted)
          rw [interleave, Shape.slotsText, List.append_nil]
          · cases literal : slot.after with
            | cons c after =>
                rw [List.getLast?_append_of_ne_nil _ (List.cons_ne_nil _ _),
                  List.getLast?_append_of_ne_nil _ (List.cons_ne_nil _ _)]
            | nil =>
                -- A value does not end with a point, nor does a closing brace.
                rw [List.append_nil, List.append_nil]
                constructor
                · intro ending
                  exact absurd (List.mem_of_getLast? ending) bare
                · intro ending
                  rw [List.getLast?_concat] at ending
                  cases ending
          · simp

/-- The literals of the pattern, and the values. -/
theorem mem_filled_iff {matcher : Matcher} {c : Char} (counted : row.length = matcher.groups) :
    c ∈ matcher.filled row ↔
      c ∈ matcher.lead ∨ (∃ literal ∈ matcher.tails, c ∈ literal) ∨ ∃ value ∈ row, c ∈ value := by
  rw [filled, List.mem_append, mem_interleave_iff counted]

end Matcher

namespace Shape

variable {separator : Char} {shape : Shape} {row : List Text}

theorem WellFormed.head?_filled (wellFormed : shape.WellFormed separator) (row : List Text) :
    ((Matcher.ofShape shape).filled row).head? = some separator := by
  rw [Matcher.filled, List.head?_append, show (Matcher.ofShape shape).lead = shape.head from rfl,
    wellFormed.leads]
  rfl

theorem WellFormed.filled_ne_nil (wellFormed : shape.WellFormed separator) (row : List Text) :
    (Matcher.ofShape shape).filled row ≠ [] := by
  intro empty
  have leads := wellFormed.head?_filled row
  rw [empty] at leads
  cases leads

theorem WellFormed.isPathCharacter_of_mem_filled (wellFormed : shape.WellFormed separator)
    (counted : row.length = (Matcher.ofShape shape).groups)
    (spelt : ∀ value ∈ row, spells isVariable value = true) :
    ∀ c ∈ (Matcher.ofShape shape).filled row, isPathCharacter [separator] c = true := by
  intro c member
  rcases (Matcher.mem_filled_iff counted).mp member with
    lead | ⟨literal, tail, among⟩ | ⟨value, held, among⟩
  · exact wellFormed.literals_spelt shape.head List.mem_cons_self c lead
  · exact wellFormed.literals_spelt literal (List.mem_cons_of_mem _ tail) c among
  · rw [isPathCharacter, (spells_iff.mp (spelt value held)).2 c among, Bool.true_or]

/-- A built path with what follows it is acceptable up to its length. -/
theorem WellFormed.fault?_filled (wellFormed : shape.WellFormed separator)
    (counted : row.length = (Matcher.ofShape shape).groups)
    (spelt : ∀ value ∈ row, spells isVariable value = true) {rest : Text} {limit : Int}
    (admitted : ∀ c ∈ rest, isPathCharacter [separator] c = true)
    (short : ((Matcher.ofShape shape).filled row ++ rest).length ≤ limit) :
    Path.fault? [separator] limit ((Matcher.ofShape shape).filled row ++ rest) = none := by
  refine Path.fault?_eq_none_iff.mpr ⟨?_, short, fun c member => ?_⟩
  · exact List.append_ne_nil_of_left_ne_nil (wellFormed.filled_ne_nil row) _
  · rcases List.mem_append.mp member with member | member
    · exact wellFormed.isPathCharacter_of_mem_filled counted spelt c member
    · exact admitted c member

/-- The built path ends with a point where the pattern does. -/
theorem getLast?_filled_iff (counted : row.length = (Matcher.ofShape shape).groups)
    (spelt : ∀ value ∈ row, spells isVariable value = true)
    (pointless : ∀ value ∈ row, '.' ∉ value) :
    ((Matcher.ofShape shape).filled row).getLast? = some '.' ↔ shape.text.getLast? = some '.' := by
  obtain ⟨head, slots⟩ := shape
  rw [Matcher.groups_ofShape, names, List.length_map] at counted
  have later := Matcher.getLast?_interleave_iff counted spelt pointless
  cases slots with
  | nil => rfl
  | cons slot slots =>
      obtain ⟨value, row, rfl⟩ := List.exists_cons_of_length_eq_add_one counted
      have filled := (spells_iff.mp (spelt value List.mem_cons_self)).1
      rw [Matcher.filled, List.getLast?_append_of_ne_nil _
          (by simp [Matcher.ofShape, Matcher.interleave, filled]),
        text, List.getLast?_append_of_ne_nil _ (by simp [slotsText])]
      exact later

theorem closed_filled_iff (counted : row.length = (Matcher.ofShape shape).groups)
    (spelt : ∀ value ∈ row, spells isVariable value = true)
    (pointless : ∀ value ∈ row, '.' ∉ value) :
    Path.Closed ((Matcher.ofShape shape).filled row) ↔
      (∀ literal ∈ shape.literals, '.' ∉ literal) ∨ shape.text.getLast? = some '.' := by
  refine or_congr ?_ (getLast?_filled_iff counted spelt pointless)
  rw [Matcher.mem_filled_iff counted, literals, List.forall_mem_cons, not_or, not_or]
  constructor
  · rintro ⟨lead, tails, -⟩
    exact ⟨lead, fun literal member stands => tails ⟨literal, member, stands⟩⟩
  · rintro ⟨lead, tails⟩
    refine ⟨lead, ?_, ?_⟩
    · rintro ⟨literal, member, stands⟩
      exact tails literal member stands
    · rintro ⟨value, member, stands⟩
      exact pointless value member stands

end Shape

end RouteTemplate
