import Mathlib.Data.List.Basic
import RouteTemplate.Pattern.Piece
import RouteTemplate.Proofs.Pattern.Separation

/-! # Patterns of whole segments

Where every placeholder takes a whole segment, matching needs no search: the text is split at the
separators and compared with the pattern segment by segment, one more segment being tolerated at the
end (`read?`). The matcher of such a pattern captures what this comparison reads
(`tolerantCaptures?_ofSegments`). -/
namespace RouteTemplate

open Alphabet (isVariable isPathCharacter spells spells_iff)

namespace Segments

/-- Compares a pattern with a text segment by segment and gives what stands in the places of the
placeholders. -/
def read? : List Piece → List Text → Option (List Text)
  | [], [] => some []
  | [], [extra] => if extra = [] then none else some []
  | [], _ :: _ :: _ => none
  | _ :: _, [] => none
  | .literal text :: pieces, segment :: segments =>
      if segment = text then read? pieces segments else none
  | .placeholder _ :: pieces, segment :: segments =>
      if segment = [] then none else (read? pieces segments).map (segment :: ·)

/-- The segments of the pattern with values in the places of the placeholders. -/
def filled : List Piece → List Text → List Text
  | .literal text :: pieces, values => text :: filled pieces values
  | .placeholder _ :: pieces, value :: values => value :: filled pieces values
  | _, _ => []

/-- The number of placeholders. -/
def places : List Piece → Nat
  | [] => 0
  | .literal _ :: pieces => places pieces
  | .placeholder _ :: pieces => places pieces + 1

end Segments

namespace Matcher

def preceded : Piece → Matcher → Matcher
  | .literal text, matcher => ⟨text ++ matcher.lead, matcher.tails⟩
  | .placeholder _, matcher => ⟨[], matcher.lead :: matcher.tails⟩

/-- The matcher of the segments with separators between them. -/
def ofSegments (separator : Char) : List Piece → Matcher
  | [] => ⟨[], []⟩
  | [piece] => preceded piece ⟨[], []⟩
  | piece :: pieces => preceded piece (preceded (.literal [separator]) (ofSegments separator pieces))

end Matcher

/-! ## Splitting and joining -/

section

variable {separator : Char} {text segment : Text} {segments : List Text}

theorem mem_splitOn (member : segment ∈ text.splitOn separator) :
    separator ∉ segment ∧ ∀ c ∈ segment, c ∈ text := by
  induction text generalizing segment with
  | nil =>
      rw [List.splitOn_nil, List.mem_singleton] at member
      subst member
      simp
  | cons c text ih =>
      rw [List.splitOn_cons_eq_if_modifyHead] at member
      split at member
      · rcases List.mem_cons.mp member with rfl | member
        · simp
        · exact ⟨(ih member).1, fun d stands => List.mem_cons_of_mem c ((ih member).2 d stands)⟩
      · next other =>
          obtain ⟨first, rest, split⟩ :=
            List.exists_cons_of_ne_nil (List.splitOn_ne_nil separator text)
          rw [split] at member ih
          rw [List.modifyHead_cons] at member
          rcases List.mem_cons.mp member with rfl | member
          · obtain ⟨absent, within⟩ := ih List.mem_cons_self
            have differs : separator ≠ c := by
              rintro rfl
              simp at other
            refine ⟨List.not_mem_cons_of_ne_of_not_mem differs absent, ?_⟩
            exact List.forall_mem_cons.mpr
              ⟨List.mem_cons_self, fun d stands => List.mem_cons_of_mem c (within d stands)⟩
          · obtain ⟨absent, within⟩ := ih (List.mem_cons_of_mem _ member)
            exact ⟨absent, fun d stands => List.mem_cons_of_mem c (within d stands)⟩

theorem intercalate_concat (present : segments ≠ []) (last : Text) :
    [separator].intercalate (segments ++ [last]) =
      [separator].intercalate segments ++ separator :: last := by
  induction segments with
  | nil => exact absurd rfl present
  | cons segment segments ih =>
      cases segments with
      | nil => simp [List.intercalate_cons_cons, List.intercalate_singleton]
      | cons next segments =>
          have later := ih (List.cons_ne_nil _ _)
          rw [List.cons_append] at later
          rw [List.cons_append, List.cons_append, List.intercalate_cons_cons, later,
            List.intercalate_cons_cons]
          simp only [List.append_assoc]

end

/-! ## Reading is filling backwards -/

namespace Segments

variable {separator : Char} {pieces : List Piece} {segments values : List Text}

theorem read?_nil_eq_some_iff :
    read? [] segments = some values ↔
      values = [] ∧ (segments = [] ∨ ∃ segment, segments = [segment] ∧ segment ≠ []) := by
  match segments with
  | [] => simp [read?, eq_comm]
  | [extra] => by_cases empty : extra = [] <;> simp [read?, empty, eq_comm]
  | _ :: _ :: _ => simp [read?]

theorem read?_eq_some_iff :
    read? pieces segments = some values ↔
      values.length = places pieces ∧ (∀ value ∈ values, value ≠ []) ∧
        ∃ extra, segments = filled pieces values ++ extra ∧
          (extra = [] ∨ ∃ segment, extra = [segment] ∧ segment ≠ []) := by
  induction pieces generalizing segments values with
  | nil =>
      rw [read?_nil_eq_some_iff]
      constructor
      · rintro ⟨rfl, tolerated⟩
        exact ⟨rfl, List.forall_mem_nil _, segments, rfl, tolerated⟩
      · rintro ⟨counted, -, extra, rfl, tolerated⟩
        obtain rfl := List.length_eq_zero_iff.mp counted
        exact ⟨rfl, tolerated⟩
  | cons piece pieces ih =>
      cases piece with
      | literal text =>
          have counted : places (.literal text :: pieces) = places pieces := rfl
          rw [counted]
          cases segments with
          | nil => simp [read?, filled]
          | cons segment segments =>
              by_cases same : segment = text
              · simp [read?, filled, same, ih]
              · simp [read?, filled, same]
      | placeholder name =>
          have counted : places (.placeholder name :: pieces) = places pieces + 1 := rfl
          rw [counted]
          cases segments with
          | nil => cases values <;> simp [read?, filled]
          | cons segment segments =>
              by_cases empty : segment = []
              · rw [read?, if_pos empty]
                constructor
                · intro found
                  cases found
                · rintro ⟨counted, present, extra, whole, -⟩
                  obtain ⟨value, values, rfl⟩ := List.exists_cons_of_length_eq_add_one counted
                  exact absurd ((List.cons.inj whole).1.symm.trans empty)
                    (present value List.mem_cons_self)
              · rw [read?, if_neg empty, Option.map_eq_some_iff]
                constructor
                · rintro ⟨others, found, rfl⟩
                  obtain ⟨counted, present, extra, rfl, tolerated⟩ := ih.mp found
                  exact ⟨congrArg (· + 1) counted, List.forall_mem_cons.mpr ⟨empty, present⟩, extra,
                    rfl, tolerated⟩
                · rintro ⟨counted, present, extra, whole, tolerated⟩
                  obtain ⟨value, values, rfl⟩ := List.exists_cons_of_length_eq_add_one counted
                  obtain ⟨rfl, rfl⟩ := List.cons.inj whole
                  exact ⟨values, ih.mpr ⟨Nat.succ.inj counted, (List.forall_mem_cons.mp present).2,
                    extra, rfl, tolerated⟩, rfl⟩

theorem filled_ne_nil (present : pieces ≠ []) (counted : values.length = places pieces) :
    filled pieces values ≠ [] := by
  match pieces, values with
  | [], _ => exact absurd rfl present
  | .literal text :: pieces, values => exact List.cons_ne_nil _ _
  | .placeholder name :: pieces, [] => cases counted
  | .placeholder name :: pieces, value :: values => exact List.cons_ne_nil _ _

theorem mem_filled {segment : Text} (member : segment ∈ filled pieces values) :
    .literal segment ∈ pieces ∨ segment ∈ values := by
  fun_induction filled pieces values with
  | case1 text pieces values ih =>
      rcases List.mem_cons.mp member with rfl | member
      · exact .inl List.mem_cons_self
      · exact (ih member).imp_left (List.mem_cons_of_mem _)
  | case2 name pieces value values ih =>
      rcases List.mem_cons.mp member with rfl | member
      · exact .inr List.mem_cons_self
      · exact (ih member).imp (List.mem_cons_of_mem _) (List.mem_cons_of_mem _)
  | case3 => cases member

theorem subset_filled (counted : values.length = places pieces) :
    values ⊆ filled pieces values := by
  induction pieces generalizing values with
  | nil =>
      rw [List.length_eq_zero_iff.mp counted]
      exact List.nil_subset _
  | cons piece pieces ih =>
      cases piece with
      | literal text => exact List.subset_cons_of_subset text (ih counted)
      | placeholder name =>
          obtain ⟨value, values, rfl⟩ := List.exists_cons_of_length_eq_add_one counted
          exact List.cons_subset_cons value (ih (Nat.succ.inj counted))

/-- Segments that are compared with no empty literal are not empty. -/
theorem not_mem_of_read? (present : .literal [] ∉ pieces)
    (found : read? pieces segments = some values) : [] ∉ segments := by
  obtain ⟨-, filled, extra, rfl, tolerated⟩ := read?_eq_some_iff.mp found
  rw [List.mem_append, not_or]
  constructor
  · intro member
    rcases mem_filled member with literal | value
    · exact present literal
    · exact filled [] value rfl
  · rcases tolerated with rfl | ⟨segment, rfl, here⟩
    · exact List.not_mem_nil
    · exact fun member => here (List.mem_singleton.mp member).symm

end Segments

namespace Matcher

variable {separator : Char} {pieces : List Piece} {text : Text} {values : List Text}

theorem groups_ofSegments : (ofSegments separator pieces).groups = Segments.places pieces := by
  fun_induction ofSegments separator pieces with
  | case1 => rfl
  | case2 piece => cases piece <;> rfl
  | case3 piece pieces more ih =>
      cases piece with
      | literal text => exact ih
      | placeholder name => exact congrArg (· + 1) ih

/-- The values are written into their segments. -/
theorem filled_ofSegments (counted : values.length = Segments.places pieces) :
    (ofSegments separator pieces).filled values =
      [separator].intercalate (Segments.filled pieces values) := by
  fun_induction ofSegments separator pieces generalizing values with
  | case1 => rfl
  | case2 piece =>
      cases piece with
      | literal text =>
          simp [preceded, filled, Segments.filled, interleave]
      | placeholder name =>
          obtain ⟨value, rfl⟩ := List.length_eq_one_iff.mp counted
          simp [preceded, filled, Segments.filled, interleave]
  | case3 piece pieces more ih =>
      cases piece with
      | literal text =>
          have present := Segments.filled_ne_nil more counted
          rw [Segments.filled, List.intercalate_cons_of_ne_nil present, ← ih counted]
          simp [preceded, filled]
      | placeholder name =>
          obtain ⟨value, values, rfl⟩ := List.exists_cons_of_length_eq_add_one counted
          have counted := Nat.succ.inj counted
          have present := Segments.filled_ne_nil more counted
          rw [Segments.filled, List.intercalate_cons_of_ne_nil present, ← ih counted]
          simp [preceded, filled, interleave]

end Matcher

/-! ## Matching whole segments -/

/-- The text that a piece asks for, which is none for a placeholder. -/
def Piece.fixed : Piece → Text
  | .literal text => text
  | .placeholder _ => []

/-- One segment or more, none with the separator in its literal. -/
def Segments.Plain (separator : Char) (pieces : List Piece) : Prop :=
  pieces ≠ [] ∧ ∀ piece ∈ pieces, separator ∉ piece.fixed

instance (separator : Char) (pieces : List Piece) : Decidable (Segments.Plain separator pieces) :=
  inferInstanceAs (Decidable (pieces ≠ [] ∧ ∀ piece ∈ pieces, separator ∉ piece.fixed))

namespace Matcher

variable {separator : Char} {pieces : List Piece} {text : Text} {values : List Text}

theorem splitOn_filled (foreign : isVariable separator = false)
    (plain : Segments.Plain separator pieces)
    (counted : values.length = Segments.places pieces)
    (spelt : ∀ value ∈ values, spells isVariable value = true) :
    ((ofSegments separator pieces).filled values).splitOn separator =
      Segments.filled pieces values := by
  rw [filled_ofSegments counted]
  refine List.splitOn_intercalate separator (fun segment member => ?_)
    (Segments.filled_ne_nil plain.1 counted)
  rcases Segments.mem_filled member with literal | value
  · exact plain.2 (.literal segment) literal
  · exact not_mem_of_spells foreign (spelt segment value)

theorem admits_ofSegments_iff (foreign : isVariable separator = false)
    (plain : Segments.Plain separator pieces)
    (admitted : ∀ c ∈ text, isPathCharacter [separator] c = true) :
    (ofSegments separator pieces).Admits (toleratesRest [separator]) values text ↔
      Segments.read? pieces (text.splitOn separator) = some values := by
  rw [Segments.read?_eq_some_iff]
  constructor
  · rintro ⟨counted, spelt, rest, rfl, tolerated⟩
    rw [groups_ofSegments] at counted
    refine ⟨counted, fun value member => (spells_iff.mp (spelt value member)).1, ?_⟩
    have split := splitOn_filled foreign plain counted spelt
    rcases toleratesRest_iff.mp tolerated with rfl | ⟨segment, rfl, more⟩
    · exact ⟨[], by simp [split], .inl rfl⟩
    · have last := List.splitOn_eq_singleton (not_mem_of_spells foreign more)
      exact ⟨[segment], by rw [List.splitOn_append_cons_self, split, last],
        .inr ⟨segment, rfl, (spells_iff.mp more).1⟩⟩
  · rintro ⟨counted, present, extra, split, tolerated⟩
    -- Without a separator in it, a segment of the text can only be spelt with variable characters.
    have spelt : ∀ segment ∈ text.splitOn separator, segment ≠ [] →
        spells isVariable segment = true := by
      intro segment member filled
      obtain ⟨absent, within⟩ := mem_splitOn member
      refine spells_iff.mpr ⟨filled, fun c stands => ?_⟩
      have path := admitted c (within c stands)
      rw [isPathCharacter, Bool.or_eq_true_iff, List.contains_iff_mem, List.mem_singleton] at path
      exact path.resolve_right fun same => absent (same ▸ stands)
    have counted' : values.length = (ofSegments separator pieces).groups := by
      rw [counted, groups_ofSegments]
    have among : ∀ value ∈ values, value ∈ text.splitOn separator := fun value member =>
      split ▸ List.mem_append_left extra (Segments.subset_filled counted member)
    have whole : [separator].intercalate (text.splitOn separator) = text :=
      List.intercalate_splitOn separator
    refine ⟨counted', fun value member => spelt value (among value member) (present value member), ?_⟩
    rw [filled_ofSegments counted]
    rcases tolerated with rfl | ⟨segment, rfl, more⟩
    · exact ⟨[], by rw [← whole, split, List.append_nil, List.append_nil], rfl⟩
    · have last := spelt segment (split ▸ List.mem_append_right _ List.mem_cons_self) more
      refine ⟨separator :: segment, ?_, toleratesRest_iff.mpr (.inr ⟨segment, rfl, last⟩)⟩
      rw [← intercalate_concat (Segments.filled_ne_nil plain.1 counted), ← split, whole]

/-- A pattern of whole segments is matched by comparing segments. -/
theorem tolerantCaptures?_ofSegments (foreign : isVariable separator = false)
    (plain : Segments.Plain separator pieces)
    (admitted : ∀ c ∈ text, isPathCharacter [separator] c = true) :
    (ofSegments separator pieces).tolerantCaptures? [separator] text =
      Segments.read? pieces (text.splitOn separator) := by
  cases found : Segments.read? pieces (text.splitOn separator) with
  | none =>
      refine values?_eq_none_iff.mpr fun values admits => ?_
      rw [(admits_ofSegments_iff foreign plain admitted).mp admits] at found
      cases found
  | some values =>
      refine values?_eq_some_iff.mpr
        ⟨(admits_ofSegments_iff foreign plain admitted).mpr found, fun others admits => ?_⟩
      rw [(admits_ofSegments_iff foreign plain admitted).mp admits] at found
      obtain rfl := Option.some.inj found
      exact le_refl _

end Matcher

end RouteTemplate
