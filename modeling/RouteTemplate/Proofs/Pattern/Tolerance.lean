import RouteTemplate.Route
import RouteTemplate.Proofs.Pattern.Separation

/-! # One segment more

A tolerant match is a match of the whole text, or a match of what stands before its last segment, with
the same values (`tolerantCaptures?_eq_some_iff`). The separators tell which of the two it is: the text
has as many as the literals, or one more. So the first segment after a text that matches changes nothing
and the second one is too many (`tolerantCaptures?_append_trailing`). -/
namespace RouteTemplate

open Alphabet (isVariable spells)

/-! ## Segments at the end of a text -/

/-- Segments as they stand at the end of a text, each after a separator. -/
def Text.trailing (separator : Char) (segments : List Text) : Text :=
  segments.flatMap (separator :: ·)

section

variable {separator : Char} {base other segment last : Text} {segments : List Text}

theorem Text.count_trailing (absent : ∀ segment ∈ segments, separator ∉ segment) :
    (trailing separator segments).count separator = segments.length := by
  induction segments with
  | nil => rfl
  | cons segment segments ih =>
      obtain ⟨here, later⟩ := List.forall_mem_cons.mp absent
      have split : trailing separator (segment :: segments) =
          separator :: (segment ++ trailing separator segments) := rfl
      rw [split, List.count_cons_self, List.count_append, List.count_eq_zero.mpr here, ih later,
        Nat.zero_add, List.length_cons]

/-- A text cannot be cut in two ways at its last separator. -/
theorem Text.last_cut_unique (same : base ++ separator :: segment = other ++ separator :: last)
    (absent : separator ∉ segment) (absent' : separator ∉ last) :
    base = other ∧ segment = last := by
  have cut := Text.cutAtLast_eq_some_iff.mpr ⟨same, absent'⟩
  rw [Text.cutAtLast_eq_some_iff.mpr ⟨rfl, absent⟩] at cut
  simpa using cut

end

namespace Matcher

section

variable {separator : Char} {matcher : Matcher} {text base segment : Text} {row others : List Text}

/-! ## Rows that make the whole text -/

theorem admits_isEmpty_iff :
    matcher.Admits List.isEmpty row text ↔
      row.length = matcher.groups ∧ (∀ value ∈ row, spells isVariable value = true) ∧
        text = matcher.filled row := by
  constructor
  · rintro ⟨counted, spelt, rest, cut, empty⟩
    rw [List.isEmpty_iff.mp empty, List.append_nil] at cut
    exact ⟨counted, spelt, cut⟩
  · rintro ⟨counted, spelt, cut⟩
    exact ⟨counted, spelt, [], by rw [List.append_nil, cut], rfl⟩

theorem Admits.count_eq (foreign : isVariable separator = false)
    (admits : matcher.Admits List.isEmpty row text) :
    text.count separator = matcher.literalCount separator := by
  obtain ⟨counted, spelt, rfl⟩ := admits_isEmpty_iff.mp admits
  exact count_filled counted fun value member => not_mem_of_spells foreign (spelt value member)

/-- A row that makes a text tolerantly makes it whole, or up to its last segment. -/
theorem admits_toleratesRest_iff :
    matcher.Admits (toleratesRest [separator]) row text ↔
      matcher.Admits List.isEmpty row text ∨
        ∃ base segment, text = base ++ separator :: segment ∧ spells isVariable segment = true ∧
          matcher.Admits List.isEmpty row base := by
  simp only [admits_isEmpty_iff]
  constructor
  · rintro ⟨counted, spelt, rest, cut, tolerated⟩
    rcases toleratesRest_iff.mp tolerated with rfl | ⟨segment, rfl, more⟩
    · exact .inl ⟨counted, spelt, by rw [cut, List.append_nil]⟩
    · exact .inr ⟨_, segment, cut, more, counted, spelt, rfl⟩
  · rintro (⟨counted, spelt, rfl⟩ | ⟨_, segment, rfl, more, counted, spelt, rfl⟩)
    · exact ⟨counted, spelt, [], (List.append_nil _).symm, rfl⟩
    · exact ⟨counted, spelt, _, rfl, toleratesRest_iff.mpr (.inr ⟨segment, rfl, more⟩)⟩

/-! ## The tolerance is the same for all rows -/

theorem Admits.of_tolerant (foreign : isVariable separator = false)
    (admits : matcher.Admits List.isEmpty row text)
    (other : matcher.Admits (toleratesRest [separator]) others text) :
    matcher.Admits List.isEmpty others text := by
  obtain ⟨counted, spelt, rfl⟩ := admits_isEmpty_iff.mp admits
  exact admits_isEmpty_iff.mpr
    ⟨other.counted, other.spelt, other.filled_eq foreign counted spelt⟩

/-- A row that makes the text with a segment too many leaves exactly that segment over. -/
theorem Admits.of_tolerant_append (foreign : isVariable separator = false)
    (more : spells isVariable segment = true) (admits : matcher.Admits List.isEmpty row base)
    (other : matcher.Admits (toleratesRest [separator]) others (base ++ separator :: segment)) :
    matcher.Admits List.isEmpty others base := by
  have absent := not_mem_of_spells foreign more
  rcases admits_toleratesRest_iff.mp other with whole | ⟨first, last, cut, spelt, whole⟩
  · have counts := whole.count_eq foreign
    rw [List.count_append, List.count_cons_self, admits.count_eq foreign] at counts
    omega
  · obtain ⟨rfl, -⟩ := Text.last_cut_unique cut absent (not_mem_of_spells foreign spelt)
    exact whole

theorem tolerantCaptures?_eq_some_iff (foreign : isVariable separator = false) :
    matcher.tolerantCaptures? [separator] text = some row ↔
      matcher.captures? text = some row ∨
        ∃ base segment, text = base ++ separator :: segment ∧ spells isVariable segment = true ∧
          matcher.captures? base = some row := by
  simp only [tolerantCaptures?, captures?, values?_eq_some_iff]
  constructor
  · rintro ⟨admits, greatest⟩
    rcases admits_toleratesRest_iff.mp admits with whole | ⟨base, segment, rfl, more, whole⟩
    · exact .inl ⟨whole, fun others other =>
        greatest others (admits_toleratesRest_iff.mpr (.inl other))⟩
    · exact .inr ⟨base, segment, rfl, more, whole, fun others other =>
        greatest others (admits_toleratesRest_iff.mpr (.inr ⟨base, segment, rfl, more, other⟩))⟩
  · rintro (⟨admits, greatest⟩ | ⟨base, segment, rfl, more, admits, greatest⟩)
    · exact ⟨admits_toleratesRest_iff.mpr (.inl admits), fun others other =>
        greatest others (admits.of_tolerant foreign other)⟩
    · exact ⟨admits_toleratesRest_iff.mpr (.inr ⟨base, segment, rfl, more, admits⟩),
        fun others other => greatest others (admits.of_tolerant_append foreign more other)⟩

theorem count_of_captures? (foreign : isVariable separator = false)
    (captured : matcher.captures? text = some row) :
    text.count separator = matcher.literalCount separator :=
  (values?_eq_some_iff.mp captured).1.count_eq foreign

/-- A text that is taken has the separators of the literals, or one more. -/
theorem count_of_tolerantCaptures? (foreign : isVariable separator = false)
    (captured : matcher.tolerantCaptures? [separator] text = some row) :
    text.count separator = matcher.literalCount separator ∨
      text.count separator = matcher.literalCount separator + 1 := by
  rcases (tolerantCaptures?_eq_some_iff foreign).mp captured with
    whole | ⟨base, segment, rfl, more, whole⟩
  · exact .inl (count_of_captures? foreign whole)
  · rw [List.count_append, List.count_cons_self, count_of_captures? foreign whole,
      List.count_eq_zero.mpr (not_mem_of_spells foreign more)]
    exact .inr rfl

end

end Matcher

/-! ## Segments after a text that matches -/

/-- One segment after a text that a pattern matches is passed over, two are not; and a text that is
taken has as many separators as the literals of the pattern, or one more. -/
theorem Pattern.tolerantCaptures?_append_trailing {separator : Char}
    (foreign : isVariable separator = false) (key : Key) (pattern : Text) :
    let matcher := (Route.ofTemplate ⟨key, pattern⟩).matcher
    let literals := (Shape.ofPattern pattern).literals.flatten
    (∀ base row segments, matcher.captures? base = some row →
      (∀ segment ∈ segments, spells isVariable segment = true) →
      matcher.tolerantCaptures? [separator] (base ++ Text.trailing separator segments) =
        if segments.length ≤ 1 then some row else none) ∧
    ∀ text row, matcher.tolerantCaptures? [separator] text = some row →
      text.count separator = literals.count separator ∨
        text.count separator = literals.count separator + 1 := by
  intro matcher literals
  have literalCount : literals.count separator = matcher.literalCount separator := by
    rw [show literals = matcher.lead ++ matcher.tails.flatten from rfl, List.count_append]
    rfl
  refine ⟨fun base row segments captured spelt => ?_, fun text row captured => ?_⟩
  · match segments with
    | [] =>
        rw [Text.trailing, List.flatMap_nil, List.append_nil]
        exact (Matcher.tolerantCaptures?_eq_some_iff foreign).mpr (.inl captured)
    | [segment] =>
        have more := spelt segment List.mem_cons_self
        rw [Text.trailing, List.flatMap_singleton]
        exact (Matcher.tolerantCaptures?_eq_some_iff foreign).mpr
          (.inr ⟨base, segment, rfl, more, captured⟩)
    | first :: second :: segments =>
        rw [if_neg (by simp)]
        refine Option.eq_none_iff_forall_ne_some.mpr fun other taken => ?_
        have absent := fun segment member =>
          Matcher.not_mem_of_spells foreign (spelt segment member)
        have counts := Matcher.count_of_tolerantCaptures? foreign taken
        rw [List.count_append, Text.count_trailing absent, Matcher.count_of_captures? foreign captured]
          at counts
        simp only [List.length_cons] at counts
        omega
  · rw [literalCount]
    exact Matcher.count_of_tolerantCaptures? foreign captured

/-- Two values in one segment, then one segment more, then two. -/
theorem Pattern.tolerantCaptures?_append_trailing_side_by_side :
    let matcher := (Route.ofTemplate ⟨.view, "/\x7ba\x7d-\x7bb\x7d.x".toList⟩).matcher
    isVariable '/' = false ∧
      matcher.captures? "/p-q-r.x".toList = some ["p-q".toList, "r".toList] ∧
      matcher.tolerantCaptures? ['/'] "/p-q-r.x/new".toList = some ["p-q".toList, "r".toList] ∧
      matcher.tolerantCaptures? ['/'] "/p-q-r.x/new/s".toList = none := by
  intro matcher
  have captured : matcher.captures? "/p-q-r.x".toList = some ["p-q".toList, "r".toList] := by rfl
  obtain ⟨trailing, -⟩ :=
    @tolerantCaptures?_append_trailing '/' rfl .view "/\x7ba\x7d-\x7bb\x7d.x".toList
  have one := trailing _ _ ["new".toList] captured (by decide)
  have two := trailing _ _ ["new".toList, "s".toList] captured (by decide)
  exact ⟨rfl, captured, one, two⟩

end RouteTemplate
