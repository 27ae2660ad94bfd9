import RouteTemplate.Pattern.Merge
import RouteTemplate.Proofs.Assignment
import RouteTemplate.Proofs.Pattern.Fit
import RouteTemplate.Proofs.Pattern.Grammar

/-! # Filling patterns

A merge looks at the names of an assignment twice: it counts those that stand in the pattern between
braces, and it writes the values of those that are placeholder names. On valid patterns the two
differ only by names that span several placeholders, such as the text from the first letter of one
name to the last letter of the next. Without such names a merge depends on the values of the
placeholder names alone and gives their text (`merge_of_fills`); with one of them it counts too
many (`replacedCount_eq`). -/
namespace RouteTemplate

/-- The assignment has values for the placeholder names and for nothing else, spelt with variable
characters. -/
structure Assignment.Fills (values : Assignment) (pattern : Text) : Prop where
  names : ∀ name, name ∈ values.names ↔ name ∈ Pattern.placeholderNames pattern
  spelt : ∀ name value, values.get? name = some value →
    Alphabet.spells Alphabet.isVariable value = true

/-- The matcher of the shape of a pattern. -/
def Pattern.matcher (pattern : Text) : Matcher := Matcher.ofShape (Shape.ofPattern pattern)

theorem Text.BraceFree.count_opening {text : Text} (free : text.BraceFree) :
    text.count '{' = 0 := by
  rw [List.count_eq_zero]
  intro member
  have none := free '{' member
  cases none

namespace Pattern

/-- Whether a name stands in the pattern between braces and is no placeholder name. -/
def spans (pattern name : Text) : Bool :=
  !(placeholderNames pattern).contains name &&
    Text.occursIn (Piece.placeholder name).text pattern

variable {separator pattern name : Text} {values : Assignment}

theorem spans_iff :
    spans pattern name = true ↔
      name ∉ placeholderNames pattern ∧ (Piece.placeholder name).text <:+: pattern := by
  simp [spans, Text.occursIn_iff]

theorem occursIn_placeholder :
    Text.occursIn (Piece.placeholder name).text pattern =
      ((placeholderNames pattern).contains name || spans pattern name) := by
  rw [spans]
  cases found : (placeholderNames pattern).contains name with
  | false => simp
  | true =>
      have stands := infix_of_mem_placeholderNames (List.contains_iff_mem.mp found)
      rw [Text.occursIn_iff.mpr stands]
      rfl

/-! ## The two counts -/

theorem countP_contains_comm {first second : List Text} (distinct : first.Nodup)
    (distinct' : second.Nodup) : first.countP second.contains = second.countP first.contains := by
  rw [List.countP_eq_length_filter, List.countP_eq_length_filter]
  refine List.Perm.length_eq ((List.perm_ext_iff_of_nodup (distinct.filter _)
    (distinct'.filter _)).mpr (fun name => ?_))
  simp [and_comm]

theorem countP_or_of_disjoint {names : List Text} {p q : Text → Bool}
    (apart : ∀ name ∈ names, p name = true → q name = false) :
    names.countP (fun name => p name || q name) = names.countP p + names.countP q := by
  induction names with
  | nil => rfl
  | cons name names ih =>
      obtain ⟨here, apart⟩ := List.forall_mem_cons.mp apart
      simp only [List.countP_cons, ih apart]
      cases first : p name with
      | true =>
          simp [here first]
          omega
      | false =>
          simp
          omega

/-- The names that a merge counts are placeholder names and names that span several. -/
theorem replacedCount_eq (values : Assignment) (pattern : Text) :
    replacedCount values pattern =
      values.names.countP (placeholderNames pattern).contains +
        values.names.countP (spans pattern) := by
  rw [replacedCount, ← countP_or_of_disjoint]
  · simp only [occursIn_placeholder]
  · intro name _ found
    rw [spans, found]
    rfl

theorem count_slotsText {slots : List Slot} (names : ∀ slot ∈ slots, Text.BraceFree slot.name)
    (afters : ∀ slot ∈ slots, Text.BraceFree slot.after) :
    (Shape.slotsText slots).count '{' = slots.length := by
  induction slots with
  | nil => rfl
  | cons slot slots ih =>
      obtain ⟨name, names⟩ := List.forall_mem_cons.mp names
      obtain ⟨after, afters⟩ := List.forall_mem_cons.mp afters
      simp [Shape.slotsText, ih names afters, name.count_opening, after.count_opening]

theorem expectedCount_text {shape : Shape} (legible : shape.Legible) :
    expectedCount shape.text = shape.names.length := by
  rw [expectedCount, Shape.text, List.count_append, legible.head.count_opening,
    count_slotsText legible.names legible.afters, Shape.names, List.length_map, Nat.zero_add]

/-- How a merge into a valid pattern goes, by the placeholder names that have values and the names
that span several placeholders. -/
theorem merge_eq_of_valid (valid : violation? separator pattern = none) (values : Assignment) :
    merge pattern values =
      let replaced := (placeholderNames pattern).countP values.names.contains +
        values.names.countP (spans pattern)
      if replaced = (placeholderNames pattern).length then .ok (substitute values pattern)
      else .error (.incompleteMerge pattern (placeholderNames pattern).length replaced) := by
  have filled := violation?_eq_none_iff.mp valid .empty
  obtain ⟨shape, rfl, regular⟩ := exists_regular_of_valid valid
  have names := regular.placeholderNames_text regular.named
  have distinct : values.names.Nodup := values.nodup_names
  have replaced := replacedCount_eq values shape.text
  rw [names, countP_contains_comm distinct regular.distinct] at replaced
  rw [merge, if_neg (by simpa [Rule.isBroken] using filled), replaced,
    expectedCount_text regular.toLegible, names]

/-! ## What a merge writes -/

/-- The values of the names alone decide what is written. -/
theorem substitute_congr {others : Assignment}
    (agree : ∀ name ∈ placeholderNames pattern, values.get? name = others.get? name) :
    substitute values pattern = substitute others pattern := by
  rw [substitute, substitute, List.flatMap_def, List.flatMap_def]
  refine congrArg List.flatten (List.map_congr_left fun piece member => ?_)
  cases piece with
  | literal text => rfl
  | placeholder name =>
      rw [Piece.filled, Piece.filled, agree name (List.mem_filterMap.mpr ⟨_, member, rfl⟩)]

theorem flatMap_filled_pieces (values : Assignment) (slots : List Slot) :
    (slots.flatMap Slot.pieces).flatMap (Piece.filled values) =
      Matcher.interleave (slots.map Slot.after)
        ((slots.map Slot.name).map (fun name => (Piece.placeholder name).filled values)) := by
  induction slots with
  | nil => rfl
  | cons slot slots ih =>
      rw [List.flatMap_cons, List.flatMap_append, ih]
      simp [Slot.pieces, Piece.filled, Matcher.interleave]

theorem substitute_text {shape : Shape} (legible : shape.Legible)
    (named : ∀ slot ∈ shape.slots, slot.name ≠ []) (values : Assignment) :
    substitute values shape.text = (Matcher.ofShape shape).filled
      (shape.names.map (fun name => (Piece.placeholder name).filled values)) := by
  rw [substitute, legible.pieces_text named, List.flatMap_cons, flatMap_filled_pieces]
  rfl

theorem substitute_eq_filled (valid : violation? separator pattern = none)
    (bound : ∀ name ∈ placeholderNames pattern, name ∈ values.names) :
    substitute values pattern = (matcher pattern).filled
      (values.row (placeholderNames pattern)) := by
  obtain ⟨shape, rfl, regular⟩ := exists_regular_of_valid valid
  rw [regular.placeholderNames_text regular.named] at bound ⊢
  rw [substitute_text regular.toLegible regular.named, matcher, regular.ofPattern_text,
    Assignment.row]
  congr 1
  apply List.map_congr_left
  intro name member
  obtain ⟨value, found⟩ := Assignment.mem_names_iff_exists.mp (bound name member)
  rw [Piece.filled, found]
  rfl

/-- Without names that span placeholders, a merge succeeds when every placeholder name has a value,
and writes the values between the literals. -/
theorem merge_eq_ok_iff (valid : violation? separator pattern = none)
    (within : ∀ name ∈ values.names, spans pattern name = false) {path : Text} :
    merge pattern values = .ok path ↔
      (∀ name ∈ placeholderNames pattern, name ∈ values.names) ∧
        path = (matcher pattern).filled
          (values.row (placeholderNames pattern)) := by
  have none_spans : values.names.countP (spans pattern) = 0 := by
    simpa [List.countP_eq_zero] using within
  have all_bound : (placeholderNames pattern).countP values.names.contains =
      (placeholderNames pattern).length ↔
        ∀ name ∈ placeholderNames pattern, name ∈ values.names := by
    simp [List.countP_eq_length]
  simp only [merge_eq_of_valid valid, none_spans, Nat.add_zero, all_bound]
  by_cases bound : ∀ name ∈ placeholderNames pattern, name ∈ values.names
  · rw [if_pos bound, substitute_eq_filled valid bound, Except.ok.injEq]
    constructor
    · intro same
      exact ⟨bound, same.symm⟩
    · rintro ⟨-, rfl⟩
      rfl
  · rw [if_neg bound]
    constructor
    · intro failed
      cases failed
    · rintro ⟨bound', -⟩
      exact absurd bound' bound

/-- Whatever the values are, a merge succeeds with one for each placeholder name and no others. -/
theorem merge_of_names (valid : violation? separator pattern = none)
    (names : ∀ name, name ∈ values.names ↔ name ∈ placeholderNames pattern) :
    merge pattern values = .ok ((matcher pattern).filled
      (values.row (placeholderNames pattern))) := by
  refine (merge_eq_ok_iff valid fun name member => ?_).mpr
    ⟨fun name member => (names name).mpr member, rfl⟩
  rw [← Bool.not_eq_true, spans_iff]
  exact fun outside => outside.1 ((names name).mp member)

theorem merge_of_fills (valid : violation? separator pattern = none)
    (fills : values.Fills pattern) :
    merge pattern values = .ok ((matcher pattern).filled
      (values.row (placeholderNames pattern))) :=
  merge_of_names valid fills.names

/-! ## Merging from the placeholder names alone -/

/-- A name that spans placeholders holds a brace. -/
theorem exists_brace_of_spans (valid : violation? separator pattern = none)
    (across : spans pattern name = true) : ∃ c ∈ name, Alphabet.isBrace c = true := by
  obtain ⟨foreign, stands⟩ := spans_iff.mp across
  apply Classical.byContradiction
  intro plain
  have free : Text.BraceFree name := by
    intro c member
    rw [Brace.ofChar?_eq_none_iff, ← Bool.not_eq_true]
    exact fun brace => plain ⟨c, member, brace⟩
  have present : name ≠ [] := by
    rintro rfl
    exact not_infix_of_occursIn (violation?_eq_none_iff.mp valid .emptyPlaceholder) stands
  exact foreign (mem_placeholderNames_of_occurrence present free stands)

theorem merge_restrict (valid : violation? separator pattern = none) (values : Assignment) :
    merge pattern (values.restrict (placeholderNames pattern)) =
      let replaced := (placeholderNames pattern).countP values.names.contains
      if replaced = (placeholderNames pattern).length then .ok (substitute values pattern)
      else .error (.incompleteMerge pattern (placeholderNames pattern).length replaced) := by
  have kept : ∀ name ∈ placeholderNames pattern,
      (values.restrict (placeholderNames pattern)).names.contains name =
        values.names.contains name := by
    intro name member
    rw [Bool.eq_iff_iff, Assignment.names_restrict]
    simp [member]
  have none_spans :
      (values.restrict (placeholderNames pattern)).names.countP (spans pattern) = 0 := by
    rw [List.countP_eq_zero, Assignment.names_restrict]
    intro name member across
    exact (spans_iff.mp across).1 (List.contains_iff_mem.mp (List.mem_filter.mp member).2)
  have same : substitute (values.restrict (placeholderNames pattern)) pattern =
      substitute values pattern :=
    substitute_congr fun name member => Assignment.get?_restrict member
  have counts := List.countP_congr fun name member => Bool.eq_iff_iff.mp (kept name member)
  rw [merge_eq_of_valid valid, none_spans, same, counts]
  rfl

/-- The other names of an assignment matter exactly where one of them spans placeholders, and such a
name holds a brace. -/
theorem merge_restrict_eq_iff (valid : violation? separator pattern = none) (values : Assignment) :
    (merge pattern values = merge pattern (values.restrict (placeholderNames pattern)) ↔
      ∀ name ∈ values.names, spans pattern name = false) ∧
    ((∀ name ∈ values.names, spans pattern name = false) → ∀ path,
      merge pattern values = .ok path ↔
        (∀ name ∈ placeholderNames pattern, name ∈ values.names) ∧
          path = (matcher pattern).filled (values.row (placeholderNames pattern))) ∧
    ∀ name, spans pattern name = true → ∃ c ∈ name, Alphabet.isBrace c = true := by
  refine ⟨?_, fun within path => merge_eq_ok_iff valid within,
    fun name across => exists_brace_of_spans valid across⟩
  have counted : values.names.countP (spans pattern) = 0 ↔
      ∀ name ∈ values.names, spans pattern name = false := by
    simp [List.countP_eq_zero]
  rw [merge_eq_of_valid valid, merge_restrict valid, ← counted]
  constructor
  · intro same
    dsimp only at same
    split at same
    · next whole =>
        split at same
        · next part => omega
        · cases same
    · split at same
      · cases same
      · simp only [Except.error.injEq, Failure.incompleteMerge.injEq] at same
        omega
  · intro none_spans
    rw [none_spans, Nat.add_zero]

/-- A name that spans two placeholders is counted in the place of a missing one. -/
theorem merge_unbound_placeholder :
    violation? ['/'] "/\x7ba\x7d/\x7bb\x7d".toList = none ∧
      let values := Assignment.ofList
        [("a".toList, "1".toList), ("a\x7d/\x7bb".toList, "2".toList)]
      placeholderNames "/\x7ba\x7d/\x7bb\x7d".toList = ["a".toList, "b".toList] ∧
        "b".toList ∉ values.names ∧
        merge "/\x7ba\x7d/\x7bb\x7d".toList values = .ok "/1/\x7bb\x7d".toList ∧
        merge "/\x7ba\x7d/\x7bb\x7d".toList (values.restrict ["a".toList, "b".toList]) =
          .error (.incompleteMerge "/\x7ba\x7d/\x7bb\x7d".toList 2 1) := by
  refine ⟨by decide, by decide, by decide, by rfl, by rfl⟩

theorem merge_restrict_ne :
    violation? ['/'] "/\x7ba\x7d/\x7bb\x7d".toList = none ∧
      let values := Assignment.ofList [("a".toList, "1".toList), ("b".toList, "2".toList),
        ("a\x7d/\x7bb".toList, "3".toList)]
      merge "/\x7ba\x7d/\x7bb\x7d".toList values ≠
        merge "/\x7ba\x7d/\x7bb\x7d".toList
          (values.restrict (placeholderNames "/\x7ba\x7d/\x7bb\x7d".toList)) := by
  have valid : violation? ['/'] "/\x7ba\x7d/\x7bb\x7d".toList = none := rfl
  refine ⟨valid, fun same => ?_⟩
  have within := (merge_restrict_eq_iff valid _).1.mp same "a\x7d/\x7bb".toList (by decide)
  revert within
  decide

end Pattern

end RouteTemplate
