import Mathlib.Data.Finset.Card
import RouteTemplate.Proofs.Pattern.Filling

/-! # Substitution in one pass

A pattern is read from the left: a placeholder gives way to the value of its name, every other
character is copied, and values are never read (`Substitutes`). An opening brace that starts no
placeholder has no place in such a reading. Merging only compares two counts, but as long as no name
of the assignment holds a brace the counts agree exactly where the whole pattern can be read so, with
no name twice (`merge_iff_substitutes`). -/
namespace RouteTemplate

namespace Pattern

/-- The result is the pattern with the value of its name for each placeholder, the names being listed
from left to right. Of the characters that are copied none is an opening brace. -/
inductive Substitutes (values : Assignment) : Text → List Text → Text → Prop where
  | done : Substitutes values [] [] []
  | copied {c : Char} {rest result : Text} {names : List Text} (plain : c ≠ '{')
      (later : Substitutes values rest names result) :
      Substitutes values (c :: rest) names (c :: result)
  | replaced {name value rest result : Text} {names : List Text} (named : name ≠ [])
      (free : name.BraceFree) (bound : values.get? name = some value)
      (later : Substitutes values rest names result) :
      Substitutes values ('{' :: (name ++ '}' :: rest)) (name :: names) (value ++ result)

/-- A name and a closing brace, as they follow an opening brace in a placeholder. -/
def Opens (rest : Text) : Prop :=
  ∃ name after, name ≠ [] ∧ Text.BraceFree name ∧ rest = name ++ '}' :: after

variable {values others : Assignment} {c : Char} {pattern name rest result : Text}
  {names : List Text}

/-! ## Reading from the left -/

theorem pieces_placeholder (named : name ≠ []) (free : name.BraceFree) (rest : Text) :
    pieces ('{' :: (name ++ '}' :: rest)) =
      .literal [] :: .placeholder name :: pieces rest := by
  obtain ⟨d, letters, rfl⟩ := List.exists_cons_of_ne_nil named
  rw [pieces, Cut.ofText_placeholder free, Piece.ofGaps]
  rfl

/-- A character that is copied makes the first literal longer, or starts a literal after it. -/
theorem pieces_copied (plain : c ≠ '{') (rest : Text) :
    ∃ head others, pieces rest = .literal head :: others ∧
      (pieces (c :: rest) = .literal (c :: head) :: others ∨
        pieces (c :: rest) = .literal [] :: .literal (c :: head) :: others) := by
  refine ⟨_, _, rfl, ?_⟩
  rw [pieces, Cut.ofText]
  cases found : Brace.ofChar? c with
  | none => exact .inl rfl
  | some brace =>
      obtain rfl := Brace.ofChar?_eq_some_iff.mp found
      cases brace with
      | opening => exact absurd rfl plain
      | closing => exact .inr rfl

theorem substitute_copied (plain : c ≠ '{') :
    substitute values (c :: rest) = c :: substitute values rest := by
  obtain ⟨head, others, shorter, longer | parted⟩ := pieces_copied plain rest
  · rw [substitute, substitute, shorter, longer]
    rfl
  · rw [substitute, substitute, shorter, parted]
    rfl

theorem placeholderNames_copied (plain : c ≠ '{') :
    placeholderNames (c :: rest) = placeholderNames rest := by
  obtain ⟨head, others, shorter, longer | parted⟩ := pieces_copied plain rest
  · rw [placeholderNames, placeholderNames, shorter, longer]
    rfl
  · rw [placeholderNames, placeholderNames, shorter, parted]
    rfl

/-- An opening brace that starts no placeholder is literal. -/
theorem placeholderNames_stray (stray : ¬ Opens rest) :
    placeholderNames ('{' :: rest) = placeholderNames rest := by
  have cut : Cut.ofText ('{' :: rest) =
      ⟨[], (.opening, (Cut.ofText rest).head) :: (Cut.ofText rest).gaps⟩ := Cut.ofText_brace .opening rest
  rw [placeholderNames, pieces, cut, Piece.ofGaps]
  · rfl
  · intro d letters after gaps split _ head
    obtain ⟨free, -⟩ := Cut.braceFree_ofText rest
    refine stray ⟨d :: letters, after ++ Cut.gapsText gaps, List.cons_ne_nil d letters, ?_, ?_⟩
    · rwa [← head]
    · rw [← Cut.text_ofText rest, Cut.text, head, split]
      rfl

/-- Induction along a reading from the left. -/
theorem reading_induction {motive : Text → Prop} (done : motive [])
    (copied : ∀ c rest, c ≠ '{' → motive rest → motive (c :: rest))
    (replaced : ∀ name rest, name ≠ [] → Text.BraceFree name → motive rest →
      motive ('{' :: (name ++ '}' :: rest)))
    (stray : ∀ rest, ¬ Opens rest → motive rest → motive ('{' :: rest)) (pattern : Text) :
    motive pattern := by
  match pattern with
  | [] => exact done
  | c :: rest =>
      by_cases plain : c = '{'
      · subst plain
        by_cases opens : Opens rest
        · obtain ⟨name, after, named, free, rfl⟩ := opens
          exact replaced name after named free (reading_induction done copied replaced stray after)
        · exact stray rest opens (reading_induction done copied replaced stray rest)
      · exact copied c rest plain (reading_induction done copied replaced stray rest)
termination_by pattern.length

/-! ## Counting placeholders -/

theorem expectedCount_copied (plain : c ≠ '{') : expectedCount (c :: rest) = expectedCount rest :=
  List.count_cons_of_ne plain

theorem expectedCount_opening (rest : Text) : expectedCount ('{' :: rest) = expectedCount rest + 1 :=
  List.count_cons_self

theorem expectedCount_placeholder (free : name.BraceFree) (rest : Text) :
    expectedCount ('{' :: (name ++ '}' :: rest)) = expectedCount rest + 1 := by
  rw [expectedCount_opening, expectedCount, List.count_append, free.count_opening, Nat.zero_add]
  exact congrArg (· + 1) (expectedCount_copied (by decide))

theorem placeholderNames_placeholder (named : name ≠ []) (free : name.BraceFree) (rest : Text) :
    placeholderNames ('{' :: (name ++ '}' :: rest)) = name :: placeholderNames rest := by
  rw [placeholderNames, pieces_placeholder named free]
  rfl

theorem substitute_placeholder (named : name ≠ []) (free : name.BraceFree) (rest : Text) :
    substitute values ('{' :: (name ++ '}' :: rest)) =
      (Piece.placeholder name).filled values ++ substitute values rest := by
  rw [substitute, pieces_placeholder named free]
  rfl

theorem length_placeholderNames_le (pattern : Text) :
    (placeholderNames pattern).length ≤ expectedCount pattern := by
  induction pattern using reading_induction with
  | done => exact Nat.le_refl 0
  | copied c rest plain ih => rwa [placeholderNames_copied plain, expectedCount_copied plain]
  | replaced name rest named free ih =>
      rw [placeholderNames_placeholder named free, expectedCount_placeholder free]
      exact Nat.succ_le_succ ih
  | stray rest stray ih =>
      rw [placeholderNames_stray stray, expectedCount_opening]
      exact Nat.le_succ_of_le ih

/-- With a placeholder for every opening brace and a value for every placeholder, the whole pattern can
be read. -/
theorem substitutes_of_length (every : expectedCount pattern ≤ (placeholderNames pattern).length)
    (bound : ∀ name ∈ placeholderNames pattern, name ∈ values.names) :
    Substitutes values pattern (placeholderNames pattern) (substitute values pattern) := by
  induction pattern using reading_induction with
  | done => exact .done
  | copied c rest plain ih =>
      rw [placeholderNames_copied plain] at every bound ⊢
      rw [expectedCount_copied plain] at every
      rw [substitute_copied plain]
      exact .copied plain (ih every bound)
  | replaced name rest named free ih =>
      rw [placeholderNames_placeholder named free] at every bound ⊢
      rw [expectedCount_placeholder free] at every
      rw [substitute_placeholder named free]
      obtain ⟨here, bound⟩ := List.forall_mem_cons.mp bound
      obtain ⟨value, found⟩ := Assignment.mem_names_iff_exists.mp here
      rw [Piece.filled, found]
      exact .replaced named free found (ih (Nat.le_of_succ_le_succ every) bound)
  | stray rest stray ih =>
      -- This brace is counted and has no name, so the rest would need more names than braces.
      rw [placeholderNames_stray stray, expectedCount_opening] at every
      have most := length_placeholderNames_le rest
      omega

/-- A whole reading lists the placeholder names, one for every opening brace, and writes what a merge
writes. -/
theorem Substitutes.eq (reading : Substitutes values pattern names result) :
    names = placeholderNames pattern ∧ names.length = expectedCount pattern ∧
      (∀ name ∈ names, name ∈ values.names) ∧ result = substitute values pattern := by
  induction reading with
  | done => exact ⟨rfl, rfl, List.forall_mem_nil _, rfl⟩
  | copied plain _ ih =>
      obtain ⟨listed, counted, bound, written⟩ := ih
      rw [placeholderNames_copied plain, expectedCount_copied plain, substitute_copied plain]
      exact ⟨listed, counted, bound, congrArg _ written⟩
  | @replaced name value _ _ _ named free found _ ih =>
      obtain ⟨listed, counted, bound, written⟩ := ih
      rw [placeholderNames_placeholder named free, expectedCount_placeholder free,
        substitute_placeholder named free, Piece.filled, found]
      have here : name ∈ values.names := Assignment.mem_names_iff_exists.mpr ⟨value, found⟩
      exact ⟨congrArg _ listed, congrArg (· + 1) counted, List.forall_mem_cons.mpr ⟨here, bound⟩,
        congrArg (value ++ ·) written⟩

/-! ## Counting replaced names -/

/-- Names without braces are counted where they are placeholder names, each once. -/
theorem replacedCount_eq_card (plain : ∀ name ∈ values.names, name ≠ [] ∧ Text.BraceFree name) :
    replacedCount values pattern =
      ((placeholderNames pattern).toFinset ∩ values.names.toFinset).card := by
  have none_spans : values.names.countP (spans pattern) = 0 := by
    rw [List.countP_eq_zero]
    intro name member across
    obtain ⟨foreign, stands⟩ := spans_iff.mp across
    obtain ⟨named, free⟩ := plain name member
    exact foreign (mem_placeholderNames_of_occurrence named free stands)
  have distinct : values.names.Nodup := values.nodup_names
  rw [replacedCount_eq, none_spans, Nat.add_zero, List.countP_eq_length_filter,
    ← List.toFinset_card_of_nodup (distinct.filter _)]
  congr 1
  ext name
  simp [and_comm]

theorem card_le_expectedCount (values : Assignment) (pattern : Text) :
    ((placeholderNames pattern).toFinset ∩ values.names.toFinset).card ≤ expectedCount pattern :=
  calc ((placeholderNames pattern).toFinset ∩ values.names.toFinset).card
      ≤ (placeholderNames pattern).toFinset.card := Finset.card_le_card Finset.inter_subset_left
    _ ≤ (placeholderNames pattern).length := List.toFinset_card_le _
    _ ≤ expectedCount pattern := length_placeholderNames_le pattern

/-- The counts agree when there is a whole reading that has no name twice. -/
theorem card_eq_expectedCount_iff :
    ((placeholderNames pattern).toFinset ∩ values.names.toFinset).card = expectedCount pattern ↔
      ∃ names result, Substitutes values pattern names result ∧ names.Nodup := by
  have first : ((placeholderNames pattern).toFinset ∩ values.names.toFinset).card ≤
      (placeholderNames pattern).toFinset.card := Finset.card_le_card Finset.inter_subset_left
  have second := List.toFinset_card_le (placeholderNames pattern)
  have third := length_placeholderNames_le pattern
  constructor
  · intro same
    have distinct : (placeholderNames pattern).Nodup :=
      Multiset.coe_nodup.mp (Multiset.toFinset_card_eq_card_iff_nodup.mp (by
        show (placeholderNames pattern).toFinset.card = (placeholderNames pattern).length
        omega))
    have all : (placeholderNames pattern).toFinset ∩ values.names.toFinset =
        (placeholderNames pattern).toFinset :=
      Finset.eq_of_subset_of_card_le Finset.inter_subset_left (by omega)
    have bound : ∀ name ∈ placeholderNames pattern, name ∈ values.names := fun name member =>
      List.mem_toFinset.mp (Finset.inter_eq_left.mp all (List.mem_toFinset.mpr member))
    exact ⟨_, _, substitutes_of_length (by omega) bound, distinct⟩
  · rintro ⟨names, result, reading, distinct⟩
    obtain ⟨rfl, counted, bound, -⟩ := reading.eq
    rw [Finset.inter_eq_left.mpr fun name member =>
      List.mem_toFinset.mpr (bound name (List.mem_toFinset.mp member)),
      List.toFinset_card_of_nodup distinct, counted]

/-! ## Merging -/

theorem merge_of_ne_nil (filled : pattern ≠ []) (values : Assignment) :
    merge pattern values =
      if replacedCount values pattern = expectedCount pattern then .ok (substitute values pattern)
      else .error
        (.incompleteMerge pattern (expectedCount pattern) (replacedCount values pattern)) := by
  rw [merge, if_neg (by simpa using filled)]

theorem merge_eq_of_perm (same : others.entries.Perm values.entries) (pattern : Text) :
    merge pattern others = merge pattern values := by
  have counts : replacedCount others pattern = replacedCount values pattern :=
    (same.map Prod.fst).countP_eq _
  have written : substitute others pattern = substitute values pattern :=
    substitute_congr fun name _ => Assignment.get?_eq_of_perm same name
  rw [merge, merge, counts, written]

/-- With names that hold no brace, a merge succeeds when every opening brace starts a placeholder with
a name of its own that has a value, and it writes these values. Otherwise it reports how many opening
braces there are and how many distinct placeholder names have values, which are fewer. The pattern
need not be valid, and the values may hold braces. -/
theorem merge_iff_substitutes (filled : pattern ≠ [])
    (plain : ∀ name ∈ values.names, name ≠ [] ∧ Text.BraceFree name) :
    (∀ path, merge pattern values = .ok path ↔
      ∃ names, Substitutes values pattern names path ∧ names.Nodup) ∧
    ((¬ ∃ names path, Substitutes values pattern names path ∧ names.Nodup) →
      let replaced := ((placeholderNames pattern).toFinset ∩ values.names.toFinset).card
      merge pattern values = .error (.incompleteMerge pattern (pattern.count '{') replaced) ∧
        replaced < pattern.count '{') ∧
    ∀ others : Assignment, others.entries.Perm values.entries →
      merge pattern others = merge pattern values := by
  have outcome := merge_of_ne_nil filled values
  rw [replacedCount_eq_card plain] at outcome
  refine ⟨fun path => ?_, fun unread => ?_, fun others same => merge_eq_of_perm same pattern⟩
  · rw [outcome]
    constructor
    · intro merged
      split at merged
      · next counted =>
          cases merged
          obtain ⟨names, result, reading, distinct⟩ := card_eq_expectedCount_iff.mp counted
          obtain ⟨-, -, -, rfl⟩ := reading.eq
          exact ⟨names, reading, distinct⟩
      · cases merged
    · rintro ⟨names, reading, distinct⟩
      obtain ⟨-, -, -, rfl⟩ := reading.eq
      rw [if_pos (card_eq_expectedCount_iff.mpr ⟨names, _, reading, distinct⟩)]
  · have fewer := mt card_eq_expectedCount_iff.mp unread
    rw [outcome, if_neg fewer]
    exact ⟨rfl, Nat.lt_of_le_of_ne (card_le_expectedCount values pattern) fewer⟩

/-- A stray closing brace is copied, and a value that looks like a placeholder is not read again. -/
theorem merge_iff_substitutes_braced :
    let values := Assignment.ofList
      [("b".toList, "\x7ba\x7d".toList), ("a".toList, "\x7b".toList), ("c".toList, [])]
    let pattern := "\x7da\x7ba\x7d\x7bb\x7d".toList
    pattern ≠ [] ∧ (∀ name ∈ values.names, name ≠ [] ∧ Text.BraceFree name) ∧
      merge pattern values = .ok "\x7da\x7b\x7ba\x7d".toList ∧
      ∃ names, Substitutes values pattern names "\x7da\x7b\x7ba\x7d".toList ∧ names.Nodup := by
  intro values pattern
  have filled : pattern ≠ [] := List.cons_ne_nil _ _
  have letter (c : Char) (free : Brace.ofChar? c = none) : [c] ≠ [] ∧ Text.BraceFree [c] :=
    ⟨List.cons_ne_nil c [], List.forall_mem_singleton.mpr free⟩
  have listed : values.names = [['b'], ['a'], ['c']] := by rfl
  have plain : ∀ name ∈ values.names, name ≠ [] ∧ Text.BraceFree name := by
    rw [listed, List.forall_mem_cons, List.forall_mem_cons, List.forall_mem_singleton]
    exact ⟨letter 'b' rfl, letter 'a' rfl, letter 'c' rfl⟩
  have merged : merge pattern values = .ok "\x7da\x7b\x7ba\x7d".toList := by rfl
  exact ⟨filled, plain, merged, ((merge_iff_substitutes filled plain).1 _).mp merged⟩

end Pattern

end RouteTemplate
