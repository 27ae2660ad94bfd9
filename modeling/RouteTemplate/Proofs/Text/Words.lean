import Mathlib.Data.List.Basic
import RouteTemplate.Proofs.Failure

/-! # Lines and words

A text whose lines are ended by newlines is read line by line, and a line is read word by word, a word
being what stands between two runs of blanks. Everything about words follows from one equation at a
blank (`words_append_blank`). -/
namespace RouteTemplate.Text

/-- The lines of a text in which a newline ends each line. -/
def lines (text : Text) : List Text := (text.splitOn '\n').dropLast

/-- The parts of a text between runs of blanks. -/
def words (text : Text) : List Text := (text.splitOn ' ').filter (fun part => !part.isEmpty)

/-- A text that is one word of a line. -/
structure IsWord (text : Text) : Prop where
  filled : text ≠ []
  unparted : ' ' ∉ text
  unbroken : '\n' ∉ text

theorem lines_append_newline {first : Text} (whole : '\n' ∉ first) (rest : Text) :
    lines (first ++ '\n' :: rest) = first :: lines rest := by
  have more : rest.splitOn '\n' ≠ [] := List.splitOn_ne_nil '\n' rest
  rw [lines, List.splitOn_append_cons_self, List.splitOn_eq_singleton whole, List.singleton_append,
    List.dropLast_cons_of_ne_nil more, lines]

theorem words_append_blank (before after : Text) :
    words (before ++ ' ' :: after) = words before ++ words after := by
  unfold words
  rw [List.splitOn_append_cons_self, List.filter_append]

@[simp] theorem words_nil : words [] = [] := rfl

theorem IsWord.words {word : Text} (single : word.IsWord) : words word = [word] := by
  rw [Text.words, List.splitOn_eq_singleton single.unparted, List.filter_eq_self,
    List.forall_mem_singleton]
  simpa using single.filled

theorem words_append_gap (before after : Text) :
    words (before ++ ' ' :: ' ' :: after) = words before ++ words after := by
  have cut := words_append_blank [] after
  rw [words_append_blank, ← List.nil_append (' ' :: after), cut, words_nil, List.nil_append]

theorem words_blanks (count : Nat) : words (List.replicate count ' ') = [] := by
  induction count with
  | zero => rfl
  | succ count ih =>
      have cut := words_append_blank [] (List.replicate count ' ')
      rwa [words_nil, ih] at cut

theorem words_padRight (width : Nat) (text : Text) : words (padRight width text) = words text := by
  unfold padRight
  cases width - text.length with
  | zero => rw [List.replicate_zero, List.append_nil]
  | succ count => rw [List.replicate_succ, words_append_blank, words_blanks, List.append_nil]

theorem newline_not_mem_padRight {text : Text} (unbroken : '\n' ∉ text) (width : Nat) :
    '\n' ∉ padRight width text := by
  refine List.not_mem_append unbroken fun member => ?_
  exact absurd (List.eq_of_mem_replicate member) (by decide)

theorem isWord_ofNat (n : Nat) : IsWord (ofNat n) where
  filled := Nat.toDigits_ne_nil
  unparted member :=
    absurd (Nat.isDigit_of_mem_toDigits (by decide) (by decide) member) (by decide)
  unbroken := newline_not_mem_ofNat n

/-! ## Enumerations -/

/-- The words of an enumeration: each name but the last is followed by a comma. -/
def enumerated : List Text → List Text
  | [] => []
  | [last] => [last]
  | name :: next :: names => (name ++ [',']) :: enumerated (next :: names)

theorem IsWord.append_comma {name : Text} (single : name.IsWord) : IsWord (name ++ [',']) where
  filled := List.append_ne_nil_of_left_ne_nil single.filled _
  unparted := List.not_mem_append single.unparted (by decide)
  unbroken := List.not_mem_append single.unbroken (by decide)

theorem words_intercalate {names : List Text} (single : ∀ name ∈ names, IsWord name) :
    words (List.intercalate ", ".toList names) = enumerated names := by
  induction names with
  | nil => rfl
  | cons name names ih =>
      obtain ⟨here, others⟩ := List.forall_mem_cons.mp single
      cases names with
      | nil => rw [List.intercalate_singleton, here.words, enumerated]
      | cons next names =>
          have marked := here.append_comma
          have shape : List.intercalate ", ".toList (name :: next :: names) =
              (name ++ [',']) ++ ' ' :: List.intercalate ", ".toList (next :: names) := by
            rw [List.intercalate_cons_cons, List.append_assoc, List.append_assoc]
            rfl
          rw [shape, words_append_blank, marked.words, ih others]
          rfl

theorem newline_not_mem_intercalate {names : List Text} (single : ∀ name ∈ names, IsWord name) :
    '\n' ∉ List.intercalate ", ".toList names := by
  induction names with
  | nil => exact List.not_mem_nil
  | cons name names ih =>
      obtain ⟨here, others⟩ := List.forall_mem_cons.mp single
      cases names with
      | nil => rw [List.intercalate_singleton]; exact here.unbroken
      | cons next names =>
          rw [List.intercalate_cons_cons]
          exact newline_not_mem_between here.unbroken (by decide) (ih others)

end RouteTemplate.Text
