import Mathlib.Data.List.Basic
import Mathlib.Logic.Equiv.Basic
import RouteTemplate.Path.Acceptance
import RouteTemplate.Path.Extension
import RouteTemplate.Proofs.Pattern.Reading

/-! # Respelling texts

Variable characters and braces have a meaning of their own; any other character has one only as the
separator. A respelling leaves the former alone and exchanges the latter one for one. What an
operation finds in a respelt text is what it finds in the text, respelt: there is one such equation
for each class of characters, each operation on texts, and the split of a path. Replacing a character
by one that is not there is a respelling (`text_exchange`). -/
namespace RouteTemplate

open Alphabet (isVariable isBrace isPathCharacter isPatternCharacter spells)

/-- The text with `new` in every place of `old`. -/
def Text.replace (old new : Char) (text : Text) : Text :=
  text.map (fun c => if c = old then new else c)

theorem Text.replace_eq_iff {old new : Char} {text word : Text} (absent : old ∉ word)
    (absent' : new ∉ word) : replace old new text = word ↔ text = word := by
  have kept {text : Text} (missing : old ∉ text) : replace old new text = text := by
    refine (List.map_congr_left fun c member => if_neg ?_).trans (List.map_id text)
    rintro rfl
    exact missing member
  constructor
  · intro same
    have missing : old ∉ text := by
      intro stands
      exact absent' (same ▸ List.mem_map.mpr ⟨old, stands, if_pos rfl⟩)
    rwa [kept missing] at same
  · rintro rfl
    exact kept absent

structure Respelling where
  char : Char → Char
  injective : Function.Injective char
  fixes : ∀ c, (isVariable c || isBrace c) = true → char c = c

namespace Respelling

/-- Exchanges two characters that can be separators. -/
def exchange (first second : Char) (legal : (isVariable first || isBrace first) = false)
    (legal' : (isVariable second || isBrace second) = false) : Respelling where
  char := Equiv.swap first second
  injective := (Equiv.swap first second).injective
  fixes := by
    intro c special
    apply Equiv.swap_apply_of_ne_of_ne
    · rintro rfl
      rw [legal] at special
      cases special
    · rintro rfl
      rw [legal'] at special
      cases special

variable (spelling : Respelling)

def text (text : Text) : Text := text.map spelling.char

/-! ## Classes of characters -/

section

variable {c d : Char}

theorem char_of_isVariable (admitted : isVariable c = true) : spelling.char c = c :=
  spelling.fixes c (by rw [admitted, Bool.true_or])

theorem char_of_isBrace (brace : isBrace c = true) : spelling.char c = c :=
  spelling.fixes c (by rw [brace, Bool.or_true])

theorem char_brace (brace : Brace) : spelling.char brace.char = brace.char :=
  spelling.char_of_isBrace (by cases brace <;> rfl)

/-- A character that is left alone is the image of itself only. -/
theorem char_eq_iff (fixed : spelling.char d = d) : spelling.char c = d ↔ c = d := by
  constructor
  · intro same
    exact spelling.injective (same.trans fixed.symm)
  · rintro rfl
    exact fixed

/-- A class of characters that are left alone gains none and loses none. -/
theorem class_char {admitted : Char → Bool} (fixed : ∀ d, admitted d = true → spelling.char d = d)
    (c : Char) : admitted (spelling.char c) = admitted c := by
  rw [Bool.eq_iff_iff]
  constructor
  · intro image
    rwa [← (spelling.char_eq_iff (fixed _ image)).mp rfl] at image
  · intro member
    rwa [fixed c member]

theorem isVariable_char (c : Char) : isVariable (spelling.char c) = isVariable c :=
  spelling.class_char (fun _ => spelling.char_of_isVariable) c

theorem isBrace_char (c : Char) : isBrace (spelling.char c) = isBrace c :=
  spelling.class_char (fun _ => spelling.char_of_isBrace) c

theorem isPathCharacter_char (separator : Text) (c : Char) :
    isPathCharacter (spelling.text separator) (spelling.char c) = isPathCharacter separator c := by
  rw [isPathCharacter, isPathCharacter, isVariable_char, Bool.eq_iff_iff, Bool.or_eq_true_iff,
    Bool.or_eq_true_iff, List.contains_iff_mem, List.contains_iff_mem, Respelling.text,
    List.mem_map_of_injective spelling.injective]

theorem isPatternCharacter_char (separator : Text) (c : Char) :
    isPatternCharacter (spelling.text separator) (spelling.char c) =
      isPatternCharacter separator c := by
  rw [isPatternCharacter, isPatternCharacter, isPathCharacter_char, isBrace_char]

theorem ofChar?_char (c : Char) : Brace.ofChar? (spelling.char c) = Brace.ofChar? c := by
  cases found : Brace.ofChar? c with
  | none => rwa [Brace.ofChar?_eq_none_iff, isBrace_char, ← Brace.ofChar?_eq_none_iff]
  | some brace =>
      obtain rfl := Brace.ofChar?_eq_some_iff.mp found
      rw [char_brace, found]

theorem spells_text {first second : Char → Bool}
    (same : ∀ c, second (spelling.char c) = first c) (text : Text) :
    spells second (spelling.text text) = spells first text := by
  simp [spells, Respelling.text, Function.comp_def, same]

end

/-! ## Operations on texts -/

theorem text_injective : Function.Injective spelling.text :=
  List.map_injective_iff.mpr spelling.injective

theorem beq_text (first second : Text) :
    (spelling.text first == spelling.text second) = (first == second) := by
  rw [Bool.eq_iff_iff, beq_iff_eq, beq_iff_eq, spelling.text_injective.eq_iff]

theorem text_of_special {text : Text} (special : ∀ c ∈ text, (isVariable c || isBrace c) = true) :
    spelling.text text = text :=
  (List.map_congr_left fun c member => spelling.fixes c (special c member)).trans (List.map_id text)

theorem occursIn_text (part text : Text) :
    Text.occursIn (spelling.text part) (spelling.text text) = Text.occursIn part text := by
  rw [Bool.eq_iff_iff, Text.occursIn_iff, Text.occursIn_iff]
  constructor
  · intro stands
    obtain ⟨block, stands, same⟩ := List.infix_map_iff.mp stands
    rwa [spelling.text_injective same]
  · exact fun stands => stands.map spelling.char

theorem after?_text (lead text : Text) :
    Text.after? (spelling.text lead) (spelling.text text) =
      (Text.after? lead text).map spelling.text := by
  induction lead generalizing text with
  | nil => rfl
  | cons c lead ih =>
      cases text with
      | nil => rfl
      | cons d text =>
          simp only [Respelling.text, List.map_cons, Text.after?, spelling.injective.eq_iff]
          by_cases same : c = d
          · rw [if_pos same, if_pos same]
            exact ih text
          · rw [if_neg same, if_neg same]
            rfl

theorem cutAtLast_text {mark : Char} (fixed : spelling.char mark = mark) (text : Text) :
    Text.cutAtLast mark (spelling.text text) =
      (Text.cutAtLast mark text).map (Prod.map spelling.text spelling.text) := by
  induction text with
  | nil => rfl
  | cons c text ih =>
      have step := spelling.char_eq_iff (c := c) fixed
      simp only [Respelling.text, List.map_cons, Text.cutAtLast] at ih ⊢
      rw [ih]
      cases Text.cutAtLast mark text with
      | some halves => rfl
      | none =>
          by_cases found : c = mark
          · rw [if_pos found, if_pos (step.mpr found)]
            rfl
          · rw [if_neg found, if_neg (mt step.mp found)]
            rfl

theorem text_exchange {old new : Char} {legal : (isVariable old || isBrace old) = false}
    {legal' : (isVariable new || isBrace new) = false} {text : Text}
    (free : new ≠ old → new ∉ text) :
    (exchange old new legal legal').text text = Text.replace old new text := by
  refine List.map_congr_left fun c member => ?_
  show Equiv.swap old new c = _
  rw [Equiv.swap_apply_def]
  by_cases found : c = old
  · rw [if_pos found, if_pos found]
  · rw [if_neg found, if_neg found]
    apply if_neg
    rintro rfl
    exact free found member

/-! ## Paths -/

theorem split_text (path : Text) :
    Path.split (spelling.text path) =
      ⟨spelling.text (Path.split path).base, (Path.split path).extension.map spelling.text⟩ := by
  rw [Path.split, Path.split, spelling.cutAtLast_text (spelling.char_of_isVariable rfl)]
  cases Text.cutAtLast '.' path with
  | none => rfl
  | some halves =>
      obtain ⟨base, extension⟩ := halves
      cases base <;> cases extension <;> rfl

end Respelling

end RouteTemplate
