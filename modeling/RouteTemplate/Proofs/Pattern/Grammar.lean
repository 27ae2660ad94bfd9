import RouteTemplate.Proofs.Pattern.Reading

/-! # The grammar of patterns

A valid pattern is the text of a well-formed shape: a literal that starts with the separator, then
distinct names in braces with a literal after each, never two placeholders side by side, and no
separator at the end. `exists_wellFormed_of_valid` finds that shape, and reading the pattern gives
it back (`wellFormed_ofPattern`). -/
namespace RouteTemplate

open Alphabet (isPathCharacter isPatternCharacter)

/-- A shape whose text keeps all rules for patterns. -/
structure Shape.WellFormed (separator : Char) (shape : Shape) : Prop extends Regular shape where
  leads : shape.head.head? = some separator
  literals_spelt : ∀ literal ∈ shape.literals, ∀ c ∈ literal, isPathCharacter [separator] c = true
  names_spelt : ∀ name ∈ shape.names, ∀ c ∈ name, isPathCharacter [separator] c = true
  parted : ∀ slot ∈ shape.slots.dropLast, slot.after ≠ []
  closes : ∀ literal ∈ shape.literals.getLast?, literal.getLast? ≠ some separator

namespace Shape

variable {separator : Char} {shape : Shape}

theorem slotsText_append (first second : List Slot) :
    slotsText (first ++ second) = slotsText first ++ slotsText second := by
  simp [slotsText_eq_flatMap]

theorem mem_text_of_mem_literal {literal : Text} (member : literal ∈ shape.literals) {c : Char}
    (stands : c ∈ literal) : c ∈ shape.text := by
  rw [text, slotsText_eq_flatMap, List.mem_append, List.mem_flatMap]
  rcases List.mem_cons.mp member with rfl | member
  · exact .inl stands
  · obtain ⟨slot, among, rfl⟩ := List.mem_map.mp member
    exact .inr ⟨slot, among, by simp [Slot.text, stands]⟩

theorem mem_text_of_mem_name {name : Text} (member : name ∈ shape.names) {c : Char}
    (stands : c ∈ name) : c ∈ shape.text := by
  rw [text, slotsText_eq_flatMap, List.mem_append, List.mem_flatMap]
  obtain ⟨slot, among, rfl⟩ := List.mem_map.mp member
  exact .inr ⟨slot, among, by simp [Slot.text, stands]⟩

/-- The text ends with the last literal. -/
theorem suffix_text {literal : Text} (last : literal ∈ shape.literals.getLast?) :
    literal <:+ shape.text := by
  obtain ⟨head, slots⟩ := shape
  rcases List.eq_nil_or_concat slots with rfl | ⟨before, slot, rfl⟩
  · obtain rfl : head = literal := by simpa [literals] using last
    exact ⟨[], by simp [text, slotsText]⟩
  · obtain rfl : slot.after = literal := by simpa [literals, List.getLast?_cons] using last
    refine ⟨head ++ (slotsText before ++ '{' :: (slot.name ++ ['}'])), ?_⟩
    simp [text, slotsText_append, slotsText]

/-- Without a literal between them, two placeholders stand side by side. -/
theorem adjacent_infix_slotsText {slots : List Slot} {slot : Slot} (inner : slot ∈ slots.dropLast)
    (bare : slot.after = []) : ['}', '{'] <:+: slotsText slots := by
  match slots with
  | [] | [_] => cases inner
  | first :: next :: slots =>
      rw [List.dropLast_cons_of_ne_nil (List.cons_ne_nil _ _)] at inner
      rcases List.mem_cons.mp inner with rfl | inner
      · exact ⟨'{' :: slot.name, next.name ++ '}' :: (next.after ++ slotsText slots),
          by simp [slotsText, bare]⟩
      · have later := adjacent_infix_slotsText inner bare
        exact later.trans ⟨'{' :: (first.name ++ '}' :: first.after), [], by simp [slotsText]⟩

theorem empty_infix_slotsText {slots : List Slot} {slot : Slot} (member : slot ∈ slots)
    (unnamed : slot.name = []) : ['{', '}'] <:+: slotsText slots := by
  obtain ⟨before, after, rfl⟩ := List.append_of_mem member
  rw [slotsText_append]
  exact ⟨slotsText before, slot.after ++ slotsText after, by simp [slotsText, unnamed]⟩

theorem infix_text_of_infix_slotsText {part : Text} (stands : part <:+: slotsText shape.slots) :
    part <:+: shape.text :=
  stands.trans ⟨shape.head, [], by simp [text]⟩

end Shape

/-! ## Valid patterns have a well-formed shape -/

namespace Pattern

variable {separator : Char} {shape : Shape}

theorem not_infix_of_occursIn {part pattern : Text} (absent : Text.occursIn part pattern = false) :
    ¬ part <:+: pattern := by
  intro stands
  rw [Text.occursIn_iff.mpr stands] at absent
  cases absent

/-- A balanced pattern without empty placeholders is the text of a legible shape in which every slot
is named. -/
theorem exists_named_of_balanced {pattern : Text} (balanced : Pattern.balanced pattern = true)
    (filled : ¬ ['{', '}'] <:+: pattern) :
    ∃ shape : Shape, shape.text = pattern ∧ shape.Legible ∧
      ∀ slot ∈ shape.slots, slot.name ≠ [] := by
  obtain ⟨shape, rfl, legible⟩ := exists_legible_of_balanced balanced
  refine ⟨shape, rfl, legible, fun slot member unnamed => filled ?_⟩
  exact Shape.infix_text_of_infix_slotsText (Shape.empty_infix_slotsText member unnamed)

/-- Whatever the separator, a valid pattern is the text of a regular shape. -/
theorem exists_regular_of_valid {separator pattern : Text}
    (valid : violation? separator pattern = none) :
    ∃ shape : Shape, shape.text = pattern ∧ shape.Regular := by
  have kept := violation?_eq_none_iff.mp valid
  have balanced := kept .unbalancedBraces
  rw [Rule.isBroken, Bool.not_eq_false'] at balanced
  obtain ⟨shape, rfl, legible, named⟩ :=
    exists_named_of_balanced balanced (not_infix_of_occursIn (kept .emptyPlaceholder))
  refine ⟨shape, rfl, { legible with named := named, distinct := ?_ }⟩
  rw [← legible.placeholderNames_text named]
  simpa [Rule.isBroken] using kept .duplicatePlaceholder

/-- The placeholder names of a valid pattern are not empty and hold no brace. -/
theorem named_of_mem_placeholderNames {separator pattern name : Text}
    (valid : violation? separator pattern = none) (member : name ∈ placeholderNames pattern) :
    name ≠ [] ∧ name.BraceFree := by
  obtain ⟨shape, rfl, regular⟩ := exists_regular_of_valid valid
  rw [regular.placeholderNames_text regular.named] at member
  obtain ⟨slot, among, rfl⟩ := List.mem_map.mp member
  exact ⟨regular.named slot among, regular.names slot among⟩

theorem isPatternCharacter_of_valid {separator pattern : Text} {c : Char}
    (valid : violation? separator pattern = none) (member : c ∈ pattern) :
    isPatternCharacter separator c = true := by
  have spelt := violation?_eq_none_iff.mp valid .invalidCharacters
  rw [Rule.isBroken, Bool.not_eq_false', Alphabet.spells_iff] at spelt
  exact spelt.2 c member

/-- A character of a valid pattern that is no brace may stand in a path. -/
theorem isPathCharacter_of_valid {pattern : Text} {c : Char}
    (valid : violation? [separator] pattern = none) (member : c ∈ pattern)
    (plain : Brace.ofChar? c = none) : isPathCharacter [separator] c = true := by
  have admitted := isPatternCharacter_of_valid valid member
  rw [isPatternCharacter, Brace.ofChar?_eq_none_iff.mp plain, Bool.or_false] at admitted
  exact admitted

theorem leads_of_valid (noBrace : Alphabet.isBrace separator = false)
    (valid : violation? [separator] shape.text = none) : shape.head.head? = some separator := by
  have leading := violation?_eq_none_iff.mp valid .missingLeadingSeparator
  obtain ⟨head, slots⟩ := shape
  cases head with
  | cons c head => simpa [Rule.isBroken, Shape.text] using leading
  | nil =>
      cases slots with
      | nil => simp [Rule.isBroken, Shape.text, Shape.slotsText] at leading
      | cons slot slots =>
          obtain rfl : '{' = separator := by
            simpa [Rule.isBroken, Shape.text, Shape.slotsText] using leading
          cases noBrace

theorem closes_of_valid (valid : violation? [separator] shape.text = none) :
    ∀ literal ∈ shape.literals.getLast?, literal.getLast? ≠ some separator := by
  intro literal last trailing
  have ending := violation?_eq_none_iff.mp valid .trailingSeparator
  obtain ⟨before, split⟩ := Shape.suffix_text last
  have whole : shape.text.getLast? = some separator := by
    rw [← split, List.getLast?_append, trailing]
    rfl
  simp [Rule.isBroken, whole] at ending

/-- A valid pattern is the text of a well-formed shape. -/
theorem exists_wellFormed_of_valid {pattern : Text} (noBrace : Alphabet.isBrace separator = false)
    (valid : violation? [separator] pattern = none) :
    ∃ shape : Shape, shape.text = pattern ∧ shape.WellFormed separator := by
  obtain ⟨shape, rfl, regular⟩ := exists_regular_of_valid valid
  refine ⟨shape, rfl, { regular with
    leads := leads_of_valid noBrace valid
    literals_spelt := fun literal member c stands => ?_
    names_spelt := fun name member c stands => ?_
    parted := fun slot inner bare => ?_
    closes := closes_of_valid valid }⟩
  · apply isPathCharacter_of_valid valid (Shape.mem_text_of_mem_literal member stands)
    rcases List.mem_cons.mp member with rfl | member
    · exact regular.head c stands
    · obtain ⟨slot, among, rfl⟩ := List.mem_map.mp member
      exact regular.afters slot among c stands
  · obtain ⟨slot, among, rfl⟩ := List.mem_map.mp member
    exact isPathCharacter_of_valid valid (Shape.mem_text_of_mem_name member stands)
      (regular.names slot among c stands)
  · exact not_infix_of_occursIn (violation?_eq_none_iff.mp valid .adjacentPlaceholders)
      (Shape.infix_text_of_infix_slotsText (Shape.adjacent_infix_slotsText inner bare))

/-- Reading a valid pattern gives its well-formed shape. -/
theorem wellFormed_ofPattern {pattern : Text} (noBrace : Alphabet.isBrace separator = false)
    (valid : violation? [separator] pattern = none) :
    (Shape.ofPattern pattern).WellFormed separator := by
  obtain ⟨shape, rfl, wellFormed⟩ := exists_wellFormed_of_valid noBrace valid
  rw [wellFormed.ofPattern_text]
  exact wellFormed

theorem text_ofPattern {separator pattern : Text} (valid : violation? separator pattern = none) :
    (Shape.ofPattern pattern).text = pattern := by
  obtain ⟨shape, rfl, regular⟩ := exists_regular_of_valid valid
  rw [regular.ofPattern_text]

end Pattern

end RouteTemplate
