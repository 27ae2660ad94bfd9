import Mathlib.Data.List.Basic
import RouteTemplate.Route
import RouteTemplate.Proofs.Pattern.Grammar

/-! # Exactly the valid patterns

The rules for patterns are tests of different kinds: of single characters, of pairs of braces, of the
depth of braces and of the names. Together they admit the texts of one grammar and nothing else
(`valid_iff_grammatical`). A pattern is the text of one grammatical shape at most, because cutting the
pattern at its braces gives that shape back. -/
namespace RouteTemplate

open Alphabet (isBrace isPathCharacter isPatternCharacter spells spells_iff)

/-- The grammar of patterns: a literal that starts with the separator, then distinct names, each with
a literal after it. Only the last literal may be empty, and it does not end with the separator. -/
structure Shape.Grammatical (separator : Char) (shape : Shape) : Prop where
  leads : shape.head.head? = some separator
  literals : ∀ literal ∈ shape.literals, ∀ c ∈ literal, isPathCharacter [separator] c = true
  parted : ∀ slot ∈ shape.slots.dropLast, slot.after ≠ []
  closes : ∀ literal ∈ shape.literals.getLast?, literal.getLast? ≠ some separator
  names : ∀ name ∈ shape.names, spells (isPathCharacter [separator]) name = true
  distinct : shape.names.Nodup

namespace Shape

variable {separator : Char} {shape : Shape} {slots : List Slot}

theorem braceFree_of_isPathCharacter (noBrace : isBrace separator = false) {text : Text}
    (admitted : ∀ c ∈ text, isPathCharacter [separator] c = true) : text.BraceFree := by
  intro c member
  rw [Brace.ofChar?_eq_none_iff, ← Bool.not_eq_true]
  intro brace
  have path := admitted c member
  rw [isPathCharacter, Bool.or_eq_true_iff, List.contains_iff_mem, List.mem_singleton] at path
  rcases path with letter | rfl
  · rw [isBrace, Bool.or_eq_true_iff, decide_eq_true_eq, decide_eq_true_eq] at brace
    rcases brace with rfl | rfl <;> cases letter
  · rw [noBrace] at brace
    cases brace

theorem Grammatical.wellFormed (noBrace : isBrace separator = false)
    (grammatical : shape.Grammatical separator) : shape.WellFormed separator where
  head := braceFree_of_isPathCharacter noBrace (grammatical.literals _ List.mem_cons_self)
  names := fun _ member => braceFree_of_isPathCharacter noBrace
    (spells_iff.mp (grammatical.names _ (List.mem_map_of_mem member))).2
  afters := fun _ member => braceFree_of_isPathCharacter noBrace
    (grammatical.literals _ (List.mem_cons_of_mem _ (List.mem_map_of_mem member)))
  named := fun _ member => (spells_iff.mp (grammatical.names _ (List.mem_map_of_mem member))).1
  distinct := grammatical.distinct
  leads := grammatical.leads
  literals_spelt := grammatical.literals
  names_spelt := fun name member => (spells_iff.mp (grammatical.names name member)).2
  parted := grammatical.parted
  closes := grammatical.closes

theorem WellFormed.grammatical (wellFormed : shape.WellFormed separator) :
    shape.Grammatical separator where
  leads := wellFormed.leads
  literals := wellFormed.literals_spelt
  parted := wellFormed.parted
  closes := wellFormed.closes
  names := by
    intro name member
    obtain ⟨slot, among, rfl⟩ := List.mem_map.mp member
    exact spells_iff.mpr ⟨wellFormed.named slot among, wellFormed.names_spelt _ member⟩
  distinct := wellFormed.distinct

end Shape

/-! ## Braces side by side -/

/-- Two braces side by side leave an empty gap between them. -/
theorem Cut.exists_gaps_of_infix {first second : Brace} {pattern : Text}
    (stands : [first.char, second.char] <:+: pattern) :
    ∃ gap rest, (first, []) :: (second, gap) :: rest <:+ (ofText pattern).gaps := by
  obtain ⟨before, after, rfl⟩ := stands
  have gaps := gaps_suffix before (first.char :: second.char :: after)
  rw [ofText_brace, ofText_brace] at gaps
  exact ⟨_, _, by simpa using gaps⟩

namespace Shape

variable {separator : Char} {shape : Shape} {slots : List Slot} {gap : Text}
  {rest : List (Brace × Text)}

theorem exists_bare_of_gaps
    (suffix : (.closing, []) :: (.opening, gap) :: rest <:+ slots.flatMap Slot.gaps) :
    ∃ slot ∈ slots.dropLast, slot.after = [] := by
  induction slots with
  | nil => cases List.suffix_nil.mp suffix
  | cons slot slots ih =>
      rw [List.flatMap_cons, Slot.gaps, List.cons_append, List.cons_append, List.nil_append] at suffix
      rcases List.suffix_cons_iff.mp suffix with whole | suffix
      · cases whole
      · rcases List.suffix_cons_iff.mp suffix with whole | suffix
        · obtain ⟨bare, more⟩ := List.cons.inj whole
          cases slots with
          | nil => cases more
          | cons next slots => exact ⟨slot, List.mem_cons_self, (Prod.mk.inj bare).2.symm⟩
        · obtain ⟨other, member, bare⟩ := ih suffix
          have filled : slots ≠ [] := by
            rintro rfl
            cases member
          rw [List.dropLast_cons_of_ne_nil filled]
          exact ⟨other, List.mem_cons_of_mem _ member, bare⟩

theorem exists_unnamed_of_gaps
    (suffix : (.opening, []) :: (.closing, gap) :: rest <:+ slots.flatMap Slot.gaps) :
    ∃ slot ∈ slots, slot.name = [] := by
  induction slots with
  | nil => cases List.suffix_nil.mp suffix
  | cons slot slots ih =>
      rw [List.flatMap_cons, Slot.gaps, List.cons_append, List.cons_append, List.nil_append] at suffix
      rcases List.suffix_cons_iff.mp suffix with whole | suffix
      · obtain ⟨unnamed, -⟩ := List.cons.inj whole
        exact ⟨slot, List.mem_cons_self, (Prod.mk.inj unnamed).2.symm⟩
      · rcases List.suffix_cons_iff.mp suffix with whole | suffix
        · cases whole
        · obtain ⟨other, member, unnamed⟩ := ih suffix
          exact ⟨other, List.mem_cons_of_mem _ member, unnamed⟩

theorem WellFormed.not_adjacent (wellFormed : shape.WellFormed separator) :
    ¬ ['}', '{'] <:+: shape.text := by
  intro stands
  obtain ⟨gap, rest, suffix⟩ := @Cut.exists_gaps_of_infix .closing .opening _ stands
  rw [wellFormed.cut] at suffix
  obtain ⟨slot, inner, bare⟩ := exists_bare_of_gaps suffix
  exact wellFormed.parted slot inner bare

theorem Legible.not_unnamed (legible : shape.Legible)
    (named : ∀ slot ∈ shape.slots, slot.name ≠ []) : ¬ ['{', '}'] <:+: shape.text := by
  intro stands
  obtain ⟨gap, rest, suffix⟩ := @Cut.exists_gaps_of_infix .opening .closing _ stands
  rw [legible.cut] at suffix
  obtain ⟨slot, member, unnamed⟩ := exists_unnamed_of_gaps suffix
  exact named slot member unnamed

end Shape

/-! ## Braces in turns -/

theorem Pattern.balancedFrom_append {text : Text} (free : text.BraceFree) (inside : Bool)
    (rest : Text) : balancedFrom inside (text ++ rest) = balancedFrom inside rest := by
  induction text with
  | nil => rfl
  | cons c text ih =>
      obtain ⟨plain, free⟩ := List.forall_mem_cons.mp free
      have opens : c ≠ '{' := by
        rintro rfl
        cases plain
      have closes : c ≠ '}' := by
        rintro rfl
        cases plain
      rw [List.cons_append, balancedFrom, if_neg opens, if_neg closes, ih free]

namespace Shape

variable {separator : Char} {shape : Shape} {slots : List Slot}

theorem balancedFrom_slotsText (names : ∀ slot ∈ slots, Text.BraceFree slot.name)
    (afters : ∀ slot ∈ slots, Text.BraceFree slot.after) :
    Pattern.balancedFrom false (slotsText slots) = true := by
  induction slots with
  | nil => rfl
  | cons slot slots ih =>
      obtain ⟨name, names⟩ := List.forall_mem_cons.mp names
      obtain ⟨after, afters⟩ := List.forall_mem_cons.mp afters
      have closed : Pattern.balancedFrom true ('}' :: (slot.after ++ slotsText slots)) = true := by
        simpa [Pattern.balancedFrom, Pattern.balancedFrom_append after] using ih names afters
      simpa [slotsText, Pattern.balancedFrom, Pattern.balancedFrom_append name] using closed

theorem Legible.balanced_text (legible : shape.Legible) : Pattern.balanced shape.text = true := by
  rw [Pattern.balanced, text, Pattern.balancedFrom_append legible.head]
  exact balancedFrom_slotsText legible.names legible.afters

/-! ## The text of a well-formed shape breaks no rule -/

theorem WellFormed.head?_text (wellFormed : shape.WellFormed separator) :
    shape.text.head? = some separator := by
  rw [text, List.head?_append, wellFormed.leads]
  rfl

/-- A text ends with its last literal, or with a brace if that one is empty. -/
theorem WellFormed.getLast?_text (wellFormed : shape.WellFormed separator)
    (noBrace : isBrace separator = false) : shape.text.getLast? ≠ some separator := by
  obtain ⟨head, slots⟩ := shape
  have closes := wellFormed.closes
  rcases List.eq_nil_or_concat slots with rfl | ⟨before, slot, rfl⟩
  · simpa [text, slotsText, literals] using closes
  · have last : slot.after.getLast? ≠ some separator := by
      simpa [literals, List.getLast?_cons] using closes
    have split : Shape.text ⟨head, before ++ [slot]⟩ =
        (head ++ slotsText before ++ '{' :: slot.name) ++ '}' :: slot.after := by
      simp [text, slotsText_append, slotsText]
    rw [List.concat_eq_append, split, List.getLast?_append_of_ne_nil _ (List.cons_ne_nil _ _)]
    cases after : slot.after with
    | nil =>
        rintro ending
        obtain rfl : '}' = separator := by simpa using ending
        cases noBrace
    | cons c rest =>
        rw [List.getLast?_cons_cons, ← after]
        exact last

theorem WellFormed.isPatternCharacter_of_mem (wellFormed : shape.WellFormed separator) {c : Char}
    (member : c ∈ shape.text) : isPatternCharacter [separator] c = true := by
  rw [isPatternCharacter, Bool.or_eq_true_iff]
  rw [text, slotsText_eq_flatMap, List.mem_append, List.mem_flatMap] at member
  rcases member with head | ⟨slot, among, stands⟩
  · exact .inl (wellFormed.literals_spelt _ List.mem_cons_self c head)
  · rw [Slot.text, List.mem_cons, List.mem_append, List.mem_cons] at stands
    rcases stands with rfl | name | rfl | after
    · exact .inr rfl
    · exact .inl (wellFormed.names_spelt _ (List.mem_map_of_mem among) c name)
    · exact .inr rfl
    · exact .inl (wellFormed.literals_spelt _
        (List.mem_cons_of_mem _ (List.mem_map_of_mem among)) c after)

theorem WellFormed.violation?_text (wellFormed : shape.WellFormed separator)
    (noBrace : isBrace separator = false) :
    Pattern.violation? [separator] shape.text = none := by
  have leads := wellFormed.head?_text
  have filled : shape.text ≠ [] := by
    intro empty
    rw [empty] at leads
    cases leads
  refine Pattern.violation?_eq_none_iff.mpr fun rule => ?_
  cases rule with
  | empty => simpa [Rule.isBroken] using filled
  | missingLeadingSeparator =>
      obtain ⟨c, rest, spelt⟩ := List.exists_cons_of_ne_nil filled
      rw [spelt] at leads ⊢
      simpa [Rule.isBroken] using leads
  | trailingSeparator =>
      have ends := wellFormed.getLast?_text noBrace
      rw [Rule.isBroken, beq_eq_false_iff_ne]
      intro same
      exact ends (by cases last : shape.text.getLast? <;> simp_all)
  | adjacentPlaceholders =>
      rw [Rule.isBroken, ← Bool.not_eq_true, Text.occursIn_iff]
      exact wellFormed.not_adjacent
  | emptyPlaceholder =>
      rw [Rule.isBroken, ← Bool.not_eq_true, Text.occursIn_iff]
      exact wellFormed.not_unnamed wellFormed.named
  | invalidCharacters =>
      rw [Rule.isBroken, Bool.not_eq_false', spells_iff]
      exact ⟨filled, fun c member => wellFormed.isPatternCharacter_of_mem member⟩
  | unbalancedBraces =>
      rw [Rule.isBroken, Bool.not_eq_false']
      exact wellFormed.balanced_text
  | duplicatePlaceholder =>
      rw [Rule.isBroken, wellFormed.placeholderNames_text wellFormed.named]
      simpa using wellFormed.distinct

end Shape

namespace Pattern

/-- The valid patterns are the texts of grammatical shapes. Each of them has one such shape, whose
names are the placeholder names, and whose literals and names make up the route of the pattern. -/
theorem valid_iff_grammatical {separator : Char} (noBrace : isBrace separator = false)
    (pattern : Text) :
    (violation? [separator] pattern = none ↔
      ∃ shape : Shape, shape.text = pattern ∧ shape.Grammatical separator) ∧
    ∀ shape : Shape, shape.text = pattern → shape.Grammatical separator →
      (∀ other : Shape, other.text = pattern → other.Grammatical separator → other = shape) ∧
      placeholderNames pattern = shape.names ∧
      ∀ key, Route.ofTemplate ⟨key, pattern⟩ =
        ⟨key, pattern, ⟨shape.head, shape.slots.map Slot.after⟩, shape.names⟩ := by
  refine ⟨⟨fun valid => ?_, ?_⟩, ?_⟩
  · obtain ⟨shape, text, wellFormed⟩ := exists_wellFormed_of_valid noBrace valid
    exact ⟨shape, text, wellFormed.grammatical⟩
  · rintro ⟨shape, rfl, grammatical⟩
    exact (grammatical.wellFormed noBrace).violation?_text noBrace
  · rintro shape rfl grammatical
    have regular := (grammatical.wellFormed noBrace).toRegular
    refine ⟨fun other same grammatical' => ?_, regular.placeholderNames_text regular.named,
      fun key => ?_⟩
    · have read := ((grammatical'.wellFormed noBrace).toRegular).ofPattern_text
      rw [same, regular.ofPattern_text] at read
      exact read.symm
    · rw [Route.ofTemplate, regular.ofPattern_text]
      rfl

/-- A separator inside a name, and a literal of points: valid, with one reading. -/
theorem valid_iff_grammatical_inner_separator :
    isBrace '|' = false ∧
      ∃ shape : Shape, shape.text = "|..\x7ba|b\x7d-\x7bc\x7d".toList ∧ shape.Grammatical '|' ∧
        ∀ other : Shape, other.text = "|..\x7ba|b\x7d-\x7bc\x7d".toList →
          other.Grammatical '|' → other = shape := by
  have valid : violation? ['|'] "|..\x7ba|b\x7d-\x7bc\x7d".toList = none := rfl
  obtain ⟨accepted, unique⟩ :=
    @valid_iff_grammatical '|' rfl "|..\x7ba|b\x7d-\x7bc\x7d".toList
  obtain ⟨shape, text, grammatical⟩ := accepted.mp valid
  exact ⟨rfl, shape, text, grammatical, (unique shape text grammatical).1⟩

end Pattern

end RouteTemplate
