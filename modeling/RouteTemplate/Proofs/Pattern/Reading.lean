import RouteTemplate.Pattern.Shape
import RouteTemplate.Pattern.Validity

/-! # Reading a pattern back

A shape without braces in its names and literals is read back from its text (`ofPattern_text`), and
its names are the placeholder names of that text (`placeholderNames_text`). Every balanced pattern
is the text of such a shape (`exists_legible_of_balanced`). Of any pattern at all, a
placeholder name stands in it between braces (`infix_of_mem_placeholderNames`), and a name without
braces that does is a placeholder name (`mem_placeholderNames_of_occurrence`). -/
namespace RouteTemplate

/-- No brace stands in the text. -/
def Text.BraceFree (text : Text) : Prop := ∀ c ∈ text, Brace.ofChar? c = none

/-- Braces stand only around the names. -/
structure Shape.Legible (shape : Shape) : Prop where
  head : Text.BraceFree shape.head
  names : ∀ slot ∈ shape.slots, Text.BraceFree slot.name
  afters : ∀ slot ∈ shape.slots, Text.BraceFree slot.after

/-- A legible shape with distinct names, none of them empty. -/
structure Shape.Regular (shape : Shape) : Prop extends Legible shape where
  named : ∀ slot ∈ shape.slots, slot.name ≠ []
  distinct : shape.names.Nodup

namespace Brace

theorem ofChar?_char (brace : Brace) : ofChar? brace.char = some brace := by
  cases brace <;> decide

theorem ofChar?_eq_none_iff {c : Char} : ofChar? c = none ↔ Alphabet.isBrace c = false := by
  unfold ofChar? Alphabet.isBrace
  by_cases opens : c = '{'
  · simp [opens]
  · by_cases closes : c = '}'
    · simp [closes]
    · simp [opens, closes]

end Brace

/-! ## Cutting a concatenation -/

namespace Cut

theorem ofText_brace (brace : Brace) (rest : Text) :
    ofText (brace.char :: rest) = ⟨[], (brace, (ofText rest).head) :: (ofText rest).gaps⟩ := by
  rw [ofText, Brace.ofChar?_char]

theorem ofText_append {text : Text} (free : Text.BraceFree text) (rest : Text) :
    ofText (text ++ rest) = ⟨text ++ (ofText rest).head, (ofText rest).gaps⟩ := by
  induction text with
  | nil => rfl
  | cons c text ih =>
      have later := ih (fun d member => free d (List.mem_cons_of_mem c member))
      rw [List.cons_append, ofText, free c List.mem_cons_self, later]
      rfl

theorem ofText_placeholder {name : Text} (free : Text.BraceFree name) (rest : Text) :
    ofText ('{' :: (name ++ '}' :: rest)) =
      ⟨[], (.opening, name) :: (.closing, (ofText rest).head) :: (ofText rest).gaps⟩ := by
  have closed := ofText_brace .closing rest
  have opened := ofText_brace .opening (name ++ Brace.closing.char :: rest)
  rw [ofText_append free, closed] at opened
  simpa [Brace.char] using opened

/-- All braces of a text stand at the cuts. -/
theorem braceFree_ofText (text : Text) :
    Text.BraceFree (ofText text).head ∧ ∀ gap ∈ (ofText text).gaps, Text.BraceFree gap.2 := by
  induction text with
  | nil => simp [ofText, Text.BraceFree]
  | cons c rest ih =>
      obtain ⟨head, gaps⟩ := ih
      rw [ofText]
      cases found : Brace.ofChar? c with
      | none => exact ⟨List.forall_mem_cons.mpr ⟨found, head⟩, gaps⟩
      | some brace => exact ⟨List.forall_mem_nil _, List.forall_mem_cons.mpr ⟨head, gaps⟩⟩

theorem gaps_suffix (before rest : Text) :
    (ofText rest).gaps <:+ (ofText (before ++ rest)).gaps := by
  induction before with
  | nil => exact List.suffix_rfl
  | cons c before ih =>
      rw [List.cons_append, ofText]
      cases Brace.ofChar? c with
      | none => exact ih
      | some brace => exact ih.trans (List.suffix_cons _ _)

end Cut

/-! ## The text of a shape -/

def Slot.text (slot : Slot) : Text := '{' :: (slot.name ++ '}' :: slot.after)

def Slot.gaps (slot : Slot) : List (Brace × Text) := [(.opening, slot.name), (.closing, slot.after)]

namespace Shape

theorem slotsText_eq_flatMap (slots : List Slot) : slotsText slots = slots.flatMap Slot.text := by
  induction slots with
  | nil => rfl
  | cons slot slots ih => simp [slotsText, Slot.text, ih]

theorem cut_slotsText {slots : List Slot} (names : ∀ slot ∈ slots, Text.BraceFree slot.name)
    (afters : ∀ slot ∈ slots, Text.BraceFree slot.after) :
    Cut.ofText (slotsText slots) = ⟨[], slots.flatMap Slot.gaps⟩ := by
  induction slots with
  | nil => rfl
  | cons slot slots ih =>
      obtain ⟨name, names⟩ := List.forall_mem_cons.mp names
      obtain ⟨after, afters⟩ := List.forall_mem_cons.mp afters
      rw [slotsText, Cut.ofText_placeholder name, Cut.ofText_append after, ih names afters,
        List.append_nil]
      rfl

theorem Legible.cut {shape : Shape} (legible : shape.Legible) :
    Cut.ofText shape.text = ⟨shape.head, shape.slots.flatMap Slot.gaps⟩ := by
  rw [text, Cut.ofText_append legible.head, cut_slotsText legible.names legible.afters,
    List.append_nil]

theorem slotsOfGaps_flatMap (slots : List Slot) :
    slotsOfGaps (slots.flatMap Slot.gaps) = slots := by
  induction slots with
  | nil => rfl
  | cons slot slots ih =>
      rw [List.flatMap_cons]
      exact congrArg (slot :: ·) ih

theorem Legible.ofPattern_text {shape : Shape} (legible : shape.Legible) :
    ofPattern shape.text = shape := by
  rw [ofPattern, legible.cut, slotsOfGaps_flatMap]

end Shape

/-! ## Pieces and placeholder names -/

def Slot.pieces (slot : Slot) : List Piece := [.placeholder slot.name, .literal slot.after]

namespace Piece

theorem ofGaps_flatMap {slots : List Slot} (named : ∀ slot ∈ slots, slot.name ≠ []) :
    ofGaps (slots.flatMap Slot.gaps) = slots.flatMap Slot.pieces := by
  induction slots with
  | nil => rfl
  | cons slot slots ih =>
      obtain ⟨present, named⟩ := List.forall_mem_cons.mp named
      obtain ⟨c, name, spelt⟩ := List.exists_cons_of_ne_nil present
      rw [List.flatMap_cons, List.flatMap_cons, Slot.gaps, Slot.pieces, spelt]
      exact congrArg (placeholder (c :: name) :: literal slot.after :: ·) (ih named)

theorem filterMap_name?_flatMap (slots : List Slot) :
    (slots.flatMap Slot.pieces).filterMap name? = slots.map Slot.name := by
  induction slots with
  | nil => rfl
  | cons slot slots ih =>
      rw [List.flatMap_cons, List.map_cons, ← ih]
      rfl

/-- A name between an opening and a closing gap is the name of a placeholder. -/
theorem mem_ofGaps {gaps before after : List (Brace × Text)} {name rest : Text}
    (present : name ≠ [])
    (split : gaps = before ++ (.opening, name) :: (.closing, rest) :: after) :
    placeholder name ∈ ofGaps gaps := by
  fun_induction ofGaps gaps generalizing before with
  | case1 c first literal gaps ih =>
      rcases before with - | ⟨_, - | ⟨_, before⟩⟩
      · simp_all
      · simp at split
      · simp only [List.cons_append, List.cons.injEq] at split
        exact List.mem_cons_of_mem _ (List.mem_cons_of_mem _ (ih split.2.2))
  | case2 brace gap gaps apart ih =>
      rcases before with - | ⟨_, before⟩
      · obtain ⟨c, name, rfl⟩ := List.exists_cons_of_ne_nil present
        simp only [List.nil_append, List.cons.injEq, Prod.mk.injEq] at split
        exact (apart c name rest after split.2 split.1.1 split.1.2).elim
      · simp only [List.cons_append, List.cons.injEq] at split
        exact List.mem_cons_of_mem _ (ih split.2)
  | case3 => simp at split

end Piece

theorem Shape.Legible.pieces_text {shape : Shape} (legible : shape.Legible)
    (named : ∀ slot ∈ shape.slots, slot.name ≠ []) :
    Pattern.pieces shape.text = .literal shape.head :: shape.slots.flatMap Slot.pieces := by
  rw [Pattern.pieces, legible.cut, Piece.ofGaps_flatMap named]

theorem Shape.Legible.placeholderNames_text {shape : Shape} (legible : shape.Legible)
    (named : ∀ slot ∈ shape.slots, slot.name ≠ []) :
    Pattern.placeholderNames shape.text = shape.names := by
  rw [Pattern.placeholderNames, legible.pieces_text named]
  exact Piece.filterMap_name?_flatMap shape.slots

namespace Pattern

/-- Where a name without braces stands between braces, it is a placeholder name. -/
theorem mem_placeholderNames_of_occurrence {pattern name : Text} (present : name ≠ [])
    (free : Text.BraceFree name) (stands : (Piece.placeholder name).text <:+: pattern) :
    name ∈ placeholderNames pattern := by
  obtain ⟨before, after, rfl⟩ := stands
  obtain ⟨gaps, split⟩ := Cut.gaps_suffix before ('{' :: (name ++ '}' :: after))
  rw [Cut.ofText_placeholder free] at split
  have member := Piece.mem_ofGaps present split.symm
  refine List.mem_filterMap.mpr ⟨.placeholder name, List.mem_cons_of_mem _ ?_, rfl⟩
  simpa [Piece.text] using member

theorem infix_of_mem_placeholderNames {pattern name : Text}
    (member : name ∈ placeholderNames pattern) : (Piece.placeholder name).text <:+: pattern := by
  obtain ⟨piece, member, named⟩ := List.mem_filterMap.mp member
  cases piece with
  | literal text => cases named
  | placeholder other =>
      cases named
      obtain ⟨before, after, split⟩ := List.append_of_mem member
      rw [← flatMap_text_pieces pattern, split, List.flatMap_append, List.flatMap_cons]
      exact ⟨_, _, List.append_assoc _ _ _⟩

end Pattern

/-! ## Balanced patterns -/

namespace Shape

/-- The shape after an opening brace, with the name up to its closing brace. -/
def named (name : Text) (shape : Shape) : Shape := ⟨[], ⟨name, shape.head⟩ :: shape.slots⟩

def lengthened (c : Char) (shape : Shape) : Shape := ⟨c :: shape.head, shape.slots⟩

theorem Legible.named {shape : Shape} (legible : shape.Legible) {name : Text}
    (free : Text.BraceFree name) : (shape.named name).Legible :=
  ⟨by simp [Shape.named, Text.BraceFree], List.forall_mem_cons.mpr ⟨free, legible.names⟩,
    List.forall_mem_cons.mpr ⟨legible.head, legible.afters⟩⟩

theorem Legible.lengthened {shape : Shape} (legible : shape.Legible) {c : Char}
    (plain : Brace.ofChar? c = none) : (shape.lengthened c).Legible :=
  ⟨List.forall_mem_cons.mpr ⟨plain, legible.head⟩, legible.names, legible.afters⟩

end Shape

namespace Pattern

/-- A balanced pattern is the text of a shape; where a brace is open, the rest of a name and the
closing brace come before such a text. -/
theorem exists_legible_of_balancedFrom (pattern : Text) :
    (balancedFrom false pattern = true →
      ∃ shape : Shape, shape.text = pattern ∧ shape.Legible) ∧
    (balancedFrom true pattern = true →
      ∃ name, ∃ shape : Shape,
        name ++ '}' :: shape.text = pattern ∧ Text.BraceFree name ∧ shape.Legible) := by
  induction pattern with
  | nil =>
      refine ⟨fun _ => ⟨⟨[], []⟩, rfl, ?_⟩, fun unclosed => by cases unclosed⟩
      exact ⟨by simp [Text.BraceFree], by simp, by simp⟩
  | cons c rest ih =>
      obtain ⟨outside, inside⟩ := ih
      by_cases opens : c = '{'
      · subst opens
        refine ⟨fun balanced => ?_, fun nested => by simp [balancedFrom] at nested⟩
        obtain ⟨name, shape, rfl, free, legible⟩ := inside (by simpa [balancedFrom] using balanced)
        exact ⟨shape.named name, rfl, legible.named free⟩
      · by_cases closes : c = '}'
        · subst closes
          refine ⟨fun unopened => by simp [balancedFrom] at unopened, fun balanced => ?_⟩
          obtain ⟨shape, rfl, legible⟩ := outside (by simpa [balancedFrom] using balanced)
          exact ⟨[], shape, rfl, by simp [Text.BraceFree], legible⟩
        · have plain : Brace.ofChar? c = none := by rw [Brace.ofChar?, if_neg opens, if_neg closes]
          simp only [balancedFrom, if_neg opens, if_neg closes]
          constructor
          · intro balanced
            obtain ⟨shape, rfl, legible⟩ := outside balanced
            exact ⟨shape.lengthened c, rfl, legible.lengthened plain⟩
          · intro balanced
            obtain ⟨name, shape, rfl, free, legible⟩ := inside balanced
            exact ⟨c :: name, shape, rfl, List.forall_mem_cons.mpr ⟨plain, free⟩, legible⟩

theorem exists_legible_of_balanced {pattern : Text} (balanced : Pattern.balanced pattern = true) :
    ∃ shape : Shape, shape.text = pattern ∧ shape.Legible :=
  (exists_legible_of_balancedFrom pattern).1 balanced

end Pattern

end RouteTemplate
