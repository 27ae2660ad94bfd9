import RouteTemplate.Proofs.Pattern.Filling
import RouteTemplate.Proofs.Pattern.Parts
import RouteTemplate.Proofs.Pattern.Validity

/-! # Names by parts and names by placeholders

The parts of a pattern have a name after every second brace, whatever the braces are. A placeholder
has a name only between an opening brace and a closing one that comes next. So there is a name for at
least half of the braces among the parts, and for at most half among the placeholders: the two agree
only if every brace belongs to a placeholder, and then the pattern is balanced
(`names_eq_iff_balanced`). -/
namespace RouteTemplate

variable {pattern : Text} {gaps : List (Brace × Text)}

/-! ## How many braces a name takes -/

namespace Shape

theorem length_le_slotsOfGaps (gaps : List (Brace × Text)) :
    gaps.length ≤ 2 * (slotsOfGaps gaps).length := by
  fun_induction slotsOfGaps gaps with
  | case1 _ name _ after gaps ih =>
      simp only [List.length_cons]
      omega
  | case2 => simp
  | case3 => simp

/-- The literals with the placeholders between them are the text. -/
theorem woven_literals (shape : Shape) :
    Pattern.woven shape.literals (shape.names.map fun name => (Piece.placeholder name).text) =
      shape.text := by
  obtain ⟨head, slots⟩ := shape
  show Pattern.woven (head :: slots.map Slot.after)
    ((slots.map Slot.name).map fun name => (Piece.placeholder name).text) = head ++ slotsText slots
  induction slots generalizing head with
  | nil => simp [Pattern.woven, slotsText]
  | cons slot slots ih =>
      rw [List.map_cons, List.map_cons, List.map_cons, Pattern.woven, ih slot.after, slotsText]
      simp [Piece.text]

end Shape

namespace Piece

theorem names_ofGaps_le (gaps : List (Brace × Text)) :
    2 * ((ofGaps gaps).filterMap name?).length ≤ gaps.length := by
  fun_induction ofGaps gaps with
  | case1 c name after gaps ih =>
      simp only [List.filterMap_cons, name?, List.length_cons]
      omega
  | case2 brace gap gaps _ ih =>
      simp only [List.filterMap_cons, name?, List.length_cons]
      omega
  | case3 => simp

/-- With a name for every two braces, no brace is left over. -/
theorem exists_slots_of_names (every : gaps.length ≤ 2 * ((ofGaps gaps).filterMap name?).length) :
    ∃ slots : List Slot, gaps = slots.flatMap Slot.gaps ∧ ∀ slot ∈ slots, slot.name ≠ [] := by
  fun_induction ofGaps gaps with
  | case1 c name after gaps ih =>
      simp only [List.filterMap_cons, name?, List.length_cons] at every
      obtain ⟨slots, rfl, named⟩ := ih (by omega)
      exact ⟨⟨c :: name, after⟩ :: slots, rfl,
        List.forall_mem_cons.mpr ⟨List.cons_ne_nil c name, named⟩⟩
  | case2 brace gap gaps _ ih =>
      -- A brace without a placeholder has no name, and the braces after it cannot make up for that.
      simp only [List.filterMap_cons, name?, List.length_cons] at every
      have most := names_ofGaps_le gaps
      omega
  | case3 => exact ⟨[], rfl, List.forall_mem_nil _⟩

end Piece

/-! ## Patterns in which every brace belongs to a placeholder -/

theorem Cut.gapsText_flatMap (slots : List Slot) :
    gapsText (slots.flatMap Slot.gaps) = Shape.slotsText slots := by
  induction slots with
  | nil => rfl
  | cons slot slots ih =>
      rw [List.flatMap_cons, Shape.slotsText, ← ih]
      rfl

namespace Pattern

/-- The pattern is the text of a shape with a name in every slot and no other braces. -/
def Paired (pattern : Text) : Prop :=
  ∃ shape : Shape, shape.text = pattern ∧ shape.Legible ∧ ∀ slot ∈ shape.slots, slot.name ≠ []

theorem paired_of_slots {slots : List Slot} (split : (Cut.ofText pattern).gaps = slots.flatMap Slot.gaps)
    (named : ∀ slot ∈ slots, slot.name ≠ []) : Paired pattern := by
  obtain ⟨head, gaps⟩ := Cut.braceFree_ofText pattern
  rw [split] at gaps
  have within : ∀ slot ∈ slots, ∀ gap ∈ slot.gaps, Text.BraceFree gap.2 := fun slot member gap among =>
    gaps gap (List.mem_flatMap.mpr ⟨slot, member, among⟩)
  refine ⟨⟨(Cut.ofText pattern).head, slots⟩, ?_, ⟨head, ?_, ?_⟩, named⟩
  · rw [Shape.text, ← Cut.gapsText_flatMap, ← split]
    exact Cut.text_ofText pattern
  · exact fun slot member => within slot member _ List.mem_cons_self
  · exact fun slot member => within slot member _ (List.mem_cons_of_mem _ List.mem_cons_self)

theorem paired_iff_balanced :
    Paired pattern ↔ balanced pattern = true ∧ ¬ ['{', '}'] <:+: pattern := by
  constructor
  · rintro ⟨shape, rfl, legible, named⟩
    exact ⟨legible.balanced_text, legible.not_unnamed named⟩
  · rintro ⟨balanced, filled⟩
    exact exists_named_of_balanced balanced filled

theorem paired_iff_names_eq :
    Paired pattern ↔ (Shape.ofPattern pattern).names = placeholderNames pattern := by
  constructor
  · rintro ⟨shape, rfl, legible, named⟩
    rw [legible.ofPattern_text, legible.placeholderNames_text named]
  · intro same
    have most : (Cut.ofText pattern).gaps.length ≤ 2 * (placeholderNames pattern).length := by
      rw [← same, Shape.names, List.length_map]
      exact Shape.length_le_slotsOfGaps _
    obtain ⟨slots, split, named⟩ := Piece.exists_slots_of_names most
    exact paired_of_slots split named

/-- The names among the parts are the placeholder names exactly where braces open and close in turns
around names that are not empty. Each opening brace then has a name, and the literals with the names
in braces between them give the pattern back. -/
theorem names_eq_iff_balanced (key : Key) (pattern : Text) :
    let route := Route.ofTemplate ⟨key, pattern⟩
    route.names = nameParts (parts pattern) ∧
    (route.names = placeholderNames pattern ↔
      balanced pattern = true ∧ ¬ ['{', '}'] <:+: pattern) ∧
    (route.names = placeholderNames pattern →
      route.names.length = expectedCount pattern ∧
        woven (route.matcher.lead :: route.matcher.tails)
          (route.names.map fun name => (Piece.placeholder name).text) = pattern) := by
  intro route
  refine ⟨names_ofPattern pattern, paired_iff_names_eq.symm.trans paired_iff_balanced, fun same => ?_⟩
  obtain ⟨shape, rfl, legible, -⟩ := paired_iff_names_eq.mpr same
  have read : Shape.ofPattern shape.text = shape := legible.ofPattern_text
  have names : route.names = shape.names := congrArg Shape.names read
  have literals : route.matcher.lead :: route.matcher.tails = shape.literals :=
    congrArg Shape.literals read
  rw [names, literals]
  exact ⟨(expectedCount_text legible).symm, shape.woven_literals⟩

/-- Two placeholders side by side, one with a blank in its name: no valid pattern, but a balanced one. -/
theorem names_eq_iff_balanced_adjacent :
    let pattern := "a\x7bb\x7d\x7bc d\x7d".toList
    let route := Route.ofTemplate ⟨.view, pattern⟩
    route.names = placeholderNames pattern ∧ balanced pattern = true ∧
      route.names.length = expectedCount pattern ∧
      woven ["a".toList, [], []] ["\x7bb\x7d".toList, "\x7bc d\x7d".toList] = pattern := by
  intro pattern route
  obtain ⟨-, agree, given⟩ := names_eq_iff_balanced .view pattern
  have same : route.names = placeholderNames pattern := by rfl
  exact ⟨same, (agree.mp same).1, given same⟩

end Pattern

end RouteTemplate
