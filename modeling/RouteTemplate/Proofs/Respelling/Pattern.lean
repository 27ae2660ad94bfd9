import Mathlib.Data.List.Nodup
import RouteTemplate.Pattern.Matcher
import RouteTemplate.Proofs.Respelling

/-! # Respelling patterns

Reading a respelt pattern gives the respelt shape, names and pieces, since braces stand where they
stood; it breaks the same rules under the respelt separator (`violation?_text`); and its matcher
finds in a respelt text the values that it found in the text (`tolerantCaptures?_matcher`). -/
namespace RouteTemplate.Respelling

open Alphabet (isVariable spells)

variable (spelling : Respelling)

/-! ## Shapes and names -/

def gap : Brace × Text → Brace × Text := Prod.map id spelling.text

theorem ofText_text (pattern : Text) :
    Cut.ofText (spelling.text pattern) =
      ⟨spelling.text (Cut.ofText pattern).head, (Cut.ofText pattern).gaps.map spelling.gap⟩ := by
  induction pattern with
  | nil => rfl
  | cons c rest ih =>
      simp only [Respelling.text, List.map_cons, Cut.ofText, spelling.ofChar?_char] at ih ⊢
      rw [ih]
      cases Brace.ofChar? c <;> rfl

def slot (slot : Slot) : Slot := ⟨spelling.text slot.name, spelling.text slot.after⟩

def shape (shape : Shape) : Shape := ⟨spelling.text shape.head, shape.slots.map spelling.slot⟩

theorem slotsOfGaps_gap (gaps : List (Brace × Text)) :
    Shape.slotsOfGaps (gaps.map spelling.gap) = (Shape.slotsOfGaps gaps).map spelling.slot := by
  fun_induction Shape.slotsOfGaps gaps with
  | case1 _ name _ after gaps ih => exact congrArg (_ :: ·) ih
  | case2 => rfl
  | case3 => rfl

theorem ofPattern_text (pattern : Text) :
    Shape.ofPattern (spelling.text pattern) = spelling.shape (Shape.ofPattern pattern) := by
  rw [Shape.ofPattern, ofText_text, slotsOfGaps_gap]
  rfl

theorem names_shape (shape : Shape) :
    (spelling.shape shape).names = shape.names.map spelling.text := by
  rw [Shape.names, Respelling.shape, List.map_map, Shape.names, List.map_map]
  rfl

def piece : Piece → Piece
  | .literal text => .literal (spelling.text text)
  | .placeholder name => .placeholder (spelling.text name)

theorem ofGaps_gap (gaps : List (Brace × Text)) :
    Piece.ofGaps (gaps.map spelling.gap) = (Piece.ofGaps gaps).map spelling.piece := by
  fun_induction Piece.ofGaps gaps with
  | case1 c name after gaps ih => exact congrArg (_ :: _ :: ·) ih
  | case2 brace gap gaps plain ih =>
      have plain' : ∀ c name after later, gaps.map spelling.gap = (.closing, after) :: later →
          brace = .opening → spelling.text gap = c :: name → False := by
        intro c name after later closes opens named
        obtain ⟨next, rest, rfl, next', -⟩ := List.map_eq_cons_iff.mp closes
        obtain ⟨first, others, rfl, -⟩ := List.map_eq_cons_iff.mp named
        obtain ⟨second, literal⟩ := next
        obtain ⟨rfl, -⟩ := Prod.mk.inj next'
        exact plain first others literal rest rfl opens rfl
      have spelt : spelling.text (brace.char :: gap) = brace.char :: spelling.text gap :=
        congrArg (· :: spelling.text gap) (spelling.char_brace brace)
      rw [List.map_cons, List.map_cons, ← ih, piece, spelt]
      show Piece.ofGaps ((brace, spelling.text gap) :: gaps.map spelling.gap) = _
      rw [Piece.ofGaps]
      exact plain'
  | case3 => rfl

theorem placeholderNames_text (pattern : Text) :
    Pattern.placeholderNames (spelling.text pattern) =
      (Pattern.placeholderNames pattern).map spelling.text := by
  have named (pieces : List Piece) : (pieces.map spelling.piece).filterMap Piece.name? =
      (pieces.filterMap Piece.name?).map spelling.text := by
    rw [List.filterMap_map, List.map_filterMap]
    congr 1
    funext piece
    cases piece <;> rfl
  rw [Pattern.placeholderNames, Pattern.placeholderNames, ← named, Pattern.pieces, ofText_text,
    ofGaps_gap]
  rfl

/-! ## Rules -/

theorem balancedFrom_text (inside : Bool) (pattern : Text) :
    Pattern.balancedFrom inside (spelling.text pattern) = Pattern.balancedFrom inside pattern := by
  have opens := fun c => spelling.char_eq_iff (c := c) (spelling.char_of_isBrace (c := '{') rfl)
  have closes := fun c => spelling.char_eq_iff (c := c) (spelling.char_of_isBrace (c := '}') rfl)
  induction pattern generalizing inside with
  | nil => rfl
  | cons c rest ih =>
      simp only [Respelling.text, List.map_cons, Pattern.balancedFrom, opens, closes] at ih ⊢
      rw [ih, ih, ih]

theorem isBroken_text (separator pattern : Text) (rule : Rule) :
    rule.isBroken (spelling.text separator) (spelling.text pattern) =
      rule.isBroken separator pattern := by
  cases rule with
  | empty => exact List.isEmpty_map
  | missingLeadingSeparator =>
      have first : (spelling.text pattern).take 1 = spelling.text (pattern.take 1) :=
        List.map_take.symm
      rw [Rule.isBroken, Rule.isBroken, first, bne, bne, beq_text]
  | trailingSeparator =>
      have last : (spelling.text pattern).getLast?.toList = spelling.text pattern.getLast?.toList := by
        rw [Respelling.text, List.getLast?_map, Option.toList_map]
        rfl
      rw [Rule.isBroken, Rule.isBroken, last, beq_text]
  | adjacentPlaceholders =>
      have braces : spelling.text ['}', '{'] = ['}', '{'] :=
        spelling.text_of_special (List.all_eq_true.mp (by decide))
      have same := spelling.occursIn_text ['}', '{'] pattern
      rwa [braces] at same
  | emptyPlaceholder =>
      have braces : spelling.text ['{', '}'] = ['{', '}'] :=
        spelling.text_of_special (List.all_eq_true.mp (by decide))
      have same := spelling.occursIn_text ['{', '}'] pattern
      rwa [braces] at same
  | invalidCharacters =>
      rw [Rule.isBroken, Rule.isBroken,
        spelling.spells_text (spelling.isPatternCharacter_char separator)]
  | unbalancedBraces => exact congrArg (! ·) (spelling.balancedFrom_text false pattern)
  | duplicatePlaceholder =>
      simp only [Rule.isBroken, placeholderNames_text, List.nodup_map_iff spelling.text_injective]

theorem violation?_text (separator pattern : Text) :
    Pattern.violation? (spelling.text separator) (spelling.text pattern) =
      Pattern.violation? separator pattern := by
  rw [Pattern.violation?, Pattern.violation?]
  congr 1
  funext rule
  exact spelling.isBroken_text separator pattern rule

/-! ## Matchers -/

def matcher (matcher : Matcher) : Matcher :=
  ⟨spelling.text matcher.lead, matcher.tails.map spelling.text⟩

theorem ofShape_shape (shape : Shape) :
    Matcher.ofShape (spelling.shape shape) = spelling.matcher (Matcher.ofShape shape) := by
  rw [Matcher.ofShape, Matcher.ofShape, Respelling.matcher, Respelling.shape, List.map_map,
    List.map_map]
  rfl

/-- A run is made of variable characters, which stay as they are. -/
theorem longestRun_text {α : Type} {first second : Text → Option α}
    (same : ∀ rest, second (spelling.text rest) = first rest) (text : Text) :
    Matcher.longestRun second (spelling.text text) = Matcher.longestRun first text := by
  induction text with
  | nil => rfl
  | cons c rest ih =>
      simp only [Respelling.text, List.map_cons, Matcher.longestRun, isVariable_char] at ih ⊢
      by_cases admitted : isVariable c = true
      · rw [if_pos admitted, if_pos admitted, ih, spelling.char_of_isVariable admitted]
        rw [← same rest]
        rfl
      · rw [if_neg admitted, if_neg admitted]

theorem valuesBefore_text {first second : Text → Bool}
    (same : ∀ rest, second (spelling.text rest) = first rest) (tails : List Text) (text : Text) :
    Matcher.valuesBefore second (tails.map spelling.text) (spelling.text text) =
      Matcher.valuesBefore first tails text := by
  induction tails generalizing text with
  | nil => simp only [List.map_nil, Matcher.valuesBefore, same]
  | cons literal tails ih =>
      rw [List.map_cons, Matcher.valuesBefore, Matcher.valuesBefore]
      congr 1
      apply longestRun_text
      intro rest
      rw [after?_text, Option.bind_map]
      congr 1
      funext left
      exact ih left

theorem toleratesRest_text (separator rest : Text) :
    Matcher.toleratesRest (spelling.text separator) (spelling.text rest) =
      Matcher.toleratesRest separator rest := by
  have empty : (spelling.text rest).isEmpty = rest.isEmpty := List.isEmpty_map
  rw [Matcher.toleratesRest, Matcher.toleratesRest, after?_text, Option.any_map, empty]
  congr 2
  funext left
  exact spelling.spells_text spelling.isVariable_char left

theorem tolerantCaptures?_matcher (separator : Text) (matcher : Matcher) (text : Text) :
    (spelling.matcher matcher).tolerantCaptures? (spelling.text separator) (spelling.text text) =
      matcher.tolerantCaptures? separator text := by
  rw [Matcher.tolerantCaptures?, Matcher.tolerantCaptures?, Matcher.values?, Matcher.values?,
    Respelling.matcher, after?_text, Option.bind_map]
  congr 1
  funext rest
  exact spelling.valuesBefore_text (spelling.toleratesRest_text separator) matcher.tails rest

end RouteTemplate.Respelling
