import Mathlib.Data.List.Induction
import RouteTemplate.Route
import RouteTemplate.Proofs.Pattern.Filling
import RouteTemplate.Proofs.Pattern.Segments

/-! # Placeholders that fill whole segments

Where every placeholder of a pattern stands between separators, splitting the pattern at its separators
gives one piece for each segment, and matching is a comparison of two rows: the pieces of the pattern
and the segments of the text, position by position (`tolerantCaptures?_iff_agree`). -/
namespace RouteTemplate

open Alphabet (isBrace isVariable isPathCharacter)

/-! ## Two rows, position by position -/

/-- What a segment has to be at the position of a piece. -/
def Piece.Meets : Piece → Text → Prop
  | .literal text, segment => segment = text
  | .placeholder _, segment => segment ≠ []

namespace Segments

/-- Each segment meets the piece at its position, and at most one segment, not an empty one, is left
over at the end. -/
structure Agree (pieces : List Piece) (segments : List Text) : Prop where
  counted : segments.length = pieces.length ∨ segments.length = pieces.length + 1
  each : ∀ pair ∈ pieces.zip segments, pair.1.Meets pair.2
  extra : ∀ segment ∈ segments.drop pieces.length, segment ≠ []

/-- The segments at the positions of the placeholders, in order. -/
def held (pieces : List Piece) (segments : List Text) : List Text :=
  (pieces.zip segments).filterMap (fun pair => pair.1.name?.map (fun _ => pair.2))

variable {piece : Piece} {pieces : List Piece} {segment : Text} {segments values : List Text}

theorem agree_nil_iff :
    Agree [] segments ↔ segments = [] ∨ ∃ segment, segments = [segment] ∧ segment ≠ [] := by
  constructor
  · rintro ⟨none | one, -, extra⟩
    · exact .inl (List.length_eq_zero_iff.mp none)
    · obtain ⟨segment, rfl⟩ := List.length_eq_one_iff.mp one
      exact .inr ⟨segment, rfl, extra segment List.mem_cons_self⟩
  · rintro (rfl | ⟨segment, rfl, filled⟩)
    · exact ⟨.inl rfl, List.forall_mem_nil _, List.forall_mem_nil _⟩
    · exact ⟨.inr rfl, List.forall_mem_nil _, List.forall_mem_singleton.mpr filled⟩

theorem not_agree_cons_nil : ¬ Agree (piece :: pieces) [] := by
  rintro ⟨equal | more, -, -⟩
  · cases equal
  · cases more

theorem agree_cons_iff :
    Agree (piece :: pieces) (segment :: segments) ↔
      piece.Meets segment ∧ Agree pieces segments := by
  have counts : (segment :: segments).length = (piece :: pieces).length ∨
      (segment :: segments).length = (piece :: pieces).length + 1 ↔
        segments.length = pieces.length ∨ segments.length = pieces.length + 1 := by
    simp only [List.length_cons, Nat.add_right_cancel_iff]
  constructor
  · rintro ⟨counted, each, extra⟩
    rw [List.zip_cons_cons, List.forall_mem_cons] at each
    exact ⟨each.1, counts.mp counted, each.2, extra⟩
  · rintro ⟨here, counted, each, extra⟩
    refine ⟨counts.mpr counted, ?_, extra⟩
    rw [List.zip_cons_cons]
    exact List.forall_mem_cons.mpr ⟨here, each⟩

/-- Reading succeeds on rows that agree, and gives what is held. -/
theorem read?_iff_agree :
    read? pieces segments = some values ↔ Agree pieces segments ∧ values = held pieces segments := by
  induction pieces generalizing segments values with
  | nil =>
      rw [read?_nil_eq_some_iff, agree_nil_iff, and_comm]
      rfl
  | cons piece pieces ih =>
      cases segments with
      | nil => simp [read?, not_agree_cons_nil]
      | cons segment segments =>
          rw [agree_cons_iff]
          cases piece with
          | literal text =>
              have same : held (.literal text :: pieces) (segment :: segments) =
                held pieces segments := rfl
              rw [read?, same, and_assoc, ← ih]
              by_cases equal : segment = text
              · simp [equal, Piece.Meets]
              · simp [equal, Piece.Meets]
          | placeholder name =>
              have more : held (.placeholder name :: pieces) (segment :: segments) =
                segment :: held pieces segments := rfl
              rw [read?, more]
              by_cases empty : segment = []
              · simp [empty, Piece.Meets]
              · rw [if_neg empty, Option.map_eq_some_iff]
                constructor
                · rintro ⟨others, found, rfl⟩
                  obtain ⟨agree, rfl⟩ := ih.mp found
                  exact ⟨⟨empty, agree⟩, rfl⟩
                · rintro ⟨⟨-, agree⟩, rfl⟩
                  exact ⟨_, ih.mpr ⟨agree, rfl⟩, rfl⟩

end Segments

/-! ## Segments of a pattern as pieces -/

namespace Piece

/-- A segment that starts with an opening brace is taken for a placeholder. -/
def ofSegment : Text → Piece
  | '{' :: name => .placeholder name.dropLast
  | text => .literal text

/-- A piece with no brace in its text or its name. -/
def Legible : Piece → Prop
  | .literal text => text.BraceFree
  | .placeholder name => name.BraceFree

theorem ofSegment_text {piece : Piece} (legible : piece.Legible) : ofSegment piece.text = piece := by
  cases piece with
  | literal text =>
      rw [Piece.text, ofSegment]
      rintro name rfl
      cases legible '{' List.mem_cons_self
  | placeholder name => rw [Piece.text, ofSegment, List.dropLast_concat]

end Piece

namespace Pattern

variable {separator : Char} {pattern : Text} {pieces : List Piece}

theorem matcher_text_append {piece : Piece} (legible : piece.Legible) (rest : Text) :
    matcher (piece.text ++ rest) = Matcher.preceded piece (matcher rest) := by
  cases piece with
  | literal text =>
      rw [matcher, Shape.ofPattern, Piece.text, Cut.ofText_append legible]
      rfl
  | placeholder name =>
      have split : (Piece.placeholder name).text ++ rest = '{' :: (name ++ '}' :: rest) := by
        simp [Piece.text]
      rw [matcher, Shape.ofPattern, split, Cut.ofText_placeholder legible]
      rfl

/-- The matcher of pieces with separators between them. -/
theorem matcher_intercalate (noBrace : isBrace separator = false)
    (legible : ∀ piece ∈ pieces, piece.Legible) :
    matcher ([separator].intercalate (pieces.map Piece.text)) =
      Matcher.ofSegments separator pieces := by
  have bare : (Piece.literal [separator]).Legible :=
    List.forall_mem_singleton.mpr (Brace.ofChar?_eq_none_iff.mpr noBrace)
  fun_induction Matcher.ofSegments separator pieces with
  | case1 => rfl
  | case2 piece =>
      have whole := matcher_text_append (legible piece List.mem_cons_self) []
      rw [List.append_nil] at whole
      rw [List.map_singleton, List.intercalate_singleton, whole]
      rfl
  | case3 piece pieces more ih =>
      obtain ⟨here, later⟩ := List.forall_mem_cons.mp legible
      have present : pieces.map Piece.text ≠ [] := by simpa using more
      rw [List.map_cons, List.intercalate_cons_of_ne_nil present, List.append_assoc,
        matcher_text_append here, show [separator] = (Piece.literal [separator]).text from rfl,
        matcher_text_append bare, ← ih later]
      rfl

end Pattern

/-! ## Patterns whose placeholders fill segments -/

/-- Each placeholder fills a whole segment: the literal before it ends with the separator, the literal
after it starts with the separator or is empty, and its name holds no separator. -/
structure Shape.FillsSegments (separator : Char) (shape : Shape) : Prop where
  before : ∀ literal ∈ shape.literals.dropLast, literal.getLast? = some separator
  after : ∀ literal ∈ shape.literals.tail, literal = [] ∨ literal.head? = some separator
  names : ∀ name ∈ shape.names, separator ∉ name

/-- The pieces of a pattern, one for each of its segments. -/
def Pattern.segmentPieces (separator : Char) (pattern : Text) : List Piece :=
  (pattern.splitOn separator).map Piece.ofSegment

section

variable {separator : Char} {shape : Shape} {slot : Slot} {segment : Text}

/-- A segment of a text without braces is a literal piece. -/
theorem exists_literal_of_mem_splitOn {text : Text} (free : text.BraceFree)
    (member : segment ∈ text.splitOn separator) :
    ∃ piece : Piece, piece.Legible ∧ piece.text = segment :=
  ⟨.literal segment, fun c stands => free c ((mem_splitOn member).2 c stands), rfl⟩

/-- The placeholder of a slot is its first segment. -/
theorem Slot.exists_piece_of_mem_splitOn (noBrace : isBrace separator = false)
    (named : slot.name.BraceFree) (free : slot.after.BraceFree) (absent : separator ∉ slot.name)
    (closed : slot.after = [] ∨ slot.after.head? = some separator)
    (member : segment ∈ slot.text.splitOn separator) :
    ∃ piece : Piece, piece.Legible ∧ piece.text = segment := by
  have foreign : separator ∉ (Piece.placeholder slot.name).text := by
    have opening : separator ≠ '{' := by
      rintro rfl
      cases noBrace
    have closing : separator ≠ '}' := by
      rintro rfl
      cases noBrace
    simp [Piece.text, opening, closing, absent]
  have split : slot.text = (Piece.placeholder slot.name).text ++ slot.after := by
    simp [Slot.text, Piece.text]
  rw [split] at member
  rcases closed with empty | starts
  · rw [empty, List.append_nil, List.splitOn_eq_singleton foreign, List.mem_singleton] at member
    exact ⟨.placeholder slot.name, named, member.symm⟩
  · obtain ⟨after, eq⟩ := List.head?_eq_some_iff.mp starts
    rw [eq, List.splitOn_append_cons_self, List.splitOn_eq_singleton foreign, List.singleton_append]
      at member
    rcases List.mem_cons.mp member with first | later
    · exact ⟨.placeholder slot.name, named, first.symm⟩
    · refine exists_literal_of_mem_splitOn (fun c stands => free c ?_) later
      rw [eq]
      exact List.mem_cons_of_mem _ stands

/-- Before its last placeholder, a pattern ends with the separator. -/
theorem Shape.FillsSegments.exists_before {head : Text} {slots : List Slot}
    (fills : Shape.FillsSegments separator ⟨head, slots ++ [slot]⟩) :
    ∃ before, (⟨head, slots⟩ : Shape).text = before ++ [separator] := by
  have present : (⟨head, slots⟩ : Shape).literals ≠ [] := List.cons_ne_nil _ _
  have last := List.getLast?_eq_some_getLast present
  obtain ⟨before, text⟩ := suffix_text last
  have ends : ((⟨head, slots⟩ : Shape).literals.getLast present).getLast? = some separator := by
    apply fills.before
    rw [literals, List.map_append, List.map_singleton, ← List.cons_append, List.dropLast_concat]
    exact List.getLast_mem present
  obtain ⟨literal, eq⟩ := List.getLast?_eq_some_iff.mp ends
  rw [eq, ← List.append_assoc] at text
  exact ⟨_, text.symm⟩

theorem Shape.FillsSegments.dropLast {head : Text} {slots : List Slot}
    (fills : Shape.FillsSegments separator ⟨head, slots ++ [slot]⟩) :
    Shape.FillsSegments separator ⟨head, slots⟩ where
  before := fun literal member => fills.before literal (by
    rw [literals, List.map_append, List.map_singleton, ← List.cons_append, List.dropLast_concat]
    exact (List.dropLast_sublist _).subset member)
  after := fun literal member => fills.after literal (by
    simp only [literals, List.tail_cons, List.map_append] at member ⊢
    exact List.mem_append_left _ member)
  names := fun name member => fills.names name (by
    rw [Shape.names, List.map_append]
    exact List.mem_append_left _ member)

/-- Each segment is a literal or a placeholder, by induction on the slots from the last one on: the
last placeholder starts a segment, and the segments before it are those of the slots before it. -/
theorem Shape.FillsSegments.exists_piece (noBrace : isBrace separator = false)
    (legible : shape.Legible) (fills : shape.FillsSegments separator)
    (member : segment ∈ shape.text.splitOn separator) :
    ∃ piece : Piece, piece.Legible ∧ piece.text = segment := by
  obtain ⟨head, slots⟩ := shape
  induction slots using List.reverseRecOn generalizing segment with
  | nil =>
      rw [text, slotsText, List.append_nil] at member
      exact exists_literal_of_mem_splitOn legible.head member
  | append_singleton slots slot ih =>
      have here : slot ∈ slots ++ [slot] := List.mem_append_right _ List.mem_cons_self
      obtain ⟨before, ends⟩ := fills.exists_before
      have whole : (⟨head, slots ++ [slot]⟩ : Shape).text = before ++ separator :: slot.text := by
        rw [text] at ends
        rw [text, slotsText_append, ← List.append_assoc, ends]
        simp [slotsText, Slot.text]
      rw [whole, List.splitOn_append_cons_self, List.mem_append] at member
      rcases member with earlier | last
      · refine ih ⟨legible.head, fun slot among => ?_, fun slot among => ?_⟩ fills.dropLast ?_
        · exact legible.names slot (List.mem_append_left _ among)
        · exact legible.afters slot (List.mem_append_left _ among)
        · rw [ends, List.splitOn_append_cons_self]
          exact List.mem_append_left _ earlier
      · refine slot.exists_piece_of_mem_splitOn noBrace (legible.names slot here)
          (legible.afters slot here) (fills.names slot.name (List.mem_map_of_mem here))
          (fills.after slot.after ?_) last
        rw [literals, List.tail_cons]
        exact List.mem_map_of_mem here

end

/-! ## Matching is comparing -/

namespace Pattern

variable {separator : Char} {pattern text : Text} {row : List Text}

/-- The pieces of the segments spell the pattern, and none of their literals holds a separator. -/
theorem matcher_eq_ofSegments (noBrace : isBrace separator = false)
    (valid : violation? [separator] pattern = none)
    (fills : (Shape.ofPattern pattern).FillsSegments separator) :
    matcher pattern = Matcher.ofSegments separator (segmentPieces separator pattern) ∧
      Segments.Plain separator (segmentPieces separator pattern) := by
  have legible := (wellFormed_ofPattern noBrace valid).toLegible
  have pieces : ∀ segment ∈ pattern.splitOn separator,
      (Piece.ofSegment segment).Legible ∧ (Piece.ofSegment segment).text = segment := by
    intro segment member
    rw [← text_ofPattern valid] at member
    obtain ⟨piece, legible, rfl⟩ := fills.exists_piece noBrace legible member
    rw [Piece.ofSegment_text legible]
    exact ⟨legible, rfl⟩
  have texts : (segmentPieces separator pattern).map Piece.text = pattern.splitOn separator := by
    have same := List.map_congr_left fun segment member => (pieces segment member).2
    rw [segmentPieces, List.map_map]
    exact same.trans (List.map_id' _)
  constructor
  · have built := @matcher_intercalate separator (segmentPieces separator pattern) noBrace
      (List.forall_mem_map.mpr fun segment member => (pieces segment member).1)
    rwa [texts, List.intercalate_splitOn] at built
  · refine ⟨by simp [segmentPieces, List.splitOn_ne_nil], List.forall_mem_map.mpr ?_⟩
    intro segment member stands
    apply (mem_splitOn member).1
    rw [← (pieces segment member).2]
    cases piece : Piece.ofSegment segment with
    | literal text => rwa [piece] at stands
    | placeholder name =>
        rw [piece] at stands
        cases stands

/-- Where every placeholder fills a whole segment, a text is taken when its segments agree with those
of the pattern, and what is captured stands at the positions of the placeholders. -/
theorem tolerantCaptures?_iff_agree (legal : (isVariable separator || isBrace separator) = false)
    (valid : violation? [separator] pattern = none)
    (fills : (Shape.ofPattern pattern).FillsSegments separator)
    (admitted : ∀ c ∈ text, isPathCharacter [separator] c = true) (key : Key) :
    (Route.ofTemplate ⟨key, pattern⟩).matcher.tolerantCaptures? [separator] text = some row ↔
      Segments.Agree (segmentPieces separator pattern) (text.splitOn separator) ∧
        row = Segments.held (segmentPieces separator pattern) (text.splitOn separator) := by
  obtain ⟨foreign, noBrace⟩ := Bool.or_eq_false_iff.mp legal
  obtain ⟨built, plain⟩ := matcher_eq_ofSegments noBrace valid fills
  rw [show (Route.ofTemplate ⟨key, pattern⟩).matcher = matcher pattern from rfl, built,
    Matcher.tolerantCaptures?_ofSegments foreign plain admitted]
  exact Segments.read?_iff_agree

/-- An empty segment between two literals, points in a value, and a segment more. -/
theorem tolerantCaptures?_iff_agree_empty_segment :
    let pattern := "/v1//\x7ba\x7d/\x7bb\x7d/v1".toList
    let segments := "/v1//v1/x.y/v1/more".toList.splitOn '/'
    violation? ['/'] pattern = none ∧ (Shape.ofPattern pattern).FillsSegments '/' ∧
      (∀ c ∈ "/v1//v1/x.y/v1/more".toList, isPathCharacter ['/'] c = true) ∧
      Segments.Agree (segmentPieces '/' pattern) segments ∧
      ["v1".toList, "x.y".toList] = Segments.held (segmentPieces '/' pattern) segments := by
  intro pattern segments
  have valid : violation? ['/'] pattern = none := rfl
  have fills : (Shape.ofPattern pattern).FillsSegments '/' := ⟨by decide, by decide, by decide⟩
  have admitted : ∀ c ∈ "/v1//v1/x.y/v1/more".toList, isPathCharacter ['/'] c = true :=
    List.all_eq_true.mp (by rfl)
  have compared := (tolerantCaptures?_iff_agree rfl valid fills admitted .view).mp (by rfl)
  exact ⟨valid, fills, admitted, compared⟩

end Pattern

end RouteTemplate
