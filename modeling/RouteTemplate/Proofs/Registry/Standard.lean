import RouteTemplate.Registry.Standard
import RouteTemplate.Proofs.Path.Extension
import RouteTemplate.Proofs.Pattern.Segments
import RouteTemplate.Proofs.Registry.Priority
import RouteTemplate.Proofs.Route
import RouteTemplate.Proofs.Rows

/-! # What the standard registry resolves

The standard templates overlap: each of them tolerates one more segment, and a word such as `new` is
also a value. Their order settles every case, so that resolving is a table over the segments of the
base (`resolve_standard`). -/
namespace RouteTemplate

open Alphabet (isVariable isPathCharacter)

/-! ## Routes of whole segments -/

/-- What a route of whole segments binds is what stands in the segments of its placeholders. -/
theorem Route.bindings?_ofSegments {separator : Char} {route : Route} {pieces : List Piece}
    {base : Text} (foreign : isVariable separator = false)
    (built : route.matcher = Matcher.ofSegments separator pieces)
    (named : Segments.places pieces = route.names.length)
    (plain : Segments.Plain separator pieces)
    (admitted : ∀ c ∈ base, isPathCharacter [separator] c = true) :
    route.bindings? [separator] base =
      (Segments.read? pieces (base.splitOn separator)).map (fun row =>
        Assignment.ofList (route.names.zip row)) := by
  rw [bindings?, built, Matcher.groups_ofSegments, if_pos named,
    Matcher.tolerantCaptures?_ofSegments foreign plain admitted]

/-- The key of a resolution, what it binds, and the extension. -/
def Resolution.summary (found : Resolution) : Key × List (Text × Text) × Option Text :=
  (found.route.key, found.bindings.entries, found.extension)

namespace Registry

def collectionName : Text := "prefix".toList

def itemName : Text := "id".toList

def newWord : Text := "new".toList

def editWord : Text := "edit".toList

def deleteWord : Text := "delete".toList

/-- The standard routes by the segments that follow the leading separator. -/
def standardTable : List Text → Option (Key × List (Text × Text))
  | [first] => some (.list, [(collectionName, first)])
  | [first, second] =>
      if second = newWord then some (.new, [(collectionName, first)])
      else some (.view, [(collectionName, first), (itemName, second)])
  | [first, second, third] =>
      if third = editWord then some (.edit, [(collectionName, first), (itemName, second)])
      else if third = deleteWord then
        some (.delete, [(collectionName, first), (itemName, second)])
      else if second = newWord then some (.new, [(collectionName, first)])
      else some (.view, [(collectionName, first), (itemName, second)])
  | [first, second, third, _] =>
      if third = editWord then some (.edit, [(collectionName, first), (itemName, second)])
      else if third = deleteWord then
        some (.delete, [(collectionName, first), (itemName, second)])
      else none
  | _ => none

/-- The segments of a standard pattern after its leading separator. -/
def standardPieces : Key → List Piece
  | .list => [.placeholder collectionName]
  | .view => [.placeholder collectionName, .placeholder itemName]
  | .new => [.placeholder collectionName, .literal newWord]
  | .edit => [.placeholder collectionName, .placeholder itemName, .literal editWord]
  | .delete => [.placeholder collectionName, .placeholder itemName, .literal deleteWord]

/-- The standard routes are routes of whole segments with distinct names. -/
theorem standard_routes_eq : ∀ route ∈ standard.routes,
    route.matcher = Matcher.ofSegments '/' (.literal [] :: standardPieces route.key) ∧
      route.names = (standardPieces route.key).filterMap Piece.name? ∧
      Segments.places (.literal [] :: standardPieces route.key) = route.names.length ∧
      route.names.Nodup := by
  decide

theorem standardPieces_plain (key : Key) :
    Segments.Plain '/' (.literal [] :: standardPieces key) := by
  cases key <;> decide

/-- What the route of a key reads in segments: the key and its bindings. -/
def standardReading (segments : List Text) (key : Key) : Option (Key × List (Text × Text)) :=
  (Segments.read? (.literal [] :: standardPieces key) segments).map (fun row =>
    (key, ((standardPieces key).filterMap Piece.name?).zip row))

variable {base : Text} {segments : List Text}

theorem summary_standard (admitted : ∀ c ∈ base, isPathCharacter ['/'] c = true)
    {route : Route} (member : route ∈ standard.routes) (extension : Option Text) :
    (route.bindings? ['/'] base).map (fun bindings =>
        Resolution.summary ⟨route, bindings, extension⟩) =
      (standardReading (base.splitOn '/') route.key).map (fun reading =>
        (reading.1, reading.2, extension)) := by
  obtain ⟨built, names, named, distinct⟩ := standard_routes_eq route member
  rw [Route.bindings?_ofSegments rfl built named (standardPieces_plain route.key) admitted,
    standardReading, Option.map_map, Option.map_map, ← names]
  refine Option.map_congr fun row found => ?_
  have counted := (Segments.read?_eq_some_iff.mp found).1.trans named
  rw [Function.comp_apply, Function.comp_apply, Resolution.summary,
    Assignment.entries_ofList_zip distinct counted]

theorem summary_first?_standard {text : Text}
    (admitted : ∀ c ∈ (Path.split text).base, isPathCharacter ['/'] c = true) :
    (Resolution.first? ['/'] standard.routes text).map Resolution.summary =
      (standard.keys.findSome? (standardReading ((Path.split text).base.splitOn '/'))).map
        (fun reading => (reading.1, reading.2, (Path.split text).extension)) := by
  rw [Resolution.first?, List.map_findSome?, List.map_findSome?, keys, List.findSome?_map]
  refine findSome?_congr fun route member => ?_
  rw [Function.comp_apply, Option.map_map]
  exact summary_standard admitted member (Path.split text).extension

/-- No standard route reads an empty segment after the leading separator. -/
theorem standardReading_eq_none (empty : [] ∈ segments) (key : Key) :
    standardReading ([] :: segments) key = none := by
  rw [standardReading, Option.map_eq_none_iff, Segments.read?, if_pos rfl]
  cases found : Segments.read? (standardPieces key) segments with
  | none => rfl
  | some row =>
      have present : .literal [] ∉ standardPieces key := by cases key <;> decide
      exact absurd empty (Segments.not_mem_of_read? present found)

/-- The standard routes are read in the order of their keys. -/
theorem findSome?_standardReading (filled : [] ∉ segments) :
    standard.keys.findSome? (standardReading ([] :: segments)) = standardTable segments := by
  have keys : standard.keys = [.edit, .delete, .new, .view, .list] := by rfl
  have present : ∀ segment ∈ segments, segment ≠ [] := fun segment member empty =>
    filled (empty ▸ member)
  have apart : deleteWord ≠ editWord := by decide
  rw [keys]
  simp only [List.findSome?_cons, List.findSome?_nil, standardReading, standardPieces]
  -- What is left to compare is settled by the number of segments and the words among them.
  match segments with
  | [] => simp [Segments.read?, standardTable]
  | [first] =>
      have here : first ≠ [] := by simpa using present
      simp [Segments.read?, standardTable, Piece.name?, here]
  | [first, second] =>
      obtain ⟨here, next⟩ : first ≠ [] ∧ second ≠ [] := by simpa using present
      by_cases new : second = newWord <;>
        simp [Segments.read?, standardTable, Piece.name?, here, next, new]
  | [first, second, third] =>
      obtain ⟨here, next, last⟩ : first ≠ [] ∧ second ≠ [] ∧ third ≠ [] := by simpa using present
      by_cases edit : third = editWord
      · simp [Segments.read?, standardTable, Piece.name?, here, next, edit]
      · by_cases delete : third = deleteWord
        · simp [Segments.read?, standardTable, Piece.name?, here, next, delete, apart]
        · by_cases new : second = newWord <;>
            simp [Segments.read?, standardTable, Piece.name?, here, next, last, edit, delete, new]
  | [first, second, third, fourth] =>
      obtain ⟨here, next, last, extra⟩ :
          first ≠ [] ∧ second ≠ [] ∧ third ≠ [] ∧ fourth ≠ [] := by
        simpa using present
      by_cases edit : third = editWord
      · simp [Segments.read?, standardTable, Piece.name?, here, next, edit, extra]
      · by_cases delete : third = deleteWord
        · simp [Segments.read?, standardTable, Piece.name?, here, next, delete, apart, extra]
        · simp [Segments.read?, standardTable, Piece.name?, here, next, edit, delete]
  | _ :: _ :: _ :: _ :: _ :: _ => simp [Segments.read?, standardTable]

/-- The segments of a base that starts with the separator, and those of a base that does not. -/
theorem splitOn_of_head? (leads : base.head? = some '/') :
    base.splitOn '/' = [] :: base.tail.splitOn '/' := by
  obtain ⟨rest, rfl⟩ := List.head?_eq_some_iff.mp leads
  exact List.splitOn_append_cons_self [] rest

theorem standardReading_eq_none_of_head? (other : base.head? ≠ some '/') (key : Key) :
    standardReading (base.splitOn '/') key = none := by
  rw [standardReading, Option.map_eq_none_iff]
  cases base with
  | nil => cases key <;> rfl
  | cons c rest =>
      have differs : ¬ (c == '/') = true := fun same => other (congrArg some (beq_iff_eq.mp same))
      obtain ⟨first, more, split⟩ := List.exists_cons_of_ne_nil (List.splitOn_ne_nil '/' rest)
      rw [List.splitOn_cons_eq_if_modifyHead, if_neg differs, split, List.modifyHead_cons,
        Segments.read?, if_neg (List.cons_ne_nil _ _)]

/-- How a path is resolved by the standard registry: not at all if its base does not start with the
separator or has an empty segment, and else as the table of its segments says. -/
theorem resolve_standard {text : Text}
    (accepted : Path.fault? Settings.standard.separatorText Settings.standard.limit text = none) :
    let base := (Path.split text).base
    let segments := base.tail.splitOn '/'
    ((base.head? ≠ some '/' ∨ [] ∈ segments) → standard.resolve (some text) = .ok none) ∧
      (base.head? = some '/' → [] ∉ segments →
        (standard.resolve (some text)).map (Option.map Resolution.summary) =
          .ok ((standardTable segments).map (fun (key, bindings) =>
            (key, bindings, (Path.split text).extension)))) := by
  intro base segments
  have admitted : ∀ c ∈ base, isPathCharacter ['/'] c = true := by
    intro c member
    apply (Path.fault?_eq_none_iff.mp accepted).2.2
    rw [Path.base_append_suffix text]
    exact List.mem_append_left _ member
  have resolved : standard.resolve (some text) =
      .ok (Resolution.first? ['/'] standard.routes text) :=
    resolve_eq_ok_iff.mpr ⟨text, rfl, accepted, rfl⟩
  have read := summary_first?_standard admitted
  rw [resolved]
  constructor
  · intro unreadable
    have missed : ∀ key ∈ standard.keys, standardReading (base.splitOn '/') key = none := by
      intro key _
      by_cases leads : base.head? = some '/'
      · rw [splitOn_of_head? leads]
        exact standardReading_eq_none (unreadable.resolve_left (not_not_intro leads)) key
      · exact standardReading_eq_none_of_head? leads key
    rw [List.findSome?_eq_none_iff.mpr missed, Option.map_none, Option.map_eq_none_iff] at read
    rw [read]
  · intro leads filled
    rw [Except.map, read, splitOn_of_head? leads, findSome?_standardReading filled]

/-- A fourth segment is tolerated, an empty one is not. -/
theorem resolve_standard_overlap :
    Path.fault? Settings.standard.separatorText Settings.standard.limit
        "/new/new/edit/x.json".toList = none ∧
      (standard.resolve (some "/new/new/edit/x.json".toList)).map (Option.map Resolution.summary) =
        .ok (some (.edit, [(collectionName, "new".toList), (itemName, "new".toList)],
          some "json".toList)) ∧
      standard.resolve (some "/users//7".toList) = .ok none := by
  have accepted : Path.fault? Settings.standard.separatorText Settings.standard.limit
      "/new/new/edit/x.json".toList = none := by rfl
  have accepted' : Path.fault? Settings.standard.separatorText Settings.standard.limit
      "/users//7".toList = none := by rfl
  refine ⟨accepted, ?_, (resolve_standard accepted').1 (.inr (by decide))⟩
  exact (resolve_standard accepted).2 rfl (by decide)

end Registry

end RouteTemplate
