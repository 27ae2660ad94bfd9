import RouteTemplate.Proofs.Path.Built
import RouteTemplate.Proofs.Registry.Standard

/-! # The paths of the standard registry

A path that the standard registry builds from values without points has no extension, and its segments
are those of the pattern with the values in their places. The table of the standard registry gives such
segments back to the key that they were built for, with one exception: an item whose name is the word
for a new item (`resolve_merge_own`). -/
namespace RouteTemplate

open Alphabet (isVariable isPathCharacter spells spells_iff)

namespace Assignment

/-- A row of an assignment, bound to its names again, is the assignment narrowed to the names. -/
theorem get?_ofList_zip_row {values : Assignment} {names : List Text} (distinct : names.Nodup)
    (bound : ∀ name ∈ names, name ∈ values.names) (name : Text) :
    (ofList (names.zip (values.row names))).get? name = (values.restrict names).get? name := by
  have counted := length_row values names
  have listed := names_ofList_zip distinct counted
  by_cases member : name ∈ names
  · have held : name ∈ (ofList (names.zip (values.row names))).names := by rwa [listed]
    calc (ofList (names.zip (values.row names))).get? name
        = some (((ofList (names.zip (values.row names))).get? name).getD []) :=
          (getD_of_mem_names held []).symm
      _ = some ((values.get? name).getD []) :=
          congrArg some (List.map_inj_left.mp (row_ofList_zip distinct counted) name member)
      _ = values.get? name := getD_of_mem_names (bound name member) []
      _ = (values.restrict names).get? name := (get?_restrict member).symm
  · have absent : name ∉ (values.restrict names).names := by
      rw [names_restrict]
      exact fun kept => member (List.contains_iff_mem.mp (List.mem_filter.mp kept).2)
    rw [get?_eq_none_iff.mpr absent, get?_eq_none_iff, listed]
    exact member

end Assignment

namespace Registry

/-- A collection and an item, and nothing else, both spelt with variable characters but points. -/
structure StandardValues (values : Assignment) (first item : Text) : Prop where
  collection_eq : values.get? collectionName = some first
  item_eq : values.get? itemName = some item
  others : ∀ name ∈ values.names, name = collectionName ∨ name = itemName
  spelt : spells isVariable first = true ∧ spells isVariable item = true
  pointless : '.' ∉ first ∧ '.' ∉ item

/-- The names of the placeholders in a standard pattern. -/
def standardNames (key : Key) : List Text := (standardPieces key).filterMap Piece.name?

theorem exists_standard_route (key : Key) :
    ∃ route ∈ standard.routes, standard.get (.key key) = .ok route ∧ route.key = key := by
  have known : key ∈ standard.keys := by cases key <;> decide
  obtain ⟨route, member, rfl⟩ := List.mem_map.mp known
  have well := wellBuilt_of_build build_standardTemplates
  exact ⟨route, member, well.get_eq_ok_iff.mpr ⟨member, rfl⟩, rfl⟩

theorem mem_standardNames {key : Key} {name : Text} (member : name ∈ standardNames key) :
    name = collectionName ∨ name = itemName := by
  have all : ∀ name ∈ standardNames key, name = collectionName ∨ name = itemName := by
    cases key <;> decide
  exact all name member

theorem standardPieces_pointless (key : Key) :
    let matcher := Matcher.ofSegments '/' (.literal [] :: standardPieces key)
    '.' ∉ matcher.lead ∧ ∀ literal ∈ matcher.tails, '.' ∉ literal := by
  cases key <;> decide

namespace StandardValues

variable {values : Assignment} {first item : Text}

theorem mem_names (given : StandardValues values first item) {key : Key} :
    ∀ name ∈ standardNames key, name ∈ values.names := by
  intro name member
  apply Assignment.mem_names_iff_exists.mpr
  rcases mem_standardNames member with rfl | rfl
  · exact ⟨first, given.collection_eq⟩
  · exact ⟨item, given.item_eq⟩

theorem mem_row (given : StandardValues values first item) {key : Key} :
    ∀ value ∈ values.row (standardNames key), value = first ∨ value = item := by
  intro value member
  obtain ⟨name, among, rfl⟩ := List.mem_map.mp member
  rcases mem_standardNames among with rfl | rfl
  · exact .inl (by rw [given.collection_eq]; rfl)
  · exact .inr (by rw [given.item_eq]; rfl)

/-- The two names hold no brace, so that neither spans placeholders. -/
theorem spans_eq_false (given : StandardValues values first item) {separator pattern : Text}
    (valid : Pattern.violation? separator pattern = none) :
    ∀ name ∈ values.names, Pattern.spans pattern name = false := by
  intro name member
  rw [← Bool.not_eq_true]
  intro across
  obtain ⟨c, stands, brace⟩ := Pattern.exists_brace_of_spans valid across
  have free : (collectionName ++ itemName).all (fun c => !Alphabet.isBrace c) = true := by decide
  have held : c ∈ collectionName ++ itemName := by
    rcases given.others name member with rfl | rfl
    · exact List.mem_append_left _ stands
    · exact List.mem_append_right _ stands
  have unbraced := List.all_eq_true.mp free c held
  rw [brace] at unbraced
  cases unbraced

/-- What the table says of the segments of a standard pattern. -/
theorem standardTable_filled (given : StandardValues values first item) (key : Key) :
    standardTable (Segments.filled (standardPieces key) (values.row (standardNames key))) =
      if key = .view ∧ item = newWord then some (.new, [(collectionName, first)])
      else some (key, (standardNames key).zip (values.row (standardNames key))) := by
  have apart : deleteWord ≠ editWord := by decide
  cases key <;>
    simp [standardTable, Segments.filled, standardPieces, standardNames, Piece.name?,
      Assignment.row, given.collection_eq, given.item_eq, apart]

/-- The path of a key has the segments of its pattern with the values in their places, and no point. -/
theorem exists_path (given : StandardValues values first item) (key : Key) :
    ∃ route path, standard.get (.key key) = .ok route ∧
      Pattern.placeholderNames route.pattern = standardNames key ∧
      standard.merge (.key key) (some values) = .ok path ∧ '.' ∉ path ∧
      (∀ limit : Int, path.length ≤ limit → Path.fault? ['/'] limit path = none) ∧
      path.splitOn '/' =
        [] :: Segments.filled (standardPieces key) (values.row (standardNames key)) := by
  obtain ⟨route, member, got, rfl⟩ := exists_standard_route key
  have well := wellBuilt_of_build build_standardTemplates
  have valid : Pattern.violation? ['/'] route.pattern = none := well.valid route member
  obtain ⟨built, names, named, -⟩ := standard_routes_eq route member
  have placeholders : Pattern.placeholderNames route.pattern = standardNames route.key := by
    have own : (Route.ofTemplate ⟨route.key, route.pattern⟩).names = _ :=
      Route.names_ofTemplate valid
    rw [← own, ← well.routed route member]
    exact names
  have segmented : Pattern.matcher route.pattern =
      Matcher.ofSegments '/' (.literal [] :: standardPieces route.key) := by
    rw [← built, well.routed route member]
    rfl
  have counted : (values.row (standardNames route.key)).length =
      (Pattern.matcher route.pattern).groups := by
    rw [← placeholders, Assignment.length_row_eq_groups valid]
  have spelt : ∀ value ∈ values.row (standardNames route.key), spells isVariable value = true := by
    intro value among
    rcases given.mem_row value among with rfl | rfl
    · exact given.spelt.1
    · exact given.spelt.2
  have merged := (Pattern.merge_eq_ok_iff valid (given.spans_eq_false valid)).mpr
    ⟨by rw [placeholders]; exact given.mem_names, rfl⟩
  rw [placeholders] at merged
  have wellFormed := Pattern.wellFormed_ofPattern (by rfl) valid
  refine ⟨route, _, got, placeholders, (merge_of_get got values).trans merged, ?_, ?_, ?_⟩
  · rw [Matcher.mem_filled_iff counted, segmented]
    obtain ⟨lead, tails⟩ := standardPieces_pointless route.key
    rintro (stands | ⟨literal, tail, stands⟩ | ⟨value, held, stands⟩)
    · exact lead stands
    · exact tails literal tail stands
    · rcases given.mem_row value held with rfl | rfl
      · exact given.pointless.1 stands
      · exact given.pointless.2 stands
  · intro limit short
    have faultless : Path.fault? ['/'] limit
        ((Pattern.matcher route.pattern).filled (values.row (standardNames route.key)) ++ []) = none :=
      wellFormed.fault?_filled counted spelt (List.forall_mem_nil _)
        (by rw [List.append_nil]; exact short)
    rwa [List.append_nil] at faultless
  · rw [segmented] at counted ⊢
    rw [Matcher.groups_ofSegments] at counted
    exact Matcher.splitOn_filled (by rfl) (standardPieces_plain route.key) counted spelt

end StandardValues

/-- A path without points is resolved as the table of its segments says. -/
theorem exists_resolution_of_standardTable {path : Text} {segments : List Text} {key : Key}
    {bindings : List (Text × Text)} (pointless : '.' ∉ path)
    (faultless : Path.fault? ['/'] Settings.standard.limit path = none)
    (split : path.splitOn '/' = [] :: segments) (filled : [] ∉ segments)
    (row : standardTable segments = some (key, bindings)) :
    ∃ found, standard.resolve (some path) = .ok (some found) ∧ found.route.key = key ∧
      found.bindings.entries = bindings ∧ found.extension = none := by
  have closed : Path.split path = ⟨path, none⟩ := Path.split_of_closed (.inl pointless)
  have admitted : ∀ c ∈ (Path.split path).base, isPathCharacter ['/'] c = true := by
    rw [closed]
    exact (Path.fault?_eq_none_iff.mp faultless).2.2
  have read := summary_first?_standard admitted
  simp only [closed, split, findSome?_standardReading filled, row, Option.map_some] at read
  obtain ⟨found, first, summary⟩ := Option.map_eq_some_iff.mp read
  simp only [Resolution.summary, Prod.mk.injEq] at summary
  exact ⟨found, resolve_eq_ok_iff.mpr ⟨path, rfl, faultless, first.symm⟩, summary⟩

/-- A standard path comes back to its key with its values, unless it shows an item that is named like
the form for a new item: that path comes back to the form. -/
theorem resolve_merge_own {values : Assignment} {first item : Text}
    (given : StandardValues values first item) (key : Key) :
    ∃ route path, standard.get (.key key) = .ok route ∧
      standard.merge (.key key) (some values) = .ok path ∧
      (path.length ≤ 2048 →
        ∃ found, standard.resolve (some path) = .ok (some found) ∧ found.extension = none ∧
          (¬ (key = .view ∧ item = newWord) → found.route.key = key ∧
            ∀ name, found.bindings.get? name =
              (values.restrict (Pattern.placeholderNames route.pattern)).get? name) ∧
          (key = .view ∧ item = newWord → found.route.key = .new ∧
            found.bindings.entries = [(collectionName, first)])) := by
  obtain ⟨route, path, got, placeholders, merged, pointless, acceptable, segments⟩ :=
    given.exists_path key
  refine ⟨route, path, got, merged, fun short => ?_⟩
  have faultless := acceptable Settings.standard.limit (Int.ofNat_le.mpr short)
  have filled : [] ∉ Segments.filled (standardPieces key) (values.row (standardNames key)) := by
    intro empty
    rcases Segments.mem_filled empty with literal | value
    · revert literal
      cases key <;> decide
    · rcases given.mem_row [] value with rfl | rfl
      · cases given.spelt.1
      · cases given.spelt.2
  have table := given.standardTable_filled key
  by_cases shadowed : key = .view ∧ item = newWord
  · rw [if_pos shadowed] at table
    obtain ⟨found, resolved, same, entries, bare⟩ :=
      exists_resolution_of_standardTable pointless faultless segments filled table
    exact ⟨found, resolved, bare, fun other => absurd shadowed other, fun _ => ⟨same, entries⟩⟩
  · rw [if_neg shadowed] at table
    obtain ⟨found, resolved, same, entries, bare⟩ :=
      exists_resolution_of_standardTable pointless faultless segments filled table
    refine ⟨found, resolved, bare, fun _ => ⟨same, fun name => ?_⟩,
      fun other => absurd other shadowed⟩
    have distinct : (standardNames key).Nodup := by cases key <;> decide
    have counted := Assignment.length_row values (standardNames key)
    rw [placeholders, ← Assignment.get?_ofList_zip_row distinct given.mem_names, Assignment.get?,
      entries, Assignment.get?, Assignment.entries_ofList_zip distinct counted]

/-- The form for a new item answers for an item that is named like it. -/
theorem resolve_merge_own_new :
    let values := Assignment.ofList [("id".toList, "new".toList), ("prefix".toList, "users".toList)]
    ∃ path found, standard.merge (.key .view) (some values) = .ok path ∧
      standard.resolve (some path) = .ok (some found) ∧ found.route.key = .new ∧
      found.bindings.entries = [("prefix".toList, "users".toList)] := by
  intro values
  have given : StandardValues values "users".toList "new".toList :=
    ⟨by rfl, by rfl, by decide, by decide, by decide⟩
  obtain ⟨_, path, -, merged, comes⟩ := resolve_merge_own given .view
  have whole : standard.merge (.key .view) (some values) = .ok "/users/new".toList := by rfl
  obtain rfl := Except.ok.inj (merged.symm.trans whole)
  obtain ⟨found, resolved, -, -, form⟩ := comes (by decide)
  exact ⟨_, found, merged, resolved, form ⟨rfl, rfl⟩⟩

end Registry

end RouteTemplate
