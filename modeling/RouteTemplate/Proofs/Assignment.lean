import RouteTemplate.Assignment

/-! # Reading and narrowing assignments

What an assignment holds can be read off as a row of values for a row of names (`row`), built from
such rows (`row_ofList_zip`), and narrowed to some names (`get?_restrict`). -/
namespace RouteTemplate.Assignment

/-- The values of the names, from left to right. -/
def row (values : Assignment) (names : List Text) : List Text :=
  names.map (fun name => (values.get? name).getD [])

/-- The entries whose names are among the given ones. -/
def restrict (values : Assignment) (names : List Text) : Assignment :=
  ⟨values.entries.filter (fun entry => names.contains entry.1),
    values.nodup_names.sublist (List.filter_sublist.map Prod.fst)⟩

section

variable {values : Assignment} {names : List Text} {name : Text}

theorem get?_eq_none_iff : values.get? name = none ↔ name ∉ values.names := by
  rw [get?, List.lookup_eq_none_iff, Assignment.names]
  constructor
  · intro absent member
    obtain ⟨entry, stands, rfl⟩ := List.mem_map.mp member
    simpa using absent entry stands
  · intro absent entry stands
    rw [bne_iff_ne]
    rintro rfl
    exact absent (List.mem_map_of_mem stands)

theorem mem_entries_of_get? {value : Text} (found : values.get? name = some value) :
    (name, value) ∈ values.entries := by
  rw [get?, List.lookup_eq_some_iff] at found
  obtain ⟨before, after, split, -⟩ := found
  rw [split]
  exact List.mem_append_right before List.mem_cons_self

theorem get?_eq_some_iff_mem {value : Text} :
    values.get? name = some value ↔ (name, value) ∈ values.entries := by
  refine ⟨mem_entries_of_get?, fun member => ?_⟩
  obtain ⟨before, after, split⟩ := List.append_of_mem member
  refine List.lookup_eq_some_iff.mpr ⟨before, after, split, fun entry early => ?_⟩
  rw [bne_iff_ne]
  rintro rfl
  have distinct := values.nodup_names
  rw [split, List.map_append, List.nodup_append] at distinct
  exact distinct.2.2 _ (List.mem_map_of_mem early) _ List.mem_cons_self rfl

/-- The order of the entries does not matter for what is read. -/
theorem get?_eq_of_perm {others : Assignment} (same : others.entries.Perm values.entries)
    (name : Text) : others.get? name = values.get? name := by
  apply Option.ext
  intro value
  rw [get?_eq_some_iff_mem, get?_eq_some_iff_mem, same.mem_iff]

theorem mem_names_iff_exists : name ∈ values.names ↔ ∃ value, values.get? name = some value := by
  rw [← Option.isSome_iff_exists, ← Option.not_isNone, Bool.not_eq_true', ← Bool.not_eq_true,
    Option.isNone_iff_eq_none, get?_eq_none_iff, Decidable.not_not]

theorem getD_of_mem_names (member : name ∈ values.names) (other : Text) :
    some ((values.get? name).getD other) = values.get? name := by
  obtain ⟨value, found⟩ := mem_names_iff_exists.mp member
  rw [found]
  rfl

theorem names_restrict (values : Assignment) (names : List Text) :
    (values.restrict names).names = values.names.filter names.contains := by
  rw [Assignment.names, Assignment.names, List.filter_map]
  rfl

theorem get?_restrict (member : name ∈ names) :
    (values.restrict names).get? name = values.get? name := by
  show (values.entries.filter (fun entry => names.contains entry.1)).lookup name = _
  rw [get?]
  induction values.entries with
  | nil => rfl
  | cons entry entries ih =>
      by_cases kept : names.contains entry.1 = true
      · rw [List.filter_cons, if_pos kept, List.lookup_cons, List.lookup_cons, ih]
      · have differs : (name == entry.1) = false := by
          rw [beq_eq_false_iff_ne]
          rintro rfl
          exact kept (List.contains_iff_mem.mpr member)
        rw [List.filter_cons, if_neg kept, List.lookup_cons, differs, ih]

end

/-! ## Assignments built from rows -/

theorem putEntry_of_not_mem {entries : List (Text × Text)} {name : Text}
    (absent : name ∉ entries.map Prod.fst) (value : Text) :
    putEntry name value entries = entries ++ [(name, value)] := by
  induction entries with
  | nil => rfl
  | cons entry entries ih =>
      rw [List.map_cons, List.mem_cons, not_or] at absent
      rw [putEntry, if_neg (Ne.symm absent.1), ih absent.2, List.cons_append]

theorem entries_foldl_put {pairs : List (Text × Text)} (values : Assignment)
    (distinct : ((values.entries ++ pairs).map Prod.fst).Nodup) :
    (pairs.foldl (fun values pair => values.put pair.1 pair.2) values).entries =
      values.entries ++ pairs := by
  induction pairs generalizing values with
  | nil => simp
  | cons pair pairs ih =>
      have absent : pair.1 ∉ values.entries.map Prod.fst := by
        intro member
        rw [List.map_append, List.nodup_append] at distinct
        exact distinct.2.2 _ member _ List.mem_cons_self rfl
      have entries : (values.put pair.1 pair.2).entries = values.entries ++ [pair] :=
        putEntry_of_not_mem absent pair.2
      rw [List.foldl_cons, ih _ (by rw [entries]; simpa using distinct), entries, List.append_assoc]
      rfl

theorem entries_ofList {pairs : List (Text × Text)} (distinct : (pairs.map Prod.fst).Nodup) :
    (ofList pairs).entries = pairs :=
  entries_foldl_put empty distinct

section

variable {names row : List Text}

theorem entries_ofList_zip (distinct : names.Nodup) (counted : row.length = names.length) :
    (ofList (names.zip row)).entries = names.zip row := by
  apply entries_ofList
  rw [List.map_fst_zip (Nat.le_of_eq counted.symm)]
  exact distinct

theorem names_ofList_zip (distinct : names.Nodup) (counted : row.length = names.length) :
    (ofList (names.zip row)).names = names := by
  rw [Assignment.names, entries_ofList_zip distinct counted,
    List.map_fst_zip (Nat.le_of_eq counted.symm)]

theorem row_ofList_zip (distinct : names.Nodup) (counted : row.length = names.length) :
    (ofList (names.zip row)).row names = row := by
  have entries := entries_ofList_zip distinct counted
  simp only [Assignment.row, get?, entries]
  clear entries
  induction names generalizing row with
  | nil => rw [List.length_eq_zero_iff.mp counted]; rfl
  | cons name names ih =>
      obtain ⟨value, row, rfl⟩ := List.exists_cons_of_length_eq_add_one counted
      obtain ⟨absent, distinct⟩ := List.nodup_cons.mp distinct
      rw [List.zip_cons_cons, List.map_cons, List.lookup_cons_self]
      refine congrArg (value :: ·) ((List.map_congr_left fun other member => ?_).trans
        (ih distinct (Nat.succ.inj counted)))
      have differs : (other == name) = false := by
        rw [beq_eq_false_iff_ne]
        rintro rfl
        exact absent member
      rw [List.lookup_cons, differs]

end

end RouteTemplate.Assignment
