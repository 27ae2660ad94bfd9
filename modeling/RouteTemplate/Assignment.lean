import RouteTemplate.Text

/-! # Assignments

An assignment gives values to names, each name once. Entries stand in the order in which their names
first came, and a later value for the same name takes the place of the earlier one: `get?_put_self`
and `get?_put_of_ne`. -/
namespace RouteTemplate

structure Assignment where
  entries : List (Text × Text)
  nodup_names : (entries.map Prod.fst).Nodup
  deriving DecidableEq

namespace Assignment

def empty : Assignment := ⟨[], List.nodup_nil⟩

def names (values : Assignment) : List Text := values.entries.map Prod.fst

def get? (values : Assignment) (name : Text) : Option Text := values.entries.lookup name

/-- The entries with `value` under `name`, in the place of the old value if there is one. -/
def putEntry (name value : Text) : List (Text × Text) → List (Text × Text)
  | [] => [(name, value)]
  | (first, old) :: rest =>
      if first = name then (name, value) :: rest else (first, old) :: putEntry name value rest

theorem mem_names_putEntry {name value other : Text} {entries : List (Text × Text)} :
    other ∈ (putEntry name value entries).map Prod.fst ↔
      other = name ∨ other ∈ entries.map Prod.fst := by
  induction entries with
  | nil => simp [putEntry]
  | cons entry rest ih =>
      obtain ⟨first, old⟩ := entry
      by_cases same : first = name
      · simp [putEntry, same]
      · simp only [putEntry, if_neg same, List.map_cons, List.mem_cons, ih]
        grind

theorem nodup_names_putEntry {name value : Text} {entries : List (Text × Text)}
    (nodup : (entries.map Prod.fst).Nodup) : ((putEntry name value entries).map Prod.fst).Nodup := by
  induction entries with
  | nil => simp [putEntry]
  | cons entry rest ih =>
      obtain ⟨first, old⟩ := entry
      rw [List.map_cons, List.nodup_cons] at nodup
      by_cases same : first = name
      · subst same
        simpa [putEntry] using nodup
      · rw [putEntry, if_neg same, List.map_cons, List.nodup_cons, mem_names_putEntry]
        exact ⟨fun member => member.elim same nodup.1, ih nodup.2⟩

def put (values : Assignment) (name value : Text) : Assignment :=
  ⟨putEntry name value values.entries, nodup_names_putEntry values.nodup_names⟩

/-- Of several values for a name the last one counts. -/
def ofList (pairs : List (Text × Text)) : Assignment :=
  pairs.foldl (fun values pair => values.put pair.1 pair.2) empty

/-! ## Reading after writing -/

theorem mem_names_put {values : Assignment} {name value other : Text} :
    other ∈ (values.put name value).names ↔ other = name ∨ other ∈ values.names :=
  mem_names_putEntry

theorem get?_put_self (values : Assignment) (name value : Text) :
    (values.put name value).get? name = some value := by
  obtain ⟨entries, nodup⟩ := values
  simp only [put, get?]
  clear nodup
  induction entries with
  | nil => simp [putEntry]
  | cons entry rest ih =>
      obtain ⟨first, old⟩ := entry
      by_cases same : first = name
      · simp [putEntry, same]
      · have differs : (name == first) = false := by simp [Ne.symm same]
        rw [putEntry, if_neg same, List.lookup_cons, differs]
        exact ih

theorem get?_put_of_ne (values : Assignment) {name other : Text} (value : Text)
    (ne : other ≠ name) : (values.put name value).get? other = values.get? other := by
  obtain ⟨entries, nodup⟩ := values
  simp only [put, get?]
  clear nodup
  have differs : (other == name) = false := by simp [ne]
  induction entries with
  | nil => rw [putEntry, List.lookup_cons, differs, List.lookup_nil]
  | cons entry rest ih =>
      obtain ⟨first, old⟩ := entry
      by_cases same : first = name
      · subst same
        rw [putEntry, if_pos rfl, List.lookup_cons, List.lookup_cons, differs]
      · rw [putEntry, if_neg same, List.lookup_cons, List.lookup_cons, ih]

end Assignment
end RouteTemplate
