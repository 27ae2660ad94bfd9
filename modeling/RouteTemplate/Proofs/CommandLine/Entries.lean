import RouteTemplate.CommandLine.Entry
import RouteTemplate.Proofs.Rows

/-! # Rows of entries

A row of texts is a row of entries exactly when each of them has an equals sign and a name before it
(`mapM_entry_eq_ok_iff`); the first text that is malformed is reported. -/
namespace RouteTemplate.CommandLine

variable {text : Text} {name value : Text} {failure : Failure}

/-- The text has no equals sign, or no name before the first one. -/
inductive Malformed : Text → Prop where
  | unmarked {text : Text} (absent : '=' ∉ text) : Malformed text
  | nameless (value : Text) : Malformed (writtenEntry [] value)

theorem entry_eq_ok_iff :
    entry text = .ok (name, value) ↔ text = writtenEntry name value ∧ name ≠ [] ∧ '=' ∉ name := by
  constructor
  · intro read
    rw [entry] at read
    split at read
    · next c rest after cut =>
        cases read
        obtain ⟨spelt, plain⟩ := Text.cutAtFirst_eq_some_iff.mp cut
        exact ⟨spelt, List.cons_ne_nil _ _, plain⟩
    · cases read
  · rintro ⟨rfl, named, plain⟩
    exact entry_writtenEntry value named plain

theorem malformed_or_written (text : Text) :
    Malformed text ∨ ∃ name value, text = writtenEntry name value ∧ name ≠ [] ∧ '=' ∉ name := by
  by_cases marked : '=' ∈ text
  · obtain ⟨name, value, rfl, plain⟩ := List.eq_append_cons_of_mem marked
    by_cases named : name = []
    · subst named
      exact .inl (.nameless value)
    · exact .inr ⟨name, value, rfl, named, plain⟩
  · exact .inl (.unmarked marked)

theorem Malformed.entry (wrong : Malformed text) :
    entry text = .error (.malformedAssignment text) := by
  cases wrong with
  | unmarked absent =>
      cases cut : Text.cutAtFirst '=' text with
      | none => rw [CommandLine.entry, cut]
      | some halves =>
          obtain ⟨spelt, -⟩ := Text.cutAtFirst_eq_some_iff.mp cut
          exact absurd (spelt ▸ List.mem_append_right _ List.mem_cons_self) absent
  | nameless value => rfl

theorem entry_eq_error_iff :
    entry text = .error failure ↔ Malformed text ∧ failure = .malformedAssignment text := by
  constructor
  · intro refused
    rcases malformed_or_written text with wrong | ⟨name, value, written⟩
    · rw [wrong.entry] at refused
      cases refused
      exact ⟨wrong, rfl⟩
    · rw [entry_eq_ok_iff.mpr written] at refused
      cases refused
  · rintro ⟨wrong, rfl⟩
    exact wrong.entry

/-! ## Rows of texts -/

/-- The texts are the given entries as they are written, and each entry has a name to write. -/
structure Written (texts : List Text) (entries : List (Text × Text)) : Prop where
  spelt : texts = entries.map (fun entry => writtenEntry entry.1 entry.2)
  named : ∀ entry ∈ entries, entry.1 ≠ [] ∧ '=' ∉ entry.1

variable {texts : List Text} {entries : List (Text × Text)}

theorem mapM_entry_eq_ok_iff : texts.mapM entry = .ok entries ↔ Written texts entries := by
  rw [mapM_eq_ok_iff]
  constructor
  · intro read
    induction texts generalizing entries with
    | nil =>
        obtain rfl := List.map_eq_nil_iff.mp read.symm
        exact ⟨rfl, List.forall_mem_nil _⟩
    | cons text texts ih =>
        obtain ⟨⟨name, value⟩, others, rfl, here, rest⟩ := List.map_eq_cons_iff.mp read.symm
        obtain ⟨rfl, sound⟩ := entry_eq_ok_iff.mp here.symm
        obtain ⟨rfl, named⟩ := ih rest.symm
        exact ⟨rfl, List.forall_mem_cons.mpr ⟨sound, named⟩⟩
  · rintro ⟨rfl, named⟩
    rw [List.map_map]
    exact List.map_congr_left fun written member =>
      entry_eq_ok_iff.mpr ⟨rfl, named written member⟩

theorem exists_malformed_of_mapM_entry (refused : texts.mapM entry = .error failure) :
    ∃ text ∈ texts, Malformed text ∧ failure = .malformedAssignment text := by
  obtain ⟨before, text, after, rfl, -, here⟩ := mapM_eq_error_iff.mp refused
  exact ⟨text, List.mem_append_right before List.mem_cons_self, entry_eq_error_iff.mp here⟩

theorem Malformed.not_written (wrong : Malformed text) (given : text ∈ texts) :
    ¬ Written texts entries := by
  rintro ⟨rfl, named⟩
  obtain ⟨⟨name, value⟩, member, rfl⟩ := List.mem_map.mp given
  have refused := wrong.entry
  rw [entry_eq_ok_iff.mpr ⟨rfl, named _ member⟩] at refused
  cases refused

end RouteTemplate.CommandLine
