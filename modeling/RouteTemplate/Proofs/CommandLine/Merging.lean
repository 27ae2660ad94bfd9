import RouteTemplate.Proofs.CommandLine.Status
import RouteTemplate.Proofs.Pattern.Substitution
import RouteTemplate.Proofs.Resolution

/-! # Merging on the command line

The first equals sign of an entry ends its name, so that an entry can give any value to a name, but only
to a name without an equals sign. Patterns admit equals signs in the names of their placeholders. The
entries of an assignment therefore merge to what the registry merges as long as no name holds one;
with such a name they are refused, whatever the values are (`Request.report_merge_iff`). -/
namespace RouteTemplate

/-- The assignment has a value for each placeholder name of the pattern and for nothing else. -/
def Assignment.Covers (values : Assignment) (pattern : Text) : Prop :=
  ∀ name, name ∈ values.names ↔ name ∈ Pattern.placeholderNames pattern

namespace CommandLine

/-- Entries as they are written, one text for each. -/
def writtenEntries (entries : List (Text × Text)) : List Text :=
  entries.map (fun entry => writtenEntry entry.1 entry.2)

/-! ## Names that are read from written entries -/

section

variable {separator pattern path name value other rest : Text} {entries found : List (Text × Text)}

/-- The name that is read from an entry begins the name that was written. -/
theorem prefix_of_writtenEntry_eq (same : writtenEntry name value = writtenEntry other rest)
    (plain : '=' ∉ name) : name <+: other := by
  rcases List.append_eq_append_iff.mp same with ⟨more, longer, -⟩ | ⟨more, longer, first⟩
  · exact ⟨more, longer.symm⟩
  · cases more with
    | nil => exact ⟨[], by rw [longer, List.append_nil, List.append_nil]⟩
    | cons c more =>
        obtain ⟨rfl, -⟩ := List.cons.inj first
        exact absurd (longer ▸ List.mem_append_right other List.mem_cons_self) plain

theorem Written.exists_entry (read : Written (writtenEntries entries) found)
    (member : name ∈ found.map Prod.fst) :
    '=' ∉ name ∧ ∃ entry ∈ entries, name <+: entry.1 := by
  obtain ⟨reading, among, rfl⟩ := List.mem_map.mp member
  have plain := (read.named reading among).2
  have stands : writtenEntry reading.1 reading.2 ∈ writtenEntries entries :=
    read.spelt ▸ List.mem_map_of_mem among
  obtain ⟨entry, given, same⟩ := List.mem_map.mp stands
  exact ⟨plain, entry, given, prefix_of_writtenEntry_eq same.symm plain⟩

/-- Whatever is read from entries for the placeholder names, a placeholder name with an equals sign is
left without a value. -/
theorem Written.merge_ne_ok (valid : Pattern.violation? separator pattern = none)
    (listed : ∀ entry ∈ entries, entry.1 ∈ Pattern.placeholderNames pattern)
    (member : name ∈ Pattern.placeholderNames pattern) (marked : '=' ∈ name)
    (read : Written (writtenEntries entries) found) :
    Pattern.merge pattern (Assignment.ofList found) ≠ .ok path := by
  -- A name that is read is part of a placeholder name, so that it cannot span several of them.
  have within : ∀ reading ∈ (Assignment.ofList found).names,
      Pattern.spans pattern reading = false := by
    intro reading among
    rw [← Bool.not_eq_true]
    intro across
    obtain ⟨-, entry, given, begins⟩ := read.exists_entry (Assignment.mem_names_ofList among)
    obtain ⟨-, free⟩ := Pattern.named_of_mem_placeholderNames valid (listed entry given)
    obtain ⟨c, stands, brace⟩ := Pattern.exists_brace_of_spans valid across
    rw [Brace.ofChar?_eq_none_iff.mp (free c (begins.subset stands))] at brace
    cases brace
  intro merged
  have bound := ((Pattern.merge_eq_ok_iff valid within).mp merged).1 name member
  exact (read.exists_entry (Assignment.mem_names_ofList bound)).1 marked

end

/-! ## Entries for the placeholder names -/

section

variable {registry : Registry} {route : Route} {key : Text} {values : Assignment}
  {entries : List (Text × Text)}

theorem mergeEntries_of_plain (well : registry.WellBuilt) (registered : route ∈ registry.routes)
    (named : Key.ofText? key = some route.key) (covers : values.Covers route.pattern)
    (listed : entries.Perm values.entries) (plain : ∀ name ∈ values.names, '=' ∉ name) :
    mergeEntries registry key (writtenEntries entries) =
      registry.merge (.text key) (some values) := by
  have got : registry.get (.text key) = .ok route := well.get_eq_ok_iff.mpr ⟨registered, named⟩
  have names := listed.map Prod.fst
  have spelt : ∀ entry ∈ entries, entry.1 ≠ [] ∧ '=' ∉ entry.1 := by
    intro entry member
    have among : entry.1 ∈ values.names := names.subset (List.mem_map_of_mem member)
    have valid := well.valid route registered
    exact ⟨(Pattern.named_of_mem_placeholderNames valid ((covers _).mp among)).1, plain _ among⟩
  have read : Written (writtenEntries entries) entries := ⟨rfl, spelt⟩
  have kept : (Assignment.ofList entries).entries = entries :=
    Assignment.entries_ofList (names.nodup_iff.mpr values.nodup_names)
  rw [mergeEntries_of_written read, Registry.merge_of_get got, Registry.merge_of_get got]
  apply Pattern.merge_eq_of_perm
  rw [kept]
  exact listed

theorem exists_failure_of_marked (well : registry.WellBuilt) (registered : route ∈ registry.routes)
    (named : Key.ofText? key = some route.key) (covers : values.Covers route.pattern)
    (listed : entries.Perm values.entries) (marked : ∃ name ∈ values.names, '=' ∈ name) :
    ∃ failure, mergeEntries registry key (writtenEntries entries) = .error failure := by
  have got : registry.get (.text key) = .ok route := well.get_eq_ok_iff.mpr ⟨registered, named⟩
  obtain ⟨name, member, marked⟩ := marked
  have among : ∀ entry ∈ entries, entry.1 ∈ Pattern.placeholderNames route.pattern := by
    intro entry given
    exact (covers _).mp ((listed.map Prod.fst).subset (List.mem_map_of_mem given))
  cases outcome : mergeEntries registry key (writtenEntries entries) with
  | error failure => exact ⟨failure, rfl⟩
  | ok path =>
      cases reading : (writtenEntries entries).mapM entry with
      | error failure =>
          rw [mergeEntries, reading] at outcome
          cases outcome
      | ok found =>
          have read := mapM_entry_eq_ok_iff.mp reading
          rw [mergeEntries_of_written read, Registry.merge_of_get got] at outcome
          exact absurd outcome
            (read.merge_ne_ok (well.valid route registered) among ((covers name).mp member) marked)

end

/-- A registry merges every assignment of values to the placeholder names of one of its templates. Its
entries, in any order, merge to the same path on the command line unless one of the names holds an
equals sign, and then they are refused. -/
theorem Request.report_merge_iff {definitions : List (Option Text)} {registry : Registry}
    {route : Route} {key : Text} {values : Assignment} {entries : List (Text × Text)}
    (built : registryOf definitions = .ok registry) (registered : route ∈ registry.routes)
    (named : key = route.key.word ∨ key = route.key.label) (covers : values.Covers route.pattern)
    (listed : entries.Perm values.entries) :
    let request : Request := ⟨definitions, .merge key (writtenEntries entries)⟩
    ∃ path, registry.merge (.text key) (some values) = .ok path ∧
      ((∀ name ∈ values.names, '=' ∉ name) → request.report = .ok (.success (line path))) ∧
      ((∃ name ∈ values.names, '=' ∈ name) →
        ∃ failure, request.report = .ok (.failed failure)) := by
  intro request
  have well := wellBuilt_of_registryOf built
  have known := Key.ofText?_eq_some_iff.mpr named
  have got : registry.get (.text key) = .ok route := well.get_eq_ok_iff.mpr ⟨registered, known⟩
  have merged := Pattern.merge_of_names (well.valid route registered) covers
  have reported : request.report = .ok (request.task.report registry) :=
    report_of_registryOf built
  refine ⟨_, (Registry.merge_of_get got values).trans merged, fun plain => ?_, fun marked => ?_⟩
  · rw [reported, Task.report, mergeEntries_of_plain well registered known covers listed plain,
      Registry.merge_of_get got, merged]
  · obtain ⟨failure, refused⟩ := exists_failure_of_marked well registered known covers listed marked
    rw [reported, Task.report, refused]
    exact ⟨failure, rfl⟩

/-- Names with a separator, a point and a dash, values with an equals sign and with braces, and the entries
in another order than the placeholders. -/
theorem Request.report_merge_iff_reordered :
    let definitions := [some "new=/\x7bc.d\x7d".toList, some "show=/x/\x7ba/b\x7d;\x7b-c\x7d".toList]
    let first := ("a/b".toList, "1=2".toList)
    let second := ("-c".toList, "\x7ba/b\x7d".toList)
    let values := Assignment.ofList [first, second]
    ∃ registry route, registryOf definitions = .ok registry ∧ route ∈ registry.routes ∧
      "SHOW".toList = route.key.label ∧ values.Covers route.pattern ∧
      [second, first].Perm values.entries ∧ (∀ name ∈ values.names, '=' ∉ name) ∧
      registry.merge (.text "SHOW".toList) (some values) = .ok "/x/1=2;\x7ba/b\x7d".toList ∧
      Request.report ⟨definitions, .merge "SHOW".toList ["-c=\x7ba/b\x7d".toList, "a/b=1=2".toList]⟩ =
        .ok (.success (line "/x/1=2;\x7ba/b\x7d".toList)) := by
  intro definitions first second values
  let shown : Route := Route.ofTemplate ⟨.view, "/x/\x7ba/b\x7d;\x7b-c\x7d".toList⟩
  let registry : Registry :=
    ⟨Settings.standard, [Route.ofTemplate ⟨.new, "/\x7bc.d\x7d".toList⟩, shown]⟩
  have built : registryOf definitions = .ok registry := by rfl
  have registered : shown ∈ registry.routes := List.mem_cons_of_mem _ List.mem_cons_self
  have names : values.names = Pattern.placeholderNames shown.pattern := by rfl
  have covers : values.Covers shown.pattern := fun name => by rw [names]
  have listed : [second, first].Perm values.entries := List.Perm.swap first second []
  have plain : ∀ name ∈ values.names, '=' ∉ name := by decide
  have merged : registry.merge (.text "SHOW".toList) (some values) =
      .ok "/x/1=2;\x7ba/b\x7d".toList := by rfl
  obtain ⟨path, same, printed, -⟩ := report_merge_iff built registered (.inr rfl) covers listed
  obtain rfl := Except.ok.inj (same.symm.trans merged)
  exact ⟨registry, shown, built, registered, rfl, covers, listed, plain, merged, printed plain⟩

/-- The registry merges a value for the name `a=b`, and the entry of that value is read as one for `a`. -/
theorem Request.report_merge_marked :
    let definitions := [some "show=/\x7ba=b\x7d".toList]
    let values := Assignment.ofList [("a=b".toList, "v".toList)]
    ∃ registry route, registryOf definitions = .ok registry ∧ route ∈ registry.routes ∧
      "show".toList = route.key.word ∧ values.Covers route.pattern ∧
      registry.merge (.text "show".toList) (some values) = .ok "/v".toList ∧
      Request.report ⟨definitions, .merge "show".toList (writtenEntries values.entries)⟩ =
        .ok (.failed (.incompleteMerge "/\x7ba=b\x7d".toList 1 0)) := by
  intro definitions values
  let shown : Route := Route.ofTemplate ⟨.view, "/\x7ba=b\x7d".toList⟩
  have names : values.names = Pattern.placeholderNames shown.pattern := by rfl
  exact ⟨⟨Settings.standard, [shown]⟩, shown, by rfl, List.mem_cons_self, rfl,
    fun name => by rw [names], by rfl, by rfl⟩

end CommandLine

end RouteTemplate
