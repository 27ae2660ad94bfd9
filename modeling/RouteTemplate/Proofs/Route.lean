import RouteTemplate.Route
import RouteTemplate.Proofs.Pattern.Filling

/-! # Routes of valid patterns

A route made from a valid pattern binds captured values to the placeholder names of the pattern
(`bindings?_ofTemplate`). Such a row of values and an assignment that fills the pattern are two
forms of the same thing: `fills_ofList_zip` and `merge_ofList_zip` go from rows to assignments,
`length_row` and `spells_of_mem_row` go back. -/
namespace RouteTemplate

open Alphabet (isVariable spells isPathCharacter)

/-! ## Rows of values and assignments -/

namespace Pattern

variable {separator pattern : Text} {row : List Text}

theorem nodup_placeholderNames (valid : violation? separator pattern = none) :
    (placeholderNames pattern).Nodup := by
  simpa [Rule.isBroken] using violation?_eq_none_iff.mp valid .duplicatePlaceholder

/-- A matcher has one place for each placeholder name. -/
theorem groups_eq_length (valid : violation? separator pattern = none) :
    (matcher pattern).groups = (placeholderNames pattern).length := by
  obtain ⟨shape, rfl, regular⟩ := exists_regular_of_valid valid
  rw [matcher, regular.ofPattern_text, regular.placeholderNames_text regular.named,
    Matcher.groups_ofShape]

theorem fills_ofList_zip (valid : violation? separator pattern = none)
    (counted : row.length = (placeholderNames pattern).length)
    (spelt : ∀ value ∈ row, spells isVariable value = true) :
    (Assignment.ofList ((placeholderNames pattern).zip row)).Fills pattern := by
  have distinct := nodup_placeholderNames valid
  refine ⟨fun name => ?_, fun name value found => spelt value ?_⟩
  · rw [Assignment.names_ofList_zip distinct counted]
  · have member := Assignment.mem_entries_of_get? found
    rw [Assignment.entries_ofList_zip distinct counted] at member
    exact (List.of_mem_zip member).2

theorem merge_ofList_zip (valid : violation? separator pattern = none)
    (counted : row.length = (placeholderNames pattern).length)
    (spelt : ∀ value ∈ row, spells isVariable value = true) :
    merge pattern (Assignment.ofList ((placeholderNames pattern).zip row)) =
      .ok ((matcher pattern).filled row) := by
  rw [merge_of_fills valid (fills_ofList_zip valid counted spelt),
    Assignment.row_ofList_zip (nodup_placeholderNames valid) counted]

end Pattern

namespace Assignment

variable {values : Assignment} {pattern : Text}

theorem length_row (values : Assignment) (names : List Text) :
    (values.row names).length = names.length := List.length_map _

theorem length_row_eq_groups {separator : Text}
    (valid : Pattern.violation? separator pattern = none) (values : Assignment) :
    (values.row (Pattern.placeholderNames pattern)).length = (Pattern.matcher pattern).groups := by
  rw [length_row, Pattern.groups_eq_length valid]

theorem Fills.get?_of_mem_row (fills : values.Fills pattern) {value : Text}
    (member : value ∈ values.row (Pattern.placeholderNames pattern)) :
    ∃ name, values.get? name = some value := by
  obtain ⟨name, among, rfl⟩ := List.mem_map.mp member
  obtain ⟨value, found⟩ := mem_names_iff_exists.mp ((fills.names name).mpr among)
  exact ⟨name, by rw [found]; rfl⟩

theorem Fills.spells_of_mem_row (fills : values.Fills pattern) :
    ∀ value ∈ values.row (Pattern.placeholderNames pattern), spells isVariable value = true := by
  intro value member
  obtain ⟨name, found⟩ := fills.get?_of_mem_row member
  exact fills.spelt name value found

/-- Two assignments that fill a pattern with the same row agree everywhere. -/
theorem Fills.get?_eq {others : Assignment} (fills : values.Fills pattern)
    (fills' : others.Fills pattern) (same : values.row (Pattern.placeholderNames pattern) =
      others.row (Pattern.placeholderNames pattern)) (name : Text) :
    values.get? name = others.get? name := by
  by_cases member : name ∈ Pattern.placeholderNames pattern
  · have value := List.map_inj_left.mp same name member
    rwa [← Option.some_inj, getD_of_mem_names ((fills.names name).mpr member),
      getD_of_mem_names ((fills'.names name).mpr member)] at value
  · rw [get?_eq_none_iff.mpr (mt (fills.names name).mp member),
      get?_eq_none_iff.mpr (mt (fills'.names name).mp member)]

end Assignment

/-! ## What a route binds -/

namespace Route

variable {separator base pattern : Text} {key : Key}

theorem names_ofTemplate (valid : Pattern.violation? separator pattern = none) :
    (ofTemplate ⟨key, pattern⟩).names = Pattern.placeholderNames pattern := by
  obtain ⟨shape, text, regular⟩ := Pattern.exists_regular_of_valid valid
  rw [ofTemplate, ← text, regular.ofPattern_text, regular.placeholderNames_text regular.named]

theorem bindings?_ofTemplate (valid : Pattern.violation? separator pattern = none) :
    (ofTemplate ⟨key, pattern⟩).bindings? separator base =
      ((ofTemplate ⟨key, pattern⟩).matcher.tolerantCaptures? separator base).map (fun row =>
        Assignment.ofList ((Pattern.placeholderNames pattern).zip row)) := by
  rw [bindings?, if_pos (groups_ofTemplate ⟨key, pattern⟩), names_ofTemplate valid]

theorem bindings?_eq_none_iff (valid : Pattern.violation? separator pattern = none) :
    (ofTemplate ⟨key, pattern⟩).bindings? separator base = none ↔
      (Pattern.matcher pattern).tolerantCaptures? separator base = none := by
  rw [bindings?_ofTemplate valid, Option.map_eq_none_iff]
  rfl

end Route

end RouteTemplate
