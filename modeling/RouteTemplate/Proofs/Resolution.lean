import Mathlib.Data.List.Induction
import RouteTemplate.Proofs.Assignment
import RouteTemplate.Proofs.Pattern.Fit
import RouteTemplate.Proofs.Registry.Priority

/-! # The first route that takes a path

Whether a route takes a base is said without a search: the base can be cut into the literals of the
route, one value for each name, and at most one more segment (`Route.Takes`). Resolving picks the
first route of the list that takes the base, and of all rows of values the one that is greatest
(`resolve_iff_takes`). Nothing is asked of the routes: their patterns may be invalid, their names
replaced, and their keys repeated; and the separator may be any text. -/
namespace RouteTemplate

open Alphabet (isVariable isPathCharacter spells)

/-! ## Assignments from pairs -/

namespace Assignment

/-- The value of a name is the one that came last. -/
theorem get?_ofList (pairs : List (Text × Text)) (name : Text) :
    (ofList pairs).get? name = pairs.reverse.lookup name := by
  induction pairs using List.reverseRecOn with
  | nil => rfl
  | append_singleton pairs pair ih =>
      obtain ⟨last, value⟩ := pair
      have step : ofList (pairs ++ [(last, value)]) = (ofList pairs).put last value := by
        simp [ofList]
      rw [step, List.reverse_concat, List.lookup_cons]
      by_cases same : name = last
      · rw [same, get?_put_self, beq_self_eq_true]
      · rw [get?_put_of_ne _ _ same, beq_eq_false_iff_ne.mpr same, ih]

theorem get?_ofList_eq_some_iff {pairs : List (Text × Text)} {name value : Text} :
    (ofList pairs).get? name = some value ↔
      ∃ before after, pairs = before ++ (name, value) :: after ∧ name ∉ after.map Prod.fst := by
  rw [get?_ofList, List.lookup_eq_some_iff]
  constructor
  · rintro ⟨later, earlier, split, absent⟩
    refine ⟨earlier.reverse, later.reverse, by simpa using congrArg List.reverse split, ?_⟩
    rw [List.map_reverse, List.mem_reverse, List.mem_map]
    rintro ⟨pair, member, rfl⟩
    simpa using absent pair member
  · rintro ⟨before, after, rfl, absent⟩
    refine ⟨after.reverse, before.reverse, by simp, fun pair member => ?_⟩
    rw [bne_iff_ne]
    rintro rfl
    exact absent (List.mem_map_of_mem (List.mem_reverse.mp member))

theorem mem_names_ofList {pairs : List (Text × Text)} {name : Text}
    (member : name ∈ (ofList pairs).names) : name ∈ pairs.map Prod.fst := by
  obtain ⟨value, found⟩ := mem_names_iff_exists.mp member
  obtain ⟨before, after, rfl, -⟩ := get?_ofList_eq_some_iff.mp found
  simp

end Assignment

/-! ## Acceptable paths -/

/-- A path that is accepted for matching. -/
structure Path.Acceptable (separator : Text) (limit : Int) (path : Text) : Prop where
  filled : path ≠ []
  short : path.length ≤ limit
  spelt : ∀ c ∈ path, isVariable c = true ∨ c ∈ separator

theorem Path.acceptable_iff {separator path : Text} {limit : Int} :
    Acceptable separator limit path ↔ fault? separator limit path = none := by
  simp only [fault?_eq_none_iff, isPathCharacter, Bool.or_eq_true_iff, List.contains_iff_mem]
  exact ⟨fun ⟨filled, short, spelt⟩ => ⟨filled, short, spelt⟩,
    fun ⟨filled, short, spelt⟩ => ⟨filled, short, spelt⟩⟩

/-! ## What a route takes -/

namespace Route

/-- The values, one for each name of the route and one for each of its places, make the base with the
literals of the route, up to one more segment. -/
structure Takes (separator : Text) (route : Route) (values : List Text) (base : Text) : Prop where
  named : route.matcher.groups = route.names.length
  counted : values.length = route.matcher.groups
  spelt : ∀ value ∈ values, spells isVariable value = true
  cut : ∃ rest, base = route.matcher.filled values ++ rest ∧
    (rest = [] ∨ ∃ segment, rest = separator ++ segment ∧ spells isVariable segment = true)

variable {separator base : Text} {route : Route} {values : List Text} {bindings : Assignment}

theorem takes_iff :
    route.Takes separator values base ↔ route.matcher.groups = route.names.length ∧
      route.matcher.Admits (Matcher.toleratesRest separator) values base := by
  constructor
  · rintro ⟨named, counted, spelt, rest, cut, left⟩
    exact ⟨named, counted, spelt, rest, cut, Matcher.toleratesRest_iff_append.mpr left⟩
  · rintro ⟨named, counted, spelt, rest, cut, tolerated⟩
    exact ⟨named, counted, spelt, rest, cut, Matcher.toleratesRest_iff_append.mp tolerated⟩

theorem bindings?_eq_none_iff_takes :
    route.bindings? separator base = none ↔ ∀ values, ¬ route.Takes separator values base := by
  simp only [takes_iff, not_and]
  rw [bindings?]
  by_cases named : route.matcher.groups = route.names.length
  · rw [if_pos named, Option.map_eq_none_iff, Matcher.tolerantCaptures?, Matcher.values?_eq_none_iff]
    exact forall_congr' fun values => ⟨fun missed _ => missed, fun missed => missed named⟩
  · rw [if_neg named]
    exact ⟨fun _ values equal => absurd equal named, fun _ => rfl⟩

theorem bindings?_eq_some_iff_takes :
    route.bindings? separator base = some bindings ↔
      ∃ values, route.Takes separator values base ∧
        (∀ others, route.Takes separator others base →
          others.map List.length ≤ values.map List.length) ∧
        bindings = Assignment.ofList (route.names.zip values) := by
  simp only [takes_iff]
  rw [bindings?]
  by_cases named : route.matcher.groups = route.names.length
  · simp only [if_pos named, Option.map_eq_some_iff, Matcher.tolerantCaptures?,
      Matcher.values?_eq_some_iff]
    constructor
    · rintro ⟨values, ⟨admits, greatest⟩, rfl⟩
      exact ⟨values, ⟨named, admits⟩, fun others other => greatest others other.2, rfl⟩
    · rintro ⟨values, ⟨-, admits⟩, greatest, rfl⟩
      exact ⟨values, ⟨admits, fun others other => greatest others ⟨named, other⟩⟩, rfl⟩
  · rw [if_neg named]
    constructor
    · intro bound
      cases bound
    · rintro ⟨values, ⟨equal, -⟩, -⟩
      exact absurd equal named

theorem mem_names_of_bindings? (bound : route.bindings? separator base = some bindings) {name : Text}
    (member : name ∈ bindings.names) : name ∈ route.names := by
  obtain ⟨values, -, -, rfl⟩ := bindings?_eq_some_iff_takes.mp bound
  obtain ⟨⟨name, value⟩, among, rfl⟩ := List.mem_map.mp (Assignment.mem_names_ofList member)
  exact (List.of_mem_zip among).1

end Route

/-! ## The route that wins -/

namespace Resolution

section

variable {separator text : Text} {limit : Int} {routes : List Route} {result : Option Resolution}

theorem resolve_eq_ok_iff_of_acceptable (acceptable : Path.Acceptable separator limit text) :
    resolve separator limit routes (some text) = .ok result ↔
      first? separator routes text = result := by
  rw [resolve_eq_ok_iff]
  constructor
  · rintro ⟨_, given, -, rfl⟩
    cases given
    rfl
  · rintro rfl
    exact ⟨text, rfl, Path.acceptable_iff.mp acceptable, rfl⟩

theorem exists_failure_iff {path : Option Text} :
    (∃ failure, resolve separator limit routes path = .error failure) ↔
      ¬ ∃ text, path = some text ∧ Path.Acceptable separator limit text := by
  constructor
  · rintro ⟨failure, refused⟩ ⟨text, rfl, acceptable⟩
    rw [(resolve_eq_ok_iff_of_acceptable acceptable).mpr rfl] at refused
    cases refused
  · intro unacceptable
    cases outcome : resolve separator limit routes path with
    | error failure => exact ⟨failure, rfl⟩
    | ok result =>
        obtain ⟨text, given, faultless, -⟩ := resolve_eq_ok_iff.mp outcome
        exact absurd ⟨text, given, Path.acceptable_iff.mpr faultless⟩ unacceptable

end

/-- A path that is missing or not acceptable is refused. Any other path is resolved to nothing when no
route takes its base, and else to the first route that does. -/
theorem resolve_iff_takes (separator : Text) (limit : Int) (routes : List Route)
    (path : Option Text) :
    ((∃ failure, resolve separator limit routes path = .error failure) ↔
        ¬ ∃ text, path = some text ∧ Path.Acceptable separator limit text) ∧
    (∀ failure, resolve separator limit routes path = .error failure →
      ∃ fault, failure = .invalidInput path fault) ∧
    ∀ text, path = some text → Path.Acceptable separator limit text →
      (resolve separator limit routes path = .ok none ↔
        ∀ route ∈ routes, ∀ values, ¬ route.Takes separator values (Path.split text).base) ∧
      ∀ found, resolve separator limit routes path = .ok (some found) ↔
        found.extension = (Path.split text).extension ∧
        (∃ before after, routes = before ++ found.route :: after ∧
          ∀ route ∈ before, ∀ values, ¬ route.Takes separator values (Path.split text).base) ∧
        ∃ values, found.route.Takes separator values (Path.split text).base ∧
          (∀ others, found.route.Takes separator others (Path.split text).base →
            others.map List.length ≤ values.map List.length) ∧
          found.bindings = Assignment.ofList (found.route.names.zip values) ∧
          ∀ name value, found.bindings.get? name = some value ↔
            ∃ before after, found.route.names.zip values = before ++ (name, value) :: after ∧
              name ∉ after.map Prod.fst := by
  refine ⟨exists_failure_iff, fun failure refused => ?_, ?_⟩
  · obtain ⟨fault, -, invalid⟩ := resolve_eq_error_iff.mp refused
    exact ⟨fault, invalid⟩
  · rintro text rfl acceptable
    refine ⟨?_, fun found => ?_⟩
    · rw [resolve_eq_ok_iff_of_acceptable acceptable, first?_eq_none_iff]
      simp only [Route.bindings?_eq_none_iff_takes]
    · rw [resolve_eq_ok_iff_of_acceptable acceptable, first?_eq_some_iff]
      simp only [Route.bindings?_eq_none_iff_takes, Route.bindings?_eq_some_iff_takes]
      refine and_congr_right fun _ => ?_
      constructor
      · rintro ⟨before, after, split, ⟨values, takes, greatest, bound⟩, earlier⟩
        refine ⟨⟨before, after, split, earlier⟩, values, takes, greatest, bound,
          fun name value => ?_⟩
        rw [bound]
        exact Assignment.get?_ofList_eq_some_iff
      · rintro ⟨⟨before, after, split, earlier⟩, values, takes, greatest, bound, -⟩
        exact ⟨before, after, split, ⟨values, takes, greatest, bound⟩, earlier⟩

/-- Under a separator of two characters, a pattern with a brace left open and one name for both of
its values: the route with too few names is passed over, and the later value stands. -/
theorem resolve_iff_takes_renamed :
    let template : Template := ⟨.list, "\x7ba\x7d\x7bb".toList⟩
    let short := (Route.ofTemplate template).renamed (some ["n".toList])
    let doubled := (Route.ofTemplate template).renamed (some ["n".toList, "n".toList])
    Path.Acceptable "--".toList 8 "abc.x".toList ∧
      (∀ values, ¬ short.Takes "--".toList values "abc".toList) ∧
      ∃ found values,
        resolve "--".toList 8 [short, doubled] (some "abc.x".toList) = .ok (some found) ∧
        doubled.Takes "--".toList values "abc".toList ∧
        found.bindings.get? "n".toList = some "c".toList := by
  intro template short doubled
  have acceptable : Path.Acceptable "--".toList 8 "abc.x".toList :=
    Path.acceptable_iff.mpr (by rfl)
  obtain ⟨-, -, resolved⟩ :=
    resolve_iff_takes "--".toList 8 [short, doubled] (some "abc.x".toList)
  obtain ⟨missed, first⟩ := resolved _ rfl acceptable
  have answer : resolve "--".toList 8 [short, doubled] (some "abc.x".toList) = .ok (some
      ⟨doubled, Assignment.ofList [("n".toList, "ab".toList), ("n".toList, "c".toList)],
        some "x".toList⟩) := by rfl
  obtain ⟨-, -, values, takes, -⟩ := (first _).mp answer
  refine ⟨acceptable, fun values takes => ?_, _, values, answer, takes, rfl⟩
  cases takes.named

end Resolution

end RouteTemplate
