import RouteTemplate.Proofs.Registry.Priority
import RouteTemplate.Proofs.Respelling.Pattern

/-! # Respelling routes

The route of a respelt pattern binds in a respelt base what the route of the pattern binds in the
base: the names are respelt, and the values stay. So respelt routes resolve a respelt path as the
routes resolve the path, and they refuse it for the same reason (`resolve_text`). -/
namespace RouteTemplate

/-! ## Failures with other texts -/

namespace RawValue

mutual

/-- The value with its texts changed. -/
def mapText (change : Text → Text) : RawValue → RawValue
  | .text word => .text (change word)
  | .list items => .list (mapTextItems change items)
  | raw => raw

def mapTextItems (change : Text → Text) : List RawValue → List RawValue
  | [] => []
  | item :: items => mapText change item :: mapTextItems change items

end

end RawValue

def ConfigurationFault.mapText (change : Text → Text) : ConfigurationFault → ConfigurationFault
  | .separatorLength separator => .separatorLength (change separator)
  | .separatorReserved separator => .separatorReserved (change separator)
  | fault => fault

def InputFault.mapText (change : Text → Text) : InputFault → InputFault
  | .disallowedCharacters separator => .disallowedCharacters (change separator)
  | fault => fault

/-- The same failure of a definition or a path with its texts changed. -/
def Failure.mapText (change : Text → Text) : Failure → Failure
  | .configuration fault => .configuration (fault.mapText change)
  | .invalidTemplate pattern rule => .invalidTemplate (pattern.map change) rule
  | .unknownKey key => .unknownKey (key.mapText change)
  | .invalidInput path fault => .invalidInput (path.map change) (fault.mapText change)
  | failure => failure

/-! ## Routes and resolutions -/

namespace Respelling

variable (spelling : Respelling)

theorem fault?_text (separator : Text) (limit : Int) (path : Text) :
    Path.fault? (spelling.text separator) limit (spelling.text path) =
      (Path.fault? separator limit path).map (InputFault.mapText spelling.text) := by
  have spelt := spelling.spells_text (spelling.isPathCharacter_char separator) path
  have length : (spelling.text path).length = path.length := List.length_map _
  have empty : (spelling.text path).isEmpty = path.isEmpty := List.isEmpty_map
  rw [Path.fault?, Path.fault?, spelt, length, empty]
  split
  · rfl
  · split
    · rfl
    · split <;> rfl

def route (route : Route) : Route :=
  ⟨route.key, spelling.text route.pattern, spelling.matcher route.matcher,
    route.names.map spelling.text⟩

theorem ofTemplate_text (key : Key) (pattern : Text) :
    Route.ofTemplate ⟨key, spelling.text pattern⟩ =
      spelling.route (Route.ofTemplate ⟨key, pattern⟩) := by
  simp only [Route.ofTemplate, ofPattern_text, ofShape_shape, names_shape]
  rfl

def entry (entry : Text × Text) : Text × Text := (spelling.text entry.1, entry.2)

theorem names_entry (entries : List (Text × Text)) :
    (entries.map spelling.entry).map Prod.fst = (entries.map Prod.fst).map spelling.text := by
  rw [List.map_map, List.map_map]
  rfl

def assignment (values : Assignment) : Assignment :=
  ⟨values.entries.map spelling.entry, by
    rw [names_entry]
    exact values.nodup_names.map spelling.text_injective⟩

theorem putEntry_text (name value : Text) (entries : List (Text × Text)) :
    Assignment.putEntry (spelling.text name) value (entries.map spelling.entry) =
      (Assignment.putEntry name value entries).map spelling.entry := by
  induction entries with
  | nil => rfl
  | cons entry rest ih =>
      obtain ⟨first, old⟩ := entry
      simp only [List.map_cons, Respelling.entry, Assignment.putEntry,
        spelling.text_injective.eq_iff] at ih ⊢
      by_cases found : first = name
      · rw [if_pos found, if_pos found]
        rfl
      · rw [if_neg found, if_neg found, ih]
        rfl

theorem put_assignment (values : Assignment) (name value : Text) :
    (spelling.assignment values).put (spelling.text name) value =
      spelling.assignment (values.put name value) := by
  simp only [Assignment.put, assignment, putEntry_text]

theorem ofList_entry (pairs : List (Text × Text)) :
    Assignment.ofList (pairs.map spelling.entry) = spelling.assignment (Assignment.ofList pairs) := by
  rw [Assignment.ofList, Assignment.ofList, List.foldl_map]
  show pairs.foldl _ (spelling.assignment Assignment.empty) = _
  apply List.foldl_hom spelling.assignment
  exact fun values pair => spelling.put_assignment values pair.1 pair.2

theorem bindings?_route (separator : Text) (route : Route) (base : Text) :
    (spelling.route route).bindings? (spelling.text separator) (spelling.text base) =
      (route.bindings? separator base).map spelling.assignment := by
  have groups : (spelling.matcher route.matcher).groups = route.matcher.groups := List.length_map _
  rw [Route.bindings?, Route.bindings?, Respelling.route, groups, List.length_map,
    tolerantCaptures?_matcher]
  by_cases named : route.matcher.groups = route.names.length
  · rw [if_pos named, if_pos named, Option.map_map]
    congr 1
    funext values
    rw [Function.comp_apply, ← ofList_entry, List.zip_map_left]
    rfl
  · rw [if_neg named, if_neg named, Option.map_none]

def resolution (found : Resolution) : Resolution :=
  ⟨spelling.route found.route, spelling.assignment found.bindings,
    found.extension.map spelling.text⟩

theorem first?_text (separator : Text) (routes : List Route) (path : Text) :
    Resolution.first? (spelling.text separator) (routes.map spelling.route) (spelling.text path) =
      (Resolution.first? separator routes path).map spelling.resolution := by
  rw [Resolution.first?, Resolution.first?, split_text, List.findSome?_map, List.map_findSome?]
  congr 1
  funext route
  simp only [Function.comp_apply, bindings?_route, Option.map_map]
  rfl

/-- A respelt path is refused for the respelt reason, or resolved to the respelt resolution. -/
theorem resolve_text (separator : Text) (limit : Int) (routes : List Route) (path : Option Text) :
    Resolution.resolve (spelling.text separator) limit (routes.map spelling.route)
        (path.map spelling.text) =
      ((Resolution.resolve separator limit routes path).map
        (Option.map spelling.resolution)).mapError (Failure.mapText spelling.text) := by
  have present : (path.map spelling.text).getD [] = spelling.text (path.getD []) := by
    cases path <;> rfl
  rw [Resolution.resolve, Resolution.resolve, Path.accept, Path.accept, present, fault?_text]
  cases Path.fault? separator limit (path.getD []) with
  | some fault => rfl
  | none =>
      rw [Option.map_none]
      exact congrArg Except.ok (spelling.first?_text separator routes (path.getD []))

end Respelling

end RouteTemplate
