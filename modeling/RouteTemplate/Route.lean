import RouteTemplate.Assignment
import RouteTemplate.Failure
import RouteTemplate.Pattern.Matcher

/-! # Templates and routes

A template is a key with a pattern. A route is a template made ready for matching: the matcher of its
pattern, and the names that the captured values are bound to. -/
namespace RouteTemplate

structure Template where
  key : Key
  pattern : Text
  deriving DecidableEq

structure Route where
  key : Key
  pattern : Text
  matcher : Matcher
  names : List Text
  deriving DecidableEq

def Template.ofPair (pair : RawValue × Text) : Except Failure Template :=
  (Key.ofRaw pair.1).map (fun key => ⟨key, pair.2⟩)

namespace Route

def ofTemplate (template : Template) : Route :=
  let shape := Shape.ofPattern template.pattern
  ⟨template.key, template.pattern, Matcher.ofShape shape, shape.names⟩

/-- The route with other names, if any are given. -/
def renamed (names : Option (List Text)) (route : Route) : Route :=
  { route with names := names.getD route.names }

/-- The names with the captured values; a route with another number of names than of places for
values binds nothing. -/
def bindings? (separator : Text) (route : Route) (base : Text) : Option Assignment :=
  if route.matcher.groups = route.names.length then
    (route.matcher.tolerantCaptures? separator base).map
      (fun values => Assignment.ofList (route.names.zip values))
  else none

theorem groups_ofTemplate (template : Template) :
    (ofTemplate template).matcher.groups = (ofTemplate template).names.length := by
  simp [ofTemplate, Matcher.ofShape, Matcher.groups, Shape.names]

end Route
end RouteTemplate
