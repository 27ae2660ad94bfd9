import RouteTemplate.Path.Acceptance
import RouteTemplate.Path.Extension
import RouteTemplate.Route

/-! # Resolving a path

A path is resolved by the first route of a list that fits it without its extension. A path that is
not acceptable is a failure; a path that no route fits is resolved to nothing. -/
namespace RouteTemplate

structure Resolution where
  route : Route
  bindings : Assignment
  extension : Option Text
  deriving DecidableEq

namespace Resolution

/-- The resolution of an acceptable path. -/
def first? (separator : Text) (routes : List Route) (path : Text) : Option Resolution :=
  let split := Path.split path
  routes.findSome? (fun route =>
    (route.bindings? separator split.base).map (fun bindings => ⟨route, bindings, split.extension⟩))

def resolve (separator : Text) (limit : Int) (routes : List Route) (path : Option Text) :
    Except Failure (Option Resolution) :=
  (Path.accept separator limit path).map (first? separator routes)

end Resolution
end RouteTemplate
