import RouteTemplate.Pattern.Merge
import RouteTemplate.Pattern.Validity
import RouteTemplate.Resolution
import RouteTemplate.Settings

/-! # Registries

A registry holds the routes of checked templates in their order of priority, together with the
settings they were checked under. It is built once: no template may come with a key that came before
or with an invalid pattern, and the first such defect is reported. -/
namespace RouteTemplate

structure Registry where
  settings : Settings
  routes : List Route
  deriving DecidableEq

namespace Registry

/-- The first defect of the templates, after templates with the keys `seen`. -/
def defect? (separator : Text) : List Key → List Template → Option Failure
  | _, [] => none
  | seen, template :: templates =>
      if template.key ∈ seen then some (.configuration (.repeatedKey template.key))
      else
        match Pattern.violation? separator template.pattern with
        | some rule => some (.invalidTemplate (some template.pattern) rule)
        | none => defect? separator (template.key :: seen) templates

def build (settings : Settings) (templates : List Template) : Except Failure Registry :=
  if templates.isEmpty then .error (.configuration .noTemplates)
  else
    match defect? settings.separatorText [] templates with
    | some failure => .error failure
    | none => .ok ⟨settings, templates.map Route.ofTemplate⟩

/-- Recognises all keys before any pattern is checked. -/
def ofPairs (settings : Settings) (pairs : List (RawValue × Text)) : Except Failure Registry := do
  let templates ← pairs.mapM Template.ofPair
  build settings templates

def keys (registry : Registry) : List Key := registry.routes.map Route.key

def route? (registry : Registry) (key : Key) : Option Route :=
  registry.routes.find? (fun route => route.key = key)

/-- The route under a key that is recognised and registered. -/
def get (registry : Registry) (raw : RawValue) : Except Failure Route := do
  let key ← Key.ofRaw raw
  match registry.route? key with
  | some route => .ok route
  | none => .error (.unknownKey (.key key))

def contains (registry : Registry) (raw : RawValue) : Bool :=
  raw.key?.any (fun key => (registry.route? key).isSome)

def resolve (registry : Registry) (path : Option Text) : Except Failure (Option Resolution) :=
  Resolution.resolve registry.settings.separatorText registry.settings.limit registry.routes path

def merge (registry : Registry) (raw : RawValue) (values : Option Assignment) :
    Except Failure Text := do
  let route ← registry.get raw
  Pattern.mergeGiven (some route.pattern) values

/-- The path that a merge builds, and what it is resolved to. -/
def roundTrip (registry : Registry) (raw : RawValue) (values : Option Assignment) :
    Except Failure (Text × Option Resolution) := do
  let path ← registry.merge raw values
  let found ← registry.resolve (some path)
  return (path, found)

/-- The templates of a registry, as it is shown to a reader. -/
def description (registry : Registry) : Text :=
  "TemplateRegistry(".toList ++
    List.intercalate ", ".toList
      (registry.routes.map (fun route => route.key.word ++ '=' :: route.pattern)) ++
    [')']

end Registry
end RouteTemplate
