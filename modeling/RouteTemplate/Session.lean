import RouteTemplate.Registry.Standard

/-! # Sessions

A session works on named registries, step by step. The standard registry is shared: it is built when
a step first asks for it, and only once. Each step gives an answer together with the log of what
happened during it, and a step that fails leaves every name bound as it was. -/
namespace RouteTemplate

inductive LogEntry where
  | built (keys : List Key)
  | unresolved (path : Text)
  deriving DecidableEq, Repr

def LogEntry.message : LogEntry → Text
  | built keys =>
      "Built template registry: ".toList ++ List.intercalate ", ".toList (keys.map Key.word)
  | unresolved path => "No template matches ".toList ++ Text.quoted path

def Registry.builtEntry (registry : Registry) : LogEntry := .built registry.keys

namespace Session

inductive Step where
  | resolveShared (path : Option Text)
  | bindShared (name : Text)
  | build (name separator : Text) (limit : Int) (pairs : Option (List (RawValue × Text)))
  | resolve (name : Text) (path : Option Text)
  | merge (name : Text) (key : RawValue) (values : Option Assignment)
  | get (name : Text) (key : RawValue)
  | contains (name : Text) (key : RawValue)
  | overview (name : Text)
  | roundTrip (name : Text) (key : RawValue) (values : Option Assignment)

inductive Outcome where
  | described (description : Text)
  | resolved (found : Option Resolution)
  | merged (path : Text)
  | route (route : Route)
  | membership (registered : Bool)
  | overview (registry : Registry)
  | roundTrip (path : Text) (found : Option Resolution)
  | noRegistry

structure Answer where
  result : Except Failure Outcome
  log : List LogEntry

structure State where
  sharedBuilt : Bool
  registries : List (Text × Registry)

def State.start : State := ⟨false, []⟩

def State.registry? (state : State) (name : Text) : Option Registry := state.registries.lookup name

def State.bind (state : State) (name : Text) (registry : Registry) : State :=
  { state with registries := (name, registry) :: state.registries }

/-- The entry for building the shared registry, unless that happened before. -/
def State.sharedLog (state : State) : List LogEntry :=
  if state.sharedBuilt then [] else [Registry.standard.builtEntry]

/-- A missing list of pairs stands for the standard templates. -/
def registryOf (separator : Text) (limit : Int) (pairs : Option (List (RawValue × Text))) :
    Except Failure Registry := do
  let settings ← Settings.make? separator limit
  match pairs with
  | none => Registry.build settings Template.standard
  | some pairs => Registry.ofPairs settings pairs

/-- An answer about a named registry. -/
def State.ask (state : State) (name : Text) (question : Registry → Answer) : Answer × State :=
  match state.registry? name with
  | none => (⟨.ok .noRegistry, []⟩, state)
  | some registry => (question registry, state)

/-- A path that no route fits is noted in the log. -/
def resolutionLog (path : Text) : Option Resolution → List LogEntry
  | none => [.unresolved path]
  | some _ => []

def resolveAnswer (path : Option Text) (registry : Registry) : Answer :=
  match registry.resolve path with
  | .error failure => ⟨.error failure, []⟩
  | .ok found => ⟨.ok (.resolved found), resolutionLog (path.getD []) found⟩

def roundTripAnswer (key : RawValue) (values : Option Assignment) (registry : Registry) : Answer :=
  match registry.roundTrip key values with
  | .error failure => ⟨.error failure, []⟩
  | .ok (path, found) => ⟨.ok (.roundTrip path found), resolutionLog path found⟩

def State.step (state : State) : Step → Answer × State
  | .resolveShared path =>
      let answer := resolveAnswer path Registry.standard
      ({ answer with log := state.sharedLog ++ answer.log }, { state with sharedBuilt := true })
  | .bindShared name =>
      (⟨.ok (.described Registry.standard.description), state.sharedLog⟩,
        { state.bind name Registry.standard with sharedBuilt := true })
  | .build name separator limit pairs =>
      match registryOf separator limit pairs with
      | .error failure => (⟨.error failure, []⟩, state)
      | .ok registry =>
          (⟨.ok (.described registry.description), [registry.builtEntry]⟩, state.bind name registry)
  | .resolve name path => state.ask name (resolveAnswer path)
  | .merge name key values =>
      state.ask name (fun registry => ⟨(registry.merge key values).map Outcome.merged, []⟩)
  | .get name key => state.ask name (fun registry => ⟨(registry.get key).map Outcome.route, []⟩)
  | .contains name key =>
      state.ask name (fun registry => ⟨.ok (.membership (registry.contains key)), []⟩)
  | .overview name => state.ask name (fun registry => ⟨.ok (.overview registry), []⟩)
  | .roundTrip name key values => state.ask name (roundTripAnswer key values)

/-- The answers to a row of steps, and the state after the last one. -/
def State.run : State → List Step → List Answer × State
  | state, [] => ([], state)
  | state, step :: steps =>
      let (answer, next) := state.step step
      let (answers, last) := next.run steps
      (answer :: answers, last)

/-- The answers of a session from its start. -/
def answers (steps : List Step) : List Answer := (State.start.run steps).1

end Session
end RouteTemplate
