import RouteTemplate.Proofs.Session.Registries

/-! # The log of a session

The log of an answer has a record for a registry that the step built, and one for a path that the step
looked up in vain; their first words tell the two kinds apart (`LogEntry.texts`). The shared registry
is recorded in the first step that asks for it, whatever becomes of that step, and never again. Over a
whole session the records of built registries are those of the build steps that succeed and at most
one more (`log_answers`). -/
namespace RouteTemplate

namespace LogEntry

def builtOpening : Text := "Built template registry: ".toList

def unresolvedOpening : Text := "No template matches ".toList

/-- The messages in a log that start with the given words. -/
def texts (opening : Text) (log : List LogEntry) : List Text :=
  (log.map message).filter opening.isPrefixOf

theorem texts_append (opening : Text) (first second : List LogEntry) :
    texts opening (first ++ second) = texts opening first ++ texts opening second := by
  rw [texts, List.map_append, List.filter_append]
  rfl

@[simp] theorem texts_nil (opening : Text) : texts opening [] = [] := rfl

@[simp] theorem texts_builtOpening_built (keys : List Key) :
    texts builtOpening [.built keys] =
      [builtOpening ++ List.intercalate ", ".toList (keys.map Key.word)] :=
  List.filter_cons_of_pos (List.isPrefixOf_iff_prefix.mpr (List.prefix_append _ _))

@[simp] theorem texts_builtOpening_unresolved (path : Text) :
    texts builtOpening [.unresolved path] = [] := rfl

@[simp] theorem texts_unresolvedOpening_built (keys : List Key) :
    texts unresolvedOpening [.built keys] = [] := rfl

@[simp] theorem texts_unresolvedOpening_unresolved (path : Text) :
    texts unresolvedOpening [.unresolved path] = [unresolvedOpening ++ Text.quoted path] :=
  List.filter_cons_of_pos (List.isPrefixOf_iff_prefix.mpr (List.prefix_append _ _))

end LogEntry

namespace Session

open LogEntry (texts builtOpening unresolvedOpening)

/-- The step is about the shared registry. -/
def Step.asksShared : Step → Bool
  | .resolveShared _ => true
  | .bindShared _ => true
  | _ => false

def Step.isBuild : Step → Bool
  | .build _ _ _ _ => true
  | _ => false

/-- In the given state the step looks up the path in the registry. -/
inductive Step.LooksUp (state : State) : Step → Registry → Option Text → Prop where
  | shared (path : Option Text) : LooksUp state (.resolveShared path) Registry.standard path
  | named {name : Text} {registry : Registry} (bound : state.registry? name = some registry)
      (path : Option Text) : LooksUp state (.resolve name path) registry path
  | merged {name : Text} {registry : Registry} (bound : state.registry? name = some registry)
      {key : RawValue} {values : Option Assignment} {path : Text}
      (built : registry.merge key values = .ok path) :
      LooksUp state (.roundTrip name key values) registry (some path)

/-- What the log of an answer has to do with the step, after the earlier steps of a session. -/
structure Logged (earlier : List Step) (step : Step) (answer : Answer) : Prop where
  /-- The first step that asks for the shared registry records it, even if that step then fails. -/
  shared : step.asksShared = true → texts builtOpening answer.log =
    if earlier.any Step.asksShared then []
    else ["Built template registry: edit, delete, new, show, list".toList]
  failed : ∀ failure, step.isBuild = true → answer.result = .error failure → answer.log = []
  /-- The record has the keys of the registry that the name now stands for, in their order. -/
  built : ∀ outcome, step.isBuild = true → answer.result = .ok outcome →
    ∃ name registry, step.target? = some name ∧
      State.registry? (State.step (State.start.run earlier).2 step).2 name = some registry ∧
      texts builtOpening answer.log =
        [builtOpening ++ List.intercalate ", ".toList (registry.keys.map Key.word)]
  unbuilt : step.asksShared = false → step.isBuild = false → texts builtOpening answer.log = []
  missed : ∀ registry path, step.LooksUp (State.start.run earlier).2 registry path →
    registry.resolve path = .ok none →
      ∃ text, path = some text ∧
        texts unresolvedOpening answer.log = [unresolvedOpening ++ Text.quoted text]
  resolved : ∀ registry path, step.LooksUp (State.start.run earlier).2 registry path →
    registry.resolve path ≠ .ok none → texts unresolvedOpening answer.log = []
  idle : (∀ registry path, ¬ step.LooksUp (State.start.run earlier).2 registry path) →
    texts unresolvedOpening answer.log = []

variable {state : State} {step : Step}

/-! ## Runs piece by piece -/

theorem length_run (state : State) (steps : List Step) :
    (state.run steps).1.length = steps.length := by
  induction steps generalizing state with
  | nil => rfl
  | cons step steps ih => exact congrArg (· + 1) (ih _)

theorem run_append (state : State) (first second : List Step) :
    (state.run (first ++ second)).1 =
      (state.run first).1 ++ (State.run (state.run first).2 second).1 := by
  induction first generalizing state with
  | nil => rfl
  | cons step steps ih => exact congrArg (_ :: ·) (ih _)

/-- The answer to a step is given in the state that the steps before it leave. -/
theorem getElem?_answers (before : List Step) (step : Step) (after : List Step) :
    (answers (before ++ step :: after))[before.length]? =
      some (State.step (State.start.run before).2 step).1 := by
  rw [answers, run_append, List.getElem?_append_right (Nat.le_of_eq (length_run _ _)), length_run,
    Nat.sub_self]
  rfl

theorem sharedBuilt_step (state : State) (step : Step) :
    (state.step step).2.sharedBuilt = (state.sharedBuilt || step.asksShared) := by
  cases step with
  | resolveShared path => exact (Bool.or_true _).symm
  | bindShared name => exact (Bool.or_true _).symm
  | build name separator limit pairs =>
      rw [State.step]
      cases registryOf separator limit pairs <;> exact (Bool.or_false _).symm
  | resolve | merge | get | contains | overview | roundTrip =>
      rw [State.step, State.ask_snd]
      exact (Bool.or_false _).symm

theorem sharedBuilt_run (state : State) (steps : List Step) :
    (state.run steps).2.sharedBuilt = (state.sharedBuilt || steps.any Step.asksShared) := by
  induction steps generalizing state with
  | nil => exact (Bool.or_false _).symm
  | cons step steps ih => rw [State.run, ih, sharedBuilt_step, List.any_cons, Bool.or_assoc]

/-! ## The log of one answer -/

theorem texts_builtOpening_resolutionLog (path : Text) (found : Option Resolution) :
    texts builtOpening (resolutionLog path found) = [] := by
  cases found <;> simp [resolutionLog]

theorem texts_sharedLog (state : State) :
    texts builtOpening state.sharedLog =
        (if state.sharedBuilt then []
        else ["Built template registry: edit, delete, new, show, list".toList]) ∧
      texts unresolvedOpening state.sharedLog = [] := by
  rw [State.sharedLog]
  cases state.sharedBuilt with
  | true => exact ⟨rfl, rfl⟩
  | false => exact ⟨rfl, rfl⟩

theorem texts_builtOpening_resolveAnswer (path : Option Text) (registry : Registry) :
    texts builtOpening (resolveAnswer path registry).log = [] := by
  rw [resolveAnswer]
  cases registry.resolve path with
  | error failure => rfl
  | ok found => exact texts_builtOpening_resolutionLog _ found

theorem texts_builtOpening_roundTripAnswer (key : RawValue) (values : Option Assignment)
    (registry : Registry) : texts builtOpening (roundTripAnswer key values registry).log = [] := by
  rw [roundTripAnswer]
  cases registry.roundTrip key values with
  | error failure => rfl
  | ok outcome => exact texts_builtOpening_resolutionLog outcome.1 outcome.2

theorem texts_ask {opening name : Text} {question : Registry → Answer}
    (silent : ∀ registry, state.registry? name = some registry →
      texts opening (question registry).log = []) :
    texts opening (state.ask name question).1.log = [] := by
  rw [State.ask]
  cases bound : state.registry? name with
  | none => rfl
  | some registry => exact silent registry bound

/-- A failing lookup leaves no record, nor does one that finds a route. -/
theorem texts_resolveAnswer (path : Option Text) (registry : Registry) :
    texts unresolvedOpening (resolveAnswer path registry).log =
      match registry.resolve path with
      | .ok none => [unresolvedOpening ++ Text.quoted (path.getD [])]
      | _ => [] := by
  rw [resolveAnswer]
  cases registry.resolve path with
  | error failure => rfl
  | ok found => cases found <;> simp [resolutionLog]

theorem roundTrip_of_merge {key : RawValue} {values : Option Assignment} {registry : Registry}
    {path : Text} (built : registry.merge key values = .ok path) :
    registry.roundTrip key values = (registry.resolve (some path)).map (path, ·) := by
  rw [Registry.roundTrip, built]
  show (registry.resolve (some path) >>= fun found => pure (path, found)) = _
  cases registry.resolve (some path) <;> rfl

theorem texts_roundTripAnswer {key : RawValue} {values : Option Assignment} {registry : Registry}
    {path : Text} (built : registry.merge key values = .ok path) :
    texts unresolvedOpening (roundTripAnswer key values registry).log =
      match registry.resolve (some path) with
      | .ok none => [unresolvedOpening ++ Text.quoted path]
      | _ => [] := by
  rw [roundTripAnswer, roundTrip_of_merge built]
  cases registry.resolve (some path) with
  | error failure => rfl
  | ok found => cases found <;> simp [resolutionLog, Except.map]

/-! ## Records of built registries -/

theorem texts_of_asksShared (state : State) (shared : step.asksShared = true) :
    texts builtOpening (state.step step).1.log =
      if state.sharedBuilt then []
      else ["Built template registry: edit, delete, new, show, list".toList] := by
  cases step with
  | resolveShared path =>
      rw [State.step]
      show texts builtOpening (state.sharedLog ++ (resolveAnswer path Registry.standard).log) = _
      rw [LogEntry.texts_append, texts_builtOpening_resolveAnswer, List.append_nil]
      exact (texts_sharedLog state).1
  | bindShared name => exact (texts_sharedLog state).1
  | build | resolve | merge | get | contains | overview | roundTrip => cases shared

theorem texts_of_isBuild (state : State) (build : step.isBuild = true) :
    (∀ failure, (state.step step).1.result = .error failure → (state.step step).1.log = []) ∧
    ∀ outcome, (state.step step).1.result = .ok outcome →
      ∃ name registry, step.target? = some name ∧
        State.registry? (state.step step).2 name = some registry ∧
        texts builtOpening (state.step step).1.log =
          [builtOpening ++ List.intercalate ", ".toList (registry.keys.map Key.word)] := by
  cases step with
  | build name separator limit pairs =>
      rw [State.step]
      cases registryOf separator limit pairs with
      | error failure =>
          refine ⟨fun _ _ => rfl, fun outcome answered => ?_⟩
          cases answered
      | ok registry =>
          refine ⟨fun failure answered => ?_, fun outcome _ => ⟨name, registry, rfl, ?_, ?_⟩⟩
          · cases answered
          · exact List.lookup_cons_self
          · exact LogEntry.texts_builtOpening_built registry.keys
  | resolveShared | bindShared | resolve | merge | get | contains | overview | roundTrip =>
      cases build

theorem texts_of_other (state : State) (other : step.asksShared = false)
    (unbuilt : step.isBuild = false) : texts builtOpening (state.step step).1.log = [] := by
  cases step with
  | resolveShared | bindShared => cases other
  | build => cases unbuilt
  | resolve name path => exact texts_ask fun registry _ => texts_builtOpening_resolveAnswer path registry
  | roundTrip name key values =>
      exact texts_ask fun registry _ => texts_builtOpening_roundTripAnswer key values registry
  | merge | get | contains | overview => exact texts_ask fun _ _ => rfl

/-- A step records a built registry if it builds one, or asks first for the shared one. -/
theorem length_texts_step (state : State) (step : Step) :
    (texts builtOpening (state.step step).1.log).length =
      (if step.isBuild && (state.step step).1.result.isOk then 1 else 0) +
        if !state.sharedBuilt && step.asksShared then 1 else 0 := by
  cases shared : step.asksShared with
  | true =>
      have unbuilt : step.isBuild = false := by
        cases step with
        | resolveShared | bindShared => rfl
        | build | resolve | merge | get | contains | overview | roundTrip => cases shared
      rw [texts_of_asksShared state shared, unbuilt]
      cases state.sharedBuilt <;> rfl
  | false =>
      rw [Bool.and_false]
      cases build : step.isBuild with
      | false => rw [texts_of_other state shared build]; rfl
      | true =>
          obtain ⟨failing, succeeding⟩ := texts_of_isBuild state build
          cases answered : (state.step step).1.result with
          | error failure => rw [failing failure answered]; rfl
          | ok outcome =>
              obtain ⟨_, _, -, -, recorded⟩ := succeeding outcome answered
              rw [recorded]
              rfl

theorem length_texts_run (state : State) (steps : List Step) :
    ((state.run steps).1.flatMap fun answer => texts builtOpening answer.log).length =
      (steps.zip (state.run steps).1).countP (fun (step, answer) =>
          step.isBuild && answer.result.isOk) +
        if !state.sharedBuilt && steps.any Step.asksShared then 1 else 0 := by
  -- The one more record is due only while no step has asked, so the state has to vary.
  induction steps generalizing state with
  | nil => simp [State.run]
  | cons step steps ih =>
      have later := ih (state.step step).2
      rw [sharedBuilt_step] at later
      rw [State.run, List.flatMap_cons, List.length_append, length_texts_step, later,
        List.zip_cons_cons, List.countP_cons, List.any_cons]
      cases state.sharedBuilt <;> cases step.asksShared <;> simp <;> omega

/-! ## Records of paths that no route fits -/

theorem texts_of_looksUp {registry : Registry} {path : Option Text}
    (looks : step.LooksUp state registry path) :
    texts unresolvedOpening (state.step step).1.log =
      match registry.resolve path with
      | .ok none => [unresolvedOpening ++ Text.quoted (path.getD [])]
      | _ => [] := by
  cases looks with
  | shared path =>
      rw [State.step]
      show texts unresolvedOpening (state.sharedLog ++ (resolveAnswer path Registry.standard).log) = _
      rw [LogEntry.texts_append, (texts_sharedLog state).2, List.nil_append, texts_resolveAnswer]
  | named bound path =>
      rw [State.step, State.ask, bound]
      exact texts_resolveAnswer path registry
  | merged bound built =>
      rw [State.step, State.ask, bound]
      exact texts_roundTripAnswer built

theorem texts_of_not_looksUp (idle : ∀ registry path, ¬ step.LooksUp state registry path) :
    texts unresolvedOpening (state.step step).1.log = [] := by
  cases step with
  | resolveShared path => exact absurd (.shared path) (idle Registry.standard path)
  | bindShared name => exact (texts_sharedLog state).2
  | build name separator limit pairs =>
      rw [State.step]
      cases registryOf separator limit pairs with
      | error failure => rfl
      | ok registry => exact LogEntry.texts_unresolvedOpening_built registry.keys
  | resolve name path =>
      exact texts_ask fun registry bound => absurd (.named bound path) (idle registry path)
  | roundTrip name key values =>
      refine texts_ask fun registry bound => ?_
      cases built : registry.merge key values with
      | error failure =>
          rw [roundTripAnswer, Registry.roundTrip, built]
          rfl
      | ok path => exact absurd (.merged bound built) (idle registry (some path))
  | merge | get | contains | overview => exact texts_ask fun _ _ => rfl

/-! ## The log of a session -/

theorem logged_step (earlier : List Step) (step : Step) :
    Logged earlier step (State.step (State.start.run earlier).2 step).1 where
  shared := by
    intro shared
    rw [texts_of_asksShared _ shared, sharedBuilt_run]
    rfl
  failed := fun failure build => (texts_of_isBuild _ build).1 failure
  built := fun outcome build => (texts_of_isBuild _ build).2 outcome
  unbuilt := texts_of_other _
  missed := by
    intro registry path looks missing
    obtain ⟨text, rfl, -⟩ := Registry.resolve_eq_ok_iff.mp missing
    refine ⟨text, rfl, ?_⟩
    rw [texts_of_looksUp looks, missing]
    rfl
  resolved := by
    intro registry path looks other
    rw [texts_of_looksUp looks]
    split
    · next missing => exact absurd missing other
    · rfl
  idle := texts_of_not_looksUp

/-- A session records as many built registries as it has build steps that succeed, and one more if a
step asks for the shared registry; and each of its steps logs what it has to. -/
theorem log_answers (steps : List Step) :
    ((answers steps).flatMap fun answer => texts builtOpening answer.log).length =
        (steps.zip (answers steps)).countP (fun (step, answer) =>
            step.isBuild && answer.result.isOk) +
          (if steps.any Step.asksShared then 1 else 0) ∧
    ∀ before step after, steps = before ++ step :: after →
      ∃ answer, (answers steps)[before.length]? = some answer ∧ Logged before step answer := by
  refine ⟨length_texts_run State.start steps, ?_⟩
  rintro before step after rfl
  exact ⟨_, getElem?_answers before step after, logged_step before step⟩

/-- The shared registry is recorded by a step that is then refused, and not by the next that asks for
it; a path with a point in a literal is missed by the registry that made it. -/
theorem log_answers_refused :
    let pairs := [(RawValue.text "show".toList, "/v1.2/\x7bid\x7d".toList)]
    let values := Assignment.ofList [("id".toList, "7".toList)]
    let refused : Step := .resolveShared (some [])
    let bound : Step := .bindShared "b".toList
    let around : Step := .roundTrip "a".toList (.text "show".toList) (some values)
    let before : List Step := [.build "a".toList "//".toList 9 none]
    let between : List Step := [.build "a".toList ['/'] 99 (some pairs)]
    let steps := before ++ refused :: (between ++ [bound, around])
    ((answers steps).flatMap fun answer => texts builtOpening answer.log).length = 2 ∧
      (∃ answer, (answers steps)[1]? = some answer ∧ (∃ failure, answer.result = .error failure) ∧
        texts builtOpening answer.log =
          ["Built template registry: edit, delete, new, show, list".toList]) ∧
      (∃ answer, (answers steps)[3]? = some answer ∧ texts builtOpening answer.log = []) ∧
      ∃ answer, (answers steps)[4]? = some answer ∧
        texts unresolvedOpening answer.log = ["No template matches '/v1.2/7'".toList] := by
  intro pairs values refused bound around before between steps
  obtain ⟨total, logged⟩ := log_answers steps
  refine ⟨by rw [total]; rfl, ?_, ?_, ?_⟩
  · obtain ⟨answer, given, said⟩ := logged before refused (between ++ [bound, around]) rfl
    have failed : (answers steps)[1]?.map Answer.result =
        some (.error (.invalidInput (some []) .empty)) := by rfl
    rw [show (answers steps)[1]? = some answer from given] at failed
    exact ⟨answer, given, ⟨_, Option.some.inj failed⟩, said.shared rfl⟩
  · obtain ⟨answer, given, said⟩ := logged (before ++ refused :: between) bound [around] rfl
    exact ⟨answer, given, said.shared rfl⟩
  · let earlier := before ++ refused :: (between ++ [bound])
    let registry : Registry :=
      ⟨⟨'/', 99, rfl, by decide⟩, [Route.ofTemplate ⟨.view, "/v1.2/\x7bid\x7d".toList⟩]⟩
    obtain ⟨answer, given, said⟩ := logged earlier around [] rfl
    have stands : State.registry? (State.start.run earlier).2 "a".toList = some registry := by rfl
    have merged : registry.merge (.text "show".toList) (some values) = .ok "/v1.2/7".toList := by rfl
    have missing : registry.resolve (some "/v1.2/7".toList) = .ok none := by rfl
    obtain ⟨text, same, recorded⟩ := said.missed _ _ (.merged stands merged) missing
    obtain rfl := Option.some.inj same
    exact ⟨answer, given, recorded⟩

end Session

end RouteTemplate
