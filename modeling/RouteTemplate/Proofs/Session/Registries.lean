import Mathlib.Data.List.Perm.Subperm
import RouteTemplate.Session
import RouteTemplate.Proofs.Registry.Priority
import RouteTemplate.Proofs.Registry.Refusal
import RouteTemplate.Proofs.Route

/-! # The registries of a session

A step puts at most one registry before the others of a state, so that a run leaves the registries of
its steps, the latest first (`registries_run`). Each of them was built: whatever the steps are, the
name of a registry stands for a proper one, and it goes on standing for it until a step that succeeds
gives that name to another (`registry?_run`). -/
namespace RouteTemplate

/-- One to five templates with distinct keys and valid patterns, each with a place for every
placeholder name, and each found under its key and under no other. -/
structure Registry.Proper (registry : Registry) : Prop where
  filled : 1 ≤ registry.routes.length
  bounded : registry.routes.length ≤ 5
  distinct : registry.keys.Nodup
  valid : ∀ route ∈ registry.routes,
    Pattern.violation? registry.settings.separatorText route.pattern = none
  named : ∀ route ∈ registry.routes, route.names = Pattern.placeholderNames route.pattern
  placed : ∀ route ∈ registry.routes, route.matcher.groups = route.names.length
  found : ∀ raw route, registry.get raw = .ok route ↔
    route ∈ registry.routes ∧ raw.key? = some route.key
  missed : ∀ raw, (∃ failure, registry.get raw = .error failure) ↔ registry.contains raw = false

namespace Registry

variable {registry : Registry}

theorem WellBuilt.proper (well : registry.WellBuilt) : registry.Proper where
  filled := List.length_pos_iff.mpr well.filled
  bounded := by
    have known : registry.keys ⊆ Key.all := fun key _ => Key.mem_all key
    have most := (well.distinct.subperm known).length_le
    rwa [keys, List.length_map] at most
  distinct := well.distinct
  valid := well.valid
  named := by
    intro route member
    rw [well.routed route member]
    exact Route.names_ofTemplate (well.valid route member)
  placed := by
    intro route member
    rw [well.routed route member]
    exact Route.groups_ofTemplate _
  found := fun _ _ => well.get_eq_ok_iff
  missed := by
    intro raw
    simp only [get_eq_error_iff, exists_and_left, exists_eq, and_true]

theorem wellBuilt_of_ofPairs {settings : Settings} {pairs : List (RawValue × Text)}
    (built : ofPairs settings pairs = .ok registry) : registry.WellBuilt := by
  rw [ofPairs] at built
  cases read : pairs.mapM Template.ofPair with
  | error failure =>
      rw [read] at built
      cases built
  | ok templates =>
      rw [read] at built
      exact wellBuilt_of_build built

end Registry

namespace Session

theorem wellBuilt_of_registryOf {separator : Text} {limit : Int}
    {pairs : Option (List (RawValue × Text))} {registry : Registry}
    (built : registryOf separator limit pairs = .ok registry) : registry.WellBuilt := by
  rw [registryOf] at built
  cases made : Settings.make? separator limit with
  | error failure =>
      rw [made] at built
      cases built
  | ok settings =>
      rw [made] at built
      cases pairs with
      | none =>
          have checked : Registry.build settings Template.standard = .ok registry := built
          exact Registry.wellBuilt_of_build checked
      | some pairs =>
          have read : Registry.ofPairs settings pairs = .ok registry := built
          exact Registry.wellBuilt_of_ofPairs read

/-! ## What a step binds -/

/-- The name that a step is to give to a registry. -/
def Step.target? : Step → Option Text
  | .bindShared name => some name
  | .build name _ _ _ => some name
  | _ => none

/-- The name and the registry that a step brings together. -/
def Step.binding? : Step → Option (Text × Registry)
  | .bindShared name => some (name, Registry.standard)
  | .build name separator limit pairs =>
      match registryOf separator limit pairs with
      | .error _ => none
      | .ok registry => some (name, registry)
  | _ => none

variable {state : State} {step : Step} {name : Text} {registry : Registry}

theorem State.ask_snd (state : State) (name : Text) (question : Registry → Answer) :
    (state.ask name question).2 = state := by
  unfold State.ask
  split <;> rfl

/-- Only a binding changes the registries of a state. -/
theorem registries_step (state : State) (step : Step) :
    (state.step step).2.registries = step.binding?.toList ++ state.registries := by
  cases step with
  | resolveShared path => rfl
  | bindShared name => rfl
  | build name separator limit pairs =>
      rw [State.step, Step.binding?]
      cases registryOf separator limit pairs <;> rfl
  | resolve | merge | get | contains | overview | roundTrip =>
      rw [State.step, State.ask_snd]
      rfl

theorem registries_run (state : State) (steps : List Step) :
    (state.run steps).2.registries =
      (steps.filterMap Step.binding?).reverse ++ state.registries := by
  induction steps generalizing state with
  | nil => rfl
  | cons step steps ih =>
      rw [State.run, ih, registries_step, List.filterMap_cons]
      cases step.binding? <;> simp

/-- A step that brings a registry and a name together succeeds, and says which registry it is. -/
theorem step_of_binding? (bound : step.binding? = some (name, registry)) :
    step.target? = some name ∧
      (state.step step).1.result = .ok (.described registry.description) := by
  cases step with
  | bindShared other =>
      cases bound
      exact ⟨rfl, rfl⟩
  | build other separator limit pairs =>
      rw [Step.binding?] at bound
      rw [State.step]
      cases built : registryOf separator limit pairs with
      | error failure =>
          rw [built] at bound
          cases bound
      | ok registry =>
          rw [built] at bound
          cases bound
          exact ⟨rfl, rfl⟩
  | resolveShared | resolve | merge | get | contains | overview | roundTrip => cases bound

/-- A step that was to do so and does not has failed. -/
theorem exists_failure_of_target? (aimed : step.target? = some name) (unbound : step.binding? = none) :
    ∃ failure, (state.step step).1.result = .error failure := by
  cases step with
  | bindShared other => cases unbound
  | build other separator limit pairs =>
      rw [Step.binding?] at unbound
      rw [State.step]
      cases built : registryOf separator limit pairs with
      | error failure => exact ⟨failure, rfl⟩
      | ok registry =>
          rw [built] at unbound
          cases unbound
  | resolveShared | resolve | merge | get | contains | overview | roundTrip => cases aimed

theorem wellBuilt_of_binding? (bound : step.binding? = some (name, registry)) :
    registry.WellBuilt := by
  cases step with
  | bindShared other =>
      cases bound
      exact Registry.wellBuilt_of_build Registry.build_standardTemplates
  | build other separator limit pairs =>
      rw [Step.binding?] at bound
      cases built : registryOf separator limit pairs with
      | error failure =>
          rw [built] at bound
          cases bound
      | ok registry =>
          rw [built] at bound
          cases bound
          exact wellBuilt_of_registryOf built
  | resolveShared | resolve | merge | get | contains | overview | roundTrip => cases bound

/-! ## What a name stands for -/

theorem registry?_step_of_binding? (bound : step.binding? = some (name, registry)) (other : Text) :
    State.registry? (state.step step).2 other =
      if other = name then some registry else state.registry? other := by
  unfold State.registry?
  rw [registries_step, bound, Option.toList_some, List.singleton_append, List.lookup_cons]
  by_cases same : other = name
  · rw [if_pos same, same, beq_self_eq_true]
  · rw [if_neg same, beq_eq_false_iff_ne.mpr same]

theorem registry?_step_of_unbound (unbound : step.binding? = none) (other : Text) :
    State.registry? (state.step step).2 other = state.registry? other := by
  unfold State.registry?
  rw [registries_step, unbound]
  rfl

theorem wellBuilt_of_registry?_run {steps : List Step}
    (stands : State.registry? (State.start.run steps).2 name = some registry) : registry.WellBuilt := by
  unfold State.registry? at stands
  rw [registries_run, List.lookup_eq_some_iff] at stands
  obtain ⟨before, after, split, -⟩ := stands
  have member : (name, registry) ∈ (steps.filterMap Step.binding?).reverse ++ [] := by
    rw [show State.start.registries = [] from rfl] at split
    rw [split]
    exact List.mem_append_right before List.mem_cons_self
  rw [List.append_nil, List.mem_reverse, List.mem_filterMap] at member
  obtain ⟨step, -, bound⟩ := member
  exact wellBuilt_of_binding? bound

/-- After any steps, a name that stands for a registry stands for a proper one, which refuses only
paths that are not acceptable, keys that it does not have and assignments that do not fill a pattern.
The next step leaves alone what a name stands for, unless it is to give that name to a registry and
succeeds. -/
theorem registry?_run (steps : List Step) :
    let state := (State.start.run steps).2
    (∀ name registry, state.registry? name = some registry →
      registry.Proper ∧
        (∀ path failure, registry.resolve path = .error failure →
          ∃ fault, failure = .invalidInput path fault) ∧
        ∀ key values failure, registry.merge key (some values) = .error failure →
          (∃ shown, failure = .unknownKey shown) ∨
            ∃ pattern expected replaced, failure = .incompleteMerge pattern expected replaced) ∧
      ∀ step name,
        (step.target? ≠ some name ∨ (∃ failure, (state.step step).1.result = .error failure) →
          State.registry? (state.step step).2 name = state.registry? name) ∧
        ∀ outcome, step.target? = some name → (state.step step).1.result = .ok outcome →
          ∃ registry, outcome = .described registry.description ∧
            State.registry? (state.step step).2 name = some registry := by
  intro state
  constructor
  · intro name registry stands
    have well : registry.WellBuilt := wellBuilt_of_registry?_run stands
    refine ⟨well.proper, fun path failure refused => ?_, fun key values failure refused => ?_⟩
    · obtain ⟨fault, -, invalid⟩ := Resolution.resolve_eq_error_iff.mp refused
      exact ⟨fault, invalid⟩
    · rcases well.merge_eq_error_iff.mp refused with ⟨-, unknown⟩ | ⟨route, -, -, incomplete⟩
      · exact .inl ⟨_, unknown⟩
      · exact .inr ⟨_, _, _, incomplete⟩
  · intro step name
    cases bound : step.binding? with
    | none =>
        refine ⟨fun _ => registry?_step_of_unbound bound name, fun outcome aimed answered => ?_⟩
        obtain ⟨failure, failed⟩ : ∃ failure, (state.step step).1.result = .error failure :=
          exists_failure_of_target? aimed bound
        cases failed.symm.trans answered
    | some binding =>
        obtain ⟨bearer, registry⟩ := binding
        obtain ⟨aim, answer⟩ : step.target? = some bearer ∧
            (state.step step).1.result = .ok (.described registry.description) :=
          step_of_binding? bound
        have stands : State.registry? (state.step step).2 name =
            if name = bearer then some registry else state.registry? name :=
          registry?_step_of_binding? bound name
        constructor
        · rintro (elsewhere | ⟨failure, failed⟩)
          · rw [stands, if_neg]
            rintro rfl
            exact elsewhere aim
          · cases failed.symm.trans answer
        · intro outcome aimed answered
          refine ⟨registry, Except.ok.inj (answered.symm.trans answer), ?_⟩
          rw [stands, if_pos (Option.some.inj (aimed.symm.trans aim))]

/-- A separator of two characters builds nothing, and the name goes on standing for what it did. -/
theorem registry?_run_rebuilt :
    let pairs := [(RawValue.text "EDIT".toList, "|x|\x7bid\x7d".toList)]
    let steps : List Step :=
      [.build "a".toList ['|'] 9 (some pairs), .build "a".toList ['/'] 9 (some []),
        .bindShared "b".toList]
    let state := (State.start.run steps).2
    let step : Step := .build "a".toList "//".toList 9 none
    ∃ registry, state.registry? "a".toList = some registry ∧ registry.Proper ∧
      (∃ failure, (state.step step).1.result = .error failure) ∧
      State.registry? (state.step step).2 "a".toList = some registry := by
  intro pairs steps state step
  obtain ⟨kept, after⟩ := registry?_run steps
  have stands : state.registry? "a".toList =
      some ⟨⟨'|', 9, rfl, by decide⟩, [Route.ofTemplate ⟨.edit, "|x|\x7bid\x7d".toList⟩]⟩ := by rfl
  have failed : (state.step step).1.result =
      .error (.configuration (.separatorLength "//".toList)) := by rfl
  refine ⟨_, stands, (kept _ _ stands).1, ⟨_, failed⟩, ?_⟩
  rw [← stands]
  exact (after step "a".toList).1 (.inr ⟨_, failed⟩)

end Session

end RouteTemplate
