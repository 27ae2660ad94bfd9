import Mathlib.Data.List.Forall2
import Mathlib.Data.List.Perm.Subperm
import Mathlib.Order.Bounds.Basic
import RouteTemplate.Proofs.Registry.Defects
import RouteTemplate.Proofs.Route

/-! # The verdict on a definition

What a row of pairs comes to is settled by positions in it: the first unknown raw key if there is one,
else the first pair whose key came before or whose pattern is invalid, and else a registry whose routes
are those of the pairs, one by one. `Verdict` lists the outcomes with the position that each failure
reports, and defining a registry has the outcome of the verdict (`ofPairs_eq_iff_verdict`). -/
namespace RouteTemplate

namespace RawValue

/-- The value is a key itself, its word or its label. -/
inductive Names : RawValue → Key → Prop where
  | key (key : Key) : Names (.key key) key
  | word (key : Key) : Names (.text key.word) key
  | label (key : Key) : Names (.text key.label) key

theorem key?_eq_some_iff {raw : RawValue} {key : Key} : raw.key? = some key ↔ raw.Names key := by
  constructor
  · intro found
    cases raw with
    | key =>
        cases found
        exact .key _
    | text text =>
        rcases Key.ofText?_eq_some_iff.mp found with rfl | rfl
        · exact .word key
        · exact .label key
    | none | bool _ | int _ | list _ => cases found
  · intro names
    cases names with
    | key => rfl
    | word => exact Key.ofText?_word key
    | label => exact Key.ofText?_label key

theorem key?_eq_none_iff {raw : RawValue} : raw.key? = Option.none ↔ ∀ key, ¬ raw.Names key := by
  simp only [Option.eq_none_iff_forall_ne_some, ne_eq, key?_eq_some_iff]

end RawValue

namespace Registry

/-- The raw key at the position names no key. -/
def UnknownAt (pairs : List (RawValue × Text)) (i : Nat) : Prop :=
  ∃ pair, pairs[i]? = some pair ∧ ∀ key, ¬ pair.1.Names key

/-- The key at the position came before. -/
def RepeatedAt (pairs : List (RawValue × Text)) (i : Nat) : Prop :=
  ∃ pair key, pairs[i]? = some pair ∧ pair.1.Names key ∧
    ∃ earlier ∈ pairs.take i, earlier.1.Names key

/-- The pattern at the position is invalid. -/
def BrokenAt (separator : Text) (pairs : List (RawValue × Text)) (i : Nat) : Prop :=
  ∃ pair, pairs[i]? = some pair ∧ Pattern.violation? separator pair.2 ≠ none

def DefectiveAt (separator : Text) (pairs : List (RawValue × Text)) (i : Nat) : Prop :=
  RepeatedAt pairs i ∨ BrokenAt separator pairs i

/-- The route has the key and the pattern that the pair gives, and it matches that pattern under its
placeholder names. -/
structure Defines (pair : RawValue × Text) (route : Route) : Prop where
  named : pair.1.Names route.key
  spelt : route.pattern = pair.2
  names : route.names = Pattern.placeholderNames pair.2
  matched : route.matcher = Pattern.matcher pair.2

/-- What a row of pairs comes to. -/
inductive Verdict (settings : Settings) (pairs : List (RawValue × Text)) :
    Except Failure Registry → Prop where
  | unknownKey {i : Nat} {pair : RawValue × Text} (first : IsLeast {i | UnknownAt pairs i} i)
      (here : pairs[i]? = some pair) : Verdict settings pairs (.error (.unknownKey pair.1))
  | noTemplates (empty : pairs = []) :
      Verdict settings pairs (.error (.configuration .noTemplates))
  | repeatedKey {i : Nat} {pair : RawValue × Text} {key : Key} (known : ∀ i, ¬ UnknownAt pairs i)
      (first : IsLeast {i | DefectiveAt settings.separatorText pairs i} i)
      (here : pairs[i]? = some pair) (names : pair.1.Names key) (again : RepeatedAt pairs i) :
      Verdict settings pairs (.error (.configuration (.repeatedKey key)))
  | invalidTemplate {i : Nat} {pair : RawValue × Text} {rule : Rule}
      (known : ∀ i, ¬ UnknownAt pairs i)
      (first : IsLeast {i | DefectiveAt settings.separatorText pairs i} i)
      (here : pairs[i]? = some pair) (fresh : ¬ RepeatedAt pairs i)
      (broken : Pattern.violation? settings.separatorText pair.2 = some rule) :
      Verdict settings pairs (.error (.invalidTemplate (some pair.2) rule))
  /-- The pairs define the routes, one by one and in the same order. -/
  | built {registry : Registry} (filled : pairs ≠ [])
      (sound : ∀ i, ¬ DefectiveAt settings.separatorText pairs i)
      (settled : registry.settings = settings)
      (defined : List.Forall₂ Defines pairs registry.routes) : Verdict settings pairs (.ok registry)

variable {separator : Text} {pairs : List (RawValue × Text)} {pair : RawValue × Text} {i : Nat}

/-! ## Positions of a row -/

theorem split_of_getElem? (here : pairs[i]? = some pair) :
    pairs = pairs.take i ++ pair :: pairs.drop (i + 1) ∧ (pairs.take i).length = i := by
  obtain ⟨short, rfl⟩ := List.getElem?_eq_some_iff.mp here
  refine ⟨?_, List.length_take_of_le (Nat.le_of_lt short)⟩
  rw [← List.drop_eq_getElem_cons short, List.take_append_drop]

theorem getElem?_of_split {before after : List (RawValue × Text)}
    (split : pairs = before ++ pair :: after) :
    pairs[before.length]? = some pair ∧ pairs.take before.length = before := by
  subst split
  refine ⟨?_, List.take_left⟩
  rw [List.getElem?_append_right (Nat.le_refl _), Nat.sub_self, List.getElem?_cons_zero]

theorem unknownAt_iff (here : pairs[i]? = some pair) :
    UnknownAt pairs i ↔ pairKey? pair = none := by
  rw [UnknownAt, here, pairKey?, RawValue.key?_eq_none_iff]
  simp

theorem repeatedAt_iff (here : pairs[i]? = some pair) (named : pairKey? pair ≠ none) :
    RepeatedAt pairs i ↔ pairKey? pair ∈ (pairs.take i).map pairKey? := by
  obtain ⟨key, known⟩ := Option.ne_none_iff_exists'.mp named
  simp only [RepeatedAt, here, Option.some.injEq, List.mem_map, ← RawValue.key?_eq_some_iff]
  constructor
  · rintro ⟨_, other, rfl, same, earlier, member, again⟩
    exact ⟨earlier, member, again.trans same.symm⟩
  · rintro ⟨earlier, member, same⟩
    exact ⟨pair, key, rfl, known, earlier, member, same.trans known⟩

theorem brokenAt_iff (here : pairs[i]? = some pair) :
    BrokenAt separator pairs i ↔ Pattern.violation? separator pair.2 ≠ none := by
  rw [BrokenAt, here]
  simp

theorem DefectiveAt.lt_length (defect : DefectiveAt separator pairs i) : i < pairs.length := by
  rcases defect with ⟨_, _, here, -⟩ | ⟨_, here, -⟩
  · exact (List.getElem?_eq_some_iff.mp here).1
  · exact (List.getElem?_eq_some_iff.mp here).1

/-! ## Pairs before a position -/

theorem named_iff : Named pairs ↔ ∀ i, ¬ UnknownAt pairs i := by
  constructor
  · rintro named i ⟨pair, here, unknown⟩
    exact named pair (List.mem_of_getElem? here) (RawValue.key?_eq_none_iff.mpr unknown)
  · intro known pair member unknown
    obtain ⟨i, here⟩ := List.getElem?_of_mem member
    exact known i ((unknownAt_iff here).mpr unknown)

theorem named_take_iff : Named (pairs.take i) ↔ ∀ j < i, ¬ UnknownAt pairs j := by
  rw [named_iff]
  constructor
  · rintro known j less ⟨pair, here, unknown⟩
    exact known j ⟨pair, (List.getElem?_take_of_lt less).trans here, unknown⟩
  · rintro known j ⟨pair, here, unknown⟩
    rw [List.getElem?_take, Option.ite_none_right_eq_some] at here
    exact known j here.1 ⟨pair, here.2, unknown⟩

theorem consistent_concat_iff {before : List (RawValue × Text)} :
    Consistent separator (before ++ [pair]) ↔ Consistent separator before ∧
      pairKey? pair ∉ before.map pairKey? ∧ Pattern.violation? separator pair.2 = none := by
  constructor
  · intro consistent
    refine ⟨consistent.of_append, fun again => ?_, consistent.valid pair (by simp)⟩
    have distinct := consistent.distinct
    rw [List.map_append, List.nodup_append] at distinct
    exact distinct.2.2 _ again _ (List.mem_singleton.mpr rfl) rfl
  · rintro ⟨consistent, fresh, valid⟩
    refine ⟨?_, List.forall_mem_append.mpr ⟨consistent.valid, by simpa using valid⟩⟩
    rw [List.map_append, List.map_singleton, ← List.concat_eq_append]
    exact consistent.distinct.concat fresh

/-- The pairs up to a position are consistent when none of them is defective, by induction on the
position: each further pair is settled by those before it. -/
theorem consistent_take_iff (named : Named pairs) :
    Consistent separator (pairs.take i) ↔ ∀ j < i, ¬ DefectiveAt separator pairs j := by
  induction i with
  | zero =>
      refine ⟨fun _ j less => absurd less (Nat.not_lt_zero j), fun _ => ⟨?_, ?_⟩⟩
      · exact List.nodup_nil
      · exact List.forall_mem_nil _
  | succ i ih =>
      have step : (∀ j < i + 1, ¬ DefectiveAt separator pairs j) ↔
          (∀ j < i, ¬ DefectiveAt separator pairs j) ∧ ¬ DefectiveAt separator pairs i :=
        Nat.forall_lt_succ_right
      rw [step, ← ih, List.take_add_one]
      cases here : pairs[i]? with
      | none =>
          have sound : ¬ DefectiveAt separator pairs i := fun defect =>
            absurd defect.lt_length (Nat.not_lt_of_le (List.getElem?_eq_none_iff.mp here))
          simp [sound]
      | some pair =>
          have known := named pair (List.mem_of_getElem? here)
          rw [Option.toList_some, consistent_concat_iff, DefectiveAt, repeatedAt_iff here known,
            brokenAt_iff here, not_or, not_ne_iff]

theorem consistent_iff (named : Named pairs) :
    Consistent separator pairs ↔ ∀ i, ¬ DefectiveAt separator pairs i := by
  have whole := @consistent_take_iff separator pairs pairs.length named
  rw [List.take_length] at whole
  rw [whole]
  exact ⟨fun sound i defect => sound i defect.lt_length defect, fun sound i _ => sound i⟩

theorem valid_of_sound (sound : ∀ i, ¬ DefectiveAt separator pairs i) :
    ∀ pair ∈ pairs, Pattern.violation? separator pair.2 = none := by
  intro pair member
  obtain ⟨i, here⟩ := List.getElem?_of_mem member
  by_contra broken
  exact sound i (.inr ((brokenAt_iff here).mpr broken))

/-! ## The routes of a row -/

section

variable {route : Route} {routes : List Route}

/-- A pair with a valid pattern defines the route of the template that is read from it. -/
theorem defines_iff (valid : Pattern.violation? separator pair.2 = none) :
    Defines pair route ↔ ∃ template : Template,
      pair.1.Names template.key ∧ pair.2 = template.pattern ∧ route = Route.ofTemplate template := by
  constructor
  · intro defines
    have names : (Route.ofTemplate ⟨route.key, pair.2⟩).names = Pattern.placeholderNames pair.2 :=
      Route.names_ofTemplate valid
    refine ⟨⟨route.key, pair.2⟩, defines.named, rfl, ?_⟩
    calc route = ⟨route.key, route.pattern, route.matcher, route.names⟩ := rfl
      _ = ⟨route.key, pair.2, Pattern.matcher pair.2, Pattern.placeholderNames pair.2⟩ := by
        rw [defines.spelt, defines.matched, defines.names]
      _ = Route.ofTemplate ⟨route.key, pair.2⟩ := by
        rw [← names]
        rfl
  · rintro ⟨⟨key, pattern⟩, named, spelt, rfl⟩
    rw [spelt] at valid
    exact ⟨named, spelt.symm, by rw [spelt, Route.names_ofTemplate valid], by rw [spelt]; rfl⟩

theorem forall₂_defines_iff (valid : ∀ pair ∈ pairs, Pattern.violation? separator pair.2 = none) :
    List.Forall₂ Defines pairs routes ↔
      ∃ templates, Reads pairs templates ∧ routes = templates.map Route.ofTemplate := by
  induction pairs generalizing routes with
  | nil =>
      rw [List.forall₂_nil_left_iff]
      constructor
      · rintro rfl
        exact ⟨[], rfl, rfl⟩
      · rintro ⟨templates, reads, rfl⟩
        rw [List.map_eq_nil_iff.mp reads.symm, List.map_nil]
  | cons pair pairs ih =>
      obtain ⟨here, others⟩ := List.forall_mem_cons.mp valid
      rw [List.forall₂_cons_left_iff]
      constructor
      · rintro ⟨route, routes, defines, rest, rfl⟩
        obtain ⟨template, named, spelt, rfl⟩ := (defines_iff here).mp defines
        obtain ⟨templates, reads, rfl⟩ := (ih others).mp rest
        refine ⟨template :: templates, ?_, rfl⟩
        rw [Reads, List.map_cons, List.map_cons, reads, pairKey?,
          RawValue.key?_eq_some_iff.mpr named, spelt]
      · rintro ⟨templates, reads, rfl⟩
        obtain ⟨template, templates, rfl, same, rest⟩ := List.map_eq_cons_iff.mp reads.symm
        obtain ⟨named, spelt⟩ := Prod.mk.inj same
        have defines := (defines_iff here).mpr
          ⟨template, RawValue.key?_eq_some_iff.mp named.symm, spelt.symm, rfl⟩
        exact ⟨_, _, defines, (ih others).mpr ⟨templates, rest.symm, rfl⟩, rfl⟩

end

/-! ## The outcome -/

variable {settings : Settings} {result : Except Failure Registry} {failure : Failure}

theorem FailsAt.verdict {position : Nat}
    (fails : FailsAt settings.separatorText pairs position failure) :
    Verdict settings pairs (.error failure) := by
  cases fails with
  | unknownKey split named unknown =>
      obtain ⟨here, taken⟩ := getElem?_of_split split
      rw [← taken, named_take_iff] at named
      refine .unknownKey ⟨(unknownAt_iff here).mpr unknown, fun j there => ?_⟩ here
      exact Nat.le_of_not_lt fun less => named j less there
  | @flawed before after pair _ split named consistent flaw =>
      obtain ⟨here, taken⟩ := getElem?_of_split split
      have known := named pair (List.mem_of_getElem? here)
      have sound := (consistent_take_iff named).mp (taken.symm ▸ consistent)
      have first (defect : DefectiveAt settings.separatorText pairs before.length) :
          IsLeast {i | DefectiveAt settings.separatorText pairs i} before.length :=
        ⟨defect, fun j there => Nat.le_of_not_lt fun less => sound j less there⟩
      have repeated := repeatedAt_iff here known
      rw [taken] at repeated
      cases flaw with
      | repeatedKey names again =>
          exact .repeatedKey (named_iff.mp named) (first (.inl (repeated.mpr again))) here
            (RawValue.key?_eq_some_iff.mp names) (repeated.mpr again)
      | invalidTemplate fresh broken =>
          have defect := (brokenAt_iff here).mpr (broken ▸ Option.some_ne_none _)
          exact .invalidTemplate (named_iff.mp named) (first (.inr defect)) here
            (mt repeated.mp fresh) broken

theorem verdict_ofPairs (settings : Settings) (pairs : List (RawValue × Text)) :
    Verdict settings pairs (ofPairs settings pairs) := by
  cases outcome : ofPairs settings pairs with
  | error failure =>
      rcases ofPairs_eq_error_iff.mp outcome with ⟨empty, rfl⟩ | ⟨position, fails⟩
      · exact .noTemplates empty
      · exact fails.verdict
  | ok registry =>
      obtain ⟨filled, consistent, templates, reads, rfl⟩ := ofPairs_eq_ok_iff.mp outcome
      have defined := (forall₂_defines_iff consistent.valid).mpr ⟨templates, reads, rfl⟩
      exact .built filled ((consistent_iff reads.named).mp consistent) rfl defined

/-- Before the least defective position all pairs are consistent. -/
theorem consistent_of_isLeast (known : ∀ i, ¬ UnknownAt pairs i)
    (first : IsLeast {i | DefectiveAt separator pairs i} i) :
    Consistent separator (pairs.take i) :=
  (consistent_take_iff (named_iff.mpr known)).mpr fun _ less there =>
    absurd (first.2 there) (Nat.not_le_of_lt less)

theorem Verdict.ofPairs_eq (verdict : Verdict settings pairs result) :
    ofPairs settings pairs = result := by
  cases verdict with
  | unknownKey first here =>
      have named := named_take_iff.mpr fun j less there =>
        absurd (first.2 there) (Nat.not_le_of_lt less)
      exact ofPairs_eq_error_iff.mpr (.inr ⟨_, .unknownKey (split_of_getElem? here).1 named
        ((unknownAt_iff here).mp first.1)⟩)
  | noTemplates empty => exact ofPairs_eq_error_iff.mpr (.inl ⟨empty, rfl⟩)
  | repeatedKey known first here names again =>
      have named := named_iff.mpr known
      have again := (repeatedAt_iff here (named _ (List.mem_of_getElem? here))).mp again
      have flaw : Flaw settings.separatorText _ _ _ :=
        .repeatedKey (RawValue.key?_eq_some_iff.mpr names) again
      exact ofPairs_eq_error_iff.mpr (.inr ⟨_, .flawed (split_of_getElem? here).1 named
        (consistent_of_isLeast known first) flaw⟩)
  | invalidTemplate known first here fresh broken =>
      have named := named_iff.mpr known
      have fresh := mt (repeatedAt_iff here (named _ (List.mem_of_getElem? here))).mpr fresh
      have flaw := Flaw.invalidTemplate fresh broken
      exact ofPairs_eq_error_iff.mpr (.inr ⟨_, .flawed (split_of_getElem? here).1 named
        (consistent_of_isLeast known first) flaw⟩)
  | @built registry filled sound settled defined =>
      obtain ⟨templates, reads, routes⟩ := (forall₂_defines_iff (valid_of_sound sound)).mp defined
      refine ofPairs_eq_ok_iff.mpr
        ⟨filled, (consistent_iff reads.named).mpr sound, templates, reads, ?_⟩
      rw [← settled, ← routes]

/-- A registry has no more templates than there are keys. -/
theorem length_le_of_ofPairs {registry : Registry}
    (built : ofPairs settings pairs = .ok registry) : pairs.length ≤ Key.all.length := by
  obtain ⟨-, consistent, templates, reads, -⟩ := ofPairs_eq_ok_iff.mp built
  have distinct := (reads.consistent_iff.mp consistent).1
  have within := distinct.subperm fun key _ => Key.mem_all key
  rw [reads.length_eq, ← List.length_map (f := Template.key)]
  exact within.length_le

/-- Defining a registry comes to the verdict on the pairs and to nothing else, so that it fails for more
pairs than there are keys. -/
theorem ofPairs_eq_iff_verdict (settings : Settings) (pairs : List (RawValue × Text)) :
    (∀ result, ofPairs settings pairs = result ↔ Verdict settings pairs result) ∧
      (5 < pairs.length → ∃ failure, ofPairs settings pairs = .error failure) := by
  refine ⟨fun result => ⟨?_, Verdict.ofPairs_eq⟩, fun many => ?_⟩
  · rintro rfl
    exact verdict_ofPairs settings pairs
  · cases outcome : ofPairs settings pairs with
    | error failure => exact ⟨failure, rfl⟩
    | ok registry => exact absurd (length_le_of_ofPairs outcome) (Nat.not_le_of_lt many)

/-- Six pairs are too many. The first defective one repeats a key, and its pattern is not looked at. Two
pairs make a registry, in whichever form their keys are given. -/
theorem ofPairs_eq_iff_verdict_six :
    let pairs : List (RawValue × Text) :=
      [(.text "list".toList, "/\x7ba\x7d".toList), (.key .view, "/\x7ba\x7d/\x7bb\x7d".toList),
        (.text "LIST".toList, "/\x7ba".toList), (.text "new".toList, []),
        (.text "edit".toList, "/edit".toList), (.text "DELETE".toList, "/delete".toList)]
    let sound : List (RawValue × Text) :=
      [(.text "NEW".toList, "/\x7ba\x7d/new".toList), (.key .view, "/\x7ba\x7d/\x7bb-c\x7d".toList)]
    5 < pairs.length ∧ (∃ failure, ofPairs Settings.standard pairs = .error failure) ∧
      Verdict Settings.standard pairs (.error (.configuration (.repeatedKey .list))) ∧
      ∃ registry, ofPairs Settings.standard sound = .ok registry ∧
        Verdict Settings.standard sound (.ok registry) ∧
        registry.routes.map (fun route => (route.key, route.pattern, route.names)) =
          [(.new, "/\x7ba\x7d/new".toList, ["a".toList]),
            (.view, "/\x7ba\x7d/\x7bb-c\x7d".toList, ["a".toList, "b-c".toList])] := by
  intro pairs sound
  obtain ⟨verdict, fails⟩ := ofPairs_eq_iff_verdict Settings.standard pairs
  have built : ofPairs Settings.standard sound = .ok ⟨Settings.standard,
      [Route.ofTemplate ⟨.new, "/\x7ba\x7d/new".toList⟩,
        Route.ofTemplate ⟨.view, "/\x7ba\x7d/\x7bb-c\x7d".toList⟩]⟩ := by rfl
  have verdict' := (ofPairs_eq_iff_verdict Settings.standard sound).1
  exact ⟨by decide, fails (by decide), (verdict _).mp (by rfl), _, built, (verdict' _).mp built, rfl⟩

end Registry

end RouteTemplate
