import Mathlib.Data.Option.Basic
import RouteTemplate.Proofs.Registry.Construction
import RouteTemplate.Proofs.Rows

/-! # The pair at which a definition fails

A registry is defined by pairs of a raw key and a pattern. All keys are recognised before any pattern
is checked; then the first pair that repeats a key or has an invalid pattern is reported. `FailsAt`
says without a search which pair that is. There is at most one (`FailsAt.unique`), and a definition
that is not empty fails exactly there (`ofPairs_eq_error_iff`); a definition that fails nowhere makes
a registry (`ofPairs_eq_ok_iff`). -/
namespace RouteTemplate.Registry

/-- The key that a pair defines, if its raw key is recognised. -/
def pairKey? (pair : RawValue × Text) : Option Key := pair.1.key?

/-- Every raw key is recognised. -/
def Named (pairs : List (RawValue × Text)) : Prop := ∀ pair ∈ pairs, pairKey? pair ≠ none

/-- No two pairs define the same key, and every pattern is valid. -/
structure Consistent (separator : Text) (pairs : List (RawValue × Text)) : Prop where
  distinct : (pairs.map pairKey?).Nodup
  valid : ∀ pair ∈ pairs, Pattern.violation? separator pair.2 = none

/-- What is wrong with a recognised pair that comes after others: a key that came before counts, and
the pattern only if the key is new. -/
inductive Flaw (separator : Text) (before : List (RawValue × Text)) (pair : RawValue × Text) :
    Failure → Prop where
  | repeatedKey {key : Key} (known : pairKey? pair = some key)
      (again : pairKey? pair ∈ before.map pairKey?) :
      Flaw separator before pair (.configuration (.repeatedKey key))
  | invalidTemplate {rule : Rule} (fresh : pairKey? pair ∉ before.map pairKey?)
      (broken : Pattern.violation? separator pair.2 = some rule) :
      Flaw separator before pair (.invalidTemplate (some pair.2) rule)

/-- The pair at the position is the one that is reported, with what is wrong with it. -/
inductive FailsAt (separator : Text) (pairs : List (RawValue × Text)) : Nat → Failure → Prop where
  | unknownKey {before after : List (RawValue × Text)} {pair : RawValue × Text}
      (split : pairs = before ++ pair :: after) (named : Named before)
      (unknown : pairKey? pair = none) : FailsAt separator pairs before.length (.unknownKey pair.1)
  | flawed {before after : List (RawValue × Text)} {pair : RawValue × Text} {failure : Failure}
      (split : pairs = before ++ pair :: after) (named : Named pairs)
      (consistent : Consistent separator before) (flaw : Flaw separator before pair failure) :
      FailsAt separator pairs before.length failure

variable {separator : Text} {pairs before after : List (RawValue × Text)} {pair : RawValue × Text}
  {templates : List Template} {failure : Failure}

/-! ## Recognising the keys -/

theorem ofPair_eq_ok_iff {template : Template} :
    Template.ofPair pair = .ok template ↔
      pairKey? pair = some template.key ∧ pair.2 = template.pattern := by
  rw [Template.ofPair, Key.ofRaw, pairKey?]
  obtain ⟨key, pattern⟩ := template
  cases pair.1.key? <;> simp [Except.map]

theorem ofPair_eq_error_iff :
    Template.ofPair pair = .error failure ↔
      pairKey? pair = none ∧ failure = .unknownKey pair.1 := by
  rw [Template.ofPair, Key.ofRaw, pairKey?]
  cases pair.1.key? <;> simp [Except.map, eq_comm]

/-- The templates are those of the pairs, one by one. -/
def Reads (pairs : List (RawValue × Text)) (templates : List Template) : Prop :=
  pairs.map (fun pair => (pairKey? pair, pair.2)) =
    templates.map (fun template => (some template.key, template.pattern))

theorem mapM_ofPair_eq_ok_iff :
    pairs.mapM Template.ofPair = .ok templates ↔ Reads pairs templates := by
  rw [mapM_eq_ok_iff, Reads]
  induction pairs generalizing templates with
  | nil => cases templates <;> simp
  | cons pair pairs ih => cases templates <;> simp [ofPair_eq_ok_iff, ih]

theorem exists_unknown_of_mapM (failed : pairs.mapM Template.ofPair = .error failure) :
    ∃ before pair after, pairs = before ++ pair :: after ∧ Named before ∧
      pairKey? pair = none ∧ failure = .unknownKey pair.1 := by
  obtain ⟨before, pair, after, rfl, sound, here⟩ := mapM_eq_error_iff.mp failed
  refine ⟨before, pair, after, rfl, fun earlier member unknown => ?_, ofPair_eq_error_iff.mp here⟩
  obtain ⟨template, read⟩ := sound earlier member
  cases unknown.symm.trans (ofPair_eq_ok_iff.mp read).1

theorem Reads.keys (read : Reads pairs templates) :
    pairs.map pairKey? = (templates.map Template.key).map some := by
  simpa [Function.comp_def] using congrArg (List.map Prod.fst) read

theorem Reads.patterns (read : Reads pairs templates) :
    pairs.map Prod.snd = templates.map Template.pattern := by
  simpa [Function.comp_def] using congrArg (List.map Prod.snd) read

theorem Reads.exists_pair (read : Reads pairs templates) {template : Template}
    (member : template ∈ templates) : ∃ pair ∈ pairs, pair.2 = template.pattern := by
  have stands := List.mem_map_of_mem (f := Template.pattern) member
  rw [← read.patterns] at stands
  exact List.mem_map.mp stands

theorem Reads.length_eq (read : Reads pairs templates) : pairs.length = templates.length := by
  simpa using congrArg List.length read

theorem Reads.named (read : Reads pairs templates) : Named pairs := by
  intro pair member unknown
  have stands := List.mem_map_of_mem (f := pairKey?) member
  rw [read.keys, unknown] at stands
  simp at stands

theorem Reads.consistent_iff (read : Reads pairs templates) :
    Consistent separator pairs ↔ (templates.map Template.key).Nodup ∧
      ∀ template ∈ templates, Pattern.violation? separator template.pattern = none := by
  have valid : (∀ pair ∈ pairs, Pattern.violation? separator pair.2 = none) ↔
      ∀ template ∈ templates, Pattern.violation? separator template.pattern = none := by
    rw [← List.forall_mem_map (f := Prod.snd)
        (P := fun pattern => Pattern.violation? separator pattern = none), read.patterns,
      List.forall_mem_map]
  rw [← valid, ← List.nodup_map_iff (Option.some_injective Key), ← read.keys]
  exact ⟨fun ⟨distinct, valid⟩ => ⟨distinct, valid⟩, fun ⟨distinct, valid⟩ => ⟨distinct, valid⟩⟩

/-! ## Going through the templates -/

theorem exists_flaw_of_defect? {seen : List Key}
    (found : defect? separator seen templates = some failure) :
    ∃ before template after, templates = before ++ template :: after ∧
      defect? separator seen before = none ∧
      ((template.key ∈ seen ∨ template.key ∈ before.map Template.key) ∧
          failure = .configuration (.repeatedKey template.key) ∨
        ¬ (template.key ∈ seen ∨ template.key ∈ before.map Template.key) ∧
          ∃ rule, Pattern.violation? separator template.pattern = some rule ∧
            failure = .invalidTemplate (some template.pattern) rule) := by
  induction templates generalizing seen with
  | nil => cases found
  | cons template templates ih =>
      rw [defect?] at found
      by_cases again : template.key ∈ seen
      · rw [if_pos again] at found
        cases found
        exact ⟨[], template, templates, rfl, rfl, .inl ⟨.inl again, rfl⟩⟩
      · rw [if_neg again] at found
        cases broken : Pattern.violation? separator template.pattern with
        | some rule =>
            rw [broken] at found
            cases found
            exact ⟨[], template, templates, rfl, rfl, .inr ⟨by simpa using again, rule, broken, rfl⟩⟩
        | none =>
            rw [broken] at found
            obtain ⟨before, other, after, rfl, sound, flaw⟩ := ih found
            refine ⟨template :: before, other, after, rfl, ?_, ?_⟩
            · rw [defect?, if_neg again, broken]
              exact sound
            · have same : (other.key ∈ template.key :: seen ∨ other.key ∈ before.map Template.key) ↔
                  (other.key ∈ seen ∨ other.key ∈ (template :: before).map Template.key) := by
                simp only [List.map_cons, List.mem_cons]
                grind
              rwa [same] at flaw

/-- A defect of the templates is a flaw of the pair that the template was read from. -/
theorem Reads.exists_failsAt (read : Reads pairs templates)
    (found : defect? separator [] templates = some failure) :
    ∃ position, FailsAt separator pairs position failure := by
  obtain ⟨sound, template, rest, rfl, faultless, flaw⟩ := exists_flaw_of_defect? found
  have named := read.named
  rw [Reads, List.map_append, List.map_cons, List.map_eq_append_iff] at read
  obtain ⟨before, others, rfl, earlier, later⟩ := read
  obtain ⟨pair, after, rfl, here, -⟩ := List.map_eq_cons_iff.mp later
  obtain ⟨known, pattern⟩ := Prod.mk.inj here
  have consistent : Consistent separator before := by
    obtain ⟨distinct, -, valid⟩ := defect?_eq_none_iff.mp faultless
    exact (consistent_iff earlier).mpr ⟨distinct, valid⟩
  have seen : pairKey? pair ∈ before.map pairKey? ↔ template.key ∈ sound.map Template.key := by
    rw [keys earlier, known]
    simp
  refine ⟨before.length, .flawed rfl named consistent ?_⟩
  rcases flaw with ⟨again, rfl⟩ | ⟨fresh, rule, broken, rfl⟩
  · exact .repeatedKey known (seen.mpr (again.resolve_left List.not_mem_nil))
  · rw [← pattern] at broken ⊢
    exact .invalidTemplate (fun again => fresh (.inr (seen.mp again))) broken

/-! ## There is at most one such pair -/

/-- The first item with which a row loses a property is determined. -/
theorem cut_unique {α : Type} {Holds : List α → Prop}
    (closed : ∀ first second, Holds (first ++ second) → Holds first)
    {before before' after after' : List α} {item item' : α}
    (cut : before ++ item :: after = before' ++ item' :: after')
    (holds : Holds before) (breaks : ¬ Holds (before ++ [item]))
    (holds' : Holds before') (breaks' : ¬ Holds (before' ++ [item'])) :
    before = before' ∧ item = item' := by
  rcases List.append_eq_append_iff.mp cut with ⟨between, rfl, rest⟩ | ⟨between, rfl, rest⟩
  · cases between with
    | nil => exact ⟨(List.append_nil before).symm, (List.cons.inj rest).1⟩
    | cons other between =>
        obtain ⟨rfl, -⟩ := List.cons.inj rest
        exact absurd (closed (before ++ [item]) between (by simpa using holds')) breaks
  · cases between with
    | nil => exact ⟨List.append_nil before', (List.cons.inj rest).1.symm⟩
    | cons other between =>
        obtain ⟨rfl, -⟩ := List.cons.inj rest
        exact absurd (closed (before' ++ [item']) between (by simpa using holds)) breaks'

theorem Named.of_append (named : Named (before ++ after)) : Named before :=
  fun pair member => named pair (List.mem_append_left _ member)

theorem not_named_of_unknown (unknown : pairKey? pair = none) (member : pair ∈ pairs) :
    ¬ Named pairs :=
  fun named => named pair member unknown

theorem Consistent.of_append (consistent : Consistent separator (before ++ after)) :
    Consistent separator before :=
  ⟨(List.map_append ▸ consistent.distinct).of_append_left,
    fun pair member => consistent.valid pair (List.mem_append_left _ member)⟩

theorem Flaw.not_consistent (flaw : Flaw separator before pair failure) :
    ¬ Consistent separator (before ++ [pair]) := by
  rintro ⟨distinct, valid⟩
  cases flaw with
  | repeatedKey known again =>
      rw [List.map_append, List.nodup_append] at distinct
      exact distinct.2.2 _ again _ (List.mem_singleton.mpr rfl) rfl
  | invalidTemplate fresh broken =>
      rw [valid pair (List.mem_append_right before (List.mem_singleton.mpr rfl))] at broken
      cases broken

theorem Flaw.unique {failure' : Failure} (flaw : Flaw separator before pair failure)
    (flaw' : Flaw separator before pair failure') : failure = failure' := by
  cases flaw with
  | repeatedKey known again =>
      cases flaw' with
      | repeatedKey known' _ => cases known.symm.trans known'; rfl
      | invalidTemplate fresh _ => exact absurd again fresh
  | invalidTemplate fresh broken =>
      cases flaw' with
      | repeatedKey _ again => exact absurd again fresh
      | invalidTemplate _ broken' => cases broken.symm.trans broken'; rfl

/-- The rows whose keys are recognised, and the consistent ones, are closed under initial parts, so the
first pair that breaks either is determined. -/
theorem FailsAt.unique {position position' : Nat} {failure' : Failure}
    (fails : FailsAt separator pairs position failure)
    (fails' : FailsAt separator pairs position' failure') :
    position = position' ∧ failure = failure' := by
  cases fails with
  | unknownKey split named unknown =>
      cases fails' with
      | unknownKey split' named' unknown' =>
          obtain ⟨rfl, rfl⟩ := cut_unique (fun _ _ => Named.of_append) (split.symm.trans split') named
            (not_named_of_unknown unknown (by simp)) named'
            (not_named_of_unknown unknown' (by simp))
          exact ⟨rfl, rfl⟩
      | flawed split' named' =>
          exact absurd named' (not_named_of_unknown unknown (by simp [split]))
  | flawed split named consistent flaw =>
      cases fails' with
      | unknownKey split' named' unknown' =>
          exact absurd named (not_named_of_unknown unknown' (by simp [split']))
      | flawed split' named' consistent' flaw' =>
          obtain ⟨rfl, rfl⟩ := cut_unique (fun _ _ => Consistent.of_append)
            (split.symm.trans split') consistent flaw.not_consistent consistent'
            flaw'.not_consistent
          exact ⟨rfl, flaw.unique flaw'⟩

theorem FailsAt.ne_nil {position : Nat} (fails : FailsAt separator pairs position failure) :
    pairs ≠ [] := by
  rintro rfl
  cases fails with
  | unknownKey split => simp at split
  | flawed split => simp at split

theorem FailsAt.not_consistent {position : Nat} (fails : FailsAt separator pairs position failure)
    (named : Named pairs) : ¬ Consistent separator pairs := by
  cases fails with
  | unknownKey split _ unknown =>
      exact absurd named (not_named_of_unknown unknown (by simp [split]))
  | @flawed before after pair _ split _ _ flaw =>
      intro consistent
      rw [split, List.append_cons] at consistent
      exact flaw.not_consistent consistent.of_append

/-! ## Building a registry from pairs -/

theorem ofPairs_eq_ok_iff {settings : Settings} {registry : Registry} :
    ofPairs settings pairs = .ok registry ↔
      pairs ≠ [] ∧ Consistent settings.separatorText pairs ∧
        ∃ templates, Reads pairs templates ∧
          registry = ⟨settings, templates.map Route.ofTemplate⟩ := by
  rw [ofPairs]
  cases read : pairs.mapM Template.ofPair with
  | error failure =>
      constructor
      · intro built
        cases built
      · rintro ⟨-, -, templates, reads, -⟩
        rw [mapM_ofPair_eq_ok_iff.mpr reads] at read
        cases read
  | ok templates =>
      have reads := mapM_ofPair_eq_ok_iff.mp read
      have filled : templates ≠ [] ↔ pairs ≠ [] := by
        rw [← List.length_pos_iff, ← List.length_pos_iff, reads.length_eq]
      show build settings templates = .ok registry ↔ _
      rw [build_eq_ok_iff, reads.consistent_iff, filled]
      constructor
      · rintro ⟨present, distinct, valid, rfl⟩
        exact ⟨present, ⟨distinct, valid⟩, templates, reads, rfl⟩
      · rintro ⟨present, ⟨distinct, valid⟩, others, reads', rfl⟩
        cases read.symm.trans (mapM_ofPair_eq_ok_iff.mpr reads')
        exact ⟨present, distinct, valid, rfl⟩

theorem exists_failsAt_of_ofPairs {settings : Settings} (filled : pairs ≠ [])
    (failed : ofPairs settings pairs = .error failure) :
    ∃ position, FailsAt settings.separatorText pairs position failure := by
  rw [ofPairs] at failed
  cases read : pairs.mapM Template.ofPair with
  | error other =>
      rw [read] at failed
      cases failed
      obtain ⟨before, pair, after, rfl, named, unknown, rfl⟩ := exists_unknown_of_mapM read
      exact ⟨before.length, .unknownKey rfl named unknown⟩
  | ok templates =>
      have reads := mapM_ofPair_eq_ok_iff.mp read
      have present : ¬ templates.isEmpty = true := by
        rw [List.isEmpty_iff, ← List.length_eq_zero_iff, ← reads.length_eq,
          List.length_eq_zero_iff]
        exact filled
      rw [read] at failed
      change build settings templates = .error failure at failed
      rw [build, if_neg present] at failed
      cases found : defect? settings.separatorText [] templates with
      | none =>
          rw [found] at failed
          cases failed
      | some other =>
          rw [found] at failed
          cases failed
          exact reads.exists_failsAt found

theorem ofPairs_eq_error_iff {settings : Settings} :
    ofPairs settings pairs = .error failure ↔
      pairs = [] ∧ failure = .configuration .noTemplates ∨
        ∃ position, FailsAt settings.separatorText pairs position failure := by
  constructor
  · intro failed
    by_cases empty : pairs = []
    · subst empty
      cases failed
      exact .inl ⟨rfl, rfl⟩
    · exact .inr (exists_failsAt_of_ofPairs empty failed)
  · rintro (⟨rfl, rfl⟩ | ⟨position, fails⟩)
    · rfl
    · cases outcome : ofPairs settings pairs with
      | error other =>
          obtain ⟨position', fails'⟩ := exists_failsAt_of_ofPairs fails.ne_nil outcome
          rw [(fails.unique fails').2]
      | ok registry =>
          obtain ⟨-, consistent, templates, reads, -⟩ := ofPairs_eq_ok_iff.mp outcome
          exact absurd consistent (fails.not_consistent reads.named)

end RouteTemplate.Registry
