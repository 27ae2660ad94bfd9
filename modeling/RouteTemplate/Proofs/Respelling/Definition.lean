import RouteTemplate.Proofs.Registry.Defects
import RouteTemplate.Proofs.Respelling.Resolution

/-! # Definitions with other texts

A change of texts that neither the keys nor the rules notice leaves it open only how a failure is
spelt: the changed definition fails at the same pair (`Unnoticed.failsAt`), or it makes a registry of
the changed templates (`Unnoticed.ofPairs_ok`). -/
namespace RouteTemplate

open Alphabet (isVariable)

def Template.mapText (change : Text → Text) (template : Template) : Template :=
  ⟨template.key, change template.pattern⟩

/-- Replacing characters that are no variable characters makes no key and breaks none. -/
theorem RawValue.key?_replace {old new : Char} (foreign : isVariable old = false)
    (foreign' : isVariable new = false) (raw : RawValue) :
    (raw.mapText (Text.replace old new)).key? = raw.key? := by
  have absent {word : Text} (spelt : ∀ c ∈ word, isVariable c = true) {c : Char}
      (foreign : isVariable c = false) : c ∉ word := by
    intro member
    rw [spelt c member] at foreign
    cases foreign
  cases raw with
  | text word =>
      refine Option.ext fun key => ?_
      have words : ∀ c ∈ key.word, isVariable c = true :=
        List.all_eq_true.mp (by cases key <;> decide)
      have labels : ∀ c ∈ key.label, isVariable c = true :=
        List.all_eq_true.mp (by cases key <;> decide)
      show Key.ofText? (Text.replace old new word) = some key ↔ Key.ofText? word = some key
      rw [Key.ofText?_eq_some_iff, Key.ofText?_eq_some_iff,
        Text.replace_eq_iff (absent words foreign) (absent words foreign'),
        Text.replace_eq_iff (absent labels foreign) (absent labels foreign')]
  | _ => rfl

namespace Registry

/-- The pair with its texts changed. -/
def mapPair (change : Text → Text) (pair : RawValue × Text) : RawValue × Text :=
  (pair.1.mapText change, change pair.2)

/-- A change of texts that neither the keys nor the rules notice. -/
structure Unnoticed (separator separator' : Text) (change : Text → Text)
    (pairs : List (RawValue × Text)) : Prop where
  keys : ∀ pair ∈ pairs, pairKey? (mapPair change pair) = pairKey? pair
  rules : ∀ pair ∈ pairs,
    Pattern.violation? separator' (change pair.2) = Pattern.violation? separator pair.2

namespace Unnoticed

variable {separator separator' : Text} {change : Text → Text}
  {pairs before after : List (RawValue × Text)} {failure : Failure}

theorem of_append (unnoticed : Unnoticed separator separator' change (before ++ after)) :
    Unnoticed separator separator' change before :=
  ⟨fun pair member => unnoticed.keys pair (List.mem_append_left _ member),
    fun pair member => unnoticed.rules pair (List.mem_append_left _ member)⟩

theorem map_pairKey? (unnoticed : Unnoticed separator separator' change pairs) :
    (pairs.map (mapPair change)).map pairKey? = pairs.map pairKey? := by
  rw [List.map_map]
  exact List.map_congr_left unnoticed.keys

theorem named (unnoticed : Unnoticed separator separator' change pairs) (named : Named pairs) :
    Named (pairs.map (mapPair change)) := by
  intro pair member
  obtain ⟨pair, stands, rfl⟩ := List.mem_map.mp member
  rw [unnoticed.keys pair stands]
  exact named pair stands

theorem consistent (unnoticed : Unnoticed separator separator' change pairs)
    (consistent : Consistent separator pairs) :
    Consistent separator' (pairs.map (mapPair change)) := by
  refine ⟨unnoticed.map_pairKey? ▸ consistent.distinct, fun pair member => ?_⟩
  obtain ⟨pair, stands, rfl⟩ := List.mem_map.mp member
  exact (unnoticed.rules pair stands).trans (consistent.valid pair stands)

theorem flaw {pair : RawValue × Text}
    (unnoticed : Unnoticed separator separator' change (before ++ pair :: after))
    (flaw : Flaw separator before pair failure) :
    Flaw separator' (before.map (mapPair change)) (mapPair change pair) (failure.mapText change) := by
  have member : pair ∈ before ++ pair :: after := List.mem_append_right _ List.mem_cons_self
  have key := unnoticed.keys pair member
  have keys := unnoticed.of_append.map_pairKey?
  cases flaw with
  | repeatedKey known again =>
      rw [← key, ← keys] at again
      exact .repeatedKey (key.trans known) again
  | invalidTemplate fresh broken =>
      rw [← key, ← keys] at fresh
      exact .invalidTemplate fresh ((unnoticed.rules pair member).trans broken)

/-- The definition with other texts fails at the same pair. -/
theorem failsAt {position : Nat} (unnoticed : Unnoticed separator separator' change pairs)
    (fails : FailsAt separator pairs position failure) :
    FailsAt separator' (pairs.map (mapPair change)) position (failure.mapText change) := by
  cases fails with
  | @unknownKey before after pair split named unknown =>
      subst split
      have key := unnoticed.keys pair (List.mem_append_right _ List.mem_cons_self)
      rw [← List.length_map (mapPair change)]
      exact .unknownKey List.map_append (unnoticed.of_append.named named) (key.trans unknown)
  | @flawed before after pair _ split named consistent flaw =>
      subst split
      rw [← List.length_map (mapPair change)]
      exact .flawed List.map_append (unnoticed.named named)
        (unnoticed.of_append.consistent consistent) (unnoticed.flaw flaw)

theorem reads {templates : List Template} (unnoticed : Unnoticed separator separator' change pairs)
    (read : Reads pairs templates) :
    Reads (pairs.map (mapPair change)) (templates.map (Template.mapText change)) := by
  have changed := congrArg (List.map (Prod.map id change)) read
  rw [List.map_map, List.map_map] at changed
  rw [Reads, List.map_map, List.map_map]
  refine (List.map_congr_left fun pair member => ?_).trans changed
  exact congrArg (·, change pair.2) (unnoticed.keys pair member)

variable {settings settings' : Settings}

theorem ofPairs_error
    (unnoticed : Unnoticed settings.separatorText settings'.separatorText change pairs)
    (failed : ofPairs settings pairs = .error failure) :
    ofPairs settings' (pairs.map (mapPair change)) = .error (failure.mapText change) := by
  rw [ofPairs_eq_error_iff] at failed ⊢
  rcases failed with ⟨rfl, rfl⟩ | ⟨position, fails⟩
  · exact .inl ⟨rfl, rfl⟩
  · exact .inr ⟨position, unnoticed.failsAt fails⟩

theorem ofPairs_ok {templates : List Template}
    (unnoticed : Unnoticed settings.separatorText settings'.separatorText change pairs)
    (filled : pairs ≠ []) (consistent : Consistent settings.separatorText pairs)
    (read : Reads pairs templates) :
    ofPairs settings' (pairs.map (mapPair change)) =
      .ok ⟨settings', (templates.map (Template.mapText change)).map Route.ofTemplate⟩ :=
  ofPairs_eq_ok_iff.mpr ⟨by simpa using filled, unnoticed.consistent consistent, _,
    unnoticed.reads read, rfl⟩

end Unnoticed

end Registry

/-- Where the change is a respelling of the patterns, the routes are the respelt ones. -/
theorem Respelling.map_ofTemplate (spelling : Respelling) {templates : List Template}
    {change : Text → Text}
    (same : ∀ template ∈ templates, spelling.text template.pattern = change template.pattern) :
    (templates.map (Template.mapText change)).map Route.ofTemplate =
      (templates.map Route.ofTemplate).map spelling.route := by
  rw [List.map_map, List.map_map]
  refine List.map_congr_left fun template member => ?_
  show Route.ofTemplate ⟨template.key, change template.pattern⟩ = _
  rw [← same template member]
  exact spelling.ofTemplate_text template.key template.pattern

end RouteTemplate
