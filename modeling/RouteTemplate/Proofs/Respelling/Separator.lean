import RouteTemplate.Session
import RouteTemplate.Proofs.Path.Extension
import RouteTemplate.Proofs.Pattern.Grammar
import RouteTemplate.Proofs.Resolution
import RouteTemplate.Proofs.Respelling.Definition

/-! # The choice of the separator

It does not matter which character the separator is. When it is replaced everywhere by a character
that was not there, a definition fails at the same pair for the same reason or makes a registry that
resolves the same paths with the same values (`registryOf_replace`). -/
namespace RouteTemplate

open Alphabet (isVariable isBrace)

/-! ## Resolving a path -/

/-- The outcomes of resolving a path before and after texts were changed. -/
inductive Resolution.Alike (change : Text → Text) (path : Option Text) :
    Except Failure (Option Resolution) → Except Failure (Option Resolution) → Prop where
  | refused (fault : InputFault) : Alike change path (.error (.invalidInput path fault))
      (.error (.invalidInput (path.map change) (fault.mapText change)))
  | unresolved : Alike change path (.ok none) (.ok none)
  | resolved {found found' : Resolution} (key : found'.route.key = found.route.key)
      (bindings : found'.bindings.entries =
        found.bindings.entries.map (fun entry => (change entry.1, entry.2)))
      (extension : found'.extension = found.extension.map change) :
      Alike change path (.ok (some found)) (.ok (some found'))

section

variable {old new : Char}

/-- A fault quotes no other text than the separator. -/
theorem Path.mapText_of_fault? {separator path : Text} {limit : Int} {fault : InputFault}
    (faulty : fault? separator limit path = some fault) {change change' : Text → Text}
    (same : change separator = change' separator) : fault.mapText change = fault.mapText change' := by
  cases fault with
  | disallowedCharacters other =>
      obtain rfl : other = separator := by grind [fault?]
      exact congrArg InputFault.disallowedCharacters same
  | _ => rfl

theorem Respelling.text_separator (legal : (isVariable old || isBrace old) = false)
    (legal' : (isVariable new || isBrace new) = false) :
    (exchange old new legal legal').text [old] = [new] :=
  congrArg (fun c => [c]) (Equiv.swap_apply_left old new)

/-- Where neither the names of the routes nor the path hold the new separator, both resolve alike. -/
theorem Resolution.alike_resolve (legal : (isVariable old || isBrace old) = false)
    (legal' : (isVariable new || isBrace new) = false) (limit : Int) {routes : List Route}
    {path : Option Text} (free : new ≠ old → ∀ route ∈ routes, ∀ name ∈ route.names, new ∉ name)
    (free' : new ≠ old → ∀ text ∈ path, new ∉ text) :
    Alike (Text.replace old new) path (resolve [old] limit routes path)
      (resolve [new] limit (routes.map (Respelling.exchange old new legal legal').route)
        (path.map (Text.replace old new))) := by
  have spelt {text : Text} (absent : new ≠ old → new ∉ text) :
      (Respelling.exchange old new legal legal').text text = Text.replace old new text :=
    Respelling.text_exchange absent
  have separator := Respelling.text_separator legal legal'
  have replaced : path.map (Text.replace old new) =
      path.map (Respelling.exchange old new legal legal').text :=
    Option.map_congr fun text given => (spelt fun other => free' other text given).symm
  -- Of the exchange no more is needed than these three equations.
  generalize Respelling.exchange old new legal legal' = spelling at spelt separator replaced ⊢
  have respelt := spelling.resolve_text [old] limit routes path
  rw [separator, ← replaced] at respelt
  rw [respelt]
  cases outcome : resolve [old] limit routes path with
  | error failure =>
      obtain ⟨fault, faulty, rfl⟩ := resolve_eq_error_iff.mp outcome
      have kept : spelling.text [old] = Text.replace old new [old] := spelt (by simp)
      have same := Path.mapText_of_fault? faulty kept
      have refused : Alike (Text.replace old new) path _ _ := .refused fault
      rw [replaced, ← same] at refused
      exact refused
  | ok result =>
      cases result with
      | none => exact .unresolved
      | some found =>
          obtain ⟨text, rfl, -, first⟩ := resolve_eq_ok_iff.mp outcome
          obtain ⟨extension, before, after, rfl, bound, -⟩ := first?_eq_some_iff.mp first.symm
          refine .resolved rfl (List.map_congr_left fun entry member => ?_)
            (Option.map_congr fun ending present => spelt fun other stands => ?_)
          · have name : entry.1 ∈ found.route.names :=
              Route.mem_names_of_bindings? bound (List.mem_map_of_mem member)
            have among : found.route ∈ before ++ found.route :: after :=
              List.mem_append_right before List.mem_cons_self
            exact congrArg (·, entry.2) (spelt fun other => free other found.route among entry.1 name)
          · exact free' other text rfl
              (Path.mem_of_mem_extension (extension.symm.trans present) stands)

end

/-! ## Building a registry -/

section

variable {old new : Char} {pairs : List (RawValue × Text)}

theorem Registry.unnoticed_replace (legal : (isVariable old || isBrace old) = false)
    (legal' : (isVariable new || isBrace new) = false)
    (free : new ≠ old → ∀ pair ∈ pairs, new ∉ pair.2) :
    Unnoticed [old] [new] (Text.replace old new) pairs where
  keys pair _ := RawValue.key?_replace (Bool.or_eq_false_iff.mp legal).1
    (Bool.or_eq_false_iff.mp legal').1 pair.1
  rules pair member := by
    rw [← Respelling.text_exchange (fun other => free other pair member),
      ← Respelling.text_separator legal legal']
    exact Respelling.violation?_text _ [old] pair.2

/-- The names of a route made from a valid pattern are spelt with characters of the pattern. -/
theorem Route.mem_pattern_of_mem_name {separator pattern name : Text} {key : Key} {c : Char}
    (valid : Pattern.violation? separator pattern = none)
    (member : name ∈ (Route.ofTemplate ⟨key, pattern⟩).names) (stands : c ∈ name) : c ∈ pattern := by
  rw [← Pattern.text_ofPattern valid]
  exact Shape.mem_text_of_mem_name member stands

theorem Registry.ofPairs_replace {settings settings' : Settings} {registry : Registry}
    (limit : settings'.limit = settings.limit)
    (free : settings'.separator ≠ settings.separator →
      ∀ pair ∈ pairs, settings'.separator ∉ pair.2)
    (built : ofPairs settings pairs = .ok registry) :
    let change := Text.replace settings.separator settings'.separator
    ∃ registry', ofPairs settings' (pairs.map (mapPair change)) = .ok registry' ∧
      ∀ path, (settings'.separator ≠ settings.separator → ∀ text ∈ path, settings'.separator ∉ text) →
        Resolution.Alike change path (registry.resolve path)
          (registry'.resolve (path.map change)) := by
  intro change
  obtain ⟨filled, consistent, templates, read, rfl⟩ := ofPairs_eq_ok_iff.mp built
  have unnoticed : Unnoticed settings.separatorText settings'.separatorText change pairs :=
    unnoticed_replace settings.separator_free settings'.separator_free free
  refine ⟨_, unnoticed.ofPairs_ok filled consistent read, fun path free' => ?_⟩
  have absent : settings'.separator ≠ settings.separator → ∀ template ∈ templates,
      settings'.separator ∉ template.pattern := by
    intro other template member
    obtain ⟨pair, among, same⟩ := read.exists_pair member
    exact same ▸ free other pair among
  have named : settings'.separator ≠ settings.separator → ∀ route ∈ templates.map Route.ofTemplate,
      ∀ name ∈ route.names, settings'.separator ∉ name := by
    intro other route member name among stands
    obtain ⟨template, written, rfl⟩ := List.mem_map.mp member
    have valid := (read.consistent_iff.mp consistent).2 template written
    exact absent other template written (Route.mem_pattern_of_mem_name valid among stands)
  have routes := Respelling.map_ofTemplate (Respelling.exchange settings.separator
    settings'.separator settings.separator_free settings'.separator_free) fun template member =>
      Respelling.text_exchange fun other => absent other template member
  show Resolution.Alike change path _ (Resolution.resolve _ settings'.limit _ _)
  rw [limit, routes]
  exact Resolution.alike_resolve settings.separator_free settings'.separator_free settings.limit
    named free'

namespace Session

variable {separator : Char} {limit : Int}

theorem registryOf_of_pos (legal : (isVariable separator || isBrace separator) = false)
    (positive : 0 < limit.toNat) (pairs : List (RawValue × Text)) :
    registryOf [separator] limit (some pairs) =
      Registry.ofPairs ⟨separator, limit.toNat, legal, positive⟩ pairs := by
  rw [registryOf, Settings.make?, dif_pos legal, dif_pos positive]
  rfl

theorem registryOf_of_not_pos (legal : (isVariable separator || isBrace separator) = false)
    (nothing : ¬ 0 < limit.toNat) (pairs : List (RawValue × Text)) :
    registryOf [separator] limit (some pairs) =
      .error (.configuration (.limitNotPositive limit)) := by
  rw [registryOf, Settings.make?, dif_pos legal, dif_neg nothing]
  rfl

end Session

open Registry in
/-- When the separator is replaced everywhere by a character that was not there, a definition fails
at the same pair and in the same way, or makes a registry that resolves all paths alike. -/
theorem Session.registryOf_replace (legal : (isVariable old || isBrace old) = false)
    (legal' : (isVariable new || isBrace new) = false) (limit : Int)
    (free : new ≠ old → ∀ pair ∈ pairs, new ∉ pair.2) :
    let change := Text.replace old new
    let pairs' := pairs.map (mapPair change)
    (∀ failure, registryOf [old] limit (some pairs) = .error failure →
      registryOf [new] limit (some pairs') = .error (failure.mapText change) ∧
        (limit ≤ 0 ∨ pairs = [] ∨ ∃ position, FailsAt [old] pairs position failure ∧
          FailsAt [new] pairs' position (failure.mapText change))) ∧
    ∀ registry, registryOf [old] limit (some pairs) = .ok registry →
      ∃ registry', registryOf [new] limit (some pairs') = .ok registry' ∧
        ∀ path, (new ≠ old → ∀ text ∈ path, new ∉ text) →
          Resolution.Alike change path (registry.resolve path)
            (registry'.resolve (path.map change)) := by
  intro change pairs'
  by_cases positive : 0 < limit.toNat
  · let settings : Settings := ⟨old, limit.toNat, legal, positive⟩
    let settings' : Settings := ⟨new, limit.toNat, legal', positive⟩
    have unnoticed : Unnoticed settings.separatorText settings'.separatorText change pairs :=
      unnoticed_replace legal legal' free
    rw [registryOf_of_pos legal positive, registryOf_of_pos legal' positive]
    constructor
    · intro failure failed
      refine ⟨unnoticed.ofPairs_error failed, .inr ?_⟩
      rcases ofPairs_eq_error_iff.mp failed with ⟨empty, -⟩ | ⟨position, fails⟩
      · exact .inl empty
      · exact .inr ⟨position, fails, unnoticed.failsAt fails⟩
    · intro registry built
      have sameLimit : settings'.limit = settings.limit := rfl
      exact ofPairs_replace sameLimit free built
  · rw [registryOf_of_not_pos legal positive, registryOf_of_not_pos legal' positive]
    constructor
    · rintro failure ⟨⟩
      exact ⟨rfl, .inl (by omega)⟩
    · rintro registry ⟨⟩

/-- A line break for the separator: a name that holds it is spelt with it, and a path of two lines
with an extension is resolved to the same values. -/
theorem Session.registryOf_replace_newline :
    (isVariable '\n' || isBrace '\n') = false ∧
      ∃ registry' found', registryOf ['\n'] 64
          (some [(.text "show".toList, "\n\x7ba\nb\x7d".toList)]) = .ok registry' ∧
        registry'.resolve (some "\n7\nx.json".toList) = .ok (some found') ∧
        found'.bindings.entries = [("a\nb".toList, "7".toList)] ∧
        found'.extension = some "json".toList := by
  have legal' : (isVariable '\n' || isBrace '\n') = false := by decide
  let pairs : List (RawValue × Text) := [(.text "show".toList, "/\x7ba/b\x7d".toList)]
  have absent : '\n' ≠ '/' → ∀ pair ∈ pairs, '\n' ∉ pair.2 := by decide
  obtain ⟨-, made⟩ := registryOf_replace (by decide) legal' 64 absent
  let route := Route.ofTemplate ⟨.view, "/\x7ba/b\x7d".toList⟩
  let registry : Registry := ⟨⟨'/', 64, by decide, by decide⟩, [route]⟩
  have built : registryOf ['/'] 64 (some pairs) = .ok registry := by rfl
  have answer : registry.resolve (some "/7/x.json".toList) =
      .ok (some ⟨route, Assignment.ofList [("a/b".toList, "7".toList)], some "json".toList⟩) := by rfl
  obtain ⟨registry', built', resolved⟩ := made registry built
  have alike := resolved (some "/7/x.json".toList) (by decide)
  rw [answer] at alike
  generalize outcome : registry'.resolve _ = result at alike
  cases alike with
  | @resolved _ found' _ bindings extension =>
      exact ⟨legal', registry', found', built', outcome, bindings, extension⟩

end

end RouteTemplate
