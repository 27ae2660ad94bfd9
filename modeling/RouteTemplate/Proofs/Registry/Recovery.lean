import RouteTemplate.Proofs.Path.Built
import RouteTemplate.Proofs.Pattern.Separation
import RouteTemplate.Proofs.Registry.Priority
import RouteTemplate.Proofs.Route

/-! # Recovering values

A pattern round-trips when a registry of it alone gives back the values of every path built from it.
Exactly those patterns do that have the separator between any two consecutive placeholders. -/
namespace RouteTemplate

open Alphabet (isVariable spells)

namespace Pattern

/-- The separator stands between any two consecutive placeholders. -/
def Separated (separator : Char) (pattern : Text) : Prop :=
  ∀ before name literal next after,
    pieces pattern = before ++ .placeholder name :: .literal literal :: .placeholder next :: after →
      separator ∈ literal

/-- Whatever the limit and the key, a registry of the pattern alone finds the values and the
extension of every path that is built from values. -/
def RoundTrips (separator : Char) (pattern : Text) : Prop :=
  ∀ (settings : Settings) (key : Key) (values : Assignment) (extension : Option Text),
    settings.separator = separator → values.Fills pattern →
      ∃ registry base, Registry.build settings [⟨key, pattern⟩] = .ok registry ∧
        registry.merge (.key key) (some values) = .ok base ∧
        (Path.Carries separator base extension →
          (base ++ Path.suffix extension).length ≤ settings.limit →
            ∃ found, registry.resolve (some (base ++ Path.suffix extension)) = .ok (some found) ∧
              found.route.key = key ∧ found.extension = extension ∧
              ∀ name, found.bindings.get? name = values.get? name)

/-! ## Consecutive placeholders and the literals between them -/

theorem mem_dropLast_of_pieces {slots : List Slot} {before after : List Piece}
    {name literal next : Text}
    (split : slots.flatMap Slot.pieces =
      before ++ .placeholder name :: .literal literal :: .placeholder next :: after) :
    literal ∈ (slots.map Slot.after).dropLast := by
  induction slots generalizing before with
  | nil => simp at split
  | cons slot slots ih =>
      rw [List.flatMap_cons, Slot.pieces] at split
      rcases before with - | ⟨_, - | ⟨_, before⟩⟩
      · simp only [List.cons_append, List.nil_append, List.cons.injEq, Piece.literal.injEq] at split
        -- Another placeholder follows, so the slot is not the last one.
        cases slots with
        | nil => simp at split
        | cons other slots => simp [split.2.1]
      · simp at split
      · simp only [List.cons_append, List.nil_append, List.cons.injEq] at split
        have member := ih split.2.2
        have filled : slots.map Slot.after ≠ [] :=
          List.ne_nil_of_mem ((List.dropLast_sublist _).subset member)
        rw [List.map_cons, List.dropLast_cons_of_ne_nil filled]
        exact List.mem_cons_of_mem _ member

theorem separated_iff {separator : Char} {pattern : Text}
    (valid : violation? [separator] pattern = none) :
    Separated separator pattern ↔
      Matcher.Separated separator (Pattern.matcher pattern).tails := by
  obtain ⟨shape, rfl, regular⟩ := exists_regular_of_valid valid
  rw [matcher, regular.ofPattern_text, Separated, regular.pieces_text regular.named]
  constructor
  · intro separated literal inner
    rw [Matcher.ofShape, ← List.map_dropLast] at inner
    obtain ⟨slot, member, rfl⟩ := List.mem_map.mp inner
    obtain ⟨before, next, after, split⟩ := Matcher.exists_between_of_mem_dropLast member
    apply separated (.literal shape.head :: before.flatMap Slot.pieces) slot.name slot.after
      next.name (.literal next.after :: after.flatMap Slot.pieces)
    simp [split, Slot.pieces]
  · intro separated before name literal next after split
    cases before with
    | nil => simp at split
    | cons first before =>
        exact separated literal (mem_dropLast_of_pieces (List.cons.inj split).2)

end Pattern

/-! ## Registries of one template -/

variable {separator : Char} {settings : Settings} {key : Key} {pattern : Text} {values : Assignment}

/-- A route gives values back when its matcher does. -/
theorem Route.binds_values_iff {separator : Text}
    (valid : Pattern.violation? separator pattern = none) (fills : values.Fills pattern)
    {base : Text} :
    (∃ bindings, (ofTemplate ⟨key, pattern⟩).bindings? separator base = some bindings ∧
        ∀ name, bindings.get? name = values.get? name) ↔
      (ofTemplate ⟨key, pattern⟩).matcher.tolerantCaptures? separator base =
        some (values.row (Pattern.placeholderNames pattern)) := by
  have distinct := Pattern.nodup_placeholderNames valid
  rw [bindings?_ofTemplate valid]
  constructor
  · rintro ⟨bindings, bound, agree⟩
    obtain ⟨row, captured, rfl⟩ := Option.map_eq_some_iff.mp bound
    have counted := (Matcher.length_of_values? captured).trans (Pattern.groups_eq_length valid)
    have same := Assignment.row_ofList_zip distinct counted
    rw [captured, ← same, Assignment.row, Assignment.row]
    simp only [agree]
  · intro captured
    rw [captured]
    refine ⟨_, rfl, Assignment.Fills.get?_eq ?_ fills ?_⟩
    · exact Pattern.fills_ofList_zip valid (Assignment.length_row values _) fills.spells_of_mem_row
    · exact Assignment.row_ofList_zip distinct (Assignment.length_row values _)

namespace Registry

/-- The registry of one template. -/
def single (settings : Settings) (key : Key) (pattern : Text) : Registry :=
  ⟨settings, [Route.ofTemplate ⟨key, pattern⟩]⟩

theorem build_single (key : Key)
    (valid : Pattern.violation? settings.separatorText pattern = none) :
    build settings [⟨key, pattern⟩] = .ok (single settings key pattern) :=
  build_eq_ok_iff.mpr ⟨List.cons_ne_nil _ _, List.nodup_singleton key,
    List.forall_mem_singleton.mpr valid, rfl⟩

theorem merge_single (key : Key)
    (valid : Pattern.violation? settings.separatorText pattern = none) :
    (single settings key pattern).merge (.key key) (some values) =
      Pattern.merge pattern values := by
  have well := wellBuilt_of_build (build_single key valid)
  exact merge_of_get (well.get_eq_ok_iff.mpr ⟨List.mem_singleton_self _, rfl⟩) values

theorem resolve_single_iff {path : Text} {found : Resolution}
    (faultless : Path.fault? settings.separatorText settings.limit path = none) :
    (single settings key pattern).resolve (some path) = .ok (some found) ↔
      found.route = Route.ofTemplate ⟨key, pattern⟩ ∧
        found.extension = (Path.split path).extension ∧
        (Route.ofTemplate ⟨key, pattern⟩).bindings? settings.separatorText (Path.split path).base =
          some found.bindings := by
  rw [resolve_eq_ok_iff]
  constructor
  · rintro ⟨_, given, -, first⟩
    cases given
    obtain ⟨extension, before, after, split, bound, -⟩ :=
      Resolution.first?_eq_some_iff.mp first.symm
    have route : found.route ∈ (single settings key pattern).routes := by simp [split]
    obtain route := List.mem_singleton.mp route
    exact ⟨route, extension, route ▸ bound⟩
  · rintro ⟨route, extension, bound⟩
    refine ⟨path, rfl, faultless,
      (Resolution.first?_eq_some_iff.mpr ⟨extension, [], [], ?_, ?_, ?_⟩).symm⟩
    · rw [route]
      rfl
    · rw [route]
      exact bound
    · exact List.forall_mem_nil _

/-- A registry of one template finds the values again when its matcher captures them. -/
theorem resolve_single_filled_iff
    (valid : Pattern.violation? settings.separatorText pattern = none)
    (fills : values.Fills pattern)
    {base : Text} (built : base = (Pattern.matcher pattern).filled
      (values.row (Pattern.placeholderNames pattern)))
    {extension : Option Text} (carries : Path.Carries settings.separator base extension)
    (short : (base ++ Path.suffix extension).length ≤ settings.limit) :
    (∃ found,
        (single settings key pattern).resolve (some (base ++ Path.suffix extension)) =
            .ok (some found) ∧
          found.route.key = key ∧ found.extension = extension ∧
          ∀ name, found.bindings.get? name = values.get? name) ↔
      (Pattern.matcher pattern).tolerantCaptures? settings.separatorText base =
        some (values.row (Pattern.placeholderNames pattern)) := by
  have wellFormed := Pattern.wellFormed_ofPattern settings.isBrace_separator valid
  have counted := Assignment.length_row_eq_groups valid values
  have filled : base ≠ [] := built ▸ wellFormed.filled_ne_nil _
  have split := Path.split_append_suffix filled carries
  have faultless : Path.fault? settings.separatorText settings.limit
      (base ++ Path.suffix extension) = none := by
    subst built
    exact wellFormed.fault?_filled counted fills.spells_of_mem_row
      (Path.isPathCharacter_of_mem_suffix carries) (by exact_mod_cast short)
  have binds := @Route.binds_values_iff key pattern values settings.separatorText valid fills base
  refine Iff.trans ?_ binds
  simp only [resolve_single_iff faultless, split]
  constructor
  · rintro ⟨found, ⟨-, -, bound⟩, -, -, agree⟩
    exact ⟨found.bindings, bound, agree⟩
  · rintro ⟨bindings, bound, agree⟩
    exact ⟨⟨_, bindings, extension⟩, ⟨rfl, rfl, bound⟩, rfl, rfl, agree⟩

end Registry

namespace Pattern

/-- A literal between two placeholders that lacks the separator could stand in a value. -/
theorem inner_literal (noBrace : Alphabet.isBrace separator = false)
    (valid : violation? [separator] pattern = none) {literal : Text}
    (inner : literal ∈ (matcher pattern).tails.dropLast)
    (lacks : separator ∉ literal) : literal ≠ [] ∧ ∀ c ∈ literal, isVariable c = true := by
  have wellFormed := wellFormed_ofPattern noBrace valid
  constructor
  · rw [matcher, Matcher.ofShape, ← List.map_dropLast] at inner
    obtain ⟨slot, member, rfl⟩ := List.mem_map.mp inner
    exact wellFormed.parted slot member
  · intro c stands
    have member : literal ∈ (Shape.ofPattern pattern).literals :=
      List.mem_cons_of_mem _ ((List.dropLast_sublist _).subset inner)
    have admitted := wellFormed.literals_spelt literal member c stands
    rw [Alphabet.isPathCharacter, Bool.or_eq_true_iff, List.contains_iff_mem,
      List.mem_singleton] at admitted
    apply admitted.resolve_right
    rintro rfl
    exact lacks stands

/-- A round trip gives the matcher every row that makes a path. -/
theorem RoundTrips.captures (roundTrips : RoundTrips separator pattern)
    (legal : (isVariable separator || Alphabet.isBrace separator) = false)
    (valid : violation? [separator] pattern = none) {row : List Text}
    (counted : row.length = (placeholderNames pattern).length)
    (spelt : ∀ value ∈ row, spells isVariable value = true) :
    (matcher pattern).tolerantCaptures? [separator] ((matcher pattern).filled row) = some row := by
  have fills := fills_ofList_zip valid counted spelt
  have merged := merge_ofList_zip valid counted spelt
  have same := Assignment.row_ofList_zip (nodup_placeholderNames valid) counted
  -- The limit lets the built path through, and an extension keeps its points in the base.
  let base := (matcher pattern).filled row
  let settings : Settings := ⟨separator, (base ++ ['.', 'a']).length + 1, legal, Nat.succ_pos _⟩
  have valid : violation? settings.separatorText pattern = none := valid
  obtain ⟨registry, path, built, written, found⟩ :=
    roundTrips settings .view _ (some ['a']) rfl fills
  obtain rfl := Except.ok.inj ((Registry.build_single .view valid).symm.trans built)
  rw [Registry.merge_single .view valid, merged] at written
  obtain rfl := Except.ok.inj written
  have carries : Path.Carries separator base (some ['a']) := by
    refine ⟨List.cons_ne_nil _ _, by decide, fun c member => ?_⟩
    rw [List.mem_singleton.mp member]
    rfl
  have short : (base ++ Path.suffix (some ['a'])).length ≤ settings.limit := Nat.le_succ _
  have captured := (Registry.resolve_single_filled_iff valid fills (by rw [same]) carries short).mp
    (found carries short)
  rw [same] at captured
  exact captured

theorem separated_iff_roundTrips
    (legal : (isVariable separator || Alphabet.isBrace separator) = false)
    (valid : violation? [separator] pattern = none) :
    Separated separator pattern ↔ RoundTrips separator pattern := by
  obtain ⟨foreign, noBrace⟩ := Bool.or_eq_false_iff.mp legal
  rw [separated_iff valid]
  constructor
  · rintro separated settings key values extension rfl fills
    refine ⟨_, _, Registry.build_single key valid,
      (Registry.merge_single key valid).trans (merge_of_fills valid fills), fun carries short => ?_⟩
    apply (Registry.resolve_single_filled_iff valid fills rfl carries short).mpr
    exact Matcher.tolerantCaptures?_filled foreign separated
      (Assignment.length_row_eq_groups valid values) fills.spells_of_mem_row
  · intro roundTrips literal inner
    apply Classical.byContradiction
    intro lacks
    obtain ⟨present, admitted⟩ := inner_literal noBrace valid inner lacks
    obtain ⟨row, counted, spelt, otherwise⟩ :=
      @Matcher.exists_captured_otherwise separator _ literal inner present admitted
    have counted := counted.trans (groups_eq_length valid)
    exact otherwise (roundTrips.captures legal valid counted spelt)

/-- A segment for each value is enough, even with points around; a hyphen between values is not. -/
theorem roundTrips_across_segments :
    RoundTrips '/' "/v1.2/\x7ba\x7d.x/\x7bb\x7d".toList ∧
      ¬ RoundTrips '/' "/\x7ba\x7d-\x7bb\x7d".toList := by
  constructor
  · have valid : violation? ['/'] "/v1.2/\x7ba\x7d.x/\x7bb\x7d".toList = none := rfl
    exact (separated_iff_roundTrips rfl valid).mp ((separated_iff valid).mpr (by decide))
  · have valid : violation? ['/'] "/\x7ba\x7d-\x7bb\x7d".toList = none := rfl
    intro roundTrips
    have separated := (separated_iff_roundTrips rfl valid).mpr roundTrips
    have between := (separated_iff valid).mp separated
    revert between
    decide

end Pattern

end RouteTemplate
