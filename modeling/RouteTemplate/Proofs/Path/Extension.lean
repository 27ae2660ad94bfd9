import Mathlib.Tactic.TFAE
import RouteTemplate.Alphabet
import RouteTemplate.Path.Extension

/-! # Bases and extensions

Splitting a path undoes writing an extension after a base: the extension is found again when it is
not empty and holds no point (`split_eq_some_iff`), and a path that holds no point or ends with one
keeps its end (`split_of_closed`). All other paths have an extension, unless their only point comes
first (`extension_eq_none_iff`); with that, splitting is exactly the inverse of writing an extension
(`split_inverts_append`). -/
namespace RouteTemplate.Path

/-- An extension as it stands at the end of a path. -/
def suffix : Option Text → Text
  | none => []
  | some extension => '.' :: extension

/-- The path holds no point, or ends with one. -/
def Closed (path : Text) : Prop := '.' ∉ path ∨ path.getLast? = some '.'

/-- What may be written after a base so that the two are told apart again: an extension, or nothing
where the base itself shows none. -/
def Carries (separator : Char) (base : Text) : Option Text → Prop
  | none => Closed base
  | some extension =>
      extension ≠ [] ∧ '.' ∉ extension ∧
        ∀ c ∈ extension, Alphabet.isPathCharacter [separator] c = true

variable {path base extension : Text}

theorem split_eq_some_iff :
    split path = ⟨base, some extension⟩ ↔
      path = base ++ '.' :: extension ∧ base ≠ [] ∧ extension ≠ [] ∧ '.' ∉ extension := by
  constructor
  · intro found
    unfold split at found
    split at found
    · next c before d after cut =>
        cases found
        obtain ⟨whole, last⟩ := Text.cutAtLast_eq_some_iff.mp cut
        exact ⟨whole, by simp, by simp, last⟩
    · cases found
  · rintro ⟨whole, filled, present, last⟩
    obtain ⟨c, before, rfl⟩ := List.exists_cons_of_ne_nil filled
    obtain ⟨d, after, rfl⟩ := List.exists_cons_of_ne_nil present
    rw [split, Text.cutAtLast_eq_some_iff.mpr ⟨whole, last⟩]

theorem split_of_closed (closed : Closed path) : split path = ⟨path, none⟩ := by
  unfold split
  split
  · next c before d after cut =>
      obtain ⟨whole, last⟩ := Text.cutAtLast_eq_some_iff.mp cut
      rcases closed with pointless | ending
      · exact absurd (by simp [whole]) pointless
      · rw [whole, List.getLast?_append, List.getLast?_cons_cons] at ending
        refine absurd (List.mem_of_getLast? (l := d :: after) ?_) last
        simpa using ending
  · rfl

/-- An extension that was found is not empty and holds no point. -/
theorem extension_of_split (found : (split path).extension = some extension) :
    extension ≠ [] ∧ '.' ∉ extension := by
  cases whole : split path with
  | mk base other =>
      obtain rfl : other = some extension := by rw [← found, whole]
      exact (split_eq_some_iff.mp whole).2.2

/-- A path is its base with its extension. -/
theorem base_append_suffix (path : Text) :
    path = (split path).base ++ suffix (split path).extension := by
  cases whole : split path with
  | mk base extension =>
      cases extension with
      | some extension => exact (split_eq_some_iff.mp whole).1
      | none =>
          unfold split at whole
          split at whole
          · cases whole
          · cases whole
            exact (List.append_nil path).symm

theorem mem_of_mem_extension (found : (split path).extension = some extension) {c : Char}
    (stands : c ∈ extension) : c ∈ path := by
  rw [base_append_suffix path, found]
  exact List.mem_append_right _ (List.mem_cons_of_mem _ stands)

theorem split_append_suffix {separator : Char} {extension : Option Text} (filled : base ≠ [])
    (carries : Carries separator base extension) :
    split (base ++ suffix extension) = ⟨base, extension⟩ := by
  cases extension with
  | none =>
      rw [suffix, List.append_nil]
      exact split_of_closed carries
  | some extension =>
      obtain ⟨present, pointless, -⟩ := carries
      exact split_eq_some_iff.mpr ⟨rfl, filled, present, pointless⟩

theorem isPathCharacter_of_mem_suffix {separator : Char} {extension : Option Text}
    (carries : Carries separator base extension) :
    ∀ c ∈ suffix extension, Alphabet.isPathCharacter [separator] c = true := by
  cases extension with
  | none => exact List.forall_mem_nil _
  | some extension => exact List.forall_mem_cons.mpr ⟨rfl, carries.2.2⟩

/-- A path without an extension is closed, or its only point comes first. -/
theorem extension_eq_none_iff :
    (split path).extension = none ↔ Closed path ∨ ∃ rest, path = '.' :: rest ∧ '.' ∉ rest := by
  constructor
  · intro bare
    cases cut : Text.cutAtLast '.' path with
    | none => exact .inl (.inl (Text.cutAtLast_eq_none_iff.mp cut))
    | some halves =>
        obtain ⟨before, after⟩ := halves
        obtain ⟨rfl, last⟩ := Text.cutAtLast_eq_some_iff.mp cut
        by_cases base : before = []
        · subst base
          exact .inr ⟨after, rfl, last⟩
        · by_cases present : after = []
          · subst present
            exact .inl (.inr List.getLast?_concat)
          · rw [split_eq_some_iff.mpr ⟨rfl, base, present, last⟩] at bare
            cases bare
  · rintro (closed | ⟨rest, rfl, pointless⟩)
    · rw [split_of_closed closed]
    · cases found : (split ('.' :: rest)).extension with
      | none => rfl
      | some extension =>
          -- The base would take the first point, and the point before the extension is another one.
          have whole : split ('.' :: rest) = ⟨(split ('.' :: rest)).base, some extension⟩ := by
            rw [← found]
          obtain ⟨spelt, filled, -⟩ := split_eq_some_iff.mp whole
          obtain ⟨c, base, split⟩ := List.exists_cons_of_ne_nil filled
          rw [split, List.cons_append, List.cons.injEq] at spelt
          exact absurd (spelt.2 ▸ List.mem_append_right base List.mem_cons_self) pointless

/-- A path that starts with another character than a point is closed or has an extension. -/
theorem exists_extension_of_not_closed {c : Char} (leads : path.head? = some c) (other : c ≠ '.')
    (unclosed : ¬ Closed path) : ∃ extension, (split path).extension = some extension := by
  apply Option.ne_none_iff_exists'.mp
  intro bare
  rcases extension_eq_none_iff.mp bare with closed | ⟨rest, rfl, -⟩
  · exact unclosed closed
  · exact other (Option.some.inj leads).symm

/-- Splitting off an extension takes a point away. -/
theorem count_base_lt (found : (split path).extension = some extension) :
    (split path).base.count '.' < path.count '.' := by
  have whole := congrArg (List.count '.') (base_append_suffix path)
  rw [found, suffix, List.count_append, List.count_cons_self] at whole
  omega

/-- The path is the base with the extension after it, and the extension can be told again. -/
structure Extended (path base extension : Text) : Prop where
  spelt : path = base ++ '.' :: extension
  filled : base ≠ []
  present : extension ≠ []
  pointless : '.' ∉ extension

/-- A path is split into a base and an extension exactly when it is the one extended by the other. A
path that is nothing of that kind is left whole; such are the paths without a point, those that end
with one, and those whose only point comes first. -/
theorem split_inverts_append (path : Text) :
    (∀ base extension, split path = ⟨base, some extension⟩ ↔ Extended path base extension) ∧
      [split path = ⟨path, none⟩,
        (split path).extension = none,
        ¬ ∃ base extension, Extended path base extension,
        '.' ∉ path ∨ path.getLast? = some '.' ∨ ∃ rest, path = '.' :: rest ∧ '.' ∉ rest].TFAE := by
  have inverse (base extension : Text) :
      split path = ⟨base, some extension⟩ ↔ Extended path base extension := by
    rw [split_eq_some_iff]
    constructor
    · rintro ⟨spelt, filled, present, pointless⟩
      exact ⟨spelt, filled, present, pointless⟩
    · rintro ⟨spelt, filled, present, pointless⟩
      exact ⟨spelt, filled, present, pointless⟩
  refine ⟨inverse, ?_⟩
  tfae_have 1 → 3 := by
    rintro whole ⟨base, extension, extended⟩
    cases whole.symm.trans ((inverse base extension).mpr extended)
  tfae_have 3 → 2 := by
    intro apart
    cases found : (split path).extension with
    | none => rfl
    | some extension =>
        exact absurd ⟨_, extension, (inverse _ extension).mp (by rw [← found])⟩ apart
  tfae_have 2 → 1 := by
    intro bare
    have spelt := base_append_suffix path
    rw [bare, suffix, List.append_nil] at spelt
    calc split path = ⟨(split path).base, (split path).extension⟩ := rfl
      _ = ⟨path, none⟩ := by rw [bare, ← spelt]
  tfae_have 2 ↔ 4 := by
    rw [extension_eq_none_iff, Closed, or_assoc]
  tfae_finish

end RouteTemplate.Path
