import RouteTemplate.Proofs.Pattern.Fit

/-! # Values kept apart by separators

A separator is no variable character, so every separator of a text that fits stands in a literal or
in the rest. Counting them shows that a text made from values alone leaves no rest. Where every
literal between two places holds a separator, the values can be read back from the text in one way
only (`tolerantCaptures?_filled`); where some literal does not, other values make the same text and
the search prefers them (`exists_captured_otherwise`). -/
namespace RouteTemplate.Matcher

open Alphabet (isVariable spells spells_iff)

/-- Every literal between two places holds the separator. -/
def Separated (separator : Char) (tails : List Text) : Prop :=
  ∀ literal ∈ tails.dropLast, separator ∈ literal

instance (separator : Char) (tails : List Text) : Decidable (Separated separator tails) :=
  inferInstanceAs (Decidable (∀ literal ∈ tails.dropLast, separator ∈ literal))

section

variable {separator : Char} {matcher : Matcher} {tails values others : List Text}

theorem not_mem_of_spells (foreign : isVariable separator = false) {value : Text}
    (spelt : spells isVariable value = true) : separator ∉ value := by
  intro member
  rw [(spells_iff.mp spelt).2 separator member] at foreign
  cases foreign

/-- What a trailing segment is: the separator and a value. -/
theorem toleratesRest_iff {rest : Text} :
    toleratesRest [separator] rest = true ↔
      rest = [] ∨ ∃ segment, rest = separator :: segment ∧ spells isVariable segment = true :=
  toleratesRest_iff_append

/-- A character that stands in no value stands in the literals alone. -/
theorem count_interleave {c : Char} (counted : values.length = tails.length)
    (absent : ∀ value ∈ values, c ∉ value) :
    (interleave tails values).count c = tails.flatten.count c := by
  induction tails generalizing values with
  | nil => rfl
  | cons literal tails ih =>
      obtain ⟨value, values, rfl⟩ := List.exists_cons_of_length_eq_add_one counted
      obtain ⟨here, later⟩ := List.forall_mem_cons.mp absent
      rw [interleave, List.count_append, List.count_append, List.count_eq_zero.mpr here,
        ih (Nat.succ.inj counted) later, Nat.zero_add, List.flatten_cons, List.count_append]

theorem count_flatten_le_interleave {c : Char} (counted : values.length = tails.length) :
    tails.flatten.count c ≤ (interleave tails values).count c := by
  induction tails generalizing values with
  | nil => exact Nat.le_refl _
  | cons literal tails ih =>
      obtain ⟨value, values, rfl⟩ := List.exists_cons_of_length_eq_add_one counted
      rw [interleave, List.count_append, List.count_append, List.flatten_cons, List.count_append]
      exact Nat.le_trans (Nat.add_le_add_left (ih (Nat.succ.inj counted)) _) (Nat.le_add_left _ _)

/-- How often a character stands in the literals of a matcher. -/
def literalCount (c : Char) (matcher : Matcher) : Nat :=
  matcher.lead.count c + matcher.tails.flatten.count c

theorem count_filled {c : Char} (counted : values.length = matcher.groups)
    (absent : ∀ value ∈ values, c ∉ value) :
    (matcher.filled values).count c = matcher.literalCount c := by
  rw [filled, List.count_append, count_interleave counted absent, literalCount]

theorem literalCount_le_filled {c : Char} (counted : values.length = matcher.groups) :
    matcher.literalCount c ≤ (matcher.filled values).count c := by
  rw [filled, List.count_append, literalCount]
  exact Nat.add_le_add_left (count_flatten_le_interleave counted) _

/-- A text cannot be cut in two ways at its first separator. -/
theorem cut_unique {first second firstRest secondRest : Text}
    (same : first ++ separator :: firstRest = second ++ separator :: secondRest)
    (absent : separator ∉ first) (absent' : separator ∉ second) :
    first = second ∧ firstRest = secondRest := by
  have cut := Text.cutAtFirst_eq_some_iff.mpr ⟨same, absent'⟩
  rw [Text.cutAtFirst_eq_some_iff.mpr ⟨rfl, absent⟩] at cut
  simpa using cut

/-- Values before a literal with a separator in it are told apart by what they make. -/
theorem value_unique {literal value other rest left : Text} (holds : separator ∈ literal)
    (same : value ++ (literal ++ rest) = other ++ (literal ++ left))
    (absent : separator ∉ value) (absent' : separator ∉ other) : value = other ∧ rest = left := by
  obtain ⟨before, after, rfl, missing⟩ := List.eq_append_cons_of_mem holds
  have same : (value ++ before) ++ separator :: (after ++ rest) =
      (other ++ before) ++ separator :: (after ++ left) := by
    simpa using same
  obtain ⟨starts, ends⟩ := cut_unique same
    (by simp [absent, missing]) (by simp [absent', missing])
  exact ⟨List.append_cancel_right starts, List.append_cancel_left ends⟩

theorem interleave_injective (foreign : isVariable separator = false)
    (separated : Separated separator tails)
    (counted : values.length = tails.length) (counted' : others.length = tails.length)
    (spelt : ∀ value ∈ values, spells isVariable value = true)
    (spelt' : ∀ value ∈ others, spells isVariable value = true)
    (same : interleave tails values = interleave tails others) : values = others := by
  induction tails generalizing values others with
  | nil => rw [List.length_eq_zero_iff.mp counted, List.length_eq_zero_iff.mp counted']
  | cons literal tails ih =>
      obtain ⟨value, values, rfl⟩ := List.exists_cons_of_length_eq_add_one counted
      obtain ⟨other, others, rfl⟩ := List.exists_cons_of_length_eq_add_one counted'
      simp only [interleave] at same
      cases tails with
      | nil =>
          -- The last literal need not hold a separator: nothing stands after it.
          obtain rfl := List.length_eq_zero_iff.mp (Nat.succ.inj counted)
          obtain rfl := List.length_eq_zero_iff.mp (Nat.succ.inj counted')
          rw [List.append_cancel_right same]
      | cons next tails =>
          obtain ⟨rfl, rest⟩ := value_unique (separated literal List.mem_cons_self) same
            (not_mem_of_spells foreign (spelt _ List.mem_cons_self))
            (not_mem_of_spells foreign (spelt' _ List.mem_cons_self))
          have later := ih (fun tail member => separated tail (List.mem_cons_of_mem literal member))
            (Nat.succ.inj counted) (Nat.succ.inj counted')
            (fun tail member => spelt tail (List.mem_cons_of_mem _ member))
            (fun tail member => spelt' tail (List.mem_cons_of_mem _ member)) rest
          rw [later]

/-- A text that values make alone has no separator to spare for a rest. -/
theorem Admits.filled_eq (foreign : isVariable separator = false)
    (counted : values.length = matcher.groups)
    (spelt : ∀ value ∈ values, spells isVariable value = true)
    (admits : matcher.Admits (toleratesRest [separator]) others (matcher.filled values)) :
    matcher.filled values = matcher.filled others := by
  obtain ⟨counted', spelt', rest, cut, tolerated⟩ := admits
  rcases toleratesRest_iff.mp tolerated with rfl | ⟨segment, rfl, -⟩
  · simpa using cut
  · have counts := congrArg (List.count separator) cut
    rw [List.count_append, List.count_cons_self,
      count_filled counted fun value member => not_mem_of_spells foreign (spelt value member),
      count_filled counted' fun value member => not_mem_of_spells foreign (spelt' value member)]
      at counts
    omega

theorem tolerantCaptures?_filled (foreign : isVariable separator = false)
    (separated : Separated separator matcher.tails)
    (counted : values.length = matcher.groups)
    (spelt : ∀ value ∈ values, spells isVariable value = true) :
    matcher.tolerantCaptures? [separator] (matcher.filled values) = some values := by
  refine values?_eq_some_iff.mpr ⟨⟨counted, spelt, [], by simp, rfl⟩, fun others admits => ?_⟩
  have same := admits.filled_eq foreign counted spelt
  rw [interleave_injective foreign separated counted admits.counted spelt admits.spelt
    (List.append_cancel_left same)]

end

/-! ## Where a literal holds no separator -/

section

variable {separator : Char} {matcher : Matcher} {tails : List Text} {literal : Text}

theorem interleave_append {firsts seconds values others : List Text}
    (counted : values.length = firsts.length) :
    interleave (firsts ++ seconds) (values ++ others) =
      interleave firsts values ++ interleave seconds others := by
  induction firsts generalizing values with
  | nil => rw [List.length_eq_zero_iff.mp counted]; rfl
  | cons literal firsts ih =>
      obtain ⟨value, values, rfl⟩ := List.exists_cons_of_length_eq_add_one counted
      simp [interleave, ih (Nat.succ.inj counted)]

theorem exists_between_of_mem_dropLast {α : Type} {item : α} {items : List α}
    (member : item ∈ items.dropLast) :
    ∃ before next after, items = before ++ item :: next :: after := by
  obtain ⟨before, mid, split⟩ := List.append_of_mem member
  have filled : items ≠ [] := by
    rintro rfl
    cases member
  have whole := List.dropLast_concat_getLast filled
  rw [split, List.append_assoc, List.cons_append] at whole
  cases mid with
  | nil => exact ⟨before, _, [], whole.symm⟩
  | cons next mid => exact ⟨before, next, _, whole.symm⟩

/-- Two values side by side, with a letter at every place before and after them. -/
def lettered (before : List Text) (first second : Text) (after : List Text) : List Text :=
  List.replicate before.length ['a'] ++ first :: second :: List.replicate after.length ['a']

section

variable {before after : List Text} {first second next : Text}

theorem length_lettered :
    (lettered before first second after).length = (before ++ literal :: next :: after).length := by
  simp [lettered]

theorem spells_of_mem_lettered (spelt : spells isVariable first = true)
    (spelt' : spells isVariable second = true) :
    ∀ value ∈ lettered before first second after, spells isVariable value = true := by
  have letter : spells isVariable ['a'] = true := rfl
  intro value member
  rw [lettered, List.mem_append, List.mem_cons, List.mem_cons, List.mem_replicate,
    List.mem_replicate] at member
  rcases member with ⟨-, rfl⟩ | rfl | rfl | ⟨-, rfl⟩
  · exact letter
  · exact spelt
  · exact spelt'
  · exact letter

theorem interleave_lettered :
    interleave (before ++ literal :: next :: after) (lettered before first second after) =
      interleave before (List.replicate before.length ['a']) ++
        (first ++ (literal ++ (second ++
          (next ++ interleave after (List.replicate after.length ['a']))))) := by
  rw [lettered, interleave_append List.length_replicate]
  rfl

theorem lengths_lettered_lt {longer other : Text} (more : first.length < longer.length) :
    (lettered before first second after).map List.length <
      (lettered before longer other after).map List.length := by
  rw [lettered, lettered, List.map_append, List.map_append]
  exact List.Lex.append_left _ (List.Lex.rel more) _

end

/-- Where the literal after a value may stand in a value, it stands there as well: with the literal
once more before the next value, the search takes the greater first value. -/
theorem exists_captured_otherwise (inner : literal ∈ matcher.tails.dropLast)
    (present : literal ≠ []) (admitted : ∀ c ∈ literal, isVariable c = true) :
    ∃ values, values.length = matcher.groups ∧ (∀ value ∈ values, spells isVariable value = true) ∧
      matcher.tolerantCaptures? [separator] (matcher.filled values) ≠ some values := by
  obtain ⟨before, next, after, split⟩ := exists_between_of_mem_dropLast inner
  have letter : spells isVariable ['a'] = true := rfl
  have ends : spells isVariable (literal ++ ['a']) = true :=
    spells_iff.mpr ⟨by simp, List.forall_mem_append.mpr ⟨admitted, (spells_iff.mp letter).2⟩⟩
  have starts : spells isVariable ('a' :: literal) = true :=
    spells_cons_iff.mpr ⟨rfl, .inr (spells_iff.mpr ⟨present, admitted⟩)⟩
  refine ⟨lettered before ['a'] (literal ++ ['a']) after, ?_, spells_of_mem_lettered letter ends,
    fun captured => ?_⟩
  · rw [groups, split]
    exact length_lettered
  · obtain ⟨-, greatest⟩ := values?_eq_some_iff.mp captured
    have other : matcher.Admits (toleratesRest [separator])
        (lettered before ('a' :: literal) ['a'] after)
        (matcher.filled (lettered before ['a'] (literal ++ ['a']) after)) := by
      refine ⟨?_, spells_of_mem_lettered starts letter, [], ?_, rfl⟩
      · rw [groups, split]
        exact length_lettered
      · rw [filled, filled, split, interleave_lettered, interleave_lettered]
        simp
    have longer : ['a'].length < ('a' :: literal).length :=
      Nat.succ_lt_succ (List.length_pos_iff.mpr present)
    exact absurd (greatest _ other) (not_le_of_gt (lengths_lettered_lt longer))

end

end RouteTemplate.Matcher
