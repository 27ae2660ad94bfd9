/-! # Reading a row of items

A row is read item by item, and the first item that fails ends the reading. A reading succeeds exactly
when each item does (`mapM_eq_ok_iff`), and its failure is that of the first item that fails
(`mapM_eq_error_iff`). What is found first in a row depends only on what each item gives
(`findSome?_congr`). -/
namespace RouteTemplate

variable {ε α β : Type} {f : α → Except ε β} {items : List α}

theorem mapM_eq_ok_iff {results : List β} :
    items.mapM f = .ok results ↔ items.map f = results.map .ok := by
  induction items generalizing results with
  | nil => cases results <;> simp [pure, Except.pure]
  | cons item items ih =>
      rw [List.mapM_cons]
      cases first : f item with
      | error failure => cases results <;> simp [bind, Except.bind, first]
      | ok result =>
          cases rest : items.mapM f <;> cases results <;>
            simp [bind, Except.bind, pure, Except.pure, first, ← ih, rest]

theorem mapM_eq_error_iff {failure : ε} :
    items.mapM f = .error failure ↔
      ∃ before item after, items = before ++ item :: after ∧
        (∀ earlier ∈ before, ∃ result, f earlier = .ok result) ∧ f item = .error failure := by
  constructor
  · intro failed
    induction items with
    | nil => cases failed
    | cons item items ih =>
        rw [List.mapM_cons] at failed
        cases first : f item with
        | error other =>
            rw [first] at failed
            cases failed
            exact ⟨[], item, items, rfl, List.forall_mem_nil _, first⟩
        | ok result =>
            cases rest : items.mapM f with
            | ok results =>
                rw [first, rest] at failed
                cases failed
            | error other =>
                rw [first, rest] at failed
                cases failed
                obtain ⟨before, failing, after, rfl, sound, here⟩ := ih rest
                exact ⟨item :: before, failing, after, rfl,
                  List.forall_mem_cons.mpr ⟨⟨result, first⟩, sound⟩, here⟩
  · rintro ⟨before, item, after, rfl, sound, here⟩
    induction before with
    | nil => rw [List.nil_append, List.mapM_cons, here]; rfl
    | cons earlier before ih =>
        obtain ⟨⟨result, first⟩, others⟩ := List.forall_mem_cons.mp sound
        rw [List.cons_append, List.mapM_cons, first]
        show (_ >>= _ : Except ε (List β)) = _
        rw [ih others]
        rfl

theorem findSome?_congr {first second : α → Option β}
    (same : ∀ item ∈ items, first item = second item) :
    items.findSome? first = items.findSome? second := by
  have mapped := congrArg (List.findSome? id) (List.map_congr_left same)
  rwa [List.findSome?_map, List.findSome?_map] at mapped

end RouteTemplate
