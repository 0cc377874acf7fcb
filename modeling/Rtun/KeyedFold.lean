import Mathlib.Data.List.Nodup

/-!
# Folds whose steps are local to a key

A loop over a list of items in which each step changes only what is found under the
key of its item. What is found under a key afterwards is what was found before the loop
when no item has the key, and what the one step of its item made of it otherwise, as
long as no two items share a key.
-/

namespace Rtun.KeyedFold

universe u v w x
variable {σ : Type u} {β : Type v} {κ : Type w} {ν : Type x}

/-- A step changes only what is found under the key of its item. -/
def Local (step : σ → β → σ) (key : β → κ) (view : σ → κ → ν) : Prop :=
  ∀ state item other, other ≠ key item → view (step state item) other = view state other

/-- Nothing changes under a key that no item has. -/
theorem view_of_absent (step : σ → β → σ) (key : β → κ) (view : σ → κ → ν)
    (isLocal : Local step key view) (items : List β) (state : σ) (other : κ)
    (absent : other ∉ items.map key) : view (items.foldl step state) other = view state other := by
  induction items generalizing state with
  | nil => rfl
  | cons item rest inductionHypothesis =>
    rw [List.map_cons, List.mem_cons, not_or] at absent
    rw [List.foldl_cons, inductionHypothesis (step state item) absent.2]
    exact isLocal state item other absent.1

/-- Under the key of an item is what its own step made of what was there before
the loop. The items before it lead to the state in which that step is taken. -/
theorem view_of_mem (step : σ → β → σ) (key : β → κ) (view : σ → κ → ν)
    (isLocal : Local step key view) (items : List β) (distinct : (items.map key).Nodup) (state : σ)
    (item : β) (member : item ∈ items) :
    ∃ first, first <+: items ∧
      view (first.foldl step state) (key item) = view state (key item) ∧
      view (items.foldl step state) (key item) =
        view (step (first.foldl step state) item) (key item) := by
  obtain ⟨first, rest, rfl⟩ := List.append_of_mem member
  rw [List.map_append, List.map_cons, List.nodup_append] at distinct
  obtain ⟨_, notLater, apart⟩ := distinct
  have notEarlier : key item ∉ first.map key := by
    intro earlier
    exact apart _ earlier _ List.mem_cons_self rfl
  refine ⟨first, List.prefix_append first _, ?_, ?_⟩
  · exact view_of_absent step key view isLocal first state _ notEarlier
  · rw [List.foldl_append, List.foldl_cons]
    exact view_of_absent step key view isLocal rest _ _ (List.nodup_cons.mp notLater).1

end Rtun.KeyedFold
