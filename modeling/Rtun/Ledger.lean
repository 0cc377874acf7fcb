import Mathlib.Data.List.Perm.Subperm
import Rtun.Run

/-!
# Ledgers

A system that is given values and passes them on from place to place has a ledger: the list
of all that is in it, together with all that it ever gave out. A system conserves its
ledger when a step adds no more to it than the step was given, so that values can be lost
but not made or doubled. What such a system has given out after a run is then, counted
with multiplicity, part of what it was given.
-/

namespace Rtun.Ledger

open Run

universe u v w
variable {σ : Type u} {α : Type v} {β : Type w} [BEq β]

/-- In a state of the invariant a step keeps it, and adds no more to the ledger
than what its action gives. -/
structure Conserves (step : σ → α → Option σ) (invariant : σ → Prop) (ledger : σ → List β)
    (given : α → List β) : Prop where
  kept : ∀ state action next, invariant state → step state action = some next → invariant next
  counted : ∀ state action next, invariant state → step state action = some next → ∀ value,
    (ledger next).count value ≤ (ledger state).count value + (given action).count value

/-- The run lemma. -/
theorem Conserves.run {step : σ → α → Option σ} {invariant : σ → Prop} {ledger : σ → List β}
    {given : α → List β} (conserves : Conserves step invariant ledger given) (state last : σ)
    (actions : List α) (start : invariant state) (reached : run step state actions = some last)
    (value : β) :
    (ledger last).count value ≤ (ledger state).count value + (actions.flatMap given).count value := by
  induction actions generalizing state with
  | nil =>
    cases reached
    exact Nat.le_add_right _ _
  | cons action rest inductionHypothesis =>
    obtain ⟨next, taken, remaining⟩ := (run_cons_some step state last action rest).mp reached
    have first := conserves.counted state action next start taken value
    have later := inductionHypothesis next (conserves.kept state action next start taken) remaining
    rw [List.flatMap_cons, List.count_append]
    omega

/-- What is in the ledger at the end of a run that started with an empty one was
given. -/
theorem Conserves.subperm [LawfulBEq β] {step : σ → α → Option σ} {invariant : σ → Prop}
    {ledger : σ → List β}
    {given : α → List β} (conserves : Conserves step invariant ledger given) (state last : σ)
    (actions : List α) (start : invariant state) (empty : ledger state = [])
    (reached : Run.run step state actions = some last) :
    (ledger last).Subperm (actions.flatMap given) := by
  refine List.subperm_ext_iff.mpr fun value _ => ?_
  have counted := conserves.run state last actions start reached value
  rwa [empty, List.count_nil, Nat.zero_add] at counted

/-- Overwriting a slot takes out of the ledger what the old value showed and puts
in what the new one shows. -/
theorem count_flatMap_set {γ : Type*} (shown : γ → List β) {slots next : List γ} {index : Nat}
    {old value : γ} (overwritten : next = slots.set index value)
    (present : slots[index]? = some old) (counted : β) :
    (next.flatMap shown).count counted + (shown old).count counted =
      (slots.flatMap shown).count counted + (shown value).count counted := by
  subst overwritten
  induction slots generalizing index with
  | nil => cases present
  | cons slot rest inductionHypothesis =>
    cases index with
    | zero =>
      obtain rfl : slot = old := Option.some.inj present
      simp only [List.set_cons_zero, List.flatMap_cons, List.count_append]
      omega
    | succ index =>
      have later := inductionHypothesis present
      simp only [List.set_cons_succ, List.flatMap_cons, List.count_append]
      omega

/-- Taking a slot out takes out of the ledger what it showed. -/
theorem count_flatMap_eraseIdx {γ : Type*} (shown : γ → List β) {slots : List γ} {index : Nat}
    {old : γ} (present : slots[index]? = some old) (counted : β) :
    ((slots.eraseIdx index).flatMap shown).count counted + (shown old).count counted =
      (slots.flatMap shown).count counted := by
  induction slots generalizing index with
  | nil => cases present
  | cons slot rest inductionHypothesis =>
    cases index with
    | zero =>
      obtain rfl : slot = old := Option.some.inj present
      simp only [List.eraseIdx_cons_zero, List.flatMap_cons, List.count_append]
      omega
    | succ index =>
      have later := inductionHypothesis present
      simp only [List.eraseIdx_cons_succ, List.flatMap_cons, List.count_append]
      omega

/-- Slots that show what they showed, or nothing any more, add nothing. -/
theorem count_flatMap_le {γ : Type*} (shown : γ → List β) (before after : List γ)
    (same : ∀ (index : Nat) (slot : γ), after[index]? = some slot →
      shown slot = [] ∨ ∃ old, before[index]? = some old ∧ shown slot = shown old) (counted : β) :
    (after.flatMap shown).count counted ≤ (before.flatMap shown).count counted := by
  induction after generalizing before with
  | nil => exact Nat.zero_le _
  | cons slot rest inductionHypothesis =>
    have later := inductionHypothesis before.tail fun index other listed => by
      simpa using same (index + 1) other listed
    rcases same 0 slot rfl with silent | ⟨old, first, alike⟩
    · have dropped : (before.tail.flatMap shown).count counted ≤
          (before.flatMap shown).count counted := by
        cases before with
        | nil => exact Nat.le_refl _
        | cons first others =>
          simp only [List.tail_cons, List.flatMap_cons, List.count_append]
          omega
      rw [List.flatMap_cons, silent, List.nil_append]
      omega
    · cases before with
      | nil => cases first
      | cons first others =>
        cases first
        rw [List.tail_cons] at later
        simp only [List.flatMap_cons, List.count_append, alike]
        omega

end Rtun.Ledger
