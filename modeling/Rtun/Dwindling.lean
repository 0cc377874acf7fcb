import Mathlib.Data.List.Count
import Rtun.Run

/-!
# Work that dwindles

Some of the actions of a system work on a part of it, and a measure tells how much work is
left there. `Dwindles` is the law: whatever takes a step that does work leaves less of it,
and nothing else adds to it, as long as the steps meet a condition. Then there is no end of
work: a run has no more steps that do work than there was work left, whatever else it has
in between. And where there is always more that can be done, unless the part has come to
rest, some run of work alone brings it there.
-/

namespace Rtun.Dwindling

open Run

universe u v
variable {σ : Type u} {α : Type v}

/-- The law of work: it is done, and not added to. -/
structure Dwindles (step : σ → α → Option σ) (invariant : σ → Prop) (condition : σ → α → Prop)
    (works : α → Bool) (left : σ → Nat) : Prop where
  kept : ∀ state action next, invariant state → condition state action →
    step state action = some next → invariant next
  done : ∀ state action next, invariant state → condition state action →
    step state action = some next → works action = true → left next < left state
  others : ∀ state action next, invariant state → condition state action →
    step state action = some next → works action = false → left next ≤ left state

variable {step : σ → α → Option σ} {invariant : σ → Prop} {condition : σ → α → Prop}
  {works : α → Bool} {left : σ → Nat}

/-- One step, counted. -/
theorem Dwindles.counted (law : Dwindles step invariant condition works left) {state next : σ}
    {action : α} (holds : invariant state) (fine : condition state action)
    (taken : step state action = some next) :
    (if works action then 1 else 0) + left next ≤ left state := by
  cases does : works action with
  | true =>
    have less := law.done state action next holds fine taken does
    simp only [if_true]
    omega
  | false =>
    have same := law.others state action next holds fine taken does
    simpa using same

/-- The run lemma: all the work that is done was there in the beginning. -/
theorem Dwindles.bounded (law : Dwindles step invariant condition works left) (state last : σ)
    (actions : List α) (holds : invariant state) (meets : Meets step condition state actions)
    (reached : run step state actions = some last) :
    actions.countP works + left last ≤ left state := by
  induction actions generalizing state with
  | nil =>
    obtain rfl : state = last := Option.some.inj reached
    simp
  | cons action rest inductionHypothesis =>
    obtain ⟨next, taken, after⟩ := (run_cons_some step state last action rest).mp reached
    have remaining : Meets step condition next rest := by
      simpa only [Meets, taken] using meets.2
    have first := law.counted holds meets.1 taken
    have others := inductionHypothesis next (law.kept state action next holds meets.1 taken)
      remaining after
    rw [List.countP_cons]
    omega

/-- Work that can always go on comes to rest. The induction is on what is left. -/
theorem Dwindles.rests (law : Dwindles step invariant condition works left) (resting : σ → Prop)
    (goesOn : ∀ state, invariant state → ¬ resting state →
      ∃ action next, works action = true ∧ condition state action ∧ step state action = some next)
    (state : σ) (holds : invariant state) :
    ∃ actions last, (∀ action ∈ actions, works action = true) ∧ Meets step condition state actions ∧
      run step state actions = some last ∧ resting last := by
  induction amount : left state using Nat.strongRecOn generalizing state with
  | _ total inductionHypothesis =>
    by_cases atRest : resting state
    · exact ⟨[], state, by simp, trivial, rfl, atRest⟩
    · obtain ⟨action, next, does, fine, taken⟩ := goesOn state holds atRest
      have less : left next < total := amount ▸ law.done state action next holds fine taken does
      obtain ⟨actions, last, all, meets, reached, rest⟩ :=
        inductionHypothesis (left next) less next (law.kept state action next holds fine taken) rfl
      refine ⟨action :: actions, last, ?_, meets_cons taken fine meets,
        (run_cons_some step state last action actions).mpr ⟨next, taken, reached⟩, rest⟩
      exact List.forall_mem_cons.mpr ⟨does, all⟩

end Rtun.Dwindling
