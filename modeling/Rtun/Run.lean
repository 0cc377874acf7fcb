import Mathlib.Logic.Basic

/-!
# Runs of a partial step function

A system is given by a step function on its states: an action is either not
enabled in a state, and then there is no next state, or it leads to exactly one.
All nondeterminism of a modeled system, its scheduling included, lies in the
list of actions. A run performs such a list in order.

Every prefix of a run is a run, so a property proved of the last state of every
run holds of every state reached along the way. `Meets` is the companion notion
for a condition on steps: it is checked in the state before each step. The rules
below are the only inductions over runs that the developments on top need.
-/

namespace Rtun.Run

universe u v
variable {σ : Type u} {α : Type v}

/-- Perform the actions in order. The run does not exist when one of them is not
enabled in the state reached so far. -/
def run (step : σ → α → Option σ) : σ → List α → Option σ
  | state, [] => some state
  | state, action :: rest =>
      match step state action with
      | none => none
      | some next => run step next rest

/-- Every step of the run is taken in a state that satisfies the condition for its
action. Nothing is asked after an action that is not enabled. -/
def Meets (step : σ → α → Option σ) (condition : σ → α → Prop) : σ → List α → Prop
  | _, [] => True
  | state, action :: rest =>
      condition state action ∧
        match step state action with
        | none => True
        | some next => Meets step condition next rest

/-- The property holds in the first state and in every state that is reached. -/
def Always (step : σ → α → Option σ) (property : σ → Prop) : σ → List α → Prop
  | state, [] => property state
  | state, action :: rest =>
      property state ∧
        match step state action with
        | none => True
        | some next => Always step property next rest

instance Meets.decidable (step : σ → α → Option σ) (condition : σ → α → Prop)
    [∀ state action, Decidable (condition state action)] :
    (state : σ) → (actions : List α) → Decidable (Meets step condition state actions)
  | _, [] => isTrue trivial
  | state, action :: rest =>
      match found : step state action with
      | none => decidable_of_iff (condition state action) (by simp [Meets, found])
      | some next =>
        have : Decidable (Meets step condition next rest) :=
          Meets.decidable step condition next rest
        decidable_of_iff (condition state action ∧ Meets step condition next rest)
          (by simp [Meets, found])

/-- A run without actions ends where it starts. -/
@[simp] theorem run_nil (step : σ → α → Option σ) (state : σ) :
    run step state [] = some state := rfl

/-- A nonempty run is an enabled step followed by a run of the rest. -/
theorem run_cons_some (step : σ → α → Option σ) (state last : σ) (action : α) (rest : List α) :
    run step state (action :: rest) = some last ↔
      ∃ next, step state action = some next ∧ run step next rest = some last := by
  cases taken : step state action <;> simp [run, taken]

/-- Performing two lists of actions one after the other. -/
theorem run_append (step : σ → α → Option σ) (state last : σ) (first second : List α) :
    run step state (first ++ second) = some last ↔
      ∃ middle, run step state first = some middle ∧ run step middle second = some last := by
  induction first generalizing state with
  | nil => simp
  | cons action rest inductionHypothesis =>
    simp only [List.cons_append, run_cons_some, inductionHypothesis]
    constructor
    · rintro ⟨next, taken, middle, before, after⟩
      exact ⟨middle, ⟨next, taken, before⟩, after⟩
    · rintro ⟨middle, ⟨next, taken, before⟩, after⟩
      exact ⟨next, taken, middle, before, after⟩

/-- Parts that are made one after the other are all made. The states are those of
the lists of parts that are there, and a list that is good has only good
beginnings. -/
theorem run_flatMap {β : Type*} (step : σ → α → Option σ) (state : List β → σ)
    (good : List β → Prop) (make : β → List α)
    (makes : ∀ front part, good (front ++ [part]) →
      run step (state front) (make part) = some (state (front ++ [part])))
    (begins : ∀ front rest, good (front ++ rest) → good front) (front rest : List β)
    (holds : good (front ++ rest)) :
    run step (state front) (rest.flatMap make) = some (state (front ++ rest)) := by
  induction rest generalizing front with
  | nil => rw [List.append_nil, List.flatMap_nil, run_nil]
  | cons part rest inductionHypothesis =>
    rw [List.append_cons] at holds ⊢
    rw [List.flatMap_cons, run_append]
    exact ⟨_, makes front part (begins _ _ holds), inductionHypothesis _ holds⟩

/-- Parts that are removed one after the other, from the front, are all
removed. -/
theorem run_map {β : Type*} (step : σ → α → Option σ) (state : List β → σ) (good : List β → Prop)
    (unmake : β → α)
    (unmakes : ∀ part rest, good (part :: rest) →
      step (state (part :: rest)) (unmake part) = some (state rest))
    (ends : ∀ part rest, good (part :: rest) → good rest) (parts : List β) (holds : good parts) :
    run step (state parts) (parts.map unmake) = some (state []) := by
  induction parts with
  | nil => rfl
  | cons part rest inductionHypothesis =>
    rw [List.map_cons, run_cons_some]
    exact ⟨_, unmakes part rest holds, inductionHypothesis (ends part rest holds)⟩

/-- A run of a part is a run of the whole when each of its steps is one. -/
theorem run_embed {σ' : Type*} {α' : Type*} (step : σ → α → Option σ)
    (whole : σ' → α' → Option σ') (embed : σ → σ') (name : α → α') (state last : σ)
    (actions : List α)
    (embeds : ∀ action ∈ actions, ∀ state next, step state action = some next →
      whole (embed state) (name action) = some (embed next))
    (reached : run step state actions = some last) :
    run whole (embed state) (actions.map name) = some (embed last) := by
  induction actions generalizing state with
  | nil =>
    obtain rfl : state = last := Option.some.inj reached
    rfl
  | cons action rest inductionHypothesis =>
    obtain ⟨next, taken, after⟩ := (run_cons_some step state last action rest).mp reached
    refine (run_cons_some whole _ _ _ _).mpr ⟨embed next, ?_, ?_⟩
    · exact embeds action List.mem_cons_self state next taken
    · exact inductionHypothesis next
        (fun other member => embeds other (List.mem_cons_of_mem _ member)) after

/-- The steps of a run meet a condition exactly when those of its two parts do. -/
theorem meets_append (step : σ → α → Option σ) (condition : σ → α → Prop) (state middle : σ)
    (first second : List α) (reached : run step state first = some middle) :
    Meets step condition state (first ++ second) ↔
      Meets step condition state first ∧ Meets step condition middle second := by
  induction first generalizing state with
  | nil =>
    obtain rfl : state = middle := Option.some.inj reached
    simp [Meets]
  | cons action rest inductionHypothesis =>
    obtain ⟨next, taken, after⟩ := (run_cons_some step state middle action rest).mp reached
    simp only [List.cons_append, Meets, taken, inductionHypothesis next after, and_assoc]

/-- One step that meets the condition, before steps that do. -/
theorem meets_cons {step : σ → α → Option σ} {condition : σ → α → Prop} {state next : σ}
    {action : α} {rest : List α} (taken : step state action = some next)
    (holds : condition state action) (remaining : Meets step condition next rest) :
    Meets step condition state (action :: rest) := by
  simpa only [Meets, taken] using And.intro holds remaining

/-- A condition that holds in every state for every action is met by every run. -/
theorem meets_of_forall (step : σ → α → Option σ) (condition : σ → α → Prop)
    (always : ∀ state action, condition state action) (state : σ) (actions : List α) :
    Meets step condition state actions := by
  induction actions generalizing state with
  | nil => trivial
  | cons action rest inductionHypothesis =>
    refine ⟨always state action, ?_⟩
    cases step state action with
    | none => trivial
    | some next => exact inductionHypothesis next

/-- So is one that holds in every state for every action of the run. -/
theorem meets_of_mem (step : σ → α → Option σ) (condition : σ → α → Prop) (state : σ)
    (actions : List α) (always : ∀ action ∈ actions, ∀ state, condition state action) :
    Meets step condition state actions := by
  induction actions generalizing state with
  | nil => trivial
  | cons action rest inductionHypothesis =>
    refine ⟨always action List.mem_cons_self state, ?_⟩
    cases step state action with
    | none => trivial
    | some next =>
      exact inductionHypothesis next fun other member => always other (List.mem_cons_of_mem _ member)

/-- The invariant rule for runs whose steps meet a condition: what every step that
meets the condition preserves holds at the end of such a run. -/
theorem invariant_of_meets (step : σ → α → Option σ) (condition : σ → α → Prop)
    (invariant : σ → Prop)
    (preserved : ∀ state action next, invariant state → condition state action →
      step state action = some next → invariant next)
    (state last : σ) (actions : List α) (initially : invariant state)
    (meets : Meets step condition state actions)
    (reached : run step state actions = some last) : invariant last := by
  induction actions generalizing state with
  | nil =>
    obtain rfl : state = last := Option.some.inj reached
    exact initially
  | cons action rest inductionHypothesis =>
    obtain ⟨next, taken, after⟩ := (run_cons_some step state last action rest).mp reached
    have remaining : Meets step condition next rest := by
      simpa only [Meets, taken] using meets.2
    exact inductionHypothesis next (preserved state action next initially meets.1 taken)
      remaining after

/-- What always holds holds in the beginning. -/
theorem first_of_always (step : σ → α → Option σ) (property : σ → Prop) (state : σ)
    (actions : List α) (always : Always step property state actions) : property state := by
  cases actions with
  | nil => exact always
  | cons action rest => exact always.1

/-- What always holds in a run holds at its end. -/
theorem last_of_always (step : σ → α → Option σ) (property : σ → Prop) (state last : σ)
    (actions : List α) (always : Always step property state actions)
    (reached : run step state actions = some last) : property last := by
  induction actions generalizing state with
  | nil =>
    obtain rfl : state = last := Option.some.inj reached
    exact always
  | cons action rest inductionHypothesis =>
    obtain ⟨next, taken, after⟩ := (run_cons_some step state last action rest).mp reached
    have remaining : Always step property next rest := by
      simpa only [Always, taken] using always.2
    exact inductionHypothesis next remaining after

/-- The invariant rule for every state along the way: an invariant that implies
the property is kept by the steps that meet the condition. -/
theorem always_of_meets (step : σ → α → Option σ) (invariant property : σ → Prop)
    (condition : σ → α → Prop) (implies : ∀ state, invariant state → property state)
    (kept : ∀ state action next, invariant state → condition state action →
      step state action = some next → invariant next)
    (state : σ) (actions : List α) (initially : invariant state)
    (meets : Meets step condition state actions) : Always step property state actions := by
  induction actions generalizing state with
  | nil => exact implies state initially
  | cons action rest inductionHypothesis =>
    refine ⟨implies state initially, ?_⟩
    cases taken : step state action with
    | none => trivial
    | some next =>
      have remaining : Meets step condition next rest := by
        simpa only [Meets, taken] using meets.2
      exact inductionHypothesis next (kept state action next initially meets.1 taken) remaining

/-- The invariant rule for steps: where an invariant holds of the state, a step
that is taken and meets one condition meets another. -/
theorem meets_of_invariant (step : σ → α → Option σ) (invariant : σ → Prop)
    (condition conclusion : σ → α → Prop)
    (kept : ∀ state action next, invariant state → step state action = some next → invariant next)
    (follows : ∀ state action next, invariant state → step state action = some next →
      condition state action → conclusion state action)
    (state last : σ) (actions : List α) (initially : invariant state)
    (reached : run step state actions = some last) (meets : Meets step condition state actions) :
    Meets step conclusion state actions := by
  induction actions generalizing state with
  | nil => trivial
  | cons action rest inductionHypothesis =>
    obtain ⟨next, taken, after⟩ := (run_cons_some step state last action rest).mp reached
    have remaining : Meets step condition next rest := by
      simpa only [Meets, taken] using meets.2
    exact meets_cons taken (follows state action next initially taken meets.1)
      (inductionHypothesis next (kept state action next initially taken) after remaining)

/-- Two conditions are met together when each of them is. -/
theorem meets_and (step : σ → α → Option σ) (first second : σ → α → Prop) (state : σ)
    (actions : List α) (one : Meets step first state actions)
    (other : Meets step second state actions) :
    Meets step (fun state action => first state action ∧ second state action) state actions := by
  induction actions generalizing state with
  | nil => trivial
  | cons action rest inductionHypothesis =>
    refine ⟨⟨one.1, other.1⟩, ?_⟩
    cases taken : step state action with
    | none => trivial
    | some next =>
      exact inductionHypothesis next (by simpa only [Meets, taken] using one.2)
        (by simpa only [Meets, taken] using other.2)

/-- Two conditions that agree under an invariant are met by the same runs, if the
steps that meet the first keep the invariant. -/
theorem meets_iff_of_invariant (step : σ → α → Option σ) (invariant : σ → Prop)
    (first second : σ → α → Prop)
    (agree : ∀ state action, invariant state → (first state action ↔ second state action))
    (kept : ∀ state action next, invariant state → first state action →
      step state action = some next → invariant next)
    (state : σ) (actions : List α) (initially : invariant state) :
    Meets step first state actions ↔ Meets step second state actions := by
  induction actions generalizing state with
  | nil => exact Iff.rfl
  | cons action rest inductionHypothesis =>
    rw [Meets, Meets, ← agree state action initially]
    refine and_congr_right (fun holds => ?_)
    cases taken : step state action with
    | none => exact Iff.rfl
    | some next =>
      exact inductionHypothesis next (kept state action next initially holds taken)

/-- The rule for an exact condition: an invariant that implies the property is
kept by the steps that meet the condition, and a step that leads to the property
again meets it. Then the property always holds in a run exactly if all of its
steps meet the condition. -/
theorem always_iff_meets_of_invariant (step : σ → α → Option σ) (invariant property : σ → Prop)
    (condition : σ → α → Prop) (implies : ∀ state, invariant state → property state)
    (kept : ∀ state action next, invariant state → step state action = some next →
      condition state action → invariant next)
    (needed : ∀ state action next, invariant state → step state action = some next →
      property next → condition state action)
    (state last : σ) (actions : List α) (initially : invariant state)
    (reached : run step state actions = some last) :
    Always step property state actions ↔ Meets step condition state actions := by
  induction actions generalizing state with
  | nil => exact ⟨fun _ => trivial, fun _ => implies state initially⟩
  | cons action rest inductionHypothesis =>
    obtain ⟨next, taken, after⟩ := (run_cons_some step state last action rest).mp reached
    simp only [Always, Meets, taken, implies state initially, true_and]
    constructor
    · intro always
      have holds : property next := by
        cases rest with
        | nil => exact always
        | cons => exact always.1
      have meets : condition state action := needed state action next initially taken holds
      have still : invariant next := kept state action next initially taken meets
      exact ⟨meets, (inductionHypothesis next still after).mp always⟩
    · intro meets
      have still : invariant next := kept state action next initially taken meets.1
      exact (inductionHypothesis next still after).mpr meets.2

/-- The rule for a property that is its own invariant: a step from a state with it
leads to one with it exactly if the step meets the condition. -/
theorem always_iff_meets (step : σ → α → Option σ) (property : σ → Prop)
    (condition : σ → α → Prop)
    (settled : ∀ state action next, property state → step state action = some next →
      (property next ↔ condition state action))
    (state last : σ) (actions : List α) (initially : property state)
    (reached : run step state actions = some last) :
    Always step property state actions ↔ Meets step condition state actions :=
  always_iff_meets_of_invariant step property property condition (fun _ holds => holds)
    (fun state action next holds taken => (settled state action next holds taken).mpr)
    (fun state action next holds taken => (settled state action next holds taken).mp)
    state last actions initially reached

/-- The invariant rule: what every step preserves holds at the end of every
run. -/
theorem invariant_of_run (step : σ → α → Option σ) (invariant : σ → Prop)
    (preserved : ∀ state action next, invariant state →
      step state action = some next → invariant next)
    (state last : σ) (actions : List α) (initially : invariant state)
    (reached : run step state actions = some last) : invariant last :=
  invariant_of_meets step (fun _ _ => True) invariant
    (fun state action next holds _ taken => preserved state action next holds taken)
    state last actions initially (meets_of_forall step _ (fun _ _ => trivial) state actions) reached

end Rtun.Run
