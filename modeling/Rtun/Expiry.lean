import Rtun.Run

/-!
# Entries that expire

A table whose entries note the moment of their last use, a clock, and a sweep now and then
that removes the entries which have not been used for the idle time. When an entry was last
used is a matter of the run alone; that the stamp of the entry says so is the first law. The
other two are that no entry is kept long after its last use, which depends on how often it is
swept, and that none is removed before its time, which does not.
-/

namespace Rtun.Expiry

open Run

universe u v w
variable {σ : Type u} {α : Type v} {κ : Type w}

section Uses

variable (step : σ → α → Option σ) (now : σ → Nat) (uses : σ → α → Bool)

/-- The moment of the last use once a step is taken: that of the step if it is
one, and the moment so far otherwise. -/
def noted (state : σ) (action : α) (moment : Nat) : Nat :=
  if uses state action then now state else moment

/-- The moment of the last use in a run, of whatever the steps that this picks are
uses of. Before the run, this is the last one, if there has been one at all. -/
def lastUse : Option Nat → σ → List α → Option Nat
  | moment, _, [] => moment
  | moment, state, action :: rest =>
      match step state action with
      | none => moment
      | some next => lastUse (if uses state action then some (now state) else moment) next rest

/-- In every state of a run less than the idle time has passed since the last
use. -/
def inUse (idle : Nat) : Nat → σ → List α → Bool
  | moment, state, [] => decide (now state - moment < idle)
  | moment, state, action :: rest =>
      decide (now state - moment < idle) &&
        match step state action with
        | none => true
        | some next => inUse idle (noted now uses state action moment) next rest

variable {step now uses}

/-- Before a step of a run that stays in use the last use is recent, and the run
that remains stays in use from the moment that the step notes. -/
theorem inUse_step {idle moment : Nat} {state next : σ} {action : α} {rest : List α}
    (taken : step state action = some next)
    (busy : inUse step now uses idle moment state (action :: rest) = true) :
    now state - moment < idle ∧
      inUse step now uses idle (noted now uses state action moment) next rest = true := by
  simpa only [inUse, taken, Bool.and_eq_true, decide_eq_true_eq] using busy

/-- At the start of a run what is in use has been used within the idle time. -/
theorem recent_of_inUse {idle moment : Nat} {state : σ} {actions : List α}
    (busy : inUse step now uses idle moment state actions = true) : now state - moment < idle := by
  cases actions with
  | nil => simpa only [inUse, decide_eq_true_eq] using busy
  | cons action rest =>
    simp only [inUse, Bool.and_eq_true, decide_eq_true_eq] at busy
    exact busy.1

end Uses

/-- What the laws speak about: the clock, the stamp of the entry under each key,
the steps that are uses of it, the time that an action takes, the sweeps, and the
idle time. -/
structure Aging (σ : Type u) (α : Type v) (κ : Type w) where
  now : σ → Nat
  stamp : σ → κ → Option Nat
  uses : κ → σ → α → Bool
  elapsed : α → Nat
  sweeps : α → Bool
  idle : Nat

namespace Aging

/-- The sweeps are on time: at no moment of the run has more than the interval
passed since the last one. Before the run, this much has passed already. -/
def onTime (aging : Aging σ α κ) (interval : Nat) : Nat → List α → Bool
  | _, [] => true
  | since, action :: rest =>
      let later := if aging.sweeps action then 0 else since + aging.elapsed action
      decide (later ≤ interval) && aging.onTime interval later rest

/-- The steps of a system that stamp exactly the entries that they use, with the
moment of the use; a use takes no time, and other steps leave the stamps that they
leave at all. -/
structure Stamping (aging : Aging σ α κ) (step : σ → α → Option σ) : Prop where
  clock : ∀ state action next, step state action = some next →
    aging.now next = aging.now state + aging.elapsed action
  timeless : ∀ key state action, aging.uses key state action = true → aging.elapsed action = 0
  stamped : ∀ state action next, step state action = some next → ∀ key moment,
    aging.stamp next key = some moment →
      if aging.uses key state action then moment = aging.now state
      else aging.stamp state key = some moment

/-- The sweeps of a system leave no entry whose stamp is too old. -/
structure Swept (aging : Aging σ α κ) (step : σ → α → Option σ) : Prop where
  stamping : aging.Stamping step
  positive : 0 < aging.idle
  swept : ∀ state action next, step state action = some next → aging.sweeps action = true →
    ∀ key moment, aging.stamp next key = some moment → aging.now next - moment < aging.idle

/-- The steps of a system that does not remove an entry before its time, as long
as the invariant holds and the step spares the entry. -/
structure Spared (aging : Aging σ α κ) (step : σ → α → Option σ) (invariant : σ → Prop)
    (spares : κ → σ → α → Prop) : Prop where
  stamping : aging.Stamping step
  kept : ∀ state action next, invariant state → step state action = some next → invariant next
  spared : ∀ state action next, invariant state → step state action = some next →
    ∀ key moment, spares key state action → aging.stamp state key = some moment →
      aging.now next - moment < aging.idle → (aging.stamp next key).isSome = true

variable {aging : Aging σ α κ} {step : σ → α → Option σ}

/-- After a step an entry has the stamp that it had, or one of this moment. -/
theorem Stamping.before_or_now (stamping : aging.Stamping step) {state next : σ} {action : α}
    (taken : step state action = some next) {key : κ} {moment : Nat}
    (present : aging.stamp next key = some moment) :
    aging.stamp state key = some moment ∨ moment = aging.now next := by
  have stamped := stamping.stamped state action next taken key moment present
  split at stamped
  · rename_i used
    right
    rw [stamped, stamping.clock state action next taken, stamping.timeless key state action used,
      Nat.add_zero]
  · exact Or.inl stamped

/-- An entry that was there and still is has the stamp that the step notes. -/
theorem Stamping.noted_of_isSome (stamping : aging.Stamping step) {state next : σ} {action : α}
    (taken : step state action = some next) {key : κ} {moment : Nat}
    (before : aging.stamp state key = some moment) (after : (aging.stamp next key).isSome = true) :
    aging.stamp next key = some (noted aging.now (aging.uses key) state action moment) := by
  obtain ⟨later, present⟩ := Option.isSome_iff_exists.mp after
  have stamped := stamping.stamped state action next taken key later present
  rw [present, noted]
  split at stamped
  · rename_i used
    rw [stamped, if_pos used]
  · rename_i unused
    rw [if_neg unused, ← Option.some.inj (before.symm.trans stamped)]

/-- In every run the stamp of an entry is the moment of its last use, if it was so
at the start. -/
theorem Stamping.stamp_of_run (stamping : aging.Stamping step) (key : κ) (since : Option Nat)
    (state last : σ) (actions : List α)
    (start : ∀ moment, aging.stamp state key = some moment → since = some moment)
    (reached : run step state actions = some last) (moment : Nat)
    (present : aging.stamp last key = some moment) :
    lastUse step aging.now (aging.uses key) since state actions = some moment := by
  induction actions generalizing state since with
  | nil =>
    cases reached
    exact start moment present
  | cons action rest inductionHypothesis =>
    obtain ⟨next, taken, remaining⟩ := (run_cons_some step state last action rest).mp reached
    simp only [lastUse, taken]
    refine inductionHypothesis _ next ?_ remaining
    intro later stamp
    have stamped := stamping.stamped state action next taken key later stamp
    split
    · rename_i used
      rw [if_pos used] at stamped
      rw [stamped]
    · rename_i unused
      rw [if_neg unused] at stamped
      exact start later stamped

/-- Sweeps on time leave no entry whose last use is longer ago than the idle time
and one interval. -/
theorem Swept.bounded (swept : aging.Swept step) (interval since : Nat) (state last : σ)
    (actions : List α)
    (start : ∀ key moment, aging.stamp state key = some moment →
      aging.now state - moment < aging.idle + since)
    (soon : since ≤ interval) (onTime : aging.onTime interval since actions = true)
    (reached : run step state actions = some last) (key : κ) (moment : Nat)
    (present : aging.stamp last key = some moment) :
    aging.now last - moment < aging.idle + interval := by
  induction actions generalizing state since with
  | nil =>
    cases reached
    have young := start key moment present
    omega
  | cons action rest inductionHypothesis =>
    obtain ⟨next, taken, remaining⟩ := (run_cons_some step state last action rest).mp reached
    simp only [Aging.onTime, Bool.and_eq_true, decide_eq_true_eq] at onTime
    refine inductionHypothesis _ next ?_ onTime.1 onTime.2 remaining
    intro other stamp listed
    by_cases sweeps : aging.sweeps action = true
    · simpa [sweeps] using swept.swept state action next taken sweeps other stamp listed
    · simp only [sweeps, Bool.false_eq_true, if_false]
      have clock := swept.stamping.clock state action next taken
      have positive := swept.positive
      rcases swept.stamping.before_or_now taken listed with before | isNow
      · have young := start other stamp before
        omega
      · omega

/-- An entry that stays in use is there at the end, however often it is swept. -/
theorem Spared.stays {invariant : σ → Prop} {spares : κ → σ → α → Prop}
    (spared : aging.Spared step invariant spares) (key : κ) (state last : σ) (actions : List α)
    (start : invariant state) (sparing : Meets step (spares key) state actions)
    (reached : run step state actions = some last) (moment : Nat)
    (present : aging.stamp state key = some moment)
    (busy : inUse step aging.now (aging.uses key) aging.idle moment state actions = true) :
    (aging.stamp last key).isSome = true := by
  induction actions generalizing state moment with
  | nil =>
    cases reached
    rw [present]
    rfl
  | cons action rest inductionHypothesis =>
    obtain ⟨next, taken, remaining⟩ := (run_cons_some step state last action rest).mp reached
    obtain ⟨recent, goesOn⟩ := inUse_step taken busy
    have sparesOn : Meets step (spares key) next rest := by
      simpa only [Meets, taken] using sparing.2
    have stillRecent : aging.now next - moment < aging.idle := by
      have later := recent_of_inUse goesOn
      unfold noted at later
      split at later
      · rename_i used
        rw [spared.stamping.clock state action next taken,
          spared.stamping.timeless key state action used]
        exact recent
      · exact later
    have there := spared.spared state action next start taken key moment sparing.1 present stillRecent
    exact inductionHypothesis next (spared.kept state action next start taken) sparesOn remaining _
      (spared.stamping.noted_of_isSome taken present there) goesOn

end Aging

end Rtun.Expiry
