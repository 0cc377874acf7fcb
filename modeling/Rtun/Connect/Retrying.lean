import Rtun.Backoff
import Rtun.Connect.Dialing
import Rtun.Connect.IdleSessions

/-!
# The pace of the retries

An outage begins when a connection is lost, or with the first dial, and goes on until a
connection forms. In between `run` dials, waits and dials again, while the configuration is
edited and the tasks go on. The wait ends at a deadline that was fixed when it began, which
no edit moves.
-/

namespace Rtun.Connect.Dialing

open Backoff Run

/-- The delay before the next retry, after this many in one outage. -/
def delayAfter (retries : Nat) : Nat := ladder backoffStart backoffMax retries

/-- The least time that this many retries take. -/
def spentOn (retries : Nat) : Nat := total backoffStart backoffMax retries

/-- The wait is over and `run` is about to dial again. -/
def Action.retries : Action → Bool
  | .retry => true
  | _ => false

/-- How many retries a run takes. -/
def retriesIn (actions : List Action) : Nat := actions.countP Action.retries

/-- A connection forms. -/
def Action.forms : Action → Bool
  | .dialed _ => true
  | _ => false

/-- The state of an outage that began at a moment and has seen a number of
retries. -/
structure Paced (began : Instant) (retries : Nat) (state : State) : Prop where
  delay : state.delay = delayAfter retries
  spent : began + spentOn retries ≤ state.inner.now
  waiting : ∀ deadline, state.phase = .waiting deadline →
    began + spentOn (retries + 1) ≤ deadline ∧ deadline ≤ state.inner.now + delayAfter retries

variable {checks : Bool} {peer : EndpointId} {state next : State} {action : Action}

/-- The clock of the main loop is that of its tasks. -/
theorem now_le (taken : step checks peer state action = some next) :
    state.inner.now ≤ next.inner.now := by
  cases step_moves taken with
  | tasked action inner isTask moved =>
    rw [(step_later moved).1]
    exact Nat.le_add_right _ _
  | _ => exact Nat.le_refl _

/-- A step that changes neither the phase nor the delay keeps the pace. -/
theorem Paced.kept {began : Instant} {retries : Nat} (paced : Paced began retries state)
    (taken : step checks peer state action = some next) (phase : next.phase = state.phase)
    (delay : next.delay = state.delay) : Paced began retries next := by
  have goesOn := now_le taken
  refine ⟨delay.trans paced.delay, Nat.le_trans paced.spent goesOn, fun deadline waiting => ?_⟩
  obtain ⟨earliest, latest⟩ := paced.waiting deadline (phase ▸ waiting)
  exact ⟨earliest, Nat.le_trans latest (Nat.add_le_add_right goesOn _)⟩

/-- So does one that leaves no wait. -/
theorem Paced.unwaiting {began : Instant} {retries : Nat} (paced : Paced began retries state)
    (taken : step checks peer state action = some next)
    (phase : ∀ deadline, next.phase ≠ .waiting deadline) (delay : next.delay = state.delay) :
    Paced began retries next :=
  ⟨delay.trans paced.delay, Nat.le_trans paced.spent (now_le taken),
    fun deadline waiting => absurd waiting (phase deadline)⟩

/-- A wait begins with the delay of the moment. -/
theorem Paced.begins {began : Instant} {retries : Nat} (paced : Paced began retries state)
    (phase : next.phase = .waiting (state.inner.now + state.delay))
    (delay : next.delay = state.delay) (now : next.inner.now = state.inner.now) :
    Paced began retries next := by
  refine ⟨delay.trans paced.delay, now ▸ paced.spent, fun deadline waiting => ?_⟩
  obtain rfl := Phase.waiting.inj (phase.symm.trans waiting)
  have next : spentOn (retries + 1) = spentOn retries + delayAfter retries := rfl
  rw [paced.delay, now, next, ← Nat.add_assoc]
  exact ⟨Nat.add_le_add_right paced.spent _, Nat.le_refl _⟩

/-- The step lemma: a retry is taken at the deadline, and doubles the delay. -/
theorem Paced.step {began : Instant} {retries : Nat} (paced : Paced began retries state)
    (taken : step checks peer state action = some next) (forms : action.forms = false) :
    Paced began (retries + retriesIn [action]) next := by
  cases step_moves taken with
  | connected => cases forms
  | retried deadline waiting due =>
    refine ⟨?_, ?_, fun _ impossible => by cases impossible⟩
    · rw [paced.delay]
      rfl
    · exact Nat.le_trans (paced.waiting deadline waiting).1 due
  | failed dialing => exact paced.begins rfl rfl rfl
  | dropped refused held selecting down =>
    cases refused with
    | true => exact paced.unwaiting taken (fun _ impossible => by cases impossible) rfl
    | false => exact paced.begins rfl rfl rfl
  | bound bindOne starting =>
    refine paced.unwaiting taken (fun deadline waiting => ?_) rfl
    simp only [State.boundInitially] at waiting
    split at waiting <;> cases waiting
  | _ => exact paced.kept taken rfl rfl

/-- The run lemma. -/
theorem Paced.run {began : Instant} {retries : Nat} {last : State} {actions : List Action}
    (paced : Paced began retries state)
    (unformed : ∀ action ∈ actions, action.forms = false)
    (reached : run (Dialing.step checks peer) state actions = some last) :
    Paced began (retries + retriesIn actions) last := by
  induction actions generalizing state retries with
  | nil =>
    cases reached
    exact paced
  | cons action rest inductionHypothesis =>
    obtain ⟨next, taken, remaining⟩ := (run_cons_some _ state last action rest).mp reached
    have later := inductionHypothesis (paced.step taken (unformed action List.mem_cons_self))
      (fun other member => unformed other (List.mem_cons_of_mem _ member)) remaining
    have sum : retries + retriesIn [action] + retriesIn rest = retries + retriesIn (action :: rest) := by
      unfold retriesIn
      rw [Nat.add_assoc, ← List.countP_append]
      rfl
    exact sum ▸ later

/-- Before the first dial and while a connection is held the ladder is at its
foot. -/
def AtFoot (state : State) : Prop :=
  state.phase = .starting ∨ state.phase = .held → state.delay = backoffStart

/-- The step lemma: a dial that succeeds puts the delay back to its start, and
only a retry raises it. -/
theorem AtFoot.step (atFoot : AtFoot state) (taken : step checks peer state action = some next) :
    AtFoot next := by
  intro phase
  cases step_moves taken with
  | connected => rfl
  | failed | retried => rcases phase with phase | phase <;> cases phase
  | dropped refused held =>
    cases refused <;> rcases phase with phase | phase <;> cases phase
  | bound bindOne starting =>
    exact atFoot (Or.inl starting)
  | _ => exact atFoot phase

/-- Nothing but a retry ends a wait: an edit is handled in it and leaves the
deadline. -/
theorem wait_kept {deadline : Instant} (waiting : state.phase = .waiting deadline)
    (taken : step checks peer state action = some next) (waits : action.retries = false) :
    next.phase = .waiting deadline := by
  cases step_moves taken with
  | retried => cases waits
  | connected _ dialing | failed dialing =>
    rw [waiting] at dialing
    cases dialing
  | bound _ starting =>
    rw [waiting] at starting
    cases starting
  | dropped _ held =>
    rw [waiting] at held
    cases held
  | _ => exact waiting

/-- After the fifth retry the delay is the ceiling, so that n retries take n
ceilings but for a fixed time. -/
theorem retries_le_spent (retries : Nat) :
    retries * backoffMax ≤ spentOn retries + 119 * nanosPerSec := by
  by_cases many : 5 ≤ retries
  · obtain ⟨more, rfl⟩ := Nat.exists_eq_add_of_le many
    have spread : spentOn (5 + more) = spentOn 5 + more * backoffMax :=
      total_of_reached 5 more (by decide)
    have five : spentOn 5 + 119 * nanosPerSec = 5 * backoffMax := by decide
    rw [spread, Nat.add_mul]
    omega
  · have few : retries < 5 := Nat.not_le.mp many
    have all : ∀ n < 5, n * backoffMax ≤ spentOn n + 119 * nanosPerSec := by decide
    exact all retries few

/-- The pace of an outage. From a state in which a connection is held, or before
the first dial, as long as no connection forms, however much is edited: the delay
is the start doubled with every retry, up to the ceiling; the retries have taken
at least the sum of their delays, so that but for two minutes there is no more
than one in each half minute; and the wait for the next one ends neither before
that sum and the next delay nor later than the delay from now, at a deadline that
stays until then. -/
theorem outage_backs_off (checks : Bool) (peer : EndpointId) (channel : Watch.Channel Config)
    (earlier actions : List Action) (middle last : State)
    (before : run (step checks peer) (initial channel) earlier = some middle)
    (linked : middle.phase = .starting ∨ middle.phase = .held)
    (unformed : ∀ action ∈ actions, action.forms = false)
    (reached : run (step checks peer) middle actions = some last) :
    last.delay = min (backoffStart * Nat.pow 2 (retriesIn actions)) backoffMax ∧
      middle.inner.now + spentOn (retriesIn actions) ≤ last.inner.now ∧
      middle.inner.now + retriesIn actions * backoffMax ≤ last.inner.now + 119 * nanosPerSec ∧
      ∀ deadline, last.phase = .waiting deadline →
        middle.inner.now + spentOn (retriesIn actions + 1) ≤ deadline ∧
        deadline ≤ last.inner.now + last.delay ∧
        ∀ edits later, (∀ action ∈ edits, action.retries = false) →
          run (step checks peer) last edits = some later → later.phase = .waiting deadline := by
  have atFoot : AtFoot middle := invariant_of_run (step checks peer) AtFoot
    (fun _ _ _ atFoot taken => atFoot.step taken) _ middle earlier (fun _ => rfl) before
  have start : Paced middle.inner.now 0 middle := by
    refine ⟨atFoot linked, Nat.le_refl _, fun deadline waiting => ?_⟩
    rcases linked with phase | phase <;> rw [phase] at waiting <;> cases waiting
  have paced := start.run unformed reached
  rw [Nat.zero_add] at paced
  refine ⟨paced.delay.trans (ladder_eq (by decide) _), paced.spent, ?_, fun deadline waiting => ?_⟩
  · calc middle.inner.now + retriesIn actions * backoffMax
        ≤ middle.inner.now + (spentOn (retriesIn actions) + 119 * nanosPerSec) :=
          Nat.add_le_add_left (retries_le_spent _) _
      _ = middle.inner.now + spentOn (retriesIn actions) + 119 * nanosPerSec :=
          (Nat.add_assoc _ _ _).symm
      _ ≤ last.inner.now + 119 * nanosPerSec := Nat.add_le_add_right paced.spent _
  · obtain ⟨earliest, latest⟩ := paced.waiting deadline waiting
    refine ⟨earliest, paced.delay ▸ latest, fun edits later waits handled => ?_⟩
    exact invariant_of_meets (step checks peer) (fun _ action => action.retries = false)
      (fun state => state.phase = .waiting deadline)
      (fun _ _ _ waiting waits taken => wait_kept waiting taken waits) last later edits waiting
      (meets_of_mem _ _ last edits fun action member _ => waits action member) handled

/-- A connection is lost, two dials fail, and the configuration is edited before
the third. -/
def longOutage : List Action :=
  [.linkDown, .lost false, .task (.elapse backoffStart), .retry, .dialFailed,
    .task (.elapse (2 * backoffStart)), .retry, .dialFailed, .publish (binds [dnsBinding]),
    .observe (fun _ => none)]

/-- It is waiting its third delay, and the edit has moved the deadline by
nothing. -/
theorem outage_waits_four_seconds :
    ∃ middle last,
      run (step true office) (initial (Watch.Channel.new Config.default))
        [.bindInitial (fun _ => none), .dialed none] = some middle ∧
      run (step true office) middle longOutage = some last ∧
      last.phase = .waiting (7 * backoffStart) ∧ last.delay = 4 * backoffStart ∧
      middle.inner.now + spentOn 3 ≤ 7 * backoffStart := by
  have evaluated : (run (step true office) (initial (Watch.Channel.new Config.default))
      [.bindInitial (fun _ => none), .dialed none]).bind (fun middle =>
        (run (step true office) middle longOutage).map (fun last => (middle.phase, last.phase))) =
      some (.held, .waiting (7 * backoffStart)) := by decide +kernel
  obtain ⟨middle, before, evaluated⟩ := Option.bind_eq_some_iff.mp evaluated
  obtain ⟨last, reached, phases⟩ := Option.map_eq_some_iff.mp evaluated
  obtain ⟨held, waiting⟩ := Prod.mk.inj phases
  have paced := outage_backs_off true office (Watch.Channel.new Config.default)
    [.bindInitial (fun _ => none), .dialed none] longOutage middle last before (Or.inr held) (by decide)
    reached
  exact ⟨middle, last, before, reached, waiting, paced.1, (paced.2.2.2 _ waiting).1⟩

end Rtun.Connect.Dialing
