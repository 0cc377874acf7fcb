import Rtun.Run
import Rtun.Shared
import Rtun.Slots

/-!
# Concurrent edits in one process

Any number of calls to `Shared::mutate` and of observers of the snapshot, in any
schedule. A call proceeds by the steps of the function: take the lock, copy the
snapshot, apply the closure, validate, save, publish, release. Observers read the
watch channel without the lock, at any moment.

The abstract description is `serial`: the closures applied one after the other to
the initial configuration, a failing one contributing nothing. `Sound` relates
the two: the lock holder's local copy, the snapshot and the file are at every
step what the calls published so far make of the initial configuration.
-/

namespace Rtun.ConcurrentEdits

variable {τ : Type}

open Shared (Attempt)

/-- Where a call is in `mutate`, with its local variables there. -/
inductive Phase (τ : Type) where
  | waiting
  | locked
  | copied (next : Config)
  | applied (out : τ) (next : Config)
  | validated (out : τ) (next : Config)
  | saved (out : τ) (next : Config)
  | returning (result : Fallible τ)
  | returned (result : Fallible τ)

/-- One call: its closure with the outcomes of its save, and where it is. -/
structure Call (τ : Type) where
  attempt : Attempt τ
  phase : Phase τ

/-- The process. `order` records who took the lock when and `commits` who has
published; an observer's log records the channel as it was read each time. -/
structure State (τ : Type) where
  shared : Shared
  disk : Disk
  holder : Option Nat
  calls : List (Call τ)
  observers : List (List (Watch.Channel Config))
  order : List Nat
  commits : List Nat

/-- The scheduler lets one call take its next step, or one observer read. -/
inductive Action where
  | advance (call : Nat)
  | observe (observer : Nat)

def State.enter (state : State τ) (index : Nat) (call : Call τ) (phase : Phase τ) : State τ :=
  { state with calls := state.calls.set index { call with phase } }

/-- The next step of a call in `mutate`. Only the first step can be blocked. -/
def advance (toml : Toml) (state : State τ) (index : Nat) (call : Call τ) : Option (State τ) :=
  match call.phase with
  | .waiting =>
      if state.holder = none then
        some { state.enter index call .locked with
          holder := some index, order := state.order ++ [index] }
      else none
  | .locked => some (state.enter index call (.copied state.shared.config))
  | .copied next =>
      match call.attempt.edit next with
      | .error failure => some (state.enter index call (.returning (.error failure)))
      | .ok (out, next) => some (state.enter index call (.applied out next))
  | .applied out next =>
      match next.validate with
      | .error failure => some (state.enter index call (.returning (.error failure)))
      | .ok () => some (state.enter index call (.validated out next))
  | .validated out next =>
      match save toml state.shared.path next call.attempt.outcomes (.start state.disk) with
      | (.error failure, fs) =>
          let failure := failure.within ("persisting " ++ state.shared.path.display)
          some { state.enter index call (.returning (.error failure)) with disk := fs.disk }
      | (.ok (), fs) => some { state.enter index call (.saved out next) with disk := fs.disk }
  | .saved out next =>
      some { state.enter index call (.returning (.ok out)) with
        shared := { state.shared with tx := state.shared.tx.sendReplace next },
        commits := state.commits ++ [index] }
  | .returning result => some { state.enter index call (.returned result) with holder := none }
  | .returned _ => none

def step (toml : Toml) (state : State τ) : Action → Option (State τ)
  | .advance index =>
      match state.calls[index]? with
      | none => none
      | some call => advance toml state index call
  | .observe observer =>
      match state.observers[observer]? with
      | none => none
      | some log => some { state with
          observers := state.observers.set observer (log ++ [state.shared.tx]) }

/-- All calls are about to be made and nobody has read anything. -/
def initial (path : ConfigPath) (role : Role) (config : Config) (disk : Disk)
    (attempts : List (Attempt τ)) (observers : Nat) : State τ :=
  { shared := Shared.new config path role 0, disk, holder := none,
    calls := attempts.map (fun attempt => { attempt, phase := .waiting }),
    observers := List.replicate observers [], order := [], commits := [] }

/-- The effect of one call on its own: a failing closure contributes nothing. -/
def applyOne (attempts : List (Attempt τ)) (config : Config) (index : Nat) : Config :=
  match attempts[index]? with
  | none => config
  | some attempt =>
      match attempt.edit config with
      | .error _ => config
      | .ok (_, next) => next

/-- The closures applied one after the other in the given order. -/
def serial (attempts : List (Attempt τ)) (config : Config) (order : List Nat) : Config :=
  order.foldl (applyOne attempts) config

/-- One more call is applied to what the calls before it have made. The order is
that in which they took the lock. -/
theorem serial_push (attempts : List (Attempt τ)) (config : Config) (order : List Nat) (index : Nat) :
    serial attempts config (order ++ [index]) =
      applyOne attempts (serial attempts config order) index := by
  simp [serial]

/-- The phases between taking the lock and releasing it. -/
def Phase.inside : Phase τ → Bool
  | .waiting | .returned _ => false
  | _ => true

/-- The call has published its result or has already returned it. -/
def Phase.succeeded : Phase τ → Bool
  | .returning (.ok _) | .returned (.ok _) => true
  | _ => false

/-- The call at this position has published its result. -/
def State.succeeded (state : State τ) (index : Nat) : Bool :=
  (state.calls[index]?).any (fun call => call.phase.succeeded)

/-- What the local variables of a call are, given the published snapshot, and what
the file is. Only between the save and the publication is the file ahead. -/
def Phase.Sound (toml : Toml) (path : ConfigPath) (attempt : Attempt τ) (published : Config)
    (disk : Disk) : Phase τ → Prop
  | .waiting | .returned _ => True
  | .locked | .returning _ => load toml path disk = .ok published
  | .copied next => load toml path disk = .ok published ∧ next = published
  | .applied out next | .validated out next =>
      load toml path disk = .ok published ∧ attempt.edit published = .ok (out, next)
  | .saved out next =>
      load toml path disk = .ok next ∧ attempt.edit published = .ok (out, next)

/-- The calls published so far account for the snapshot and its version. -/
structure Accounted (attempts : List (Attempt τ)) (config : Config) (state : State τ) : Prop where
  calls : state.calls.map Call.attempt = attempts
  value : state.shared.tx.value = serial attempts config state.commits
  version : state.shared.tx.version = state.commits.length

/-- Mutual exclusion, and the lock holder's view of the snapshot and the file. -/
structure Locked (toml : Toml) (state : State τ) : Prop where
  holder : ∀ index call, state.calls[index]? = some call → call.phase.inside = true →
    state.holder = some index
  free : state.holder = none → load toml state.shared.path state.disk = .ok state.shared.config
  busy : ∀ index, state.holder = some index → ∃ call, state.calls[index]? = some call ∧
    call.phase.inside = true ∧
    call.phase.Sound toml state.shared.path call.attempt state.shared.config state.disk

/-- The publications are the successful calls in lock order, the holder being the
last to have taken the lock. -/
structure Ordered (state : State τ) : Prop where
  nodup : state.order.Nodup
  latest : ∀ index, state.holder = some index → ∃ earlier, state.order = earlier ++ [index]
  waiting : ∀ index call, state.calls[index]? = some call → call.phase = .waiting →
    index ∉ state.order
  entered : ∀ index call, state.calls[index]? = some call → call.phase ≠ .waiting →
    index ∈ state.order
  taken : ∀ index ∈ state.order, ∃ call, state.calls[index]? = some call
  commits : state.commits = state.order.filter state.succeeded

/-- Every log of an observer runs through prefixes of the publications, never
back. -/
def Observed (attempts : List (Attempt τ)) (config : Config) (state : State τ) : Prop :=
  ∀ log ∈ state.observers, log.Pairwise (fun earlier later => earlier.version ≤ later.version) ∧
    ∀ seen ∈ log, seen.version ≤ state.commits.length ∧
      seen.value = serial attempts config (state.commits.take seen.version)

/-- The state in which the call has taken the lock. -/
def State.take (state : State τ) (index : Nat) (call : Call τ) : State τ :=
  { state.enter index call .locked with
    holder := some index, order := state.order ++ [index] }

/-- The state in which the call, still holding the lock, is in another phase and
the disk may have changed. -/
def State.proceed (state : State τ) (index : Nat) (call : Call τ) (phase : Phase τ) (disk : Disk) :
    State τ :=
  { state.enter index call phase with disk }

/-- The state in which the call has published its configuration. -/
def State.publish (state : State τ) (index : Nat) (call : Call τ) (out : τ) (next : Config) : State τ :=
  { state.enter index call (.returning (.ok out)) with
    shared := { state.shared with tx := state.shared.tx.sendReplace next },
    commits := state.commits ++ [index] }

/-- The state in which the call has released the lock. -/
def State.release (state : State τ) (index : Nat) (call : Call τ) (result : Fallible τ) : State τ :=
  { state.enter index call (.returned result) with holder := none }

/-- What one step of a call can do. Everything between taking the lock and
publishing is one case: the call stays inside, nothing is published, and its local
variables stay what they should be. -/
inductive Advanced (toml : Toml) (state : State τ) (index : Nat) (call : Call τ) : State τ → Prop
  | take (waiting : call.phase = .waiting) (free : state.holder = none) :
      Advanced toml state index call (state.take index call)
  | proceed (phase : Phase τ) (disk : Disk) (inside : call.phase.inside = true)
      (stays : phase.inside = true) (before : call.phase.succeeded = false)
      (after : phase.succeeded = false)
      (sound : call.phase.Sound toml state.shared.path call.attempt state.shared.config state.disk →
        phase.Sound toml state.shared.path call.attempt state.shared.config disk) :
      Advanced toml state index call (state.proceed index call phase disk)
  | publish (out : τ) (next : Config) (saved : call.phase = .saved out next) :
      Advanced toml state index call (state.publish index call out next)
  | release (result : Fallible τ) (returning : call.phase = .returning result) :
      Advanced toml state index call (state.release index call result)

/-- A step of the holder, with the phase it was in given by name. It is inside
before and after, so the lock stays with it. -/
theorem Advanced.onward {toml : Toml} {state : State τ} {index : Nat} {call : Call τ}
    {here : Phase τ} (reached : call.phase = here) (phase : Phase τ) (disk : Disk)
    (inside : here.inside = true) (stays : phase.inside = true)
    (before : here.succeeded = false) (after : phase.succeeded = false)
    (sound : here.Sound toml state.shared.path call.attempt state.shared.config state.disk →
      phase.Sound toml state.shared.path call.attempt state.shared.config disk) :
    Advanced toml state index call (state.proceed index call phase disk) := by
  subst reached
  exact .proceed phase disk inside stays before after sound

/-- The cases are complete. Each branch of `mutate` is one of them; the save is
the only step that touches the disk, and its effect keeps the view of the file. -/
theorem advance_cases (toml : Toml) (readsBack : toml.ReadsBack) (state next : State τ)
    (index : Nat) (call : Call τ) (advanced : advance toml state index call = some next) :
    Advanced toml state index call next := by
  unfold advance at advanced
  split at advanced
  · rename_i waiting
    split at advanced
    · rename_i free
      cases advanced
      exact .take waiting free
    · cases advanced
  · rename_i locked
    cases advanced
    refine .onward locked _ state.disk rfl rfl rfl rfl ?_
    intro sound
    exact ⟨sound, rfl⟩
  · rename_i copy copied
    split at advanced
    · cases advanced
      refine .onward copied _ state.disk rfl rfl rfl rfl ?_
      intro sound
      exact sound.1
    · rename_i out edited applied
      cases advanced
      refine .onward copied _ state.disk rfl rfl rfl rfl ?_
      intro sound
      obtain ⟨loaded, rfl⟩ := sound
      exact ⟨loaded, applied⟩
  · rename_i out edited applied
    split at advanced
    · cases advanced
      refine .onward applied _ state.disk rfl rfl rfl rfl ?_
      intro sound
      exact sound.1
    · cases advanced
      refine .onward applied _ state.disk rfl rfl rfl rfl ?_
      intro sound
      exact sound
  · rename_i out edited validated
    have effect : SaveEffect toml edited (.start state.disk)
        (save toml state.shared.path edited call.attempt.outcomes (.start state.disk)) :=
      save_effect toml state.shared.path edited call.attempt.outcomes (.start state.disk)
    split at advanced
    · rename_i failure fs saved
      cases advanced
      rw [saved] at effect
      refine .onward validated _ fs.disk rfl rfl rfl rfl ?_
      intro sound
      exact (load_congr toml state.shared.path fs.disk state.disk
        (effect.failed failure rfl)).trans sound.1
    · rename_i fs saved
      cases advanced
      rw [saved] at effect
      refine .onward validated _ fs.disk rfl rfl rfl rfl ?_
      intro sound
      exact ⟨load_of_holds toml state.shared.path fs.disk edited readsBack (effect.saved rfl),
        sound.2⟩
  · rename_i out edited saved
    cases advanced
    exact .publish out edited saved
  · rename_i result returning
    cases advanced
    exact .release result returning
  · cases advanced

/-- The calls after one of them changed its phase: this one with the new phase,
and the others as they were. -/
theorem enter_calls_iff (state : State τ) (index other : Nat) (call found : Call τ) (phase : Phase τ)
    (present : state.calls[index]? = some call) :
    (state.enter index call phase).calls[other]? = some found ↔
      (other = index ∧ found = { call with phase }) ∨
        (other ≠ index ∧ state.calls[other]? = some found) :=
  Slots.get_set_iff state.calls index other call { call with phase } found present

/-- Changing the phase of a call changes no closure: what the calls attempt is
fixed from the beginning. -/
theorem enter_attempts (state : State τ) (index : Nat) (call : Call τ) (phase : Phase τ)
    (present : state.calls[index]? = some call) :
    (state.enter index call phase).calls.map Call.attempt = state.calls.map Call.attempt := by
  obtain ⟨inside, rfl⟩ := List.getElem?_eq_some_iff.mp present
  simp only [State.enter, List.map_set]
  apply List.ext_getElem (by simp)
  intro other before after
  by_cases same : index = other <;> simp [same]

/-- The holder's view, read off the invariant for a call that is inside: the
configuration and the disk are as its phase says. -/
theorem Locked.sound {toml : Toml} {state : State τ} (locked : Locked toml state) (index : Nat)
    (call : Call τ) (present : state.calls[index]? = some call) (inside : call.phase.inside = true) :
    call.phase.Sound toml state.shared.path call.attempt state.shared.config state.disk := by
  obtain ⟨other, found, _, sound⟩ := locked.busy index (locked.holder index call present inside)
  obtain rfl : call = other := Option.some.inj (present.symm.trans found)
  exact sound

/-- A step of a call keeps the account. Only a publication adds to the order, and
it publishes what the closure made of the snapshot, which under the lock is still
the current one. -/
theorem Accounted.advanced {toml : Toml} {attempts : List (Attempt τ)} {config : Config}
    {state next : State τ} {index : Nat} {call : Call τ}
    (accounted : Accounted attempts config state) (locked : Locked toml state)
    (present : state.calls[index]? = some call) (moved : Advanced toml state index call next) :
    Accounted attempts config next := by
  have closures (phase : Phase τ) :
      (state.enter index call phase).calls.map Call.attempt = attempts :=
    (enter_attempts state index call phase present).trans accounted.calls
  cases moved with
  | take waiting free => exact ⟨closures _, accounted.value, accounted.version⟩
  | proceed phase disk inside stays before after sound =>
    exact ⟨closures _, accounted.value, accounted.version⟩
  | release result returning => exact ⟨closures _, accounted.value, accounted.version⟩
  | publish out edited saved =>
    have inside : call.phase.inside = true := by simp [saved, Phase.inside]
    have sound := locked.sound index call present inside
    rw [saved] at sound
    have closure : attempts[index]? = some call.attempt := by
      rw [← accounted.calls, List.getElem?_map, present]
      rfl
    have applied : applyOne attempts state.shared.tx.value index = edited := by
      have edits : call.attempt.edit state.shared.tx.value = .ok (out, edited) := sound.2
      simp only [applyOne, closure, edits]
    refine ⟨closures _, ?_, ?_⟩
    · change edited = serial attempts config (state.commits ++ [index])
      rw [serial_push, ← accounted.value, applied]
    · change state.shared.tx.version + 1 = (state.commits ++ [index]).length
      rw [accounted.version, List.length_append, List.length_singleton]

/-- A holder that goes on inside the lock keeps it, and the view of the snapshot
and the file is then the one its new phase asks for. -/
theorem Locked.stays {toml : Toml} {state next : State τ} {index : Nat} {call : Call τ}
    {phase : Phase τ} (locked : Locked toml state) (present : state.calls[index]? = some call)
    (inside : call.phase.inside = true) (calls : next.calls = (state.enter index call phase).calls)
    (holder : next.holder = state.holder) (stays : phase.inside = true)
    (sound : phase.Sound toml next.shared.path call.attempt next.shared.config next.disk) :
    Locked toml next := by
  have held : next.holder = some index :=
    holder.trans (locked.holder index call present inside)
  have slot (other : Nat) (found : Call τ) :=
    enter_calls_iff state index other call found phase present
  rw [← calls] at slot
  refine ⟨?_, ?_, ?_⟩
  · intro other found there otherInside
    rcases (slot other found).mp there with ⟨rfl, _⟩ | ⟨_, elsewhere⟩
    · exact held
    · exact holder.trans (locked.holder other found elsewhere otherInside)
  · intro nobody
    have impossible := held.symm.trans nobody
    cases impossible
  · intro other same
    obtain rfl : index = other := Option.some.inj (held.symm.trans same)
    exact ⟨_, (slot index _).mpr (Or.inl ⟨rfl, rfl⟩), stays, sound⟩

/-- A step of a call keeps to the lock: whoever is past it holds it, and nobody
else has a snapshot or a save under way. -/
theorem Locked.advanced {toml : Toml} {state next : State τ} {index : Nat} {call : Call τ}
    (locked : Locked toml state) (present : state.calls[index]? = some call)
    (moved : Advanced toml state index call next) : Locked toml next := by
  have slot (phase : Phase τ) (other : Nat) (found : Call τ) :=
    enter_calls_iff state index other call found phase present
  cases moved with
  | take waiting free =>
    refine ⟨?_, ?_, ?_⟩
    · intro other found there inside
      rcases (slot .locked other found).mp there with ⟨rfl, _⟩ | ⟨_, elsewhere⟩
      · rfl
      · have impossible := (locked.holder other found elsewhere inside).symm.trans free
        cases impossible
    · intro nobody
      cases nobody
    · intro holder same
      obtain rfl : index = holder := Option.some.inj same
      exact ⟨_, (slot .locked index _).mpr (Or.inl ⟨rfl, rfl⟩), rfl, locked.free free⟩
  | proceed phase disk inside stays before after sound =>
    exact locked.stays present inside rfl rfl stays (sound (locked.sound index call present inside))
  | publish out edited saved =>
    have inside : call.phase.inside = true := by simp [saved, Phase.inside]
    have sound := locked.sound index call present inside
    rw [saved] at sound
    exact locked.stays present inside rfl rfl rfl sound.1
  | release result returning =>
    have inside : call.phase.inside = true := by simp [returning, Phase.inside]
    have held : state.holder = some index := locked.holder index call present inside
    have sound := locked.sound index call present inside
    rw [returning] at sound
    refine ⟨?_, fun _ => sound, ?_⟩
    · intro other found there otherInside
      rcases (slot (.returned result) other found).mp there with ⟨rfl, rfl⟩ | ⟨different, elsewhere⟩
      · cases otherInside
      · have same := held.symm.trans (locked.holder other found elsewhere otherInside)
        exact absurd (Option.some.inj same).symm different
    · intro holder impossible
      cases impossible

/-- Which calls count as successful after one of them changed its phase: the
others count as before, and this one by its new phase. -/
theorem succeeded_enter (state : State τ) (index other : Nat) (call : Call τ) (phase : Phase τ)
    (present : state.calls[index]? = some call) :
    (state.enter index call phase).succeeded other =
      if other = index then phase.succeeded else state.succeeded other := by
  have inside : index < state.calls.length := Slots.lt_length_of_get _ index call present
  by_cases same : other = index
  · subst same
    simp [State.succeeded, State.enter, inside]
  · simp [State.succeeded, State.enter, same, Ne.symm same]

/-- A call that keeps its success keeps the list of the successful calls, so the
configuration that they make is the same. -/
theorem filter_succeeded_enter (state : State τ) (index : Nat) (call : Call τ) (phase : Phase τ)
    (present : state.calls[index]? = some call)
    (same : phase.succeeded = call.phase.succeeded) :
    state.order.filter (state.enter index call phase).succeeded =
      state.order.filter state.succeeded := by
  apply List.filter_congr
  intro other _
  rw [succeeded_enter state index other call phase present]
  by_cases here : other = index
  · subst here
    simp [State.succeeded, present, same]
  · simp [here]

/-- A call that was not in the order has a publication to its name only once it
is. -/
theorem filter_succeeded_publish (state : State τ) (index : Nat) (call : Call τ) (out : τ)
    (next : Config) (present : state.calls[index]? = some call) (saved : call.phase = .saved out next)
    (earlier : List Nat) (fresh : index ∉ earlier) :
    (earlier ++ [index]).filter (state.enter index call (.returning (.ok out))).succeeded =
      (earlier ++ [index]).filter state.succeeded ++ [index] := by
  have unpublished : state.succeeded index = false := by
    simp [State.succeeded, present, saved, Phase.succeeded]
  have before : earlier.filter (state.enter index call (.returning (.ok out))).succeeded =
      earlier.filter state.succeeded := by
    apply List.filter_congr
    intro other member
    have different : other ≠ index := fun same => fresh (same ▸ member)
    rw [succeeded_enter state index other call _ present, if_neg different]
  rw [List.filter_append, List.filter_append, before]
  simp [unpublished, succeeded_enter state index index call _ present, Phase.succeeded]

namespace Ordered

variable {state : State τ} {index : Nat} {call : Call τ}

/-- A call that is inside has taken the lock, and so it has its place in the
order. -/
theorem begun (ordered : Ordered state) (present : state.calls[index]? = some call)
    (inside : call.phase.inside = true) : index ∈ state.order := by
  refine ordered.entered index call present ?_
  intro waits
  simp [waits, Phase.inside] at inside

/-- The last call to have taken the lock appears nowhere before: a call takes the
lock once. -/
theorem fresh (ordered : Ordered state) (earlier : List Nat) (last : state.order = earlier ++ [index]) :
    index ∉ earlier := by
  have once : (earlier ++ [index]).Nodup := last ▸ ordered.nodup
  rw [List.nodup_append] at once
  intro member
  exact once.2.2 index member index (List.mem_singleton.mpr rfl) rfl

/-- Every call that took the lock is still there: calls are never removed,
whatever their outcome. -/
theorem taken_enter (ordered : Ordered state) (present : state.calls[index]? = some call)
    (phase : Phase τ) (other : Nat) (taken : other ∈ state.order) :
    ∃ found, (state.enter index call phase).calls[other]? = some found := by
  obtain ⟨found, there⟩ := ordered.taken other taken
  by_cases same : other = index
  · exact ⟨_, (enter_calls_iff state index other call _ phase present).mpr (Or.inl ⟨same, rfl⟩)⟩
  · exact ⟨found, (enter_calls_iff state index other call found phase present).mpr
      (Or.inr ⟨same, there⟩)⟩

/-- A call that still waits is another one, and has not taken the lock, for the
one that moved no longer waits. -/
theorem waiting_enter (ordered : Ordered state) (present : state.calls[index]? = some call)
    (phase : Phase τ) (moving : phase ≠ .waiting) (other : Nat) (found : Call τ)
    (there : (state.enter index call phase).calls[other]? = some found)
    (waits : found.phase = .waiting) : other ≠ index ∧ other ∉ state.order := by
  rcases (enter_calls_iff state index other call found phase present).mp there with
    ⟨_, rfl⟩ | ⟨different, elsewhere⟩
  · exact absurd waits moving
  · exact ⟨different, ordered.waiting other found elsewhere waits⟩

/-- A call that waits no more has taken the lock, or is the one that has just
moved. -/
theorem entered_enter (ordered : Ordered state) (present : state.calls[index]? = some call)
    (phase : Phase τ) (other : Nat) (found : Call τ)
    (there : (state.enter index call phase).calls[other]? = some found)
    (moving : found.phase ≠ .waiting) : other = index ∨ other ∈ state.order := by
  rcases (enter_calls_iff state index other call found phase present).mp there with
    ⟨same, _⟩ | ⟨_, elsewhere⟩
  · exact Or.inl same
  · exact Or.inr (ordered.entered other found elsewhere moving)

/-- A call takes the lock: it comes last in the order, and whoever took it before
has left. -/
theorem take (ordered : Ordered state) (present : state.calls[index]? = some call)
    (waiting : call.phase = .waiting) : Ordered (state.take index call) where
  nodup := by
    refine List.nodup_append.mpr ⟨ordered.nodup, List.nodup_singleton index, ?_⟩
    intro other member last here same
    obtain rfl : last = index := List.mem_singleton.mp here
    exact ordered.waiting last call present waiting (same ▸ member)
  latest := by
    intro holder same
    obtain rfl : index = holder := Option.some.inj same
    exact ⟨state.order, rfl⟩
  waiting := by
    intro other found there waits
    have first : (Phase.locked : Phase τ) ≠ .waiting := by simp
    obtain ⟨different, absent⟩ := ordered.waiting_enter present .locked first other found there waits
    change other ∉ state.order ++ [index]
    simp [absent, different]
  entered := by
    intro other found there moving
    change other ∈ state.order ++ [index]
    rcases ordered.entered_enter present .locked other found there moving with same | earlier
    · exact List.mem_append_right _ (List.mem_singleton.mpr same)
    · exact List.mem_append_left _ earlier
  taken := by
    intro other member
    rcases List.mem_append.mp member with earlier | here
    · exact ordered.taken_enter present .locked other earlier
    · obtain rfl : other = index := List.mem_singleton.mp here
      exact ⟨_, (enter_calls_iff state other other call _ .locked present).mpr (Or.inl ⟨rfl, rfl⟩)⟩
  commits := by
    have same : (Phase.locked : Phase τ).succeeded = call.phase.succeeded := by
      simp [waiting, Phase.succeeded]
    change state.commits = (state.order ++ [index]).filter (state.enter index call .locked).succeeded
    rw [List.filter_append, filter_succeeded_enter state index call .locked present same,
      ← ordered.commits]
    simp [succeeded_enter state index index call .locked present, Phase.succeeded]

/-- The order stays as it is when a call that is inside moves on, whatever is
published. -/
theorem moved (ordered : Ordered state) (present : state.calls[index]? = some call)
    (inside : call.phase.inside = true) (phase : Phase τ) (moving : phase ≠ .waiting)
    {next : State τ} (calls : next.calls = (state.enter index call phase).calls)
    (order : next.order = state.order)
    (holder : next.holder = state.holder ∨ next.holder = none)
    (commits : next.commits = next.order.filter next.succeeded) : Ordered next where
  nodup := order ▸ ordered.nodup
  latest := by
    intro last held
    rw [order]
    rcases holder with same | free
    · exact ordered.latest last (same ▸ held)
    · cases free.symm.trans held
  waiting := by
    intro other found there waits
    rw [order]
    exact (ordered.waiting_enter present phase moving other found (calls ▸ there) waits).2
  entered := by
    intro other found there notWaiting
    rw [order]
    rcases ordered.entered_enter present phase other found (calls ▸ there) notWaiting with
      rfl | earlier
    · exact ordered.begun present inside
    · exact earlier
  taken := by
    intro other member
    rw [calls]
    exact ordered.taken_enter present phase other (order ▸ member)
  commits := commits

/-- The step lemma: only taking the lock extends the order, and a publication is
that of the last call in it. -/
theorem advanced {toml : Toml} {next : State τ} (ordered : Ordered state)
    (locked : Locked toml state) (present : state.calls[index]? = some call)
    (moved : Advanced toml state index call next) : Ordered next := by
  cases moved with
  | take waiting free => exact ordered.take present waiting
  | proceed phase disk inside stays before after sound =>
    have moving : phase ≠ .waiting := by
      rintro rfl
      cases stays
    refine ordered.moved present inside phase moving rfl rfl (Or.inl rfl) ?_
    have kept := filter_succeeded_enter state index call phase present (after.trans before.symm)
    exact ordered.commits.trans kept.symm
  | publish out edited saved =>
    have inside : call.phase.inside = true := by simp [saved, Phase.inside]
    obtain ⟨earlier, last⟩ := ordered.latest index (locked.holder index call present inside)
    refine ordered.moved present inside (.returning (.ok out)) (by simp) rfl rfl (Or.inl rfl) ?_
    change state.commits ++ [index] =
      state.order.filter (state.enter index call (.returning (.ok out))).succeeded
    rw [ordered.commits, last]
    exact (filter_succeeded_publish state index call out edited present saved earlier
      (ordered.fresh earlier last)).symm
  | release result returning =>
    have unchanged : (Phase.returned result : Phase τ).succeeded = call.phase.succeeded := by
      cases result <;> simp [returning, Phase.succeeded]
    have inside : call.phase.inside = true := by simp [returning, Phase.inside]
    refine ordered.moved present inside (.returned result) (by simp) rfl rfl (Or.inr rfl) ?_
    have kept := filter_succeeded_enter state index call (.returned result) present unchanged
    exact ordered.commits.trans kept.symm

end Ordered

/-- Publications are only ever added at the end, so a prefix that was observed
stays the prefix of that length. -/
theorem Observed.advanced {toml : Toml} {attempts : List (Attempt τ)} {config : Config}
    {state next : State τ} {index : Nat} {call : Call τ} (observed : Observed attempts config state)
    (moved : Advanced toml state index call next) : Observed attempts config next := by
  cases moved with
  | take waiting free => exact observed
  | proceed phase disk inside stays before after sound => exact observed
  | release result returning => exact observed
  | publish out edited saved =>
    intro log member
    obtain ⟨forward, seen⟩ := observed log member
    refine ⟨forward, ?_⟩
    intro snapshot read
    obtain ⟨bound, value⟩ := seen snapshot read
    have kept : (state.commits ++ [index]).take snapshot.version =
        state.commits.take snapshot.version := List.take_append_of_le_length bound
    change snapshot.version ≤ (state.commits ++ [index]).length ∧
      snapshot.value = serial attempts config ((state.commits ++ [index]).take snapshot.version)
    rw [kept]
    exact ⟨by simp only [List.length_append]; omega, value⟩

/-- An observer reads the current snapshot, which is the latest prefix of all. So
what it reads never goes back. -/
theorem Observed.observed {attempts : List (Attempt τ)} {config : Config} {state : State τ}
    {observer : Nat} {log : List (Watch.Channel Config)}
    (accounted : Accounted attempts config state) (observed : Observed attempts config state)
    (present : state.observers[observer]? = some log) :
    Observed attempts config { state with
      observers := state.observers.set observer (log ++ [state.shared.tx]) } := by
  intro changed member
  rcases List.mem_or_eq_of_mem_set member with old | rfl
  · exact observed changed old
  · obtain ⟨forward, seen⟩ := observed log (List.mem_of_getElem? present)
    refine ⟨?_, ?_⟩
    · rw [List.pairwise_append]
      refine ⟨forward, List.pairwise_singleton _ _, ?_⟩
      intro earlier read later last
      obtain rfl : later = state.shared.tx := List.mem_singleton.mp last
      rw [accounted.version]
      exact (seen earlier read).1
    · intro snapshot read
      rcases List.mem_append.mp read with earlier | last
      · exact seen snapshot earlier
      · obtain rfl : snapshot = state.shared.tx := List.mem_singleton.mp last
        have everything : state.commits.take state.shared.tx.version = state.commits := by
          rw [accounted.version, List.take_length]
        change state.shared.tx.version ≤ state.commits.length ∧
          state.shared.tx.value = serial attempts config (state.commits.take state.shared.tx.version)
        rw [everything, accounted.version]
        exact ⟨Nat.le_refl _, accounted.value⟩

/-- Everything that holds in every reachable state of the process. -/
structure Invariant (toml : Toml) (path : ConfigPath) (attempts : List (Attempt τ))
    (config : Config) (state : State τ) : Prop where
  path : state.shared.path = path
  accounted : Accounted attempts config state
  locked : Locked toml state
  ordered : Ordered state
  observed : Observed attempts config state

/-- The step lemma: calls, readers and receivers all keep the invariant. The
holder of the lock is the only one that changes what it speaks of. -/
theorem invariant_step (toml : Toml) (readsBack : toml.ReadsBack) (path : ConfigPath)
    (attempts : List (Attempt τ)) (config : Config) (state : State τ) (action : Action)
    (next : State τ) (invariant : Invariant toml path attempts config state)
    (stepped : step toml state action = some next) :
    Invariant toml path attempts config next := by
  obtain ⟨located, accounted, locked, ordered, observed⟩ := invariant
  cases action with
  | advance index =>
    cases present : state.calls[index]? with
    | none => simp [step, present] at stepped
    | some call =>
      simp only [step, present] at stepped
      have moved := advance_cases toml readsBack state next index call stepped
      have stays : next.shared.path = path := by cases moved <;> exact located
      exact ⟨stays, accounted.advanced locked present moved, locked.advanced present moved,
        ordered.advanced locked present moved, observed.advanced moved⟩
  | observe observer =>
    cases present : state.observers[observer]? with
    | none => simp [step, present] at stepped
    | some log =>
      simp only [step, present] at stepped
      cases stepped
      exact ⟨located, ⟨accounted.calls, accounted.value, accounted.version⟩,
        ⟨locked.holder, locked.free, locked.busy⟩,
        ⟨ordered.nodup, ordered.latest, ordered.waiting, ordered.entered, ordered.taken,
          ordered.commits⟩,
        observed.observed accounted present⟩

/-- In the beginning the file is the one that was loaded, and no call has been
made. -/
theorem invariant_initial (toml : Toml) (path : ConfigPath) (role : Role) (config : Config)
    (disk : Disk) (attempts : List (Attempt τ)) (observers : Nat)
    (agrees : load toml path disk = .ok config) :
    Invariant toml path attempts config (initial path role config disk attempts observers) := by
  have allWaiting (index : Nat) (call : Call τ)
      (present : (initial path role config disk attempts observers).calls[index]? = some call) :
      call.phase = .waiting := by
    obtain ⟨attempt, _, rfl⟩ := List.mem_map.mp (List.mem_of_getElem? present)
    rfl
  refine ⟨rfl, ⟨?_, rfl, rfl⟩, ⟨?_, fun _ => agrees, ?_⟩, ⟨List.nodup_nil, ?_, ?_, ?_, ?_, rfl⟩, ?_⟩
  · simp [initial, Function.comp_def]
  · intro index call present inside
    simp [allWaiting index call present, Phase.inside] at inside
  · intro index impossible
    cases impossible
  · intro index impossible
    cases impossible
  · intro index call _ _
    exact List.not_mem_nil
  · intro index call present moving
    exact absurd (allWaiting index call present) moving
  · intro index impossible
    cases impossible
  · intro log member
    obtain rfl : log = [] := (List.mem_replicate.mp member).2
    simp

/-- The call at this position has returned, and with a success. -/
def State.returnedOk (state : State τ) (index : Nat) : Bool :=
  (state.calls[index]?).any (fun call =>
    match call.phase with
    | .returned (.ok _) => true
    | _ => false)

/-- While nobody holds the lock, a call has succeeded exactly when it returned
Ok. -/
theorem succeeded_of_idle {toml : Toml} {state : State τ} (locked : Locked toml state)
    (idle : state.holder = none) (index : Nat) :
    state.succeeded index = state.returnedOk index := by
  cases present : state.calls[index]? with
  | none => simp [State.succeeded, State.returnedOk, present]
  | some call =>
    have outside : call.phase.inside = false := by
      by_contra inside
      have held := locked.holder index call present (by simpa using inside)
      cases held.symm.trans idle
    simp only [State.succeeded, State.returnedOk, present, Option.any_some]
    cases at_ : call.phase with
    | returned result => cases result <;> rfl
    | returning result => simp [at_, Phase.inside] at outside
    | _ => rfl

/-- Concurrent edits are serialisable. In every schedule of any number of calls
and observers, at every moment when no edit is in progress, the snapshot and the
file are the closures of exactly the calls that returned Ok, applied one after the
other in the order in which they took the lock. Each of those calls is in that
order once, and every observer has only seen results of prefixes of it, never
going back.

The invariant is `Invariant`; the run rule carries it from the initial state. -/
theorem concurrent_edits_serialisable (toml : Toml) (readsBack : toml.ReadsBack)
    (path : ConfigPath) (role : Role) (config : Config) (disk : Disk)
    (agrees : load toml path disk = .ok config) (attempts : List (Attempt τ)) (observers : Nat)
    (actions : List Action) (state : State τ)
    (reached : Run.run (step toml) (initial path role config disk attempts observers) actions =
      some state) :
    state.order.Nodup ∧ (∀ index, state.returnedOk index = true → index ∈ state.order) ∧
      (state.holder = none →
        state.shared.config = serial attempts config (state.order.filter state.returnedOk) ∧
        load toml path state.disk =
          .ok (serial attempts config (state.order.filter state.returnedOk))) ∧
      ∀ log ∈ state.observers, ∃ lengths : List Nat,
        lengths.Pairwise (· ≤ ·) ∧
        (∀ length ∈ lengths, length ≤ (state.order.filter state.succeeded).length) ∧
        log.map Watch.Channel.value =
          lengths.map (fun length => serial attempts config
            ((state.order.filter state.succeeded).take length)) := by
  obtain ⟨located, accounted, locked, ordered, observed⟩ : Invariant toml path attempts config state :=
    Run.invariant_of_run (step toml) (Invariant toml path attempts config)
      (invariant_step toml readsBack path attempts config) _ state actions
      (invariant_initial toml path role config disk attempts observers agrees) reached
  refine ⟨ordered.nodup, ?_, ?_, ?_⟩
  · intro index returned
    cases present : state.calls[index]? with
    | none => simp [State.returnedOk, present] at returned
    | some call =>
      refine ordered.entered index call present ?_
      intro waits
      simp [State.returnedOk, present, waits] at returned
  · intro idle
    have same : state.order.filter state.returnedOk = state.commits := by
      rw [ordered.commits]
      exact List.filter_congr (fun index _ => (succeeded_of_idle locked idle index).symm)
    have value : state.shared.config = serial attempts config state.commits := accounted.value
    have loaded := locked.free idle
    rw [located, value] at loaded
    rw [same]
    exact ⟨value, loaded⟩
  · intro log member
    obtain ⟨forward, seen⟩ := observed log member
    refine ⟨log.map Watch.Channel.version, List.pairwise_map.mpr forward, ?_, ?_⟩
    · intro length read
      obtain ⟨snapshot, inLog, rfl⟩ := List.mem_map.mp read
      rw [← ordered.commits]
      exact (seen snapshot inLog).1
    · rw [List.map_map]
      apply List.map_congr_left
      intro snapshot inLog
      rw [← ordered.commits]
      exact (seen snapshot inLog).2

/-- Two calls meet: the first to take the lock offers a port, the other one's
closure fails. The second is blocked until the first has released the lock. -/
theorem offer_and_refusal_serialisable :
    let attempts : List (Attempt Unit) :=
      [⟨fun _ => .error (.message "nope"), .success⟩, ⟨fun _ => .ok ((), sshOffered), .success⟩]
    let begun := initial (configPath "/var/lib/rtun") .serve Config.default
      { file := .missing, tmp := none } attempts 1
    ∃ actions state, Run.run (step sshToml) begun actions = some state ∧
      state.order.filter state.returnedOk = [1] ∧
      state.shared.config = serial attempts Config.default [1] := by
  let actions : List Action := [.advance 1, .advance 1, .observe 0, .advance 1, .advance 1,
    .advance 1, .advance 1, .observe 0, .advance 1, .advance 0, .advance 0, .advance 0, .advance 0]
  refine ⟨actions, _, rfl, rfl, ?_⟩
  exact ((concurrent_edits_serialisable sshToml sshToml_readsBack (configPath "/var/lib/rtun") .serve
    Config.default { file := .missing, tmp := none } rfl _ 1 actions _ rfl).2.2.1 rfl).1

end Rtun.ConcurrentEdits
