import Rtun.Connect.Dialing

/-!
# Sockets that outlive their listeners

A listening socket is open until its last clone is gone. The map of listeners has one,
and so have the tasks that read the socket, the sessions of their table and a reply on
its way. When a listener is dropped, its tasks are told to abort and let go of the socket
later. A bind can fail in between, and only then, if no one else uses the ports.
-/

namespace Rtun.Connect.Dialing

open Run

/-- A task of the generation is left, and with it the session table. -/
def hasTable (generation : Generation) : Bool :=
  generation.forwarders.any (fun forwarder => !hasEnded forwarder) || generation.reaping ||
    match generation.inbound with
    | .absent | .ended => false
    | _ => true

/-- A clone of the socket of one of its forwarders is left in the generation: with
the forwarder, with a session, or with a reply on its way. -/
def keepsOpen (generation : Generation) (forwarder : Forwarder) : Bool :=
  !hasEnded forwarder ||
    (hasTable generation &&
      generation.sessions.byId.entries.any (fun entry => entry.2.sock == forwarder.sock)) ||
    match generation.inbound with
    | .routed sock _ _ _ => sock == forwarder.sock
    | _ => false

/-- Tasks that have been told to abort, or tasks that have not, keep a socket of
the key open. -/
def tasksHold (state : State) (told : Bool) (key : Proto × UInt16) : Bool :=
  match key.1 with
  | .tcp => state.acceptors.any (fun acceptor =>
      acceptor.told == told && !acceptor.ended && acceptor.map.localPort == key.2)
  | .udp => state.inner.generations.any (fun generation =>
      generation.told == told && generation.forwarders.any (fun forwarder =>
        forwarder.map.localPort == key.2 && keepsOpen generation forwarder))

/-- A socket of this run is open for the key. -/
def holdsKey (state : State) (key : Proto × UInt16) : Bool :=
  (state.inner.listeners.bound.lookup key).isSome || tasksHold state false key ||
    tasksHold state true key

/-- The binds that a step attempts, with their outcomes: those of the bindings
that are wanted and have no listener. -/
def attempts (state : State) (action : Action) : List (Binding × Option String) :=
  match action.bindOne with
  | none => []
  | some bindOne =>
      (state.inner.channel.value.activeBindings.filter (fun binding =>
        (state.inner.listeners.bound.lookup binding.key).isNone)).map
          (fun binding => (binding, bindOne binding))

/-- What is assumed of the system, and of everyone else: a bind fails only while a
socket of this run is open for its key. -/
def failsOnlyIfHeld (state : State) (action : Action) : Bool :=
  (attempts state action).all (fun attempt => attempt.2.isNone || holdsKey state attempt.1.key)

/-- The tasks that were told to abort have let go of the ports that are bound
now. -/
def abortedLetGo (state : State) (action : Action) : Bool :=
  (attempts state action).all (fun attempt => !tasksHold state true attempt.1.key)

/-- No bind that the step attempts fails. -/
def bindsSucceed (state : State) (action : Action) : Bool :=
  (attempts state action).all (fun attempt => attempt.2.isNone)

/-- The attempts are those of the reconciliation: what it leaves unbound is what
was attempted and failed. -/
theorem unbound_iff_attempt_failed (bindOne : Binding → Option String) (state : State)
    (action : Action) (reconciles : action.bindOne = some bindOne)
    (valid : state.inner.channel.value.validate = .ok ()) (binding : Binding)
    (wanted : binding ∈ state.inner.channel.value.activeBindings) :
    (reconcile bindOne state.inner.channel.value.activeBindings state.inner.listeners
        state.inner.runtime).listeners.bound.lookup binding.key = none ↔
      ∃ error, (binding, some error) ∈ attempts state action := by
  have settled := reconcile_settled bindOne _ (distinct_active _ valid) state.inner.listeners
    state.inner.runtime
  rw [settled.unbound binding wanted, Option.isSome_iff_exists]
  simp [attempts, reconciles, wanted]

/-- Without a connection no task is left that was not told to abort. -/
theorem idle_hold_nothing {state : State} (sound : Sound state) (idle : state.phase ≠ .held)
    (key : Proto × UInt16) : tasksHold state false key = false := by
  obtain ⟨toldForwarders, toldAcceptors⟩ := told_of_idle sound idle
  unfold tasksHold
  split
  · apply List.any_eq_false.mpr
    intro acceptor member
    simp [toldAcceptors acceptor member]
  · apply List.any_eq_false.mpr
    intro generation member
    simp [toldForwarders generation member]

/-- With a connection held, the tasks that were not told to abort hold what is
bound. -/
theorem serving_hold_bound {state : State} (sound : Sound state) (held : state.phase = .held)
    (selecting : state.inner.loop = .selecting) (key : Proto × UInt16)
    (unbound : state.inner.listeners.bound.lookup key = none) : tasksHold state false key = false := by
  obtain ⟨proto, localPort⟩ := key
  have isFree (sock : Nat) (map : PortMap) (listed : (sock, map) ∈ state.inner.listeners.bearing proto) :
      map.localPort ≠ localPort := by
    intro same
    rw [Listeners.mem_bearing, same, unbound] at listed
    cases listed
  cases proto with
  | tcp =>
    apply List.any_eq_false.mpr
    intro acceptor member
    simp only [Bool.and_eq_true, beq_iff_eq, Bool.not_eq_true', not_and]
    rintro ⟨untold, _⟩ samePort
    apply isFree acceptor.sock acceptor.map _ samePort
    have current : acceptor.place ∈ currentAcceptors state.acceptors :=
      List.mem_map_of_mem (List.mem_filter.mpr ⟨member, by simp [untold]⟩)
    rw [(sound.staffed.serving held selecting).2] at current
    exact current
  | udp =>
    obtain ⟨newest, only, places⟩ := current_generation sound held selecting
    apply List.any_eq_false.mpr
    intro generation member
    simp only [Bool.and_eq_true, beq_iff_eq, List.any_eq_true, not_and, not_exists]
    intro untold forwarder listed samePort _
    have isNewest : generation ∈ state.inner.generations.filter (fun generation => !generation.told) :=
      List.mem_filter.mpr ⟨member, by simp [untold]⟩
    rw [only, List.mem_singleton] at isNewest
    subst isNewest
    apply isFree forwarder.sock forwarder.map _ samePort
    rw [← places]
    exact List.mem_map_of_mem listed

/-- Whenever the listeners are reconciled, a port that is not bound is not held by
tasks that were not told to abort. -/
theorem current_hold_bound {checks : Bool} {peer : EndpointId} {state next : State} {action : Action}
    (sound : Sound state) (taken : step checks peer state action = some next)
    (reconciles : action.bindOne.isSome = true) (key : Proto × UInt16)
    (unbound : state.inner.listeners.bound.lookup key = none) : tasksHold state false key = false := by
  have moves := step_moves taken
  cases moves with
  | published | connected | failed | reported | respawned | linkLost | dropped | retried
  | acceptFailed | acceptorStopped | readFailed | tasked => cases reconciles
  | bound bindOne starting => exact idle_hold_nothing sound (by simp [starting]) key
  | observed bindOne deadline waiting => exact idle_hold_nothing sound (by simp [waiting]) key
  | reconciled bindOne held selecting => exact serving_hold_bound sound held selecting key unbound

/-- Over every run, with any edits and any schedule of the tasks: if a bind fails
only while a socket of this run is open for its key, then no bind fails as long
as, whenever one is attempted, no task that was told to abort still holds a socket
of its port. -/
theorem own_binds_succeed (checks : Bool) (peer : EndpointId) (channel : Watch.Channel Config)
    (valid : channel.value.validate = .ok ()) (actions : List Action) (last : State)
    (reached : run (step checks peer) (initial channel) actions = some last)
    (assumed : Meets (step checks peer) (fun state action => failsOnlyIfHeld state action = true)
      (initial channel) actions)
    (letGo : Meets (step checks peer) (fun state action => abortedLetGo state action = true)
      (initial channel) actions) :
    Meets (step checks peer) (fun state action => bindsSucceed state action = true)
      (initial channel) actions := by
  refine meets_of_invariant (step checks peer) Sound _ _ (fun _ _ _ sound taken => sound_step sound taken)
    ?_ (initial channel) last actions (sound_initial channel valid) reached
    (meets_and _ _ _ _ _ assumed letGo)
  rintro state action next sound taken ⟨onlyIfHeld, released⟩
  apply List.all_eq_true.mpr
  intro attempt member
  have free := List.all_eq_true.mp released attempt member
  have held := List.all_eq_true.mp onlyIfHeld attempt member
  have reconciles : action.bindOne.isSome = true := by
    cases found : action.bindOne with
    | none => simp [attempts, found] at member
    | some bindOne => rfl
  have unbound : state.inner.listeners.bound.lookup attempt.1.key = none := by
    obtain ⟨bindOne, found⟩ := Option.isSome_iff_exists.mp reconciles
    simp only [attempts, found, List.mem_map, List.mem_filter, Option.isNone_iff_eq_none] at member
    obtain ⟨binding, ⟨_, none⟩, rfl⟩ := member
    exact none
  have current := current_hold_bound sound taken reconciles attempt.1.key unbound
  rw [Bool.not_eq_true'] at free
  simpa [holdsKey, unbound, current, free] using held

def inUse (_ : Binding) : Option String := some "address in use"

/-- The DNS binding is parked while the connection is held: its tasks are told to
abort. -/
def parked : List Action :=
  [.bindInitial (fun _ => none), .dialed none, .publish (binds [{ dnsBinding with enabled := false }]),
    .reconcile (fun _ => none), .respawn]

/-- The tasks stop, and the binding is restored after that. -/
def restoredLater : List Action :=
  parked ++ [.task (.stopForwarder 0 0), .task (.stopInbound 0), .task (.stopReaper 0),
    .publish (binds [dnsBinding]), .reconcile (fun _ => none)]

/-- When the last task that held the socket has stopped, the port is free and the
bind succeeds. -/
theorem restored_later_binds :
    (run (step true office) (initial (Watch.Channel.new (binds [dnsBinding]))) restoredLater).isSome =
        true ∧
      Meets (step true office) (fun state action => bindsSucceed state action = true)
        (initial (Watch.Channel.new (binds [dnsBinding]))) restoredLater := by
  have performed : (run (step true office) (initial (Watch.Channel.new (binds [dnsBinding])))
      restoredLater).isSome = true := by decide
  obtain ⟨last, reached⟩ := Option.isSome_iff_exists.mp performed
  exact ⟨performed, own_binds_succeed true office _ (by decide) restoredLater last reached
    (by decide) (by decide)⟩

/-- The binding is restored before the tasks that were told to abort have
stopped. -/
def restoredAtOnce : List Action := parked ++ [.publish (binds [dnsBinding]), .reconcile inUse]

/-- The stopped tasks still hold the socket, so the port is held by the process
itself and the bind fails, which is all that the UI shows from then on. -/
theorem restored_at_once_fails :
    ∃ last, run (step true office) (initial (Watch.Channel.new (binds [dnsBinding]))) restoredAtOnce =
        some last ∧
      Meets (step true office) (fun state action => failsOnlyIfHeld state action = true)
        (initial (Watch.Channel.new (binds [dnsBinding]))) restoredAtOnce ∧
      last.inner.runtime.bindState dnsBinding = some (.failed "address in use") ∧
      ¬ Meets (step true office) (fun state action => bindsSucceed state action = true)
        (initial (Watch.Channel.new (binds [dnsBinding]))) restoredAtOnce := by
  refine ⟨_, rfl, ?_, rfl, ?_⟩
  · decide
  · decide

end Rtun.Connect.Dialing
