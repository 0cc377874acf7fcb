import Rtun.Connect.Edits

/-!
# Dialing, holding, losing and dialing again

The whole of `run` on the connecting side. The listeners are bound before the first
dial. When a connection forms, forwarders are spawned for them; when it is lost, these
are told to abort and the listeners stay, until the next dial. Edits are handled in the
main loop of a held connection and while a retry is waited for. Added to the UDP side of
a connection are the acceptors of the TCP listeners.
-/

namespace Rtun.Connect.Dialing

open Run

/-- The retry delay doubles from a second to half a minute. -/
def backoffStart : Nat := nanosPerSec

def backoffMax : Nat := 30 * nanosPerSec

/-- Where `run` is: about to bind, about to dial, in the main loop of a
connection, in the wait for a retry, or returned. -/
inductive Phase where
  | starting
  | dialing
  | held
  | waiting (deadline : Instant)
  | exited
deriving DecidableEq

/-- One `accept_tcp`: its socket and port map, and whether it was told to abort or
ended. -/
structure Acceptor where
  sock : Nat
  map : PortMap
  told : Bool
  ended : Bool

/-- The forwarder has returned, panicked or been aborted. -/
def hasEnded (forwarder : Forwarder) : Bool :=
  match forwarder.stage with
  | .ended => true
  | _ => false

structure State where
  inner : Connect.State
  phase : Phase
  delay : Nat
  linkUp : Bool
  acceptors : List Acceptor

/-- What happens next. A connection that forms may have a path selected
already. -/
inductive Action where
  | publish (config : Config)
  | bindInitial (bindOne : Binding → Option String)
  | dialed (selected : Option PathInfo)
  | dialFailed
  | report (info : PathInfo)
  | reconcile (bindOne : Binding → Option String)
  | respawn
  | linkDown
  | lost (refused : Bool)
  | observe (bindOne : Binding → Option String)
  | retry
  | acceptError (acceptor : Nat)
  | stopAcceptor (acceptor : Nat)
  | readError (generation : Nat)
  | task (action : Connect.Action)

/-- The binds of a step that reconciles the listeners. -/
def Action.bindOne : Action → Option (Binding → Option String)
  | .bindInitial bindOne | .reconcile bindOne | .observe bindOne => some bindOne
  | _ => none

/-- `spawn_forwarders`, its TCP part. -/
def spawnAcceptors (listeners : Listeners) : List Acceptor :=
  listeners.tcp.map (fun (sock, map) => { sock, map, told := false, ended := false })

/-- The report of the path of the peer, if one is selected. -/
def reportPath (runtime : Runtime) (peer : EndpointId) (selected : Option PathInfo) : Runtime :=
  match selected with
  | none => runtime
  | some info => runtime.peerPath peer info.path info.addr info.rttMs

namespace State

/-- Another configuration is published. -/
def published (state : State) (config : Config) : State :=
  { state with inner := { state.inner with channel := state.inner.channel.sendReplace config } }

/-- The first reconciliation, which does not mark the configuration as seen. Not
to get a single listener that was asked for is a failure. -/
def boundInitially (state : State) (bindOne : Binding → Option String) : State :=
  let done := reconcile bindOne state.inner.channel.value.activeBindings state.inner.listeners
    state.inner.runtime
  { state with
    inner := { state.inner with listeners := done.listeners, runtime := done.runtime },
    phase :=
      if state.inner.channel.value.activeBindings ≠ [] ∧ done.listeners.bound.keys = [] then .exited
      else .dialing }

/-- The connection forms: its path is reported, the peer is listed, forwarders
start. -/
def connected (state : State) (peer : EndpointId) (selected : Option PathInfo) : State :=
  { inner := { state.inner with
      runtime := (reportPath state.inner.runtime peer selected).peerConnected peer state.inner.now,
      generations := state.inner.generations ++ [spawnForwarders state.inner.listeners],
      loop := .selecting },
    phase := .held, delay := backoffStart, linkUp := true,
    acceptors := state.acceptors ++ spawnAcceptors state.inner.listeners }

/-- The forwarders are told to abort, and new ones start. -/
def respawned (state : State) : State :=
  { state with
    inner := state.inner.respawned,
    acceptors := state.acceptors.map (fun acceptor => { acceptor with told := true }) ++
      spawnAcceptors state.inner.listeners }

/-- The connection is given up. A refusal ends `run`, and the listeners go with
it. -/
def dropped (state : State) (peer : EndpointId) (refused : Bool) : State :=
  { state with
    inner := { state.inner with
      runtime := state.inner.runtime.peerDisconnected peer,
      generations :=
        state.inner.generations.map (fun generation => { generation with told := true }),
      listeners :=
        if refused then { state.inner.listeners with bound := ∅ } else state.inner.listeners },
    phase := if refused then .exited else .waiting (state.inner.now + state.delay),
    acceptors := state.acceptors.map (fun acceptor => { acceptor with told := true }) }

/-- An edit is handled in the wait for a retry: there is nothing to respawn. -/
def observed (state : State) (bindOne : Binding → Option String) : State :=
  { state with inner := { state.inner.reconciled bindOne with loop := .selecting } }

/-- An acceptor returns, or its abort takes effect. -/
def endedAcceptor (state : State) (index : Nat) (acceptor : Acceptor) : State :=
  { state with acceptors := state.acceptors.set index { acceptor with ended := true } }

/-- A `pump_udp_in` returns because the connection is closed. -/
def stoppedReading (state : State) (index : Nat) (generation : Generation) : State :=
  { state with inner := { state.inner with
      generations := state.inner.generations.set index { generation with inbound := .ended } } }

end State

/-- Only valid configurations are published. The main loop and the wait act in
their phases; the tasks go on in all of them. -/
def step (overflowChecks : Bool) (peer : EndpointId) (state : State) (action : Action) :
    Option State :=
  match action with
  | .publish config =>
      match config.validate with
      | .error _ => none
      | .ok () => some (state.published config)
  | .bindInitial bindOne =>
      if state.phase = .starting then some (state.boundInitially bindOne) else none
  | .dialed selected =>
      if state.phase = .dialing then some (state.connected peer selected) else none
  | .dialFailed =>
      if state.phase = .dialing then
        some { state with phase := .waiting (state.inner.now + state.delay) }
      else none
  | .report info =>
      some { state with
        inner := { state.inner with runtime := reportPath state.inner.runtime peer (some info) } }
  | .reconcile bindOne =>
      if state.phase = .held ∧ state.inner.loop = .selecting ∧
          state.inner.channel.hasChanged state.inner.receiver = true then
        some { state with inner := state.inner.reconciled bindOne }
      else none
  | .respawn =>
      if state.phase = .held ∧ state.inner.loop = .respawning then some state.respawned else none
  | .linkDown => if state.phase = .held then some { state with linkUp := false } else none
  | .lost refused =>
      if state.phase = .held ∧ state.inner.loop = .selecting ∧ state.linkUp = false then
        some (state.dropped peer refused)
      else none
  | .observe bindOne =>
      match state.phase with
      | .waiting _ =>
          if state.inner.channel.hasChanged state.inner.receiver = true then
            some (state.observed bindOne)
          else none
      | _ => none
  | .retry =>
      match state.phase with
      | .waiting deadline =>
          if deadline ≤ state.inner.now then
            some { state with phase := .dialing, delay := min (state.delay * 2) backoffMax }
          else none
      | _ => none
  | .acceptError index =>
      match state.acceptors[index]? with
      | none => none
      | some acceptor =>
          if acceptor.ended then none else some (state.endedAcceptor index acceptor)
  | .stopAcceptor index =>
      match state.acceptors[index]? with
      | none => none
      | some acceptor =>
          if acceptor.told then some (state.endedAcceptor index acceptor) else none
  | .readError index =>
      match state.inner.generations[index]? with
      | none => none
      | some generation =>
          match generation.inbound with
          | .reading =>
              if generation.told = true ∨ state.linkUp = false then
                some (state.stoppedReading index generation)
              else none
          | _ => none
  | .task action =>
      if ofTasks action then
        (Connect.step overflowChecks state.inner action).map (fun inner => { state with inner })
      else none

/-- Before anything is bound. The receiver has subscribed. -/
def initial (channel : Watch.Channel Config) : State :=
  { inner :=
      { channel, receiver := channel.subscribe, loop := .selecting, listeners := Listeners.empty,
        runtime := Runtime.empty, generations := [], now := 0, outbox := [], handed := [] },
    phase := .starting, delay := backoffStart, linkUp := false, acceptors := [] }

/-- The steps, by where `run` is and what they leave. -/
inductive Moves (checks : Bool) (peer : EndpointId) (state : State) : Action → State → Prop where
  | published (config : Config) (valid : config.validate = .ok ()) :
      Moves checks peer state (.publish config) (state.published config)
  | bound (bindOne : Binding → Option String) (starting : state.phase = .starting) :
      Moves checks peer state (.bindInitial bindOne) (state.boundInitially bindOne)
  | connected (selected : Option PathInfo) (dialing : state.phase = .dialing) :
      Moves checks peer state (.dialed selected) (state.connected peer selected)
  | failed (dialing : state.phase = .dialing) :
      Moves checks peer state .dialFailed
        { state with phase := .waiting (state.inner.now + state.delay) }
  | reported (info : PathInfo) :
      Moves checks peer state (.report info) { state with
        inner := { state.inner with runtime := reportPath state.inner.runtime peer (some info) } }
  | reconciled (bindOne : Binding → Option String) (held : state.phase = .held)
      (selecting : state.inner.loop = .selecting)
      (unseen : state.inner.channel.hasChanged state.inner.receiver = true) :
      Moves checks peer state (.reconcile bindOne)
        { state with inner := state.inner.reconciled bindOne }
  | respawned (held : state.phase = .held) (respawning : state.inner.loop = .respawning) :
      Moves checks peer state .respawn state.respawned
  | linkLost (held : state.phase = .held) :
      Moves checks peer state .linkDown { state with linkUp := false }
  | dropped (refused : Bool) (held : state.phase = .held) (selecting : state.inner.loop = .selecting)
      (down : state.linkUp = false) : Moves checks peer state (.lost refused) (state.dropped peer refused)
  | observed (bindOne : Binding → Option String) (deadline : Instant)
      (waiting : state.phase = .waiting deadline)
      (unseen : state.inner.channel.hasChanged state.inner.receiver = true) :
      Moves checks peer state (.observe bindOne) (state.observed bindOne)
  | retried (deadline : Instant) (waiting : state.phase = .waiting deadline)
      (due : deadline ≤ state.inner.now) :
      Moves checks peer state .retry
        { state with phase := .dialing, delay := min (state.delay * 2) backoffMax }
  | acceptFailed (index : Nat) (acceptor : Acceptor) (present : state.acceptors[index]? = some acceptor)
      (running : acceptor.ended = false) :
      Moves checks peer state (.acceptError index) (state.endedAcceptor index acceptor)
  | acceptorStopped (index : Nat) (acceptor : Acceptor)
      (present : state.acceptors[index]? = some acceptor) (told : acceptor.told = true) :
      Moves checks peer state (.stopAcceptor index) (state.endedAcceptor index acceptor)
  | readFailed (index : Nat) (generation : Generation)
      (present : state.inner.generations[index]? = some generation) :
      Moves checks peer state (.readError index) (state.stoppedReading index generation)
  | tasked (action : Connect.Action) (inner : Connect.State) (isTask : ofTasks action = true)
      (taken : Connect.step checks state.inner action = some inner) :
      Moves checks peer state (.task action) { state with inner }

/-- Every step is one of these. The supervisor, its tasks and the acceptors are
told apart here, and not again in the proofs on `Moves`. -/
theorem step_moves {checks : Bool} {peer : EndpointId} {state next : State} {action : Action}
    (taken : step checks peer state action = some next) : Moves checks peer state action next := by
  cases action with
  | publish config =>
    cases valid : config.validate with
    | error refusal => simp [step, valid] at taken
    | ok =>
      simp only [step, valid, Option.some.injEq] at taken
      exact taken ▸ .published config valid
  | bindInitial bindOne =>
    simp only [step, Option.ite_none_right_eq_some, Option.some.injEq] at taken
    exact taken.2 ▸ .bound bindOne taken.1
  | dialed selected =>
    simp only [step, Option.ite_none_right_eq_some, Option.some.injEq] at taken
    exact taken.2 ▸ .connected selected taken.1
  | dialFailed =>
    simp only [step, Option.ite_none_right_eq_some, Option.some.injEq] at taken
    exact taken.2 ▸ .failed taken.1
  | report info =>
    cases taken
    exact .reported info
  | reconcile bindOne =>
    simp only [step, Option.ite_none_right_eq_some, Option.some.injEq] at taken
    obtain ⟨⟨held, selecting, unseen⟩, rfl⟩ := taken
    exact .reconciled bindOne held selecting unseen
  | respawn =>
    simp only [step, Option.ite_none_right_eq_some, Option.some.injEq] at taken
    exact taken.2 ▸ .respawned taken.1.1 taken.1.2
  | linkDown =>
    simp only [step, Option.ite_none_right_eq_some, Option.some.injEq] at taken
    exact taken.2 ▸ .linkLost taken.1
  | lost refused =>
    simp only [step, Option.ite_none_right_eq_some, Option.some.injEq] at taken
    obtain ⟨⟨held, selecting, down⟩, rfl⟩ := taken
    exact .dropped refused held selecting down
  | observe bindOne =>
    cases phase : state.phase <;>
      simp only [step, phase, reduceCtorEq, Option.ite_none_right_eq_some, Option.some.injEq] at taken
    exact taken.2 ▸ .observed bindOne _ phase taken.1
  | retry =>
    cases phase : state.phase <;>
      simp only [step, phase, reduceCtorEq, Option.ite_none_right_eq_some, Option.some.injEq] at taken
    exact taken.2 ▸ .retried _ phase taken.1
  | acceptError index =>
    cases present : state.acceptors[index]? with
    | none => simp [step, present] at taken
    | some acceptor =>
      cases ended : acceptor.ended with
      | true => simp [step, present, ended] at taken
      | false =>
        simp only [step, present, ended, Bool.false_eq_true, if_false, Option.some.injEq] at taken
        exact taken ▸ .acceptFailed index acceptor present ended
  | stopAcceptor index =>
    cases present : state.acceptors[index]? with
    | none => simp [step, present] at taken
    | some acceptor =>
      simp only [step, present, Option.ite_none_right_eq_some, Option.some.injEq] at taken
      exact taken.2 ▸ .acceptorStopped index acceptor present taken.1
  | readError index =>
    cases present : state.inner.generations[index]? with
    | none => simp [step, present] at taken
    | some generation =>
      cases inbound : generation.inbound <;>
        simp only [step, present, inbound, reduceCtorEq, Option.ite_none_right_eq_some,
          Option.some.injEq] at taken
      exact taken.2 ▸ .readFailed index generation present
  | task action =>
    simp only [step, Option.ite_none_right_eq_some, Option.map_eq_some_iff] at taken
    obtain ⟨isTask, inner, moved, rfl⟩ := taken
    exact .tasked action inner isTask moved

/-- What the UDP forwarders read that have not been told to abort, generation by
generation. -/
def currentForwarders (generations : List Generation) : List (List (Nat × PortMap)) :=
  (generations.filter (fun generation => !generation.told)).map
    (fun generation => generation.forwarders.map Forwarder.place)

/-- The socket and the port map of an acceptor. -/
def Acceptor.place (acceptor : Acceptor) : Nat × PortMap := (acceptor.sock, acceptor.map)

/-- What the acceptors read that have not been told to abort. -/
def currentAcceptors (acceptors : List Acceptor) : List (Nat × PortMap) :=
  (acceptors.filter (fun acceptor => !acceptor.told)).map Acceptor.place

/-- Generations that were told to abort have no current forwarders, even if some
of their tasks have not noticed yet. -/
theorem currentForwarders_told (generations : List Generation) :
    currentForwarders (generations.map (fun generation => { generation with told := true })) = [] := by
  simp [currentForwarders]

/-- Nor have they current acceptors of TCP connections. -/
theorem currentAcceptors_told (acceptors : List Acceptor) :
    currentAcceptors (acceptors.map (fun acceptor => { acceptor with told := true })) = [] := by
  simp [currentAcceptors]

/-- New forwarders read the UDP listeners: one for each socket, with the remote
port that its binding has now. -/
theorem currentForwarders_spawn (generations : List Generation) (listeners : Listeners) :
    currentForwarders (generations ++ [spawnForwarders listeners]) =
      currentForwarders generations ++ [listeners.udp] := by
  have places : (spawnForwarders listeners).forwarders.map Forwarder.place = listeners.udp := by
    rw [spawnForwarders, List.map_map]
    exact List.map_id _
  have untold : (spawnForwarders listeners).told = false := rfl
  simp [currentForwarders, places, untold]

/-- New acceptors read the TCP listeners: one for each of them, as for the
forwarders. -/
theorem currentAcceptors_spawn (acceptors : List Acceptor) (listeners : Listeners) :
    currentAcceptors (acceptors ++ spawnAcceptors listeners) =
      currentAcceptors acceptors ++ listeners.tcp := by
  have untold : (spawnAcceptors listeners).filter (fun acceptor => !acceptor.told) =
      spawnAcceptors listeners := by
    apply List.filter_eq_self.mpr
    intro acceptor member
    obtain ⟨_, _, rfl⟩ := List.mem_map.mp member
    rfl
  have places : (spawnAcceptors listeners).map Acceptor.place = listeners.tcp := by
    rw [spawnAcceptors, List.map_map]
    exact List.map_id _
  rw [currentAcceptors, List.filter_append, List.map_append, untold, places]
  rfl

/-- A generation that goes on reads what it read: its forwarders move from stage
to stage and keep their sockets. -/
theorem currentForwarders_set (generations : List Generation) (index : Nat)
    (before after : Generation) (present : generations[index]? = some before)
    (continues : Continues before after) :
    currentForwarders (generations.set index after) = currentForwarders generations :=
  Slots.filter_map_set generations index before after present _ _ (by rw [continues.told])
    continues.places

/-- An acceptor that has ended still counts as one that was spawned for its
listener. -/
theorem currentAcceptors_set (acceptors : List Acceptor) (index : Nat) (acceptor : Acceptor)
    (present : acceptors[index]? = some acceptor) (ended : Bool) :
    currentAcceptors (acceptors.set index { acceptor with ended }) = currentAcceptors acceptors :=
  Slots.filter_map_set acceptors index acceptor _ present _ _ rfl rfl

/-- The listeners suit the configuration: it is valid, they and their reports are
in order, and if nothing has been published since, every bound key is configured
and forwarded to the configured port. -/
structure Configured (inner : Connect.State) : Prop where
  valid : inner.channel.value.validate = .ok ()
  seen : inner.receiver.seen ≤ inner.channel.version
  inOrder : InOrder inner.listeners inner.runtime
  wanted : inner.channel.hasChanged inner.receiver = false →
    ∀ key listener, inner.listeners.bound.lookup key = some listener →
      ∃ binding ∈ inner.channel.value.activeBindings,
        binding.key = key ∧ listener.remote = binding.remotePort

/-- The current forwarders suit the listeners: while the main loop waits with
a connection held, they read what is bound, and without a connection there are
none. -/
structure Staffed (state : State) : Prop where
  serving : state.phase = .held → state.inner.loop = .selecting →
    currentForwarders state.inner.generations = [state.inner.listeners.udp] ∧
      currentAcceptors state.acceptors = state.inner.listeners.tcp
  idle : state.phase ≠ .held → state.inner.loop = .selecting ∧
    currentForwarders state.inner.generations = [] ∧ currentAcceptors state.acceptors = []

/-- What every run keeps. -/
structure Sound (state : State) : Prop where
  configured : Configured state.inner
  staffed : Staffed state

/-- Nothing else matters to it than the configuration, the listeners and their
reports. -/
theorem Configured.frame {inner other : Connect.State} (configured : Configured inner)
    (channel : other.channel = inner.channel) (receiver : other.receiver = inner.receiver)
    (listeners : other.listeners = inner.listeners)
    (binds : other.runtime.binds = inner.runtime.binds) : Configured other := by
  constructor
  · rw [channel]
    exact configured.valid
  · rw [channel, receiver]
    exact configured.seen
  · rw [listeners]
    exact configured.inOrder.binds binds
  · rw [channel, receiver, listeners]
    exact configured.wanted

/-- A reconciliation with the current configuration makes the listeners suit
it. -/
theorem Configured.reconciling {inner other : Connect.State} (configured : Configured inner)
    (bindOne : Binding → Option String) (channel : other.channel = inner.channel)
    (seen : other.receiver.seen ≤ inner.channel.version)
    (listeners : other.listeners = (reconcile bindOne inner.channel.value.activeBindings
      inner.listeners inner.runtime).listeners)
    (runtime : other.runtime = (reconcile bindOne inner.channel.value.activeBindings
      inner.listeners inner.runtime).runtime) : Configured other := by
  have settled := reconcile_settled bindOne inner.channel.value.activeBindings
    (distinct_active _ configured.valid) inner.listeners inner.runtime
  constructor
  · rw [channel]
    exact configured.valid
  · rw [channel]
    exact seen
  · rw [listeners, runtime]
    exact reconcile_inOrder _ _ _ _ configured.inOrder
  · intro _ key listener
    rw [channel, listeners]
    exact settled.wanted key listener

/-- The tasks leave everything alone that the configuration and the listeners are
about. -/
theorem tasks_alone {checks : Bool} {state next : Connect.State} {action : Connect.Action}
    (isTask : ofTasks action = true) (taken : Connect.step checks state action = some next) :
    next.channel = state.channel ∧ next.receiver = state.receiver ∧ next.loop = state.loop ∧
      next.listeners = state.listeners ∧ next.runtime = state.runtime :=
  tasks_frame [action] (by simpa using isTask) state next
    ((run_cons_some _ _ _ _ _).mpr ⟨next, taken, rfl⟩)

/-- The tasks that were not told go on reading what they read. Only the supervisor
replaces them. -/
theorem tasks_current {checks : Bool} {state next : Connect.State} {action : Connect.Action}
    (isTask : ofTasks action = true) (taken : Connect.step checks state action = some next) :
    currentForwarders next.generations = currentForwarders state.generations := by
  have steps : Steps state action next := step_steps taken
  cases steps with
  | published | reconciled | respawned => cases isTask
  | elapsed => rfl
  | task _ _ index before after _ taskStep =>
    rw [taskStep.generations]
    exact currentForwarders_set _ index before after taskStep.present taskStep.continues

/-- A report of a path says nothing about listeners. -/
theorem reportPath_binds (runtime : Runtime) (peer : EndpointId) (selected : Option PathInfo) :
    (reportPath runtime peer selected).binds = runtime.binds := by
  unfold reportPath
  split
  · rfl
  · unfold Runtime.peerPath
    split <;> rfl

/-- Nor does a connection that is formed. So what the state view says of a binding
comes from `reconcile` alone. -/
theorem connected_binds (state : State) (peer : EndpointId) (selected : Option PathInfo) :
    (state.connected peer selected).inner.runtime.binds = state.inner.runtime.binds := by
  simp only [State.connected, Runtime.peerConnected]
  split
  · exact reportPath_binds _ peer selected
  · exact reportPath_binds _ peer selected

/-- The step lemma for the listeners. A publication may overtake them, and then
nothing is promised until the next reconciliation has looked at it. -/
theorem configured_step {checks : Bool} {peer : EndpointId} {state next : State} {action : Action}
    (configured : Configured state.inner) (moves : Moves checks peer state action next) :
    Configured next.inner := by
  cases moves with
  | published config valid =>
    have newer : state.inner.receiver.seen < state.inner.channel.version + 1 :=
      Nat.lt_succ_of_le configured.seen
    refine ⟨valid, Nat.le_of_lt newer, configured.inOrder, ?_⟩
    intro level
    exact absurd newer (of_decide_eq_false level)
  | bound bindOne => exact configured.reconciling bindOne rfl configured.seen rfl rfl
  | connected selected =>
    exact configured.frame rfl rfl rfl (connected_binds state peer selected)
  | failed | linkLost | retried | acceptFailed | acceptorStopped => exact configured
  | respawned | readFailed => exact configured.frame rfl rfl rfl rfl
  | reported info => exact configured.frame rfl rfl rfl (reportPath_binds _ peer _)
  | reconciled bindOne => exact configured.reconciling bindOne rfl (Nat.le_refl _) rfl rfl
  | observed bindOne => exact configured.reconciling bindOne rfl (Nat.le_refl _) rfl rfl
  | dropped refused =>
    cases refused with
    | false => exact configured.frame rfl rfl rfl rfl
    | true =>
      refine ⟨configured.valid, configured.seen, inOrder_nothing _ _, ?_⟩
      intro _ key listener found
      cases found
  | tasked action inner isTask taken =>
    obtain ⟨channel, receiver, _, listeners, runtime⟩ := tasks_alone isTask taken
    exact configured.frame channel receiver listeners (congrArg Runtime.binds runtime)

/-- A step that touches neither the main loop nor the listeners, and no current
task. -/
theorem Staffed.frame {state next : State} (staffed : Staffed state)
    (phase : next.phase = state.phase) (loop : next.inner.loop = state.inner.loop)
    (listeners : next.inner.listeners = state.inner.listeners)
    (forwarders : currentForwarders next.inner.generations = currentForwarders state.inner.generations)
    (acceptors : currentAcceptors next.acceptors = currentAcceptors state.acceptors) :
    Staffed next := by
  constructor
  · rw [phase, loop, listeners, forwarders, acceptors]
    exact staffed.serving
  · rw [phase, loop, forwarders, acceptors]
    exact staffed.idle

/-- Without a connection: there is no current task, so no listener is read while
nobody could be reached through it. -/
theorem staffed_idle {state : State} (idle : state.phase ≠ .held)
    (nobody : state.inner.loop = .selecting ∧ currentForwarders state.inner.generations = [] ∧
      currentAcceptors state.acceptors = []) : Staffed state :=
  ⟨fun held => absurd held idle, fun _ => nobody⟩

/-- With a connection: the current tasks read what is bound, each listener once
and none besides. -/
theorem staffed_held {state : State} (held : state.phase = .held)
    (serving : state.inner.loop = .selecting →
      currentForwarders state.inner.generations = [state.inner.listeners.udp] ∧
        currentAcceptors state.acceptors = state.inner.listeners.tcp) : Staffed state :=
  ⟨fun _ => serving, fun idle => absurd held idle⟩

/-- The step lemma for the tasks: whoever changes the listeners goes on to spawn
them anew, and whoever leaves the connection has told them all to abort. -/
theorem staffed_step {checks : Bool} {peer : EndpointId} {state next : State} {action : Action}
    (staffed : Staffed state) (moves : Moves checks peer state action next) : Staffed next := by
  cases moves with
  | published | reported | linkLost => exact staffed.frame rfl rfl rfl rfl rfl
  | bound bindOne starting =>
    refine staffed_idle ?_ (staffed.idle (by simp [starting]))
    simp only [State.boundInitially]
    split <;> simp
  | connected selected dialing =>
    obtain ⟨_, noForwarders, noAcceptors⟩ := staffed.idle (by simp [dialing])
    refine staffed_held rfl (fun _ => ⟨?_, ?_⟩)
    · rw [State.connected, currentForwarders_spawn, noForwarders]
      rfl
    · rw [State.connected, currentAcceptors_spawn, noAcceptors]
      rfl
  | failed dialing => exact staffed_idle (by simp) (staffed.idle (by simp [dialing]))
  | reconciled bindOne held selecting =>
    refine staffed_held held (fun still => ?_)
    have unchanged : (reconcile bindOne state.inner.channel.value.activeBindings
        state.inner.listeners state.inner.runtime).changed = false := by
      by_contra changed
      rw [Bool.not_eq_false] at changed
      simp [State.reconciled, changed] at still
    have same : (state.inner.reconciled bindOne).listeners = state.inner.listeners :=
      reconcile_unchanged _ _ _ _ unchanged
    rw [same]
    exact staffed.serving held selecting
  | respawned held =>
    refine staffed_held held (fun _ => ⟨?_, ?_⟩)
    · exact (currentForwarders_spawn _ _).trans (by rw [currentForwarders_told]; rfl)
    · exact (currentAcceptors_spawn _ _).trans (by rw [currentAcceptors_told]; rfl)
  | dropped refused _ selecting =>
    refine staffed_idle ?_ ⟨selecting, currentForwarders_told _, currentAcceptors_told _⟩
    simp only [State.dropped]
    split <;> simp
  | observed bindOne deadline waiting =>
    obtain ⟨_, nobody⟩ := staffed.idle (by simp [waiting])
    exact staffed_idle (by simp [State.observed, waiting]) ⟨rfl, nobody⟩
  | retried deadline waiting => exact staffed_idle (by simp) (staffed.idle (by simp [waiting]))
  | acceptFailed index acceptor present | acceptorStopped index acceptor present =>
    exact staffed.frame rfl rfl rfl rfl (currentAcceptors_set state.acceptors index acceptor present true)
  | readFailed index generation present =>
    exact staffed.frame rfl rfl rfl (currentForwarders_set _ index generation
      { generation with inbound := .ended } present ⟨rfl, rfl⟩) rfl
  | tasked action inner isTask taken =>
    obtain ⟨_, _, loop, listeners, _⟩ := tasks_alone isTask taken
    exact staffed.frame rfl loop listeners (tasks_current isTask taken) rfl

/-- Before the first reconciliation nothing is bound and no task runs. The
configuration is valid, so its bindings have distinct keys. -/
theorem sound_initial (channel : Watch.Channel Config) (valid : channel.value.validate = .ok ()) :
    Sound (initial channel) := by
  refine ⟨⟨valid, Nat.le_refl _, inOrder_nothing 0 _, ?_⟩, ?_, fun _ => ⟨rfl, rfl, rfl⟩⟩
  · intro _ key listener found
    cases found
  · intro held
    cases held

/-- The step lemma: the supervisor reconciles, spawns and aborts in such an order
that the current tasks match what is bound. -/
theorem sound_step {checks : Bool} {peer : EndpointId} {state next : State} {action : Action}
    (sound : Sound state) (taken : step checks peer state action = some next) : Sound next :=
  ⟨configured_step sound.configured (step_moves taken), staffed_step sound.staffed (step_moves taken)⟩

/-- The run lemma: it holds in every state of `connect::run`, through drops,
refusals and edits at any point. -/
theorem sound_run {checks : Bool} {peer : EndpointId} {channel : Watch.Channel Config} {state : State}
    {actions : List Action} (valid : channel.value.validate = .ok ())
    (reached : run (step checks peer) (initial channel) actions = some state) : Sound state :=
  invariant_of_run (step checks peer) Sound (fun _ _ _ sound taken => sound_step sound taken)
    (initial channel) state actions (sound_initial channel valid) reached

/-- The one current generation while the main loop waits with a connection
held. -/
theorem current_generation {state : State} (sound : Sound state) (held : state.phase = .held)
    (selecting : state.inner.loop = .selecting) :
    ∃ generation, state.inner.generations.filter (fun generation => !generation.told) = [generation] ∧
      generation.forwarders.map Forwarder.place = state.inner.listeners.bearing .udp := by
  have serving := (sound.staffed.serving held selecting).1
  rw [currentForwarders, List.map_eq_singleton_iff, Listeners.udp_eq] at serving
  exact serving

/-- Where nothing is current, everyone has been told: a task of an earlier
connection is on its way out. -/
theorem told_of_idle {state : State} (sound : Sound state) (idle : state.phase ≠ .held) :
    (∀ generation ∈ state.inner.generations, generation.told = true) ∧
      ∀ acceptor ∈ state.acceptors, acceptor.told = true := by
  obtain ⟨_, noForwarders, noAcceptors⟩ := sound.staffed.idle idle
  rw [currentForwarders, List.map_eq_nil_iff, List.filter_eq_nil_iff] at noForwarders
  rw [currentAcceptors, List.map_eq_nil_iff, List.filter_eq_nil_iff] at noAcceptors
  exact ⟨by simpa using noForwarders, by simpa using noAcceptors⟩

/-- A peer to dial. -/
def office : EndpointId := { key := 7 }

end Rtun.Connect.Dialing
