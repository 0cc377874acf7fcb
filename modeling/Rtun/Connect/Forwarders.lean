import Rtun.Connect.Listeners
import Rtun.Connect.Sessions
import Rtun.Framing
import Rtun.Grants
import Rtun.Slots
import Rtun.Watch

/-!
# The UDP side of a held connection

The main loop of the connecting side while a connection is held, and the UDP
forwarders that it spawns: one task per listener that sends datagrams out, one that
takes replies in, and a reaper, all of which share a session table. When the listeners
change, the forwarders are told to abort and a new generation is spawned, with a
session table of its own. An abort takes effect only when a task next waits, so the
generations overlap.

Every datagram that is sent carries its origin, which the code never sees: where it
was received, and what the binding of its listener was at that moment.
-/

namespace Rtun.Connect

open Framing

/-- Where a forwarded datagram came from: the generation and the source, the
remote port that the forwarder was spawned with, and the one that the binding of
its listener had when the datagram was received, if there was one. -/
structure Origin where
  generation : Nat
  src : SocketAddr
  mapped : UInt16
  bound : Option UInt16
deriving DecidableEq

/-- Where an outgoing forwarder is. -/
inductive Forwarding where
  | receiving
  | received (origin : Origin) (payload : Bytes)
  | ended

/-- One `pump_udp_out`: its socket, its port map, and where it is. -/
structure Forwarder where
  sock : Nat
  map : PortMap
  stage : Forwarding

/-- Where `pump_udp_in` is. A datagram that it holds comes with the handle of the
session socket that the reply was received on. -/
inductive Inbound where
  | absent
  | reading
  | got (bytes : Bytes) (via : Nat)
  | routed (sock : Nat) (src : SocketAddr) (payload : Bytes) (via : Nat)
  | ended

/-- What one `spawn_forwarders` starts. A panic under the lock poisons the
table. -/
structure Generation where
  sessions : Sessions
  log : List Key
  poisoned : Bool
  forwarders : List Forwarder
  inbound : Inbound
  reaping : Bool
  told : Bool

/-- A reply handed to a local source: the listener socket, the source, the
payload, and the session socket that the reply was received on. -/
structure Handed where
  sock : Nat
  src : SocketAddr
  payload : Bytes
  via : Nat

/-- Where the main loop is: waiting in its `select!`, or about to respawn. -/
inductive Loop where
  | selecting
  | respawning
deriving DecidableEq

structure State where
  channel : Watch.Channel Config
  receiver : Watch.Receiver
  loop : Loop
  listeners : Listeners
  runtime : Runtime
  generations : List Generation
  now : Instant
  outbox : List (Bytes × Origin)
  handed : List Handed

/-- What happens next: an event from outside, or the next step of a task. -/
inductive Action where
  | publish (config : Config)
  | elapse (nanos : Nat)
  | reconcile (bindOne : Binding → Option String)
  | respawn
  | receive (generation forwarder : Nat) (src : SocketAddr) (payload : Bytes)
  | recvError (generation forwarder : Nat)
  | forward (generation forwarder : Nat) (accepted : Bool)
  | stopForwarder (generation forwarder : Nat)
  | read (generation : Nat) (bytes : Bytes) (via : Nat)
  | route (generation : Nat)
  | handOver (generation : Nat) (delivered : Bool)
  | stopInbound (generation : Nat)
  | reap (generation : Nat)
  | stopReaper (generation : Nat)

/-- `spawn_forwarders`, its UDP part: nothing is spawned when no UDP listener is
bound. -/
def spawnForwarders (listeners : Listeners) : Generation :=
  { sessions := Sessions.empty, log := [], poisoned := false,
    forwarders := listeners.udp.map (fun (sock, map) => { sock, map, stage := .receiving }),
    inbound := if listeners.udp.isEmpty then .absent else .reading,
    reaping := !listeners.udp.isEmpty, told := false }

/-- A step of an outgoing forwarder. -/
def forwarderStep (overflowChecks : Bool) (state : State) (index : Nat) (generation : Generation)
    (handle : Nat) (forwarder : Forwarder) (action : Action) : Option State :=
  let put (generation : Generation) (stage : Forwarding) : State :=
    { state with generations := state.generations.set index { generation with
        forwarders := generation.forwarders.set handle { forwarder with stage } } }
  match action, forwarder.stage with
  | .receive _ _ src payload, .receiving =>
      let origin : Origin :=
        { generation := index, src, mapped := forwarder.map.remotePort,
          bound := state.listeners.remoteOf forwarder.sock forwarder.map.localPort }
      some (put generation (.received origin payload))
  | .recvError _ _, .receiving => some (put generation .ended)
  | .stopForwarder _ _, .receiving => if generation.told then some (put generation .ended) else none
  | .forward _ _ accepted, .received origin payload =>
      if generation.poisoned then some (put generation .ended)
      else
        match generation.sessions.idFor overflowChecks origin.src forwarder.map.remotePort
            forwarder.sock state.now with
        | none => some (put { generation with poisoned := true } .ended)
        | some (id, sessions) =>
            let log := logAfter generation.sessions generation.log
              (origin.src, forwarder.map.remotePort)
            let sent := if accepted then
                [(encodeDatagram id forwarder.map.remotePort payload, origin)]
              else []
            some { put { generation with sessions, log } .receiving with
              outbox := state.outbox ++ sent }
  | _, _ => none

/-- A step of `pump_udp_in`, or of the reaper, of one generation. -/
def generationStep (state : State) (index : Nat) (generation : Generation) (action : Action) :
    Option State :=
  let put (generation : Generation) : State :=
    { state with generations := state.generations.set index generation }
  match action, generation.inbound with
  | .read _ bytes via, .reading => some (put { generation with inbound := .got bytes via })
  | .stopInbound _, .reading | .stopInbound _, .routed .. =>
      if generation.told then some (put { generation with inbound := .ended }) else none
  | .route _, .got bytes via =>
      match decodeDatagram bytes with
      | none => some (put { generation with inbound := .reading })
      | some (id, _, payload) =>
          if generation.poisoned then some (put { generation with inbound := .ended })
          else
            match generation.sessions.replyRoute id state.now with
            | none => some (put { generation with inbound := .reading })
            | some ((sock, src), sessions) =>
                some (put { generation with sessions, inbound := .routed sock src payload via })
  | .handOver _ delivered, .routed sock src payload via =>
      let given : List Handed := if delivered then [{ sock, src, payload, via }] else []
      some { put { generation with inbound := .reading } with handed := state.handed ++ given }
  | .reap _, _ =>
      if !generation.reaping then none
      else if generation.poisoned then some (put { generation with reaping := false })
      else some (put { generation with sessions := generation.sessions.reap state.now })
  | .stopReaper _, _ =>
      if generation.told then some (put { generation with reaping := false }) else none
  | _, _ => none

def step (overflowChecks : Bool) (state : State) (action : Action) : Option State :=
  match action with
  | .publish config => some { state with channel := state.channel.sendReplace config }
  | .elapse nanos => some { state with now := state.now + nanos }
  | .reconcile bindOne =>
      if state.loop = .selecting ∧ state.channel.hasChanged state.receiver = true then
        let looked := state.channel.borrowAndUpdate state.receiver
        let done := reconcile bindOne looked.1.activeBindings state.listeners state.runtime
        some { state with
          receiver := looked.2, listeners := done.listeners, runtime := done.runtime,
          loop := if done.changed then .respawning else .selecting }
      else none
  | .respawn =>
      if state.loop = .respawning then
        let told := state.generations.map (fun generation => { generation with told := true })
        some { state with
          generations := told ++ [spawnForwarders state.listeners], loop := .selecting }
      else none
  | .receive index handle _ _ | .recvError index handle | .forward index handle _
  | .stopForwarder index handle =>
      match state.generations[index]? with
      | none => none
      | some generation =>
          match generation.forwarders[handle]? with
          | none => none
          | some forwarder =>
              forwarderStep overflowChecks state index generation handle forwarder action
  | .read index _ _ | .route index | .handOver index _ | .stopInbound index | .reap index
  | .stopReaper index =>
      match state.generations[index]? with
      | none => none
      | some generation => generationStep state index generation action

/-- The forwarder that takes the step. -/
def Action.forwarder : Action → Option (Nat × Nat)
  | .receive index handle _ _ | .recvError index handle | .forward index handle _
  | .stopForwarder index handle => some (index, handle)
  | _ => none

/-- The generation whose `pump_udp_in` or reaper takes the step. -/
def Action.generation : Action → Option Nat
  | .read index _ _ | .route index | .handOver index _ | .stopInbound index | .reap index
  | .stopReaper index => some index
  | _ => none

/-- A step of a forwarder is taken by one that is there. -/
theorem forwarder_taken {checks : Bool} {state next : State} {action : Action} {index handle : Nat}
    (own : action.forwarder = some (index, handle)) (taken : step checks state action = some next) :
    ∃ generation forwarder, state.generations[index]? = some generation ∧
      generation.forwarders[handle]? = some forwarder ∧
      forwarderStep checks state index generation handle forwarder action = some next := by
  have found : (match state.generations[index]? with
      | none => none
      | some generation =>
          match generation.forwarders[handle]? with
          | none => none
          | some forwarder =>
              forwarderStep checks state index generation handle forwarder action) = some next := by
    cases action <;> cases own <;> exact taken
  split at found
  · cases found
  · rename_i generation present
    split at found
    · cases found
    · rename_i forwarder listed
      exact ⟨generation, forwarder, present, listed, found⟩

/-- A step of a generation is taken by one that is there. -/
theorem generation_taken {checks : Bool} {state next : State} {action : Action} {index : Nat}
    (own : action.generation = some index) (taken : step checks state action = some next) :
    ∃ generation, state.generations[index]? = some generation ∧
      generationStep state index generation action = some next := by
  have found : (match state.generations[index]? with
      | none => none
      | some generation => generationStep state index generation action) = some next := by
    cases action <;> cases own <;> exact taken
  split at found
  · cases found
  · rename_i generation present
    exact ⟨generation, present, found⟩

/-- A connection that has just been established, with the listeners bound so
far. -/
def initial (channel : Watch.Channel Config) (receiver : Watch.Receiver) (listeners : Listeners)
    (runtime : Runtime) (now : Instant) : State :=
  { channel, receiver, loop := .selecting, listeners, runtime,
    generations := [spawnForwarders listeners], now, outbox := [], handed := [] }

/-- A change of one generation that sends nothing, receives nothing and opens
nothing: forwarders may end, the table may lose sessions, and `pump_udp_in` may go
back to its read or end. -/
structure Calms (now : Instant) (before after : Generation) : Prop where
  log : after.log = before.log
  sessions : after.sessions = before.sessions ∨ after.sessions = before.sessions.reap now
  forwarders : ∀ (handle : Nat) (forwarder : Forwarder), after.forwarders[handle]? = some forwarder →
    before.forwarders[handle]? = some forwarder ∨ forwarder.stage = .ended
  inbound : after.inbound = before.inbound ∨ after.inbound = .reading ∨ after.inbound = .ended

/-- What a step can do to the generations, to the datagrams in flight and to the
replies handed over. -/
inductive Effect (overflowChecks : Bool) (state : State) : Action → State → Prop where
  | quiet (action : Action) (next : State) (generations : next.generations = state.generations)
      (outbox : next.outbox = state.outbox) (handed : next.handed = state.handed) :
      Effect overflowChecks state action next
  | respawned (next : State) (outbox : next.outbox = state.outbox)
      (handed : next.handed = state.handed)
      (generations : next.generations =
        state.generations.map (fun generation => { generation with told := true }) ++
          [spawnForwarders state.listeners]) : Effect overflowChecks state .respawn next
  | calmed (action : Action) (next : State) (index : Nat) (before after : Generation)
      (present : state.generations[index]? = some before) (calms : Calms state.now before after)
      (generations : next.generations = state.generations.set index after)
      (outbox : next.outbox = state.outbox) (handed : next.handed = state.handed) :
      Effect overflowChecks state action next
  | received (index handle : Nat) (generation : Generation) (forwarder : Forwarder)
      (src : SocketAddr) (payload : Bytes) (next : State)
      (present : state.generations[index]? = some generation)
      (listed : generation.forwarders[handle]? = some forwarder)
      (generations : next.generations = state.generations.set index { generation with
        forwarders := generation.forwarders.set handle { forwarder with
          stage := .received
            { generation := index, src, mapped := forwarder.map.remotePort,
              bound := state.listeners.remoteOf forwarder.sock forwarder.map.localPort } payload } })
      (outbox : next.outbox = state.outbox) (handed : next.handed = state.handed) :
      Effect overflowChecks state (.receive index handle src payload) next
  | forwarded (index handle : Nat) (accepted : Bool) (generation : Generation)
      (forwarder : Forwarder) (origin : Origin) (payload : Bytes) (id : UInt32)
      (sessions : Sessions) (next : State)
      (present : state.generations[index]? = some generation)
      (listed : generation.forwarders[handle]? = some forwarder)
      (held : forwarder.stage = .received origin payload)
      (minted : generation.sessions.idFor overflowChecks origin.src forwarder.map.remotePort
        forwarder.sock state.now = some (id, sessions))
      (generations : next.generations = state.generations.set index { generation with
        sessions,
        log := logAfter generation.sessions generation.log (origin.src, forwarder.map.remotePort),
        forwarders := generation.forwarders.set handle { forwarder with stage := .receiving } })
      (outbox : next.outbox = state.outbox ++ (if accepted then
        [(encodeDatagram id forwarder.map.remotePort payload, origin)] else []))
      (handed : next.handed = state.handed) :
      Effect overflowChecks state (.forward index handle accepted) next
  | got (index : Nat) (generation : Generation) (bytes : Bytes) (via : Nat) (next : State)
      (present : state.generations[index]? = some generation)
      (generations : next.generations =
        state.generations.set index { generation with inbound := .got bytes via })
      (outbox : next.outbox = state.outbox) (handed : next.handed = state.handed) :
      Effect overflowChecks state (.read index bytes via) next
  | routed (index : Nat) (generation : Generation) (bytes : Bytes) (via : Nat) (id : UInt32)
      (port : UInt16) (payload : Bytes) (sock : Nat) (src : SocketAddr) (sessions : Sessions)
      (next : State) (present : state.generations[index]? = some generation)
      (held : generation.inbound = .got bytes via)
      (decoded : decodeDatagram bytes = some (id, port, payload))
      (route : generation.sessions.replyRoute id state.now = some ((sock, src), sessions))
      (generations : next.generations = state.generations.set index { generation with
        sessions, inbound := .routed sock src payload via })
      (outbox : next.outbox = state.outbox) (handed : next.handed = state.handed) :
      Effect overflowChecks state (.route index) next
  | handedOver (index : Nat) (delivered : Bool) (generation : Generation) (sock : Nat)
      (src : SocketAddr) (payload : Bytes) (via : Nat) (next : State)
      (present : state.generations[index]? = some generation)
      (held : generation.inbound = .routed sock src payload via)
      (generations : next.generations =
        state.generations.set index { generation with inbound := .reading })
      (outbox : next.outbox = state.outbox)
      (handed : next.handed = state.handed ++
        (if delivered then [{ sock := sock, src, payload, via }] else [])) :
      Effect overflowChecks state (.handOver index delivered) next

/-- Ending a forwarder calms its generation. -/
theorem calms_ended (now : Instant) (generation : Generation) (handle : Nat) (forwarder : Forwarder)
    (listed : generation.forwarders[handle]? = some forwarder) (poisoned : Bool) :
    Calms now generation { generation with
      poisoned, forwarders := generation.forwarders.set handle { forwarder with stage := .ended } } := by
  refine ⟨rfl, Or.inl rfl, ?_, Or.inl rfl⟩
  intro other found present
  rcases (Slots.get_set_iff _ _ _ _ _ _ listed).mp present with ⟨_, rfl⟩ | ⟨_, same⟩
  · exact Or.inr rfl
  · exact Or.inl same

/-- Changing where `pump_udp_in` is, to its read or its end, calms its
generation. -/
theorem calms_inbound (now : Instant) (generation : Generation) (inbound : Inbound)
    (settled : inbound = .reading ∨ inbound = .ended) :
    Calms now generation { generation with inbound } :=
  ⟨rfl, Or.inl rfl, fun _ _ same => Or.inl same, Or.inr settled⟩

/-- What the reaper does calms its generation. -/
theorem calms_reaper (now : Instant) (generation : Generation) (sessions : Sessions) (reaping : Bool)
    (kept : sessions = generation.sessions ∨ sessions = generation.sessions.reap now) :
    Calms now generation { generation with sessions, reaping } :=
  ⟨rfl, kept, fun _ _ same => Or.inl same, Or.inl rfl⟩

/-- Every step of a forwarder has one of the effects. -/
theorem forwarderStep_effect (overflowChecks : Bool) (state next : State) (index handle : Nat)
    (generation : Generation) (forwarder : Forwarder) (action : Action)
    (present : state.generations[index]? = some generation)
    (listed : generation.forwarders[handle]? = some forwarder)
    (named : action = .recvError index handle ∨ action = .stopForwarder index handle ∨
      (∃ src payload, action = .receive index handle src payload) ∨
        ∃ accepted, action = .forward index handle accepted)
    (taken : forwarderStep overflowChecks state index generation handle forwarder action = some next) :
    Effect overflowChecks state action next := by
  have ended := calms_ended state.now generation handle forwarder listed
  rcases named with rfl | rfl | ⟨src, payload, rfl⟩ | ⟨accepted, rfl⟩
  · cases stage : forwarder.stage <;>
      simp only [forwarderStep, stage, reduceCtorEq, Option.some.injEq] at taken
    subst taken
    exact .calmed _ _ index generation _ present (ended generation.poisoned) rfl rfl rfl
  · cases stage : forwarder.stage <;> simp only [forwarderStep, stage, reduceCtorEq] at taken
    split at taken
    · cases taken
      exact .calmed _ _ index generation _ present (ended generation.poisoned) rfl rfl rfl
    · cases taken
  · cases stage : forwarder.stage <;>
      simp only [forwarderStep, stage, reduceCtorEq, Option.some.injEq] at taken
    subst taken
    exact .received index handle generation forwarder src payload _ present listed rfl rfl rfl
  · cases stage : forwarder.stage <;> simp only [forwarderStep, stage, reduceCtorEq] at taken
    rename_i origin payload
    split at taken
    · cases taken
      exact .calmed _ _ index generation _ present (ended generation.poisoned) rfl rfl rfl
    · split at taken
      · cases taken
        exact .calmed _ _ index generation _ present (ended true) rfl rfl rfl
      · rename_i id sessions minted
        cases taken
        exact .forwarded index handle accepted generation forwarder origin payload id sessions _
          present listed stage minted rfl rfl rfl

/-- Every step of `pump_udp_in` and of a reaper has one of the effects. -/
theorem generationStep_effect (overflowChecks : Bool) (state next : State) (index : Nat)
    (generation : Generation) (action : Action)
    (present : state.generations[index]? = some generation)
    (named : action = .route index ∨ action = .stopInbound index ∨ action = .reap index ∨
      action = .stopReaper index ∨ (∃ bytes via, action = .read index bytes via) ∨
        ∃ delivered, action = .handOver index delivered)
    (taken : generationStep state index generation action = some next) :
    Effect overflowChecks state action next := by
  have settled := calms_inbound state.now generation
  rcases named with rfl | rfl | rfl | rfl | ⟨bytes, via, rfl⟩ | ⟨delivered, rfl⟩
  · cases inbound : generation.inbound <;> simp only [generationStep, inbound, reduceCtorEq] at taken
    rename_i bytes via
    split at taken
    · cases taken
      exact .calmed _ _ index generation _ present (settled .reading (Or.inl rfl)) rfl rfl rfl
    · rename_i id port payload decoded
      split at taken
      · cases taken
        exact .calmed _ _ index generation _ present (settled .ended (Or.inr rfl)) rfl rfl rfl
      · split at taken
        · cases taken
          exact .calmed _ _ index generation _ present (settled .reading (Or.inl rfl)) rfl rfl rfl
        · rename_i sock src sessions route
          cases taken
          exact .routed index generation bytes via id port payload sock src sessions _ present
            inbound decoded route rfl rfl rfl
  · have calm : Effect overflowChecks state (.stopInbound index)
        { state with generations := state.generations.set index { generation with inbound := .ended } } :=
      .calmed _ _ index generation _ present (settled .ended (Or.inr rfl)) rfl rfl rfl
    cases inbound : generation.inbound <;> simp only [generationStep, inbound, reduceCtorEq,
      Option.ite_none_right_eq_some, Option.some.injEq] at taken
    · exact taken.2 ▸ calm
    · exact taken.2 ▸ calm
  · simp only [generationStep] at taken
    split at taken
    · cases taken
    · split at taken
      · cases taken
        exact .calmed _ _ index generation _ present
          (calms_reaper state.now generation generation.sessions false (Or.inl rfl)) rfl rfl rfl
      · cases taken
        exact .calmed _ _ index generation _ present
          (calms_reaper state.now generation _ generation.reaping (Or.inr rfl)) rfl rfl rfl
  · simp only [generationStep] at taken
    split at taken
    · cases taken
      exact .calmed _ _ index generation _ present
        (calms_reaper state.now generation generation.sessions false (Or.inl rfl)) rfl rfl rfl
    · cases taken
  · cases inbound : generation.inbound <;>
      simp only [generationStep, inbound, reduceCtorEq, Option.some.injEq] at taken
    subst taken
    exact .got index generation bytes via _ present rfl rfl rfl
  · cases inbound : generation.inbound <;>
      simp only [generationStep, inbound, reduceCtorEq, Option.some.injEq] at taken
    subst taken
    exact .handedOver index delivered generation _ _ _ _ _ present inbound rfl rfl rfl

/-- Every step has one of the effects. -/
theorem step_effect (overflowChecks : Bool) (state next : State) (action : Action)
    (taken : step overflowChecks state action = some next) :
    Effect overflowChecks state action next := by
  have ofForwarder (index handle : Nat) (own : action.forwarder = some (index, handle))
      (named : action = .recvError index handle ∨ action = .stopForwarder index handle ∨
        (∃ src payload, action = .receive index handle src payload) ∨
          ∃ accepted, action = .forward index handle accepted) :
      Effect overflowChecks state action next := by
    obtain ⟨generation, forwarder, present, listed, found⟩ := forwarder_taken own taken
    exact forwarderStep_effect overflowChecks state next index handle generation forwarder action
      present listed named found
  have ofGeneration (index : Nat) (own : action.generation = some index)
      (named : action = .route index ∨ action = .stopInbound index ∨ action = .reap index ∨
        action = .stopReaper index ∨ (∃ bytes via, action = .read index bytes via) ∨
          ∃ delivered, action = .handOver index delivered) :
      Effect overflowChecks state action next := by
    obtain ⟨generation, present, found⟩ := generation_taken own taken
    exact generationStep_effect overflowChecks state next index generation action present named found
  cases action with
  | publish config =>
    cases taken
    exact .quiet _ _ rfl rfl rfl
  | elapse nanos =>
    cases taken
    exact .quiet _ _ rfl rfl rfl
  | reconcile bindOne =>
    simp only [step, Option.ite_none_right_eq_some, Option.some.injEq] at taken
    obtain ⟨_, rfl⟩ := taken
    exact .quiet _ _ rfl rfl rfl
  | respawn =>
    simp only [step, Option.ite_none_right_eq_some, Option.some.injEq] at taken
    obtain ⟨_, rfl⟩ := taken
    exact .respawned _ rfl rfl rfl
  | receive index handle src payload =>
    exact ofForwarder index handle rfl (Or.inr (Or.inr (Or.inl ⟨src, payload, rfl⟩)))
  | recvError index handle => exact ofForwarder index handle rfl (Or.inl rfl)
  | forward index handle accepted =>
    exact ofForwarder index handle rfl (Or.inr (Or.inr (Or.inr ⟨accepted, rfl⟩)))
  | stopForwarder index handle => exact ofForwarder index handle rfl (Or.inr (Or.inl rfl))
  | read index bytes via =>
    exact ofGeneration index rfl (Or.inr (Or.inr (Or.inr (Or.inr (Or.inl ⟨bytes, via, rfl⟩)))))
  | route index => exact ofGeneration index rfl (Or.inl rfl)
  | handOver index delivered =>
    exact ofGeneration index rfl (Or.inr (Or.inr (Or.inr (Or.inr (Or.inr ⟨delivered, rfl⟩)))))
  | stopInbound index => exact ofGeneration index rfl (Or.inr (Or.inl rfl))
  | reap index => exact ofGeneration index rfl (Or.inr (Or.inr (Or.inl rfl)))
  | stopReaper index => exact ofGeneration index rfl (Or.inr (Or.inr (Or.inr (Or.inl rfl))))

end Rtun.Connect
