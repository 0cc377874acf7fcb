import Rtun.Framing
import Rtun.Grants
import Rtun.Run
import Rtun.Serve.Sessions
import Rtun.Slots
import Rtun.Watch

/-!
# The UDP side of a served connection

One connection of one peer: `pump_udp`, which reads datagrams and forwards them to
local ports, one reply task per session, the reaper, and the teardown when the
connection ends. The tasks share the session table under a lock and take their
steps in any order. Configurations are published by others at any moment, and the
clock advances on its own.

A step is what a task does between two points where another task could be noticed:
an `.await`, an acquisition of the lock, or a read of the published configuration.
An abort takes effect only at an `.await`. Every datagram carries a tag that the
code never sees, by which a law can say where the datagram came from.
-/

namespace Rtun.Serve

universe u
variable {τ : Type u}

open Framing

/-- A datagram that passed the port check: what was read, what its header says,
and the configuration that was consulted for it. -/
structure Admitted (τ : Type u) where
  tag : τ
  bytes : Bytes
  id : UInt32
  port : UInt16
  payload : Bytes
  consulted : Config

/-- A session socket, connected to a local port: the datagram it was opened for
and the datagrams whose payloads were sent on it. -/
structure Socket (τ : Type u) where
  port : UInt16
  opener : Admitted τ
  carried : List (Admitted τ)

/-- Where a reply task is: waiting on its socket, holding a payload, or over. -/
inductive Stage where
  | receiving
  | received (payload : Bytes)
  | ended
deriving DecidableEq

/-- A reply task, and whether it has been told to abort. -/
structure Reply where
  sock : Nat
  id : UInt32
  port : UInt16
  stage : Stage
  told : Bool
deriving DecidableEq

/-- Where `pump_udp` is, with its local variables there. -/
inductive Pump (τ : Type u) where
  | starting
  | selecting
  | revoking (granted : List UInt16)
  | received (tag : τ) (bytes : Bytes)
  | granted (datagram : Admitted τ)
  | opening (datagram : Admitted τ)
  | spawned (datagram : Admitted τ) (sock reply : Nat)
  | sending (datagram : Admitted τ) (sock : Nat)
  | stopped

/-- How far the end of the connection has come: open, lost, the pumps told to
abort, and the table cleared. -/
inductive Link where
  | established
  | lost
  | aborted
  | cleared
deriving DecidableEq

/-- A payload that was sent on a session socket. -/
structure Sent (τ : Type u) where
  datagram : Admitted τ
  sock : Nat
  port : UInt16

/-- A reply that was handed to the connection, and the socket it was received
on. -/
structure Outgoing where
  bytes : Bytes
  sock : Nat

structure State (τ : Type u) where
  channel : Watch.Channel Config
  receiver : Watch.Receiver
  pump : Pump τ
  sessions : Sessions
  sockets : List (Socket τ)
  replies : List Reply
  reaping : Bool
  now : Instant
  link : Link
  outbox : List Outgoing
  sent : List (Sent τ)

/-- What happens next: an event from outside, or the next step of a task. -/
inductive Action (τ : Type u) where
  | publish (config : Config)
  | elapse (nanos : Nat)
  | lose
  | subscribe
  | read (tag : τ) (bytes : Bytes)
  | notice
  | revoke
  | check
  | touch
  | open (connected : Bool)
  | insert
  | send (delivered : Bool)
  | stopPump
  | reap
  | stopReaper
  | receive (reply : Nat) (payload : Bytes)
  | recvError (reply : Nat)
  | answer (reply : Nat) (accepted : Bool)
  | stopReply (reply : Nat)
  | abortPumps
  | clear

/-- `AbortHandle::abort` on some of the reply tasks. -/
def abortAll (handles : List Nat) (replies : List Reply) : List Reply :=
  replies.mapIdx (fun handle reply => if handle ∈ handles then { reply with told := true } else reply)

namespace State

/-- Keep some of the sessions; dropping the others aborts their reply tasks. -/
def retain (state : State τ) (keep : UInt32 → Session → Bool) : State τ :=
  { state with
    sessions := state.sessions.retain keep,
    replies := abortAll ((state.sessions.dropped keep).map Session.reply) state.replies }

/-- Insert a session; an entry that it replaces is dropped. -/
def insert (state : State τ) (id : UInt32) (session : Session) : State τ :=
  { state with
    sessions := state.sessions.insert id session,
    replies := abortAll ((state.sessions.lookup id).toList.map Session.reply) state.replies }

/-- The ports that the current configuration grants to the peer over UDP. -/
def grants (state : State τ) (peer : EndpointId) : List UInt16 :=
  (state.channel.value.granted peer .udp).getD []

/-- The next step of a reply task. -/
def advance (state : State τ) (handle : Nat) (reply : Reply) (stage : Stage) : State τ :=
  { state with replies := state.replies.set handle { reply with stage } }

end State

/-- Decode the datagram and consult the current configuration about its port. -/
def consult (peer : EndpointId) (config : Config) (tag : τ) (bytes : Bytes) : Option (Admitted τ) :=
  match decodeDatagram bytes with
  | none => none
  | some (id, port, payload) =>
      if config.reaches peer .udp port then
        some { tag, bytes, id, port, payload, consulted := config }
      else none

/-- A step of `pump_udp`. The branches of its `select!` are `read` and
`notice`. -/
def pumpStep (peer : EndpointId) (state : State τ) (action : Action τ) : Option (State τ) :=
  match action, state.pump with
  | .subscribe, .starting =>
      some { state with receiver := state.channel.subscribe, pump := .selecting }
  | .read tag bytes, .selecting => some { state with pump := .received tag bytes }
  | .notice, .selecting =>
      if state.channel.hasChanged state.receiver then
        let (config, receiver) := state.channel.borrowAndUpdate state.receiver
        some { state with receiver, pump := .revoking ((config.granted peer .udp).getD []) }
      else none
  | .revoke, .revoking granted =>
      some { state.retain (Sessions.stillGranted granted) with pump := .selecting }
  | .check, .received tag bytes =>
      match consult peer state.channel.value tag bytes with
      | none => some { state with pump := .selecting }
      | some datagram => some { state with pump := .granted datagram }
  | .touch, .granted datagram =>
      match state.sessions.touch datagram.id state.now with
      | none => some { state with pump := .opening datagram }
      | some (sock, sessions) => some { state with sessions, pump := .sending datagram sock }
  | .open false, .opening _ => some { state with pump := .selecting }
  | .open true, .opening datagram =>
      let sock := state.sockets.length
      let reply := state.replies.length
      some { state with
        sockets := state.sockets ++ [{ port := datagram.port, opener := datagram, carried := [] }],
        replies := state.replies ++
          [{ sock, id := datagram.id, port := datagram.port, stage := .receiving, told := false }],
        pump := .spawned datagram sock reply }
  | .insert, .spawned datagram sock reply =>
      let session : Session := { sock, reply, last := state.now, port := datagram.port }
      some { state.insert datagram.id session with pump := .sending datagram sock }
  | .send false, .sending _ _ => some { state with pump := .selecting }
  | .send true, .sending datagram sock =>
      match state.sockets[sock]? with
      | none => none
      | some socket =>
          some { state with
            sockets := state.sockets.set sock { socket with carried := socket.carried ++ [datagram] },
            sent := state.sent ++ [{ datagram, sock, port := socket.port }],
            pump := .selecting }
  | _, _ => none

/-- Whether the pump can end where it is: the read of a datagram fails on a lost
connection, and an abort takes effect at any `.await`. -/
def Pump.canStop (pump : Pump τ) (link : Link) : Bool :=
  match pump, link with
  | _, .established => false
  | .selecting, _ => true
  | .starting, .aborted | .opening _, .aborted | .sending .., .aborted => true
  | .starting, .cleared | .opening _, .cleared | .sending .., .cleared => true
  | _, _ => false

/-- A step of a reply task. -/
def replyStep (state : State τ) (action : Action τ) (handle : Nat) (reply : Reply) :
    Option (State τ) :=
  match action, reply.stage with
  | .receive _ payload, .receiving => some (state.advance handle reply (.received payload))
  | .recvError _, .receiving => some (state.advance handle reply .ended)
  | .answer _ accepted, .received payload =>
      let sent : List Outgoing :=
        if accepted then
          [{ bytes := encodeDatagram reply.id reply.port payload, sock := reply.sock }]
        else []
      some { state.advance handle reply .receiving with
        sessions := state.sessions.touched reply.id state.now, outbox := state.outbox ++ sent }
  | .stopReply _, .receiving =>
      if reply.told then some (state.advance handle reply .ended) else none
  | _, _ => none

def step (peer : EndpointId) (state : State τ) (action : Action τ) : Option (State τ) :=
  match action with
  | .publish config => some { state with channel := state.channel.sendReplace config }
  | .elapse nanos => some { state with now := state.now + nanos }
  | .lose => if state.link = .established then some { state with link := .lost } else none
  | .stopPump =>
      if state.pump.canStop state.link then some { state with pump := .stopped } else none
  | .reap =>
      if state.reaping then some (state.retain (Sessions.fresh state.now)) else none
  | .stopReaper =>
      if state.link = .aborted ∨ state.link = .cleared then some { state with reaping := false }
      else none
  | .receive handle _ | .recvError handle | .answer handle _ | .stopReply handle =>
      match state.replies[handle]? with
      | none => none
      | some reply => replyStep state action handle reply
  | .abortPumps => if state.link = .lost then some { state with link := .aborted } else none
  | .clear =>
      if state.link = .aborted then
        some { state.retain (fun _ _ => false) with link := .cleared }
      else none
  | _ => pumpStep peer state action

/-- The reply task that takes the step. -/
def Action.replyTask : Action τ → Option Nat
  | .receive handle _ | .recvError handle | .answer handle _ | .stopReply handle => some handle
  | _ => none

/-- A step of a reply task is taken by one that is there. -/
theorem reply_taken {peer : EndpointId} {state next : State τ} {action : Action τ} {handle : Nat}
    (own : action.replyTask = some handle) (taken : step peer state action = some next) :
    ∃ reply, state.replies[handle]? = some reply ∧
      replyStep state action handle reply = some next := by
  have found : (match state.replies[handle]? with
      | none => none
      | some reply => replyStep state action handle reply) = some next := by
    cases action <;> cases own <;> exact taken
  split at found
  · cases found
  · rename_i reply present
    exact ⟨reply, present, found⟩

/-- A connection that has just been accepted. -/
def initial (channel : Watch.Channel Config) (now : Instant) : State τ :=
  { channel, receiver := channel.subscribe, pump := .starting, sessions := ∅, sockets := [],
    replies := [], reaping := true, now, link := .established, outbox := [], sent := [] }

/-- The pump holds no datagram. -/
def Pump.idle : Pump τ → Prop
  | .starting | .selecting | .revoking _ | .stopped => True
  | _ => False

/-- What a step can do to the sessions, their sockets and their reply tasks, to
the datagram that the pump holds, and to the two logs. Steps that do none of this
are `quiet`; steps that only drop sessions are `dropped`. -/
inductive Effect (peer : EndpointId) (state : State τ) : Action τ → State τ → Prop where
  | quiet (action : Action τ) (next : State τ) (sessions : next.sessions = state.sessions)
      (sockets : next.sockets = state.sockets) (replies : next.replies = state.replies)
      (outbox : next.outbox = state.outbox) (sent : next.sent = state.sent)
      (pump : next.pump = state.pump ∨ next.pump.idle) : Effect peer state action next
  | read (tag : τ) (bytes : Bytes) :
      Effect peer state (.read tag bytes) { state with pump := .received tag bytes }
  | admitted (tag : τ) (bytes : Bytes) (datagram : Admitted τ)
      (held : state.pump = .received tag bytes)
      (passed : consult peer state.channel.value tag bytes = some datagram) :
      Effect peer state .check { state with pump := .granted datagram }
  | found (datagram : Admitted τ) (session : Session) (held : state.pump = .granted datagram)
      (present : state.sessions.lookup datagram.id = some session) :
      Effect peer state .touch { state with
        sessions := state.sessions.touched datagram.id state.now,
        pump := .sending datagram session.sock }
  | missing (datagram : Admitted τ) (held : state.pump = .granted datagram)
      (absent : state.sessions.lookup datagram.id = none) :
      Effect peer state .touch { state with pump := .opening datagram }
  | opened (datagram : Admitted τ) (held : state.pump = .opening datagram) :
      Effect peer state (.open true) { state with
        sockets := state.sockets ++ [{ port := datagram.port, opener := datagram, carried := [] }],
        replies := state.replies ++
          [{ sock := state.sockets.length, id := datagram.id, port := datagram.port,
             stage := .receiving, told := false }],
        pump := .spawned datagram state.sockets.length state.replies.length }
  | inserted (datagram : Admitted τ) (sock reply : Nat)
      (held : state.pump = .spawned datagram sock reply) :
      Effect peer state .insert { state.insert datagram.id
        { sock, reply, last := state.now, port := datagram.port } with
        pump := .sending datagram sock }
  | delivered (datagram : Admitted τ) (sock : Nat) (socket : Socket τ)
      (held : state.pump = .sending datagram sock) (present : state.sockets[sock]? = some socket) :
      Effect peer state (.send true) { state with
        sockets := state.sockets.set sock { socket with carried := socket.carried ++ [datagram] },
        sent := state.sent ++ [{ datagram, sock, port := socket.port }],
        pump := .selecting }
  | dropped (action : Action τ) (keep : UInt32 → Session → Bool) (pump : Pump τ) (link : Link)
      (settled : pump = state.pump ∨ pump.idle) :
      Effect peer state action { state.retain keep with pump, link }
  | received (handle : Nat) (reply : Reply) (payload : Bytes)
      (present : state.replies[handle]? = some reply) (waiting : reply.stage = .receiving) :
      Effect peer state (.receive handle payload) (state.advance handle reply (.received payload))
  | failed (handle : Nat) (reply : Reply) (present : state.replies[handle]? = some reply) :
      Effect peer state (.recvError handle) (state.advance handle reply .ended)
  | answered (handle : Nat) (reply : Reply) (payload : Bytes) (accepted : Bool)
      (present : state.replies[handle]? = some reply) (held : reply.stage = .received payload) :
      Effect peer state (.answer handle accepted) { state.advance handle reply .receiving with
        sessions := state.sessions.touched reply.id state.now,
        outbox := state.outbox ++ (if accepted then
          [{ bytes := encodeDatagram reply.id reply.port payload, sock := reply.sock }] else []) }
  | ended (handle : Nat) (reply : Reply) (present : state.replies[handle]? = some reply)
      (told : reply.told = true) :
      Effect peer state (.stopReply handle) (state.advance handle reply .ended)

/-- Every step of `pump_udp` has one of the effects. The cases follow the
definition. -/
theorem pumpStep_effect (peer : EndpointId) (state next : State τ) (action : Action τ)
    (taken : pumpStep peer state action = some next) : Effect peer state action next := by
  unfold pumpStep at taken
  split at taken
  · cases taken
    exact .quiet _ _ rfl rfl rfl rfl rfl (Or.inr trivial)
  · cases taken
    exact .read _ _
  · split at taken
    · cases taken
      exact .quiet _ _ rfl rfl rfl rfl rfl (Or.inr trivial)
    · cases taken
  · cases taken
    exact .dropped _ _ _ _ (Or.inr trivial)
  · rename_i tag bytes held
    split at taken
    · cases taken
      exact .quiet _ _ rfl rfl rfl rfl rfl (Or.inr trivial)
    · rename_i datagram passed
      cases taken
      exact .admitted tag bytes datagram held passed
  · rename_i datagram held
    split at taken
    · rename_i absent
      cases taken
      exact .missing datagram held ((Sessions.touch_none_iff _ _ _).mp absent)
    · rename_i sock sessions touched
      obtain ⟨session, present, rfl, rfl⟩ := (Sessions.touch_some_iff _ _ _ _ _).mp touched
      cases taken
      exact .found datagram session held present
  · cases taken
    exact .quiet _ _ rfl rfl rfl rfl rfl (Or.inr trivial)
  · rename_i datagram held
    cases taken
    exact .opened datagram held
  · rename_i datagram sock reply held
    cases taken
    exact .inserted datagram sock reply held
  · cases taken
    exact .quiet _ _ rfl rfl rfl rfl rfl (Or.inr trivial)
  · rename_i datagram sock held
    split at taken
    · cases taken
    · rename_i socket present
      cases taken
      exact .delivered datagram sock socket held present
  · cases taken

/-- A step of a reply task leaves the pump, the link and the reaper alone: it has
to do with its own socket, with the stamp of its session and with what is sent. -/
theorem replyStep_frame {state next : State τ} {action : Action τ} {handle : Nat} {reply : Reply}
    (taken : replyStep state action handle reply = some next) :
    next.pump = state.pump ∧ next.link = state.link ∧ next.reaping = state.reaping := by
  unfold replyStep at taken
  split at taken
  · cases taken
    exact ⟨rfl, rfl, rfl⟩
  · cases taken
    exact ⟨rfl, rfl, rfl⟩
  · cases taken
    exact ⟨rfl, rfl, rfl⟩
  · split at taken
    · cases taken
      exact ⟨rfl, rfl, rfl⟩
    · cases taken
  · cases taken

/-- A step of the pump leaves the link and the reaper alone. Nor does it stop the
pump, which goes on until it is aborted or the connection is lost. -/
theorem pumpStep_frame {peer : EndpointId} {state next : State τ} {action : Action τ}
    (taken : pumpStep peer state action = some next) :
    next.pump ≠ .stopped ∧ next.link = state.link ∧ next.reaping = state.reaping := by
  unfold pumpStep at taken
  split at taken <;> (try split at taken) <;> cases taken <;> exact ⟨nofun, rfl, rfl⟩

/-- Every step of a reply task has one of the effects. -/
theorem replyStep_effect (peer : EndpointId) (state next : State τ) (action : Action τ)
    (handle : Nat) (reply : Reply) (present : state.replies[handle]? = some reply)
    (named : action = .recvError handle ∨ action = .stopReply handle ∨
      (∃ payload, action = .receive handle payload) ∨ ∃ accepted, action = .answer handle accepted)
    (taken : replyStep state action handle reply = some next) : Effect peer state action next := by
  rcases named with rfl | rfl | ⟨payload, rfl⟩ | ⟨accepted, rfl⟩
  · cases stage : reply.stage <;> simp only [replyStep, stage, reduceCtorEq, Option.some.injEq] at taken
    obtain rfl := taken
    exact .failed handle reply present
  · cases stage : reply.stage <;> simp only [replyStep, stage, reduceCtorEq] at taken
    split at taken
    · rename_i told
      cases taken
      exact .ended handle reply present told
    · cases taken
  · cases stage : reply.stage <;> simp only [replyStep, stage, reduceCtorEq, Option.some.injEq] at taken
    obtain rfl := taken
    exact .received handle reply payload present stage
  · cases stage : reply.stage <;> simp only [replyStep, stage, reduceCtorEq, Option.some.injEq] at taken
    obtain rfl := taken
    exact .answered handle reply _ accepted present stage

/-- Every step has one of the effects. -/
theorem step_effect (peer : EndpointId) (state next : State τ) (action : Action τ)
    (taken : step peer state action = some next) : Effect peer state action next := by
  cases action with
  | publish config =>
    cases taken
    exact .quiet _ _ rfl rfl rfl rfl rfl (Or.inl rfl)
  | elapse nanos =>
    cases taken
    exact .quiet _ _ rfl rfl rfl rfl rfl (Or.inl rfl)
  | lose =>
    simp only [step, Option.ite_none_right_eq_some, Option.some.injEq] at taken
    obtain ⟨_, rfl⟩ := taken
    exact .quiet _ _ rfl rfl rfl rfl rfl (Or.inl rfl)
  | stopPump =>
    simp only [step, Option.ite_none_right_eq_some, Option.some.injEq] at taken
    obtain ⟨_, rfl⟩ := taken
    exact .quiet _ _ rfl rfl rfl rfl rfl (Or.inr trivial)
  | reap =>
    simp only [step, Option.ite_none_right_eq_some, Option.some.injEq] at taken
    obtain ⟨_, rfl⟩ := taken
    exact .dropped _ _ _ _ (Or.inl rfl)
  | stopReaper =>
    simp only [step, Option.ite_none_right_eq_some, Option.some.injEq] at taken
    obtain ⟨_, rfl⟩ := taken
    exact .quiet _ _ rfl rfl rfl rfl rfl (Or.inl rfl)
  | abortPumps =>
    simp only [step, Option.ite_none_right_eq_some, Option.some.injEq] at taken
    obtain ⟨_, rfl⟩ := taken
    exact .quiet _ _ rfl rfl rfl rfl rfl (Or.inl rfl)
  | clear =>
    simp only [step, Option.ite_none_right_eq_some, Option.some.injEq] at taken
    obtain ⟨_, rfl⟩ := taken
    exact .dropped _ _ _ _ (Or.inl rfl)
  | receive handle payload =>
    obtain ⟨reply, present, stepped⟩ := reply_taken rfl taken
    exact replyStep_effect peer state next _ handle reply present
      (Or.inr (Or.inr (Or.inl ⟨payload, rfl⟩))) stepped
  | recvError handle =>
    obtain ⟨reply, present, stepped⟩ := reply_taken rfl taken
    exact replyStep_effect peer state next _ handle reply present (Or.inl rfl) stepped
  | answer handle accepted =>
    obtain ⟨reply, present, stepped⟩ := reply_taken rfl taken
    exact replyStep_effect peer state next _ handle reply present
      (Or.inr (Or.inr (Or.inr ⟨accepted, rfl⟩))) stepped
  | stopReply handle =>
    obtain ⟨reply, present, stepped⟩ := reply_taken rfl taken
    exact replyStep_effect peer state next _ handle reply present (Or.inr (Or.inl rfl)) stepped
  | _ => exact pumpStep_effect peer state next _ taken

end Rtun.Serve
