import Rtun.Connect.Soundness
import Rtun.Serve.Soundness

/-!
# Both ends of one connection

The connecting side and the serving side of one connection, and the datagrams in
flight between them. A datagram is taken from the outbox of the side that sent it at
any later moment, or never: it may be lost, delayed or reordered, but not altered.

The session id is minted on one side and interpreted on the other, and the two tables
have different lifetimes. Each generation of forwarders has a table of its own, which
counts from one, while the table of the serving side lives as long as the connection.
-/

namespace Rtun.Tunnel

open Framing Connect Run

structure State where
  near : Connect.State
  far : Serve.State Origin

/-- A step of either side on its own, or the arrival of a datagram that is in
flight. -/
inductive Action where
  | near (action : Connect.Action)
  | far (action : Serve.Action Origin)
  | arrive (index : Nat)
  | answer (index generation : Nat)

/-- What is read arrives from the other side only. -/
def step (overflowChecks : Bool) (peer : EndpointId) (state : State) (action : Action) :
    Option State :=
  match action with
  | .near (.read ..) | .far (.read ..) => none
  | .near action =>
      (Connect.step overflowChecks state.near action).map (fun near => { state with near })
  | .far action => (Serve.step peer state.far action).map (fun far => { state with far })
  | .arrive index =>
      match state.near.outbox[index]? with
      | none => none
      | some (bytes, origin) =>
          (Serve.step peer state.far (.read origin bytes)).map (fun far =>
            { near := { state.near with outbox := state.near.outbox.eraseIdx index }, far })
  | .answer index generation =>
      match state.far.outbox[index]? with
      | none => none
      | some reply =>
          (Connect.step overflowChecks state.near (.read generation reply.bytes reply.sock)).map
            (fun near =>
              { near, far := { state.far with outbox := state.far.outbox.eraseIdx index } })

/-- A connection that has just been established between two running sides: the
listeners and what the main loop has seen of its configuration are those of the
time before. -/
def initial (channel : Watch.Channel Config) (receiver : Watch.Receiver) (listeners : Listeners)
    (runtime : Runtime) (now : Instant) (farChannel : Watch.Channel Config) (farNow : Instant) :
    State :=
  { near := Connect.initial channel receiver listeners runtime now,
    far := Serve.initial farChannel farNow }

/-- A run of the serving side that reads nothing is a run of both sides. -/
theorem run_far (checks : Bool) (peer : EndpointId) (state : State) (far : Serve.State Origin)
    (actions : List (Serve.Action Origin))
    (notRead : ∀ action ∈ actions, ∀ tag bytes, action ≠ .read tag bytes)
    (reached : run (Serve.step peer) state.far actions = some far) :
    run (step checks peer) state (actions.map Action.far) = some { state with far } := by
  refine run_embed (Serve.step peer) (step checks peer) (fun far => { state with far }) Action.far
    state.far far actions ?_ reached
  intro action member before next taken
  cases action with
  | read tag bytes => exact absurd rfl (notRead _ member tag bytes)
  | _ => simp [step, taken]

/-- A run of the connecting side that reads nothing is a run of both sides. -/
theorem run_near (checks : Bool) (peer : EndpointId) (state : State) (near : Connect.State)
    (actions : List Connect.Action)
    (notRead : ∀ action ∈ actions, ∀ generation bytes via, action ≠ .read generation bytes via)
    (reached : run (Connect.step checks) state.near actions = some near) :
    run (step checks peer) state (actions.map Action.near) = some { state with near } := by
  refine run_embed (Connect.step checks) (step checks peer) (fun near => { state with near })
    Action.near state.near near actions ?_ reached
  intro action member before next taken
  cases action with
  | read generation bytes via => exact absurd rfl (notRead _ member generation bytes via)
  | _ => simp [step, taken]

/-- What a step does on either side. -/
inductive Effect (checks : Bool) (peer : EndpointId) (state : State) : Action → State → Prop where
  | near (action : Connect.Action) (near : Connect.State)
      (notRead : ∀ generation bytes via, action ≠ .read generation bytes via)
      (effect : Connect.Effect checks state.near action near) :
      Effect checks peer state (.near action) { state with near }
  | far (action : Serve.Action Origin) (far : Serve.State Origin)
      (notRead : ∀ tag bytes, action ≠ .read tag bytes)
      (effect : Serve.Effect peer state.far action far) :
      Effect checks peer state (.far action) { state with far }
  | arrive (index : Nat) (bytes : Bytes) (origin : Origin) (far : Serve.State Origin)
      (inFlight : (bytes, origin) ∈ state.near.outbox)
      (effect : Serve.Effect peer state.far (.read origin bytes) far) :
      Effect checks peer state (.arrive index)
        { near := { state.near with outbox := state.near.outbox.eraseIdx index }, far }
  | answer (index generation : Nat) (reply : Serve.Outgoing) (near : Connect.State)
      (inFlight : reply ∈ state.far.outbox)
      (effect : Connect.Effect checks state.near (.read generation reply.bytes reply.sock) near) :
      Effect checks peer state (.answer index generation)
        { near, far := { state.far with outbox := state.far.outbox.eraseIdx index } }

/-- Every step of the two sides is one of these: a step of either side by itself,
or a datagram that crosses the link. -/
theorem step_effect (checks : Bool) (peer : EndpointId) (state next : State) (action : Action)
    (taken : step checks peer state action = some next) : Effect checks peer state action next := by
  unfold step at taken
  split at taken
  · cases taken
  · cases taken
  · rename_i own notRead
    obtain ⟨near, moved, rfl⟩ := Option.map_eq_some_iff.mp taken
    exact .near own near (fun generation bytes via isRead => notRead generation bytes via (isRead ▸ rfl))
      (Connect.step_effect checks state.near near own moved)
  · rename_i own notRead
    obtain ⟨far, moved, rfl⟩ := Option.map_eq_some_iff.mp taken
    exact .far own far (fun tag bytes isRead => notRead tag bytes (isRead ▸ rfl))
      (Serve.step_effect peer state.far far own moved)
  · rename_i index
    split at taken
    · cases taken
    · rename_i bytes origin found
      obtain ⟨far, moved, rfl⟩ := Option.map_eq_some_iff.mp taken
      exact .arrive index bytes origin far (List.mem_of_getElem? found)
        (Serve.step_effect peer state.far far _ moved)
  · rename_i index generation
    split at taken
    · cases taken
    · rename_i reply found
      obtain ⟨near, moved, rfl⟩ := Option.map_eq_some_iff.mp taken
      exact .answer index generation reply near (List.mem_of_getElem? found)
        (Connect.step_effect checks state.near near _ moved)

/-- The invariant of every run in which no counter wraps: each side is sound, and
what the serving side has read is framed by the generation that sent it. -/
structure Linked (peer : EndpointId) (state : State) : Prop where
  near : Connect.Sound state.near
  far : Serve.Sound peer state.far
  framed : Serve.Tagged (fun origin bytes => Framed state.near.generations bytes origin) state.far

/-- Losing datagrams in flight keeps the connecting side sound. -/
theorem near_lost (near : Connect.State) (sound : Connect.Sound near) (index : Nat) :
    Connect.Sound { near with outbox := near.outbox.eraseIdx index } where
  logged := sound.logged
  held := sound.held
  outbox := fun sent member => sound.outbox sent (List.mem_of_mem_eraseIdx member)

/-- Losing replies in flight keeps the serving side sound. -/
theorem far_lost (peer : EndpointId) (far : Serve.State Origin) (sound : Serve.Sound peer far)
    (index : Nat) : Serve.Sound peer { far with outbox := far.outbox.eraseIdx index } where
  held := sound.held
  sockets := sound.sockets
  sessions := sound.sessions
  inserting := sound.inserting
  sending := sound.sending
  replies := sound.replies
  outbox := fun outgoing member => sound.outbox outgoing (List.mem_of_mem_eraseIdx member)
  sent := sound.sent

/-- The generations of the connecting side grow with every step. -/
theorem generations_grow {checks : Bool} {peer : EndpointId} {state next : State} {action : Action}
    (effect : Effect checks peer state action next) :
    Grows state.near.generations next.near.generations := by
  cases effect with
  | near _ _ _ effect => exact effect_grows effect
  | far => exact Grows.refl _
  | arrive => exact Grows.refl _
  | answer _ _ _ _ _ effect => exact effect_grows effect

/-- The step lemma. -/
theorem Linked.step {checks : Bool} {peer : EndpointId} {state next : State} {action : Action}
    (linked : Linked peer state) (effect : Effect checks peer state action next)
    (few : FewSessions next.near.generations) : Linked peer next := by
  cases effect with
  | near own near _ effect =>
    refine ⟨linked.near.step effect few, linked.far, ?_⟩
    exact linked.framed.mono (fun origin bytes framed => framed.later (effect_grows effect))
  | far own far notRead effect =>
    refine ⟨linked.near, linked.far.step effect, linked.framed.step effect ?_⟩
    intro tag bytes isRead
    exact absurd isRead (notRead tag bytes)
  | arrive index bytes origin far inFlight effect =>
    refine ⟨near_lost state.near linked.near index, linked.far.step effect,
      linked.framed.step effect ?_⟩
    intro tag other isRead
    obtain ⟨rfl, rfl⟩ := Serve.Action.read.inj isRead
    exact linked.near.outbox (bytes, origin) inFlight
  | answer index generation reply near inFlight effect =>
    refine ⟨linked.near.step effect few, far_lost peer state.far linked.far index, ?_⟩
    have framed := linked.framed.mono
      (fun origin bytes framed => Framed.later framed (effect_grows effect))
    exact ⟨framed.received, framed.held, framed.openers, framed.sent⟩

/-- Within one generation the id decides the source and the port: the session that
a datagram finds under its id was opened for the same ones. -/
theorem Linked.found_unique {peer : EndpointId} {state : State} (linked : Linked peer state)
    {datagram opener : Serve.Admitted Origin} {session : Serve.Session}
    (held : state.far.pump.datagram = some datagram)
    (present : state.far.sessions.lookup datagram.id = some session)
    (opened : state.far.opener session.sock = some opener)
    (same : opener.tag.generation = datagram.tag.generation) :
    opener.tag.src = datagram.tag.src ∧ opener.port = datagram.port := by
  obtain ⟨known, found, sameId, _⟩ := linked.far.sessions datagram.id session present
  obtain rfl : opener = known := Option.some.inj (opened.symm.trans found)
  obtain ⟨socket, listed, rfl⟩ := Option.map_eq_some_iff.mp opened
  have decoded := (linked.far.sockets session.sock socket listed).1.1
  rw [sameId] at decoded
  exact Framed.unique (linked.framed.openers session.sock socket listed)
    (linked.framed.held datagram held) same decoded (linked.far.held datagram held).1

/-- Both sides as they are when the connection has just been established. -/
theorem linked_initial (peer : EndpointId) (channel : Watch.Channel Config)
    (receiver : Watch.Receiver) (listeners : Listeners) (runtime : Runtime) (now : Instant)
    (farChannel : Watch.Channel Config) (farNow : Instant) :
    Linked peer (initial channel receiver listeners runtime now farChannel farNow) :=
  ⟨sound_initial channel receiver listeners runtime now,
    Serve.sound_initial peer farChannel farNow, Serve.tagged_initial _ farChannel farNow⟩

/-- A UDP binding of the sample connections. -/
def udpBinding (localPort remotePort : UInt16) : Binding :=
  { proto := .udp, localPort, remotePort, name := "", enabled := true }

def bindings (listed : List Binding) : Config :=
  { Config.default with connect := { bindings := listed } }

/-- What the connecting side has bound when every listed port could be bound. -/
def listening (listed : List Binding) : Reconciling :=
  reconcile (fun _ => none) (bindings listed).activeBindings Listeners.empty Runtime.empty

/-- A connection whose connecting side has bound the listed ports, and whose
serving side offers DNS and NTP to the peer. -/
def established (listed : List Binding) : State :=
  initial (Watch.Channel.new (bindings listed)) { seen := 0 } (listening listed).listeners
    (listening listed).runtime 0 (Watch.Channel.new (offering true)) 0

/-- A local process. -/
def localSource (port : UInt16) : SocketAddr := { ip := 0x7f000001, port }

/-- A datagram is received by the only forwarder of a generation, forwarded, and
sent on the socket of a new session. -/
def forwardOpening (generation : Nat) (src : SocketAddr) (payload : Bytes) : List Action :=
  [.near (.receive generation 0 src payload), .near (.forward generation 0 true), .arrive 0,
    .far .check, .far .touch, .far (.open true), .far .insert, .far (.send true)]

/-- The same for a session that is known. -/
def forwardKnown (generation : Nat) (src : SocketAddr) (payload : Bytes) : List Action :=
  [.near (.receive generation 0 src payload), .near (.forward generation 0 true), .arrive 0,
    .far .check, .far .touch, .far (.send true)]

/-- The bindings are edited, and the forwarders respawned. -/
def rebind (listed : List Binding) : List Action :=
  [.near (.publish (bindings listed)), .near (.reconcile (fun _ => none)), .near .respawn]

end Rtun.Tunnel
