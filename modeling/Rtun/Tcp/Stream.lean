import Rtun.Framing
import Rtun.Grants
import Rtun.Pipe
import Rtun.Run
import Rtun.Slots
import Rtun.Watch

/-!
# TCP streams through one connection

One QUIC stream carries each accepted TCP connection. On the connecting side
`forward_tcp` opens it, writes the target port and copies in both directions; on the
serving side `serve_stream` reads the port, consults the current configuration, connects
to the port on the loopback and copies in both directions as well. Any number of streams
share the connection, and configurations are published at any moment.

Bytes pass through three pipes in each direction, and a copier sits between two of them.
Each pipe holds only so much, the buffer of a socket or the window of a QUIC stream, and
the buffers of `copy_bidirectional` do too: whoever writes to what is full waits. A read,
a write or a connect can fail at any time; the task then returns and gives up what it
writes to, in order or abruptly. Closing the connection stops everything that needs it.
-/

namespace Rtun.Tcp

open Framing Run

/-- Where `forward_tcp` is: about to open its stream, writing the port, copying,
or returned. -/
inductive Forward where
  | opening
  | naming (rest : Bytes)
  | copying (up down : Copier UInt8)
  | returned (succeeded : Bool)
deriving DecidableEq

/-- Where `serve_stream` is: not accepted yet, reading the port, about to check
it, about to connect, copying, or returned. -/
inductive Serving where
  | pending
  | reading (bytes : Bytes)
  | named (port : UInt16)
  | connecting (port : UInt16) (consulted : Config)
  | copying (up down : Copier UInt8)
  | returned (succeeded : Bool)
deriving DecidableEq

/-- A connection to a local port, and the configuration that was consulted for
it. -/
structure Dial where
  port : UInt16
  consulted : Config
deriving DecidableEq

/-- How much each of the six pipes of a stream holds, and the buffers of its
copiers. -/
structure Room where
  fromClient : ℕ+
  outbound : ℕ+
  toService : ℕ+
  fromService : ℕ+
  inbound : ℕ+
  toClient : ℕ+
  copying : ℕ+

/-- One accepted TCP connection, from the local client to the local service. -/
structure Stream where
  map : PortMap
  buffer : ℕ+
  forward : Forward
  serving : Serving
  dialed : Option Dial
  fromClient : Pipe UInt8
  outbound : Pipe UInt8
  toService : Pipe UInt8
  fromService : Pipe UInt8
  inbound : Pipe UInt8
  toClient : Pipe UInt8
deriving DecidableEq

/-- A TCP connection that has just been accepted, with the room there will be for
it. -/
def Stream.accepted (map : PortMap) (room : Room) : Stream :=
  { map, buffer := room.copying, forward := .opening, serving := .pending, dialed := none,
    fromClient := .empty room.fromClient, outbound := .empty room.outbound,
    toService := .empty room.toService, fromService := .empty room.fromService,
    inbound := .empty room.inbound, toClient := .empty room.toClient }

/-- Either copier of a `copy_bidirectional` when it starts. -/
def Stream.copier (stream : Stream) : Copier UInt8 := Copier.fresh stream.buffer

/-- What the stream opens with. -/
def Stream.header (stream : Stream) : Bytes := writeTargetPort [] stream.map.remotePort

/-- What happens to a stream: something that the local client or the local service
does, or the next step of one of the two tasks. -/
inductive Event where
  | clientPuts (bytes : Bytes)
  | clientEnds (ending : Ending)
  | clientTakes (count : Nat)
  | servicePuts (bytes : Bytes)
  | serviceEnds (ending : Ending)
  | serviceTakes (count : Nat)
  | openBi
  | writePort (count : Nat)
  | forwardUp (step : CopyStep)
  | forwardDown (step : CopyStep)
  | forwardReturns
  | forwardFails (outward inward : Ending)
  | acceptBi
  | readPort (count : Nat)
  | check
  | connect
  | serveUp (step : CopyStep)
  | serveDown (step : CopyStep)
  | serveReturns
  | serveFails (outward inward : Ending)

/-- The events that need the connection. -/
def Event.usesLink : Event → Bool
  | .openBi | .writePort _ | .acceptBi | .readPort _ => true
  | .forwardUp step | .serveDown step => !step.fetches
  | .forwardDown step | .serveUp step => step.fetches
  | _ => false

/-- The events of `forward_tcp` and of the client. -/
def forwardStep (stream : Stream) (event : Event) : Option Stream :=
  match event, stream.forward with
  | .clientPuts bytes, _ =>
      (stream.fromClient.put bytes).map (fun fromClient => { stream with fromClient })
  | .clientEnds ending, _ => some { stream with fromClient := stream.fromClient.giveUp ending }
  | .clientTakes count, _ =>
      (stream.toClient.take count).map (fun (_, toClient) => { stream with toClient })
  | .openBi, .opening => some { stream with forward := .naming stream.header }
  | .writePort count, .naming rest =>
      (stream.outbound.put (rest.take count)).map (fun outbound =>
        { stream with
          outbound,
          forward :=
            if (rest.drop count).isEmpty then .copying stream.copier stream.copier
            else .naming (rest.drop count) })
  | .forwardUp step, .copying up down =>
      (up.step stream.fromClient stream.outbound step).map (fun (up, fromClient, outbound) =>
        { stream with forward := .copying up down, fromClient, outbound })
  | .forwardDown step, .copying up down =>
      (down.step stream.inbound stream.toClient step).map (fun (down, inbound, toClient) =>
        { stream with forward := .copying up down, inbound, toClient })
  | .forwardReturns, .copying up down =>
      if up.done && down.done then some { stream with forward := .returned true } else none
  | .forwardFails _ _, .returned _ => none
  | .forwardFails _ inward, .opening =>
      some { stream with forward := .returned false, toClient := stream.toClient.giveUp inward }
  | .forwardFails outward inward, _ =>
      some { stream with
        forward := .returned false, outbound := stream.outbound.giveUp outward,
        toClient := stream.toClient.giveUp inward }
  | _, _ => none

/-- The events of `serve_stream` and of the service. A stream shows up at the far
end with its first byte, or with its end. -/
def serveStep (peer : EndpointId) (config : Config) (stream : Stream) (event : Event) :
    Option Stream :=
  match event, stream.serving with
  | .servicePuts bytes, _ =>
      if stream.dialed.isSome then
        (stream.fromService.put bytes).map (fun fromService => { stream with fromService })
      else none
  | .serviceEnds ending, _ =>
      if stream.dialed.isSome then
        some { stream with fromService := stream.fromService.giveUp ending }
      else none
  | .serviceTakes count, _ =>
      (stream.toService.take count).map (fun (_, toService) => { stream with toService })
  | .acceptBi, .pending =>
      if stream.outbound.written.isEmpty && stream.outbound.ending.isNone then none
      else some { stream with serving := .reading [] }
  | .readPort count, .reading bytes =>
      if bytes.length + count ≤ 2 then
        (stream.outbound.take count).map (fun (taken, outbound) =>
          { stream with
            outbound,
            serving :=
              match readTargetPort (bytes ++ taken) with
              | none => .reading (bytes ++ taken)
              | some (port, _) => .named port })
      else none
  | .check, .named port =>
      if config.reaches peer .tcp port then
        some { stream with serving := .connecting port config }
      else
        -- Both halves are reset, so that the far side fails at once.
        some { stream with serving := .returned true, inbound := stream.inbound.giveUp .reset }
  | .connect, .connecting port consulted =>
      some { stream with
        serving := .copying stream.copier stream.copier, dialed := some { port, consulted } }
  | .serveUp step, .copying up down =>
      (up.step stream.outbound stream.toService step).map (fun (up, outbound, toService) =>
        { stream with serving := .copying up down, outbound, toService })
  | .serveDown step, .copying up down =>
      (down.step stream.fromService stream.inbound step).map (fun (down, fromService, inbound) =>
        { stream with serving := .copying up down, fromService, inbound })
  | .serveReturns, .copying up down =>
      if up.done && down.done then some { stream with serving := .returned true } else none
  | .serveFails _ _, .pending | .serveFails _ _, .returned _ => none
  | .serveFails outward inward, .copying _ _ =>
      some { stream with
        serving := .returned false, toService := stream.toService.giveUp outward,
        inbound := stream.inbound.giveUp inward }
  | .serveFails _ inward, _ =>
      some { stream with serving := .returned false, inbound := stream.inbound.giveUp inward }
  | _, _ => none

/-- The event is one of the connecting side. -/
def Event.isForward : Event → Bool
  | .clientPuts _ | .clientEnds _ | .clientTakes _ | .openBi | .writePort _ | .forwardUp _
  | .forwardDown _ | .forwardReturns | .forwardFails _ _ => true
  | _ => false

def streamStep (peer : EndpointId) (config : Config) (linkUp : Bool) (stream : Stream)
    (event : Event) : Option Stream :=
  if event.usesLink && !linkUp then none
  else if event.isForward then forwardStep stream event
  else serveStep peer config stream event

/-- The connection, and its streams in the order in which they were accepted. -/
structure State where
  channel : Watch.Channel Config
  linkUp : Bool
  streams : List Stream
deriving DecidableEq

inductive Action where
  | publish (config : Config)
  | lose
  | accept (map : PortMap) (room : Room)
  | move (index : Nat) (event : Event)

def step (peer : EndpointId) (state : State) : Action → Option State
  | .publish config => some { state with channel := state.channel.sendReplace config }
  | .lose => some { state with linkUp := false }
  | .accept map room =>
      some { state with streams := state.streams ++ [Stream.accepted map room] }
  | .move index event =>
      match state.streams[index]? with
      | none => none
      | some stream =>
          (streamStep peer state.channel.value state.linkUp stream event).map (fun stream =>
            { state with streams := state.streams.set index stream })

/-- What an event does to a stream. -/
inductive Moves (peer : EndpointId) (config : Config) (stream : Stream) : Event → Stream → Prop where
  | clientPut (bytes : Bytes) (fromClient : Pipe UInt8)
      (put : stream.fromClient.put bytes = some fromClient) :
      Moves peer config stream (.clientPuts bytes) { stream with fromClient }
  | clientEnded (ending : Ending) :
      Moves peer config stream (.clientEnds ending)
        { stream with fromClient := stream.fromClient.giveUp ending }
  | clientTook (count : Nat) (bytes : Bytes) (toClient : Pipe UInt8)
      (took : stream.toClient.take count = some (bytes, toClient)) :
      Moves peer config stream (.clientTakes count) { stream with toClient }
  | servicePut (bytes : Bytes) (fromService : Pipe UInt8) (dialed : stream.dialed.isSome = true)
      (put : stream.fromService.put bytes = some fromService) :
      Moves peer config stream (.servicePuts bytes) { stream with fromService }
  | serviceEnded (ending : Ending) (dialed : stream.dialed.isSome = true) :
      Moves peer config stream (.serviceEnds ending)
        { stream with fromService := stream.fromService.giveUp ending }
  | serviceTook (count : Nat) (bytes : Bytes) (toService : Pipe UInt8)
      (took : stream.toService.take count = some (bytes, toService)) :
      Moves peer config stream (.serviceTakes count) { stream with toService }
  | opened (opening : stream.forward = .opening) :
      Moves peer config stream .openBi { stream with forward := .naming stream.header }
  | wrotePort (count : Nat) (rest : Bytes) (outbound : Pipe UInt8)
      (naming : stream.forward = .naming rest)
      (put : stream.outbound.put (rest.take count) = some outbound) :
      Moves peer config stream (.writePort count)
        { stream with
          outbound,
          forward :=
            if (rest.drop count).isEmpty then .copying stream.copier stream.copier
            else .naming (rest.drop count) }
  | forwardedUp (step : CopyStep) (up down up' : Copier UInt8) (fromClient outbound : Pipe UInt8)
      (copying : stream.forward = .copying up down)
      (taken : up.step stream.fromClient stream.outbound step = some (up', fromClient, outbound)) :
      Moves peer config stream (.forwardUp step)
        { stream with forward := .copying up' down, fromClient, outbound }
  | forwardedDown (step : CopyStep) (up down down' : Copier UInt8) (inbound toClient : Pipe UInt8)
      (copying : stream.forward = .copying up down)
      (taken : down.step stream.inbound stream.toClient step = some (down', inbound, toClient)) :
      Moves peer config stream (.forwardDown step)
        { stream with forward := .copying up down', inbound, toClient }
  | forwardReturned (up down : Copier UInt8) (copying : stream.forward = .copying up down)
      (upDone : up.done = true) (downDone : down.done = true) :
      Moves peer config stream .forwardReturns { stream with forward := .returned true }
  | forwardFailed (outward inward : Ending) (outbound : Pipe UInt8)
      (gaveUp : outbound = stream.outbound ∧ stream.forward = .opening ∨
        outbound = stream.outbound.giveUp outward) :
      Moves peer config stream (.forwardFails outward inward)
        { stream with
          forward := .returned false, outbound, toClient := stream.toClient.giveUp inward }
  | accepted (pending : stream.serving = .pending) :
      Moves peer config stream .acceptBi { stream with serving := .reading [] }
  | readPort (count : Nat) (bytes taken : Bytes) (outbound : Pipe UInt8)
      (reading : stream.serving = .reading bytes)
      (few : bytes.length + count ≤ 2)
      (took : stream.outbound.take count = some (taken, outbound)) :
      Moves peer config stream (.readPort count)
        { stream with
          outbound,
          serving :=
            match readTargetPort (bytes ++ taken) with
            | none => .reading (bytes ++ taken)
            | some (port, _) => .named port }
  | granted (port : UInt16) (named : stream.serving = .named port)
      (reaches : config.reaches peer .tcp port = true) :
      Moves peer config stream .check { stream with serving := .connecting port config }
  | refused (port : UInt16) (named : stream.serving = .named port)
      (reaches : config.reaches peer .tcp port = false) :
      Moves peer config stream .check
        { stream with serving := .returned true, inbound := stream.inbound.giveUp .reset }
  | connected (port : UInt16) (consulted : Config)
      (connecting : stream.serving = .connecting port consulted) :
      Moves peer config stream .connect
        { stream with
          serving := .copying stream.copier stream.copier, dialed := some { port, consulted } }
  | servedUp (step : CopyStep) (up down up' : Copier UInt8) (outbound toService : Pipe UInt8)
      (copying : stream.serving = .copying up down)
      (taken : up.step stream.outbound stream.toService step = some (up', outbound, toService)) :
      Moves peer config stream (.serveUp step)
        { stream with serving := .copying up' down, outbound, toService }
  | servedDown (step : CopyStep) (up down down' : Copier UInt8) (fromService inbound : Pipe UInt8)
      (copying : stream.serving = .copying up down)
      (taken : down.step stream.fromService stream.inbound step =
        some (down', fromService, inbound)) :
      Moves peer config stream (.serveDown step)
        { stream with serving := .copying up down', fromService, inbound }
  | serveReturned (up down : Copier UInt8) (copying : stream.serving = .copying up down)
      (upDone : up.done = true) (downDone : down.done = true) :
      Moves peer config stream .serveReturns { stream with serving := .returned true }
  | serveFailed (outward inward : Ending) (toService : Pipe UInt8)
      (gaveUp : toService = stream.toService ∨
        toService = stream.toService.giveUp outward ∧
          ∃ up down, stream.serving = .copying up down) :
      Moves peer config stream (.serveFails outward inward)
        { stream with
          serving := .returned false, toService, inbound := stream.inbound.giveUp inward }

/-- A connection that has just been established. -/
def initial (channel : Watch.Channel Config) : State := { channel, linkUp := true, streams := [] }

/-- The events of the connecting side are moves: one constructor for each branch
of `forwardStep`, with what the branch has checked. -/
theorem forwardStep_moves (peer : EndpointId) (config : Config) (stream next : Stream)
    (event : Event) (taken : forwardStep stream event = some next) :
    Moves peer config stream event next := by
  unfold forwardStep at taken
  split at taken
  · obtain ⟨fromClient, put, rfl⟩ := Option.map_eq_some_iff.mp taken
    exact .clientPut _ fromClient put
  · cases taken
    exact .clientEnded _
  · obtain ⟨⟨bytes, toClient⟩, took, rfl⟩ := Option.map_eq_some_iff.mp taken
    exact .clientTook _ bytes toClient took
  · rename_i opening
    cases taken
    exact .opened opening
  · rename_i count rest naming
    obtain ⟨outbound, put, rfl⟩ := Option.map_eq_some_iff.mp taken
    exact .wrotePort count rest outbound naming put
  · rename_i action up down copying
    obtain ⟨⟨up', fromClient, outbound⟩, moved, rfl⟩ := Option.map_eq_some_iff.mp taken
    exact .forwardedUp action up down up' fromClient outbound copying moved
  · rename_i action up down copying
    obtain ⟨⟨down', inbound, toClient⟩, moved, rfl⟩ := Option.map_eq_some_iff.mp taken
    exact .forwardedDown action up down down' inbound toClient copying moved
  · rename_i up down copying
    simp only [Option.ite_none_right_eq_some, Bool.and_eq_true, Option.some.injEq] at taken
    obtain ⟨⟨upDone, downDone⟩, rfl⟩ := taken
    exact .forwardReturned up down copying upDone downDone
  · cases taken
  · rename_i opening
    cases taken
    exact .forwardFailed _ _ _ (Or.inl ⟨rfl, opening⟩)
  · cases taken
    exact .forwardFailed _ _ _ (Or.inr rfl)
  · cases taken

/-- So are those of the serving side. The configuration enters at the check of the
port alone. -/
theorem serveStep_moves (peer : EndpointId) (config : Config) (stream next : Stream)
    (event : Event) (taken : serveStep peer config stream event = some next) :
    Moves peer config stream event next := by
  unfold serveStep at taken
  split at taken
  · simp only [Option.ite_none_right_eq_some] at taken
    obtain ⟨dialed, taken⟩ := taken
    obtain ⟨fromService, put, rfl⟩ := Option.map_eq_some_iff.mp taken
    exact .servicePut _ fromService dialed put
  · simp only [Option.ite_none_right_eq_some, Option.some.injEq] at taken
    obtain ⟨dialed, rfl⟩ := taken
    exact .serviceEnded _ dialed
  · obtain ⟨⟨bytes, toService⟩, took, rfl⟩ := Option.map_eq_some_iff.mp taken
    exact .serviceTook _ bytes toService took
  · rename_i pending
    simp only [Option.ite_none_left_eq_some, Option.some.injEq] at taken
    obtain ⟨_, rfl⟩ := taken
    exact .accepted pending
  · rename_i count bytes reading
    simp only [Option.ite_none_right_eq_some] at taken
    obtain ⟨few, taken⟩ := taken
    obtain ⟨⟨read, outbound⟩, took, rfl⟩ := Option.map_eq_some_iff.mp taken
    exact .readPort count bytes read outbound reading few took
  · rename_i port named
    split at taken
    · rename_i reaches
      cases taken
      exact .granted port named reaches
    · rename_i reaches
      cases taken
      exact .refused port named (Bool.not_eq_true _ ▸ reaches)
  · rename_i port consulted connecting
    cases taken
    exact .connected port consulted connecting
  · rename_i action up down copying
    obtain ⟨⟨up', outbound, toService⟩, moved, rfl⟩ := Option.map_eq_some_iff.mp taken
    exact .servedUp action up down up' outbound toService copying moved
  · rename_i action up down copying
    obtain ⟨⟨down', fromService, inbound⟩, moved, rfl⟩ := Option.map_eq_some_iff.mp taken
    exact .servedDown action up down down' fromService inbound copying moved
  · rename_i up down copying
    simp only [Option.ite_none_right_eq_some, Bool.and_eq_true, Option.some.injEq] at taken
    obtain ⟨⟨upDone, downDone⟩, rfl⟩ := taken
    exact .serveReturned up down copying upDone downDone
  · cases taken
  · cases taken
  · rename_i up down copying
    cases taken
    exact .serveFailed _ _ _ (Or.inr ⟨rfl, up, down, copying⟩)
  · cases taken
    exact .serveFailed _ _ _ (Or.inl rfl)
  · cases taken

/-- Every event of a stream is one of these. This is the inversion lemma of the
streams: the invariants of both ends are proved by cases on `Moves`, without
unfolding `streamStep` again. -/
theorem streamStep_moves {peer : EndpointId} {config : Config} {linkUp : Bool}
    {stream next : Stream} {event : Event}
    (taken : streamStep peer config linkUp stream event = some next) :
    Moves peer config stream event next := by
  unfold streamStep at taken
  split at taken
  · cases taken
  · split at taken
    · exact forwardStep_moves peer config stream next event taken
    · exact serveStep_moves peer config stream next event taken

/-- What a step does to the streams: none changes, one is new, or one makes a
move. -/
inductive Effect (peer : EndpointId) (state : State) : Action → State → Prop where
  | quiet (action : Action) (next : State) (streams : next.streams = state.streams) :
      Effect peer state action next
  | accepted (map : PortMap) (room : Room) :
      Effect peer state (.accept map room)
        { state with streams := state.streams ++ [Stream.accepted map room] }
  | moved (index : Nat) (event : Event) (stream after : Stream)
      (present : state.streams[index]? = some stream)
      (moves : Moves peer state.channel.value stream event after) :
      Effect peer state (.move index event) { state with streams := state.streams.set index after }

/-- A step of the connection changes one stream at most, and that one by a
move. -/
theorem step_effect {peer : EndpointId} {state next : State} {action : Action}
    (taken : step peer state action = some next) : Effect peer state action next := by
  cases action with
  | publish config =>
    cases taken
    exact .quiet _ _ rfl
  | lose =>
    cases taken
    exact .quiet _ _ rfl
  | accept map room =>
    cases taken
    exact .accepted map room
  | move index event =>
    simp only [step] at taken
    split at taken
    · cases taken
    · rename_i stream present
      obtain ⟨after, moved, rfl⟩ := Option.map_eq_some_iff.mp taken
      exact .moved index event stream after present (streamStep_moves moved)

end Rtun.Tcp
