import Rtun.Tcp.Stream

/-!
# What a stream carries

The two tasks of a stream see each other only through the two pipes of the connection.
So the invariant of a stream has a half for each task, and a move of one task leaves the
half of the other alone. From the two halves together follows what the ends see: each is
given the beginning of what the other has put in, on the port that the map names.
-/

namespace Rtun.Tcp

open Framing Run

/-- Both copiers of `forward_tcp` at work. -/
structure Forwarding (stream : Stream) (up down : Copier UInt8) : Prop where
  up : Copies 0 stream.header stream.fromClient stream.outbound up
  down : Copies 0 [] stream.inbound stream.toClient down

/-- This much of the port is still to be written, and nothing has been copied. -/
structure Naming (stream : Stream) (rest : Bytes) : Prop where
  content : stream.outbound.written ++ rest = stream.header
  unended : stream.outbound.ending = none
  unread : stream.fromClient.received = []
  unanswered : stream.inbound.received = []
  silent : stream.toClient.written = []
  unclosed : stream.toClient.ending = none

/-- What holds of the pipes where `forward_tcp` is. -/
def Forward.Sound (stream : Stream) : Forward → Prop
  | .opening => Naming stream stream.header
  | .naming rest => Naming stream rest
  | .copying up down => Forwarding stream up down
  | .returned succeeded =>
      succeeded = true → ∃ up down, Forwarding stream up down ∧ up.done = true ∧ down.done = true

/-- What holds where `forward_tcp` is goes over to a stream that is like this one
in each of the places. -/
theorem Forward.Sound.imp {before after : Stream} {here : Forward} (sound : here.Sound before)
    (map : after.map = before.map) (naming : ∀ rest, Naming before rest → Naming after rest)
    (forwarding : ∀ up down, Forwarding before up down → Forwarding after up down) :
    here.Sound after := by
  cases here with
  | opening =>
    have same : after.header = before.header := by rw [Stream.header, map, Stream.header]
    rw [Forward.Sound, same]
    exact naming before.header sound
  | naming rest => exact naming rest sound
  | copying up down => exact forwarding up down sound
  | returned succeeded =>
    intro success
    obtain ⟨up, down, both, upDone, downDone⟩ := sound success
    exact ⟨up, down, forwarding up down both, upDone, downDone⟩

/-- The half of the connecting side. -/
structure NearSound (stream : Stream) : Prop where
  forward : stream.forward.Sound stream
  outbound : Relayed 0 stream.header stream.fromClient stream.outbound
  toClient : Relayed 0 [] stream.inbound stream.toClient

/-- What the connecting side sees of a move of the serving side. -/
structure NearFrame (before after : Stream) : Prop where
  map : after.map = before.map
  forward : after.forward = before.forward
  fromClient : after.fromClient = before.fromClient
  toClient : after.toClient = before.toClient
  outbound : before.outbound.TakenFrom after.outbound
  inbound : before.inbound.WrittenTo after.inbound

/-- What is written of the port is not disturbed by the serving side, which only
reads it. -/
theorem Naming.frame {stream next : Stream} {rest : Bytes} (naming : Naming stream rest)
    (frame : NearFrame stream next) : Naming next rest := by
  refine ⟨?_, frame.outbound.ending.trans naming.unended, ?_,
    frame.inbound.received.trans naming.unanswered, ?_, ?_⟩
  · rw [frame.outbound.written, Stream.header, frame.map]
    exact naming.content
  · rw [frame.fromClient]
    exact naming.unread
  · rw [frame.toClient]
    exact naming.silent
  · rw [frame.toClient]
    exact naming.unclosed

/-- Nor are the two copiers of `forward_tcp`: they see the other side take from
the one pipe and write to the other. -/
theorem Forwarding.frame {stream next : Stream} {up down : Copier UInt8}
    (forwarding : Forwarding stream up down) (frame : NearFrame stream next) :
    Forwarding next up down := by
  constructor
  · rw [Stream.header, frame.map, frame.fromClient]
    exact forwarding.up.target_taken frame.outbound
  · rw [frame.toClient]
    exact forwarding.down.source_written frame.inbound

/-- The moves of the serving side leave the near half alone. They may take
from the outbound pipe and write to the inbound one, and the near half allows
for both. -/
theorem NearSound.frame {stream next : Stream} (sound : NearSound stream)
    (frame : NearFrame stream next) : NearSound next := by
  refine ⟨?_, ?_, ?_⟩
  · rw [frame.forward]
    exact sound.forward.imp frame.map (fun _ naming => naming.frame frame)
      (fun _ _ forwarding => forwarding.frame frame)
  · rw [Relayed, frame.outbound.written, Stream.header, frame.map, frame.fromClient]
    exact sound.outbound
  · rw [Relayed, frame.toClient, frame.inbound.received]
    exact sound.toClient

/-- Both copiers of `serve_stream` at work, on the port that was read first. -/
structure Served (stream : Stream) (up down : Copier UInt8) : Prop where
  up : Copies 2 [] stream.outbound stream.toService up
  down : Copies 0 [] stream.fromService stream.inbound down

/-- Before a connection to the local port is made, nothing is passed on in either
direction. -/
structure Unserved (stream : Stream) : Prop where
  undialed : stream.dialed = none
  unanswered : stream.inbound.ending = none

/-- What holds of the pipes where `serve_stream` is. -/
def Serving.Sound (peer : EndpointId) (stream : Stream) : Serving → Prop
  | .pending => stream.outbound.received = [] ∧ Unserved stream
  | .reading bytes => stream.outbound.received = bytes ∧ Unserved stream
  | .named port => stream.outbound.received = toBeBytes16 port ∧ Unserved stream
  | .connecting port consulted =>
      (stream.outbound.received = toBeBytes16 port ∧ Unserved stream) ∧
        consulted.reaches peer .tcp port = true
  | .copying up down => stream.dialed.isSome = true ∧ Served stream up down
  | .returned succeeded =>
      succeeded = true → stream.dialed = none ∧ stream.inbound.ending = some .reset ∨
        ∃ up down, Served stream up down ∧ up.done = true ∧ down.done = true

/-- What holds where `serve_stream` is goes over to a stream that is like this one
in each of the places. -/
theorem Serving.Sound.imp {peer : EndpointId} {before after : Stream} {here : Serving}
    (sound : here.Sound peer before) (dialed : after.dialed = before.dialed)
    (outbound : after.outbound.received = before.outbound.received)
    (inbound : after.inbound.ending = before.inbound.ending)
    (served : ∀ up down, Served before up down → Served after up down) : here.Sound peer after := by
  have unserved (before : Unserved before) : Unserved after :=
    ⟨dialed.trans before.undialed, inbound.trans before.unanswered⟩
  cases here with
  | pending | reading _ | named _ => exact ⟨outbound.trans sound.1, unserved sound.2⟩
  | connecting port consulted =>
    exact ⟨⟨outbound.trans sound.1.1, unserved sound.1.2⟩, sound.2⟩
  | copying up down => exact ⟨dialed ▸ sound.1, served up down sound.2⟩
  | returned succeeded =>
    intro success
    rcases sound success with ⟨undialed, reset⟩ | ⟨up, down, both, upDone, downDone⟩
    · exact Or.inl ⟨dialed.trans undialed, inbound.trans reset⟩
    · exact Or.inr ⟨up, down, served up down both, upDone, downDone⟩

/-- The half of the serving side. -/
structure FarSound (peer : EndpointId) (stream : Stream) : Prop where
  serving : stream.serving.Sound peer stream
  toService : Relayed 2 [] stream.outbound stream.toService
  inbound : Relayed 0 [] stream.fromService stream.inbound
  dialed : ∀ dial, stream.dialed = some dial →
    toBeBytes16 dial.port <+: stream.outbound.received ∧
      dial.consulted.reaches peer .tcp dial.port = true
  undialed : stream.dialed = none →
    (stream.toService.written = [] ∧ stream.toService.ending = none) ∧
      stream.fromService.received = []

/-- What the serving side sees of a move of the connecting side. -/
structure FarFrame (before after : Stream) : Prop where
  serving : after.serving = before.serving
  dialed : after.dialed = before.dialed
  toService : after.toService = before.toService
  fromService : after.fromService = before.fromService
  outbound : before.outbound.WrittenTo after.outbound
  inbound : before.inbound.TakenFrom after.inbound

/-- And so it is for the copiers of `serve_stream`, the other way round: what the
connecting side puts in comes after what they have taken. -/
theorem Served.frame {stream next : Stream} {up down : Copier UInt8}
    (served : Served stream up down) (frame : FarFrame stream next) : Served next up down := by
  constructor
  · rw [frame.toService]
    exact served.up.source_written frame.outbound
  · rw [frame.fromService]
    exact served.down.target_taken frame.inbound

/-- The moves of the connecting side leave the far half alone, whatever
`serve_stream` is at: reading the port, connecting or copying. -/
theorem FarSound.frame {peer : EndpointId} {stream next : Stream} (sound : FarSound peer stream)
    (frame : FarFrame stream next) : FarSound peer next := by
  refine ⟨?_, ?_, ?_, ?_, ?_⟩
  · rw [frame.serving]
    exact sound.serving.imp frame.dialed frame.outbound.received frame.inbound.ending
      (fun _ _ served => served.frame frame)
  · rw [Relayed, frame.toService, frame.outbound.received]
    exact sound.toService
  · rw [Relayed, frame.inbound.written, frame.fromService]
    exact sound.inbound
  · rw [frame.dialed, frame.outbound.received]
    exact sound.dialed
  · rw [frame.dialed, frame.toService, frame.fromService]
    exact sound.undialed

/-- A stream that has just been accepted: nothing was written to it, and the port
is the first thing that will be. -/
theorem nearSound_accepted (map : PortMap) (room : Room) : NearSound (Stream.accepted map room) :=
  ⟨⟨rfl, rfl, rfl, rfl, rfl, rfl⟩, List.nil_prefix, List.nil_prefix⟩

/-- Of a stream that has just been accepted the serving side knows nothing yet,
and its service has not been dialed. -/
theorem farSound_accepted (peer : EndpointId) (map : PortMap) (room : Room) :
    FarSound peer (Stream.accepted map room) := by
  refine ⟨⟨rfl, rfl, rfl⟩, List.nil_prefix, List.nil_prefix, ?_, fun _ => ⟨⟨rfl, rfl⟩, rfl⟩⟩
  intro dial made
  cases made

/-- The client writes, ends and reads as it likes. It touches the two pipes at its
own end, and these only as a writer and a reader may. -/
theorem NearSound.client {stream : Stream} (sound : NearSound stream) {fromClient toClient : Pipe UInt8}
    (put : stream.fromClient.WrittenTo fromClient) (took : stream.toClient.TakenFrom toClient) :
    NearSound { stream with fromClient, toClient } := by
  refine ⟨?_, ?_, ?_⟩
  · refine sound.forward.imp rfl ?_ ?_
    · intro rest naming
      exact ⟨naming.content, naming.unended, put.received.trans naming.unread, naming.unanswered,
        took.written.trans naming.silent, took.ending.trans naming.unclosed⟩
    · intro up down forwarding
      exact ⟨forwarding.up.source_written put, forwarding.down.target_taken took⟩
  · rw [Relayed, put.received]
    exact sound.outbound
  · rw [Relayed, took.written]
    exact sound.toClient

/-- So does the service, at the other end of the stream, and nothing of what the
two sides agree on depends on what it sends. -/
theorem FarSound.service {peer : EndpointId} {stream : Stream} (sound : FarSound peer stream)
    {fromService toService : Pipe UInt8} (put : stream.fromService.WrittenTo fromService)
    (took : stream.toService.TakenFrom toService) :
    FarSound peer { stream with fromService, toService } := by
  refine ⟨?_, ?_, ?_, sound.dialed, ?_⟩
  · refine sound.serving.imp rfl rfl rfl ?_
    intro up down both
    exact ⟨both.up.target_taken took, both.down.source_written put⟩
  · rw [Relayed, took.written]
    exact sound.toService
  · rw [Relayed, put.received]
    exact sound.inbound
  · intro undialed
    obtain ⟨⟨nothing, unended⟩, silent⟩ := sound.undialed undialed
    exact ⟨⟨took.written.trans nothing, took.ending.trans unended⟩, put.received.trans silent⟩

/-- Writing some of the port keeps to the header, and when all of it is written
both copiers start on pipes through which nothing else has gone. -/
theorem NearSound.wrotePort {stream : Stream} (sound : NearSound stream) {count : Nat} {rest : Bytes}
    {outbound : Pipe UInt8} (naming : stream.forward = .naming rest)
    (put : stream.outbound.put (rest.take count) = some outbound) :
    NearSound
      { stream with
        outbound,
        forward :=
          if (rest.drop count).isEmpty then .copying stream.copier stream.copier
          else .naming (rest.drop count) } := by
  have forward := sound.forward
  rw [naming] at forward
  obtain ⟨⟨unended, _⟩, rfl⟩ := (Pipe.put_some_iff stream.outbound outbound _).mp put
  have content : stream.outbound.received ++ (stream.outbound.unread ++ rest.take count) ++
      rest.drop count = stream.header := by
    rw [List.append_assoc, List.append_assoc, List.take_append_drop, ← List.append_assoc]
    exact forward.content
  refine ⟨?_, List.IsPrefix.trans ⟨_, content⟩ (List.prefix_append _ _), sound.toClient⟩
  dsimp only
  split
  · rename_i isWhole
    rw [List.isEmpty_iff.mp isWhole, List.append_nil] at content
    constructor
    · exact Copies.fresh (congrArg List.length forward.unread) content unended
    · exact Copies.fresh (congrArg List.length forward.unanswered) forward.silent forward.unclosed
  · exact ⟨content, unended, forward.unread, forward.unanswered, forward.silent, forward.unclosed⟩

/-- A move of the connecting side keeps its half, and the serving side sees no
more of it than a frame allows. -/
theorem near_move {peer : EndpointId} {config : Config} {stream next : Stream} {event : Event}
    (moves : Moves peer config stream event next) (own : event.isForward = true)
    (sound : NearSound stream) : NearSound next ∧ FarFrame stream next := by
  have forward := sound.forward
  have still : FarFrame stream stream := ⟨rfl, rfl, rfl, rfl, .refl _, .refl _⟩
  cases moves with
  | clientPut bytes fromClient put =>
    exact ⟨sound.client (Pipe.writtenTo_of_put put) (.refl _), { still with }⟩
  | clientEnded ending =>
    exact ⟨sound.client (stream.fromClient.writtenTo_giveUp ending) (.refl _), { still with }⟩
  | clientTook count bytes toClient took =>
    exact ⟨sound.client (.refl _) (Pipe.takenFrom_of_take took), { still with }⟩
  | opened opening =>
    rw [opening] at forward
    exact ⟨⟨{ forward with }, sound.outbound, sound.toClient⟩, { still with }⟩
  | wrotePort count rest outbound naming put =>
    exact ⟨sound.wrotePort naming put, { still with outbound := Pipe.writtenTo_of_put put }⟩
  | forwardedUp action up down up' fromClient outbound copying taken =>
    rw [copying] at forward
    have moved : Copies 0 stream.header fromClient outbound up' := forward.up.step taken
    exact ⟨⟨⟨moved, forward.down⟩, moved.relayed, sound.toClient⟩,
      { still with outbound := (Copier.step_sides taken).2 }⟩
  | forwardedDown action up down down' inbound toClient copying taken =>
    rw [copying] at forward
    have moved : Copies 0 [] inbound toClient down' := forward.down.step taken
    exact ⟨⟨⟨forward.up, moved⟩, sound.outbound, moved.relayed⟩,
      { still with inbound := (Copier.step_sides taken).1 }⟩
  | forwardReturned up down copying upDone downDone =>
    rw [copying] at forward
    exact ⟨⟨fun _ => ⟨up, down, { forward with }, upDone, downDone⟩, sound.outbound, sound.toClient⟩,
      { still with }⟩
  | forwardFailed outward inward outbound gaveUp =>
    have given : stream.outbound.WrittenTo outbound ∧ outbound.written = stream.outbound.written := by
      rcases gaveUp with ⟨rfl, _⟩ | rfl
      · exact ⟨.refl _, rfl⟩
      · exact ⟨stream.outbound.writtenTo_giveUp outward, rfl⟩
    refine ⟨⟨fun impossible => (by cases impossible), ?_, sound.toClient⟩,
      { still with outbound := given.1 }⟩
    rw [Relayed, given.2]
    exact sound.outbound
  | _ => cases own

/-- What has been read of the port is what has been taken from the connection, and
once it is whole it is the port. -/
theorem FarSound.readPort {peer : EndpointId} {stream : Stream} (sound : FarSound peer stream)
    {count : Nat} {bytes read : Bytes} {outbound : Pipe UInt8}
    (reading : stream.serving = .reading bytes) (few : bytes.length + count ≤ 2)
    (took : stream.outbound.take count = some (read, outbound)) :
    FarSound peer
      { stream with
        outbound,
        serving :=
          match readTargetPort (bytes ++ read) with
          | none => .reading (bytes ++ read)
          | some (port, _) => .named port } := by
  have serving := sound.serving
  rw [reading] at serving
  obtain ⟨received, unserved⟩ := serving
  have now : outbound.received = bytes ++ read ∧ read.length ≤ count := by
    obtain ⟨_, rfl, rfl⟩ := (Pipe.take_some_iff stream.outbound outbound count read).mp took
    exact ⟨congrArg (· ++ _) received, List.length_take_le _ _⟩
  refine ⟨?_, sound.toService.source_taken (Pipe.takenFrom_of_take took), sound.inbound, ?_,
    sound.undialed⟩
  · dsimp only
    split
    · exact ⟨now.1, unserved.undialed, unserved.unanswered⟩
    · rename_i port rest isPort
      have whole := (readTargetPort_some_iff _ rest port).mp isPort
      have noRest : rest = [] := by
        have length := congrArg List.length whole
        simp only [List.length_append, toBeBytes16, List.length_cons, List.length_nil] at length
        exact List.eq_nil_of_length_eq_zero (by omega)
      rw [noRest, List.append_nil] at whole
      exact ⟨now.1.trans whole, unserved.undialed, unserved.unanswered⟩
  · intro dial made
    rw [unserved.undialed] at made
    cases made

/-- The check lets the stream through with the configuration that grants its
port. -/
theorem FarSound.granted {peer : EndpointId} {config : Config} {stream : Stream}
    (sound : FarSound peer stream) {port : UInt16} (named : stream.serving = .named port)
    (reaches : config.reaches peer .tcp port = true) :
    FarSound peer { stream with serving := .connecting port config } := by
  have serving := sound.serving
  rw [named] at serving
  exact { sound with
    serving := ⟨⟨serving.1, serving.2.undialed, serving.2.unanswered⟩, reaches⟩ }

/-- Or it refuses the stream, and resets what goes back to the client. The service
was not dialed, and no byte has gone to either end. -/
theorem FarSound.refused {peer : EndpointId} {stream : Stream} (sound : FarSound peer stream)
    {port : UInt16} (named : stream.serving = .named port) :
    FarSound peer { stream with serving := .returned true, inbound := stream.inbound.giveUp .reset } := by
  have serving := sound.serving
  rw [named] at serving
  refine { sound with serving := fun _ => Or.inl ⟨serving.2.undialed, ?_⟩ }
  rw [Pipe.giveUp, serving.2.unanswered]
  rfl

/-- Both copiers start on pipes through which nothing but the port has gone, so
what the service is given begins with the first byte of the client. -/
theorem FarSound.connected {peer : EndpointId} {stream : Stream} (sound : FarSound peer stream)
    {port : UInt16} {consulted : Config} (connecting : stream.serving = .connecting port consulted) :
    FarSound peer
      { stream with
        serving := .copying stream.copier stream.copier, dialed := some { port, consulted } } := by
  have serving := sound.serving
  rw [connecting] at serving
  obtain ⟨⟨received, unserved⟩, reaches⟩ := serving
  obtain ⟨⟨nothing, unended⟩, silent⟩ := sound.undialed unserved.undialed
  have unanswered : stream.inbound.written = [] := by
    have relayed := sound.inbound
    rw [Relayed, silent] at relayed
    exact List.prefix_nil.mp relayed
  refine ⟨⟨rfl, ?_, ?_⟩, sound.toService, sound.inbound, ?_, fun isNone => by cases isNone⟩
  · exact Copies.fresh (congrArg List.length received) nothing unended
  · exact Copies.fresh (congrArg List.length silent) unanswered unserved.unanswered
  · rintro dial made
    cases made
    exact ⟨by rw [received], reaches⟩

/-- A stream that was connected to its port is dialed, and the record of it says
by which configuration the port was granted. -/
theorem FarSound.isDialed {peer : EndpointId} {stream : Stream} (sound : FarSound peer stream)
    {up down : Copier UInt8} (copying : stream.serving = .copying up down) :
    stream.dialed ≠ none := by
  have serving := sound.serving
  rw [copying] at serving
  exact Option.isSome_iff_ne_none.mp serving.1

/-- The copier towards the service keeps to its law, and takes only from what
follows the port. -/
theorem FarSound.servedUp {peer : EndpointId} {stream : Stream} (sound : FarSound peer stream)
    {action : CopyStep} {up down up' : Copier UInt8} {outbound toService : Pipe UInt8}
    (copying : stream.serving = .copying up down)
    (taken : up.step stream.outbound stream.toService action = some (up', outbound, toService)) :
    FarSound peer { stream with serving := .copying up' down, outbound, toService } := by
  have serving := sound.serving
  rw [copying] at serving
  obtain ⟨dialed, both⟩ := serving
  have moved : Copies 2 [] outbound toService up' := both.up.step taken
  refine ⟨⟨dialed, moved, both.down⟩, moved.relayed, sound.inbound, ?_,
    fun isNone => absurd isNone (sound.isDialed copying)⟩
  intro dial made
  obtain ⟨port, reaches⟩ := sound.dialed dial made
  exact ⟨port.trans (Copier.step_sides taken).1.received, reaches⟩

/-- So does the copier back from the service, whose target has no lead: the client
is given what the service sends and nothing else. -/
theorem FarSound.servedDown {peer : EndpointId} {stream : Stream} (sound : FarSound peer stream)
    {action : CopyStep} {up down down' : Copier UInt8} {fromService inbound : Pipe UInt8}
    (copying : stream.serving = .copying up down)
    (taken : down.step stream.fromService stream.inbound action = some (down', fromService, inbound)) :
    FarSound peer { stream with serving := .copying up down', fromService, inbound } := by
  have serving := sound.serving
  rw [copying] at serving
  obtain ⟨dialed, both⟩ := serving
  have moved : Copies 0 [] fromService inbound down' := both.down.step taken
  exact ⟨⟨dialed, both.up, moved⟩, sound.toService, moved.relayed, sound.dialed,
    fun isNone => absurd isNone (sound.isDialed copying)⟩

/-- A task that fails leaves what it has written, and before it has dialed there
is none. -/
theorem FarSound.failed {peer : EndpointId} {stream : Stream} (sound : FarSound peer stream)
    {outward inward : Ending} {toService : Pipe UInt8}
    (gaveUp : toService = stream.toService ∨
      toService = stream.toService.giveUp outward ∧ ∃ up down, stream.serving = .copying up down) :
    FarSound peer
      { stream with
        serving := .returned false, toService, inbound := stream.inbound.giveUp inward } := by
  refine ⟨fun impossible => (by cases impossible), ?_, sound.inbound, sound.dialed, ?_⟩
  · have same : toService.written = stream.toService.written := by
      rcases gaveUp with rfl | ⟨rfl, _⟩ <;> rfl
    rw [Relayed, same]
    exact sound.toService
  · intro isNone
    rcases gaveUp with rfl | ⟨rfl, up, down, copying⟩
    · exact sound.undialed isNone
    · exact absurd isNone (sound.isDialed copying)

/-- A move of the serving side keeps its half, and the connecting side sees no
more of it than a frame allows. -/
theorem far_move {peer : EndpointId} {config : Config} {stream next : Stream} {event : Event}
    (moves : Moves peer config stream event next) (own : event.isForward = false)
    (sound : FarSound peer stream) : FarSound peer next ∧ NearFrame stream next := by
  have still : NearFrame stream stream := ⟨rfl, rfl, rfl, rfl, .refl _, .refl _⟩
  cases moves with
  | servicePut bytes fromService dialed put =>
    exact ⟨sound.service (Pipe.writtenTo_of_put put) (.refl _), { still with }⟩
  | serviceEnded ending dialed =>
    exact ⟨sound.service (stream.fromService.writtenTo_giveUp ending) (.refl _), { still with }⟩
  | serviceTook count bytes toService took =>
    exact ⟨sound.service (.refl _) (Pipe.takenFrom_of_take took), { still with }⟩
  | accepted pending =>
    have serving := sound.serving
    rw [pending] at serving
    exact ⟨{ sound with serving := ⟨serving.1, serving.2.undialed, serving.2.unanswered⟩ },
      { still with }⟩
  | readPort count bytes read outbound reading few took =>
    exact ⟨sound.readPort reading few took, { still with outbound := Pipe.takenFrom_of_take took }⟩
  | granted port named reaches => exact ⟨sound.granted named reaches, { still with }⟩
  | refused port named reaches =>
    exact ⟨sound.refused named, { still with inbound := stream.inbound.writtenTo_giveUp .reset }⟩
  | connected port consulted connecting => exact ⟨sound.connected connecting, { still with }⟩
  | servedUp action up down up' outbound toService copying taken =>
    exact ⟨sound.servedUp copying taken, { still with outbound := (Copier.step_sides taken).1 }⟩
  | servedDown action up down down' fromService inbound copying taken =>
    exact ⟨sound.servedDown copying taken, { still with inbound := (Copier.step_sides taken).2 }⟩
  | serveReturned up down copying upDone downDone =>
    have serving := sound.serving
    rw [copying] at serving
    exact ⟨{ sound with
      serving := fun _ => Or.inr ⟨up, down, { serving.2 with }, upDone, downDone⟩ }, { still with }⟩
  | serveFailed outward inward toService gaveUp =>
    exact ⟨sound.failed gaveUp, { still with inbound := stream.inbound.writtenTo_giveUp inward }⟩
  | _ => cases own

/-- The invariant of a stream. -/
structure Sound (peer : EndpointId) (stream : Stream) : Prop where
  near : NearSound stream
  far : FarSound peer stream

/-- Every move keeps the invariant: it keeps the half of its own side and frames
the other. -/
theorem Sound.moved {peer : EndpointId} {config : Config} {stream next : Stream} {event : Event}
    (sound : Sound peer stream) (moves : Moves peer config stream event next) : Sound peer next := by
  cases own : event.isForward with
  | true =>
    obtain ⟨near, frame⟩ := near_move moves own sound.near
    exact ⟨near, sound.far.frame frame⟩
  | false =>
    obtain ⟨far, frame⟩ := far_move moves own sound.far
    exact ⟨sound.near.frame frame, far⟩

/-- The step lemma for all streams of the connection. A move changes one of them,
and the others are as they were. -/
theorem step_sound {peer : EndpointId} {state next : State} {action : Action}
    (sound : ∀ stream ∈ state.streams, Sound peer stream)
    (taken : step peer state action = some next) : ∀ stream ∈ next.streams, Sound peer stream := by
  cases step_effect taken with
  | quiet _ _ streams =>
    rw [streams]
    exact sound
  | accepted map room =>
    intro stream member
    rcases List.mem_append.mp member with before | isNew
    · exact sound stream before
    · rw [List.mem_singleton.mp isNew]
      exact ⟨nearSound_accepted map room, farSound_accepted peer map room⟩
  | moved index event stream after present moves =>
    intro other member
    rcases List.mem_or_eq_of_mem_set member with before | isNew
    · exact sound other before
    · rw [isNew]
      exact (sound stream (List.mem_of_getElem? present)).moved moves

/-- The run lemma: from the first step of a connection to its last, all its
streams are sound. The main results read off what this says of their pipes. -/
theorem run_sound {peer : EndpointId} {channel : Watch.Channel Config} {actions : List Action}
    {last : State} (reached : run (step peer) (initial channel) actions = some last) :
    ∀ stream ∈ last.streams, Sound peer stream := by
  refine invariant_of_run (step peer) (fun state => ∀ stream ∈ state.streams, Sound peer stream)
    (fun _ _ _ sound taken => step_sound sound taken) _ last actions ?_ reached
  intro stream member
  cases member

/-- The local port that is dialed is the remote port of the map: it is read from
the first two bytes, and these are the port that was written. -/
theorem Sound.port {peer : EndpointId} {stream : Stream} (sound : Sound peer stream) (dial : Dial)
    (made : stream.dialed = some dial) : dial.port = stream.map.remotePort := by
  have read : toBeBytes16 dial.port <+: stream.outbound.written :=
    (sound.far.dialed dial made).1.trans stream.outbound.received_prefix
  have written : toBeBytes16 dial.port <+: stream.header ++ stream.fromClient.received :=
    read.trans sound.near.outbound
  have same : toBeBytes16 dial.port = toBeBytes16 stream.map.remotePort :=
    (List.prefix_of_prefix_length_le written (List.prefix_append stream.header _)
      (Nat.le_refl 2)).eq_of_length rfl
  rw [← fromBeBytes_toBeBytes16 dial.port, same, fromBeBytes_toBeBytes16]

/-- What the service is given is the beginning of what its client has sent. The
port that leads on the wire is taken off before. -/
theorem Sound.upload {peer : EndpointId} {stream : Stream} (sound : Sound peer stream) :
    stream.toService.written <+: stream.fromClient.received :=
  sound.near.outbound.through sound.far.toService

/-- What the client is given is the beginning of what its service has sent, byte
for byte and with nothing before it. -/
theorem Sound.download {peer : EndpointId} {stream : Stream} (sound : Sound peer stream) :
    stream.toClient.written <+: stream.fromService.received :=
  sound.far.inbound.through sound.near.toClient

/-- What is dialed is the remote port of the map, and it was granted by the
configuration that was consulted for this stream. -/
theorem Sound.dials {peer : EndpointId} {stream : Stream} (sound : Sound peer stream) {dial : Dial}
    (made : stream.dialed = some dial) :
    dial.port = stream.map.remotePort ∧ dial.consulted.reaches peer .tcp dial.port = true :=
  ⟨sound.port dial made, (sound.far.dialed dial made).2⟩

/-- Before a port is dialed, no byte goes to either end: what the client has sent
waits on the wire, and the service knows nothing of it. -/
theorem Sound.undialed {peer : EndpointId} {stream : Stream} (sound : Sound peer stream)
    (undialed : stream.dialed = none) : stream.toService.written = [] ∧ stream.toClient.written = [] := by
  obtain ⟨⟨nothing, _⟩, silent⟩ := sound.far.undialed undialed
  have answer := sound.download
  rw [silent] at answer
  exact ⟨nothing, List.prefix_nil.mp answer⟩

/-- In every run, whatever is interleaved, lost or failing, a local service is
given the beginning of what its own client has sent, without the header and
nothing else, and the client the beginning of what the service has sent. The port
that is dialed is the remote port of the map, granted by the configuration
consulted for the stream; before a port is dialed no byte goes to either end. -/
theorem streams_faithful (peer : EndpointId) (channel : Watch.Channel Config)
    (actions : List Action) (last : State)
    (reached : run (step peer) (initial channel) actions = some last) (stream : Stream)
    (member : stream ∈ last.streams) :
    stream.toService.written <+: stream.fromClient.received ∧
      stream.toClient.written <+: stream.fromService.received ∧
      (∀ dial, stream.dialed = some dial → dial.port = stream.map.remotePort ∧
        dial.consulted.reaches peer .tcp dial.port = true) ∧
      (stream.dialed = none → stream.toService.written = [] ∧ stream.toClient.written = []) := by
  have sound : Sound peer stream := run_sound reached stream member
  exact ⟨sound.upload, sound.download, fun _ made => sound.dials made, sound.undialed⟩

/-- A peer that may reach the SSH port. -/
def sshGranted : Config :=
  { serve := {
      shared := [{ proto := .tcp, port := 22, name := "ssh", enabled := true }],
      peers := [{ id := laptop, name := "laptop", enabled := true, offers := [] }] },
    connect := { bindings := [] } }

/-- Buffers of four bytes everywhere. -/
def smallRoom : Room :=
  { fromClient := 4, outbound := 4, toService := 4, fromService := 4, inbound := 4, toClient := 4,
    copying := 4 }

/-- A client sends two bytes, of which the second arrives late, and ends; the
service answers with one byte and ends. -/
def exchange : List Action :=
  .accept { localPort := 2222, remotePort := 22 } smallRoom ::
    [.clientPuts [104, 105], .clientEnds .finished, .openBi, .writePort 1, .acceptBi, .readPort 1,
      .writePort 1, .readPort 1, .check, .connect, .forwardUp (.fetch 2), .forwardUp (.flush 1),
      .serveUp (.fetch 1), .serveUp (.flush 1), .servicePuts [111], .serviceEnds .finished,
      .serveDown (.fetch 1), .forwardUp (.flush 1), .forwardUp .shut, .serveUp (.fetch 1),
      .serveUp (.flush 1), .serveUp .shut, .serveDown (.flush 1), .serveDown .shut, .serveReturns,
      .forwardDown (.fetch 1), .forwardDown (.flush 1), .forwardDown .shut,
      .forwardReturns].map (Action.move 0)

/-- The service has been given the two bytes of its client, and neither of the two
bytes of the port. -/
theorem exchange_faithful :
    ∃ last stream, run (step laptop) (initial (Watch.Channel.new sshGranted)) exchange =
        some last ∧
      stream ∈ last.streams ∧ stream.toService.written = [104, 105] ∧
      stream.toService.written <+: stream.fromClient.received :=
  ⟨_, _, rfl, List.mem_cons_self, rfl,
    (streams_faithful laptop (Watch.Channel.new sshGranted) exchange _ rfl _
      List.mem_cons_self).1⟩

/-- One of the two tasks has returned with an error. -/
def Stream.Failed (stream : Stream) : Prop :=
  stream.forward = .returned false ∨ stream.serving = .returned false

/-- A task of the connecting side that has not failed ends its half of the stream
only when its copier has moved all of it. -/
theorem Sound.outbound_done {peer : EndpointId} {stream : Stream} (sound : Sound peer stream)
    (working : ¬ stream.Failed) (ended : stream.outbound.ending = some .finished) :
    ∃ up, Copies 0 stream.header stream.fromClient stream.outbound up ∧ up.done = true := by
  have forward := sound.near.forward
  cases here : stream.forward with
  | opening | naming _ =>
    rw [here] at forward
    exact absurd (forward.unended.symm.trans ended) (by simp)
  | copying up down =>
    rw [here] at forward
    exact ⟨up, forward.up, forward.up.done_of_ended ended⟩
  | returned succeeded =>
    cases succeeded with
    | false => exact absurd (Or.inl here) working
    | true =>
      rw [here] at forward
      obtain ⟨up, _, both, upDone, _⟩ := forward rfl
      exact ⟨up, both.up, upDone⟩

/-- The same for the way back: the client sees an end in order only from a copier
that is done. -/
theorem Sound.toClient_done {peer : EndpointId} {stream : Stream} (sound : Sound peer stream)
    (working : ¬ stream.Failed) (ended : stream.toClient.ending = some .finished) :
    ∃ down, Copies 0 [] stream.inbound stream.toClient down ∧ down.done = true := by
  have forward := sound.near.forward
  cases here : stream.forward with
  | opening | naming _ =>
    rw [here] at forward
    exact absurd (forward.unclosed.symm.trans ended) (by simp)
  | copying up down =>
    rw [here] at forward
    exact ⟨down, forward.down, forward.down.done_of_ended ended⟩
  | returned succeeded =>
    cases succeeded with
    | false => exact absurd (Or.inl here) working
    | true =>
      rw [here] at forward
      obtain ⟨_, down, both, _, downDone⟩ := forward rfl
      exact ⟨down, both.down, downDone⟩

/-- Where the copiers of the serving side are, once something of theirs has ended
in order. -/
theorem Sound.served_done {peer : EndpointId} {stream : Stream} (sound : Sound peer stream)
    (working : ¬ stream.Failed)
    (ended : stream.toService.ending = some .finished ∨ stream.inbound.ending = some .finished) :
    ∃ up down, Served stream up down ∧
      (stream.toService.ending = some .finished → up.done = true) ∧
      (stream.inbound.ending = some .finished → down.done = true) := by
  have serving := sound.far.serving
  have idle (unserved : Unserved stream) : False := by
    have closed := (sound.far.undialed unserved.undialed).1.2
    rcases ended with ended | ended
    · exact absurd (closed.symm.trans ended) (by simp)
    · exact absurd (unserved.unanswered.symm.trans ended) (by simp)
  cases here : stream.serving with
  | pending | reading _ | named _ =>
    rw [here] at serving
    exact (idle serving.2).elim
  | connecting port consulted =>
    rw [here] at serving
    exact (idle serving.1.2).elim
  | copying up down =>
    rw [here] at serving
    exact ⟨up, down, serving.2, serving.2.up.done_of_ended, serving.2.down.done_of_ended⟩
  | returned succeeded =>
    cases succeeded with
    | false => exact absurd (Or.inr here) working
    | true =>
      rw [here] at serving
      rcases serving rfl with ⟨undialed, reset⟩ | ⟨up, down, both, upDone, downDone⟩
      · have closed := (sound.far.undialed undialed).1.2
        rcases ended with ended | ended
        · exact absurd (closed.symm.trans ended) (by simp)
        · exact absurd (reset.symm.trans ended) (by simp)
      · exact ⟨up, down, both, fun _ => upDone, fun _ => downDone⟩

/-- The stream to the service ends in order only after all of the client's
bytes. -/
theorem Sound.upload_complete {peer : EndpointId} {stream : Stream} (sound : Sound peer stream)
    (working : ¬ stream.Failed) (ended : stream.toService.ending = some .finished) :
    stream.fromClient.ending = some .finished ∧
      stream.toService.written = stream.fromClient.written := by
  obtain ⟨up, _, served, isDone, _⟩ := sound.served_done working (Or.inl ended)
  have outboundEnd := (Pipe.atEnd_iff _).mp (served.up.done (isDone ended)).1
  obtain ⟨forwarder, copies, done⟩ := sound.outbound_done working outboundEnd.1
  refine ⟨((Pipe.atEnd_iff _).mp (copies.done done).1).1, ?_⟩
  calc stream.toService.written
      = stream.outbound.written.drop 2 := served.up.complete (isDone ended)
    _ = (stream.header ++ stream.fromClient.written).drop 2 := by rw [copies.complete done]; rfl
    _ = stream.fromClient.written := rfl

/-- The stream to the client ends in order only after all of the service's
bytes. -/
theorem Sound.download_complete {peer : EndpointId} {stream : Stream} (sound : Sound peer stream)
    (working : ¬ stream.Failed) (ended : stream.toClient.ending = some .finished) :
    stream.fromService.ending = some .finished ∧
      stream.toClient.written = stream.fromService.written := by
  obtain ⟨down, copies, done⟩ := sound.toClient_done working ended
  have inboundEnd := (Pipe.atEnd_iff _).mp (copies.done done).1
  obtain ⟨_, server, served, _, isDone⟩ := sound.served_done working (Or.inr inboundEnd.1)
  refine ⟨((Pipe.atEnd_iff _).mp (served.down.done (isDone inboundEnd.1)).1).1, ?_⟩
  calc stream.toClient.written
      = stream.inbound.written := copies.complete done
    _ = stream.fromService.written := served.down.complete (isDone inboundEnd.1)

/-- An end in order means that everything has arrived: in every run, as long as
neither task of a stream has failed, the service sees the end of the stream only
when the client has ended it and the service was given all of the client's bytes,
and the other way round; and when `forward_tcp` has returned, both directions are
complete. -/
theorem ends_are_complete (peer : EndpointId) (channel : Watch.Channel Config)
    (actions : List Action) (last : State)
    (reached : run (step peer) (initial channel) actions = some last) (stream : Stream)
    (member : stream ∈ last.streams) (working : ¬ stream.Failed) :
    (stream.toService.ending = some .finished → stream.fromClient.ending = some .finished ∧
      stream.toService.written = stream.fromClient.written) ∧
    (stream.toClient.ending = some .finished → stream.fromService.ending = some .finished ∧
      stream.toClient.written = stream.fromService.written) ∧
    (stream.forward = .returned true → stream.fromClient.ending = some .finished ∧
      stream.outbound.written = stream.header ++ stream.fromClient.written ∧
      stream.fromService.ending = some .finished ∧
      stream.toClient.written = stream.fromService.written) := by
  have sound : Sound peer stream := run_sound reached stream member
  refine ⟨sound.upload_complete working, sound.download_complete working, ?_⟩
  intro returned
  have forward := sound.near.forward
  rw [returned] at forward
  obtain ⟨up, down, both, upDone, downDone⟩ := forward rfl
  exact ⟨((Pipe.atEnd_iff _).mp (both.up.done upDone).1).1, both.up.complete upDone,
    sound.download_complete working (both.down.done downDone).2.2⟩

/-- When `forward_tcp` has returned, the client has been given the whole
answer. -/
theorem exchange_complete :
    ∃ last stream, run (step laptop) (initial (Watch.Channel.new sshGranted)) exchange =
        some last ∧
      stream ∈ last.streams ∧ stream.forward = .returned true ∧
      stream.toClient.written = stream.fromService.written := by
  refine ⟨_, _, rfl, List.mem_cons_self, rfl, ?_⟩
  refine ((ends_are_complete laptop (Watch.Channel.new sshGranted) exchange _ rfl _
    List.mem_cons_self ?_).2.2 rfl).2.2.2
  rintro (failed | failed) <;> cases failed

/-- Where a task has failed an end need not say so: the client's connection breaks
after one of two bytes was passed on, `forward_tcp` returns and drops its stream,
which finishes it, and the service sees the end of a shorter request. -/
def cutShort : List Action :=
  .accept { localPort := 2222, remotePort := 22 } smallRoom ::
    [.clientPuts [104, 105], .openBi, .writePort 2, .acceptBi, .readPort 2, .check, .connect,
      .forwardUp (.fetch 2), .forwardUp (.flush 1), .clientEnds .reset,
      .forwardFails .finished .reset, .serveUp (.fetch 1), .serveUp (.flush 1),
      .serveUp .shut].map (Action.move 0)

example :
    ∃ last stream, run (step laptop) (initial (Watch.Channel.new sshGranted)) cutShort =
        some last ∧
      last.streams = [stream] ∧ stream.toService.ending = some .finished ∧
      stream.toService.written = [104] ∧ stream.fromClient.written = [104, 105] :=
  ⟨_, _, rfl, rfl, rfl, rfl, rfl⟩

end Rtun.Tcp
