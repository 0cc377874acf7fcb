import Rtun.Dwindling
import Rtun.Tcp.Transfer

/-!
# How a stream comes to its end

The two tasks of a stream never wait for each other in a circle. What is left to do for a
stream is counted in steps: every byte has so many moves ahead of it, and every task so
many stages. Each step that changes anything does some of this work, and as long as the
ends put nothing more in, none is added. So the tasks come to rest after that many steps
at most, however they are scheduled, if the ends read what they are given: a writer that
waits for room waits for the reader of its pipe, and the last readers are the ends. When
all are at rest, everything that was put in at one end has come out at the other, and so
has its end.
-/

namespace Rtun.Tcp

open Framing Run Dwindling

/-- The steps towards the end of a stream: those of the two tasks in which nothing
fails, and those in which the ends read. -/
def Event.onward : Event → Bool
  | .clientTakes _ | .serviceTakes _ | .openBi | .writePort _ | .forwardUp _ | .forwardDown _
  | .forwardReturns | .acceptBi | .readPort _ | .check | .connect | .serveUp _ | .serveDown _
  | .serveReturns => true
  | _ => false

/-- The steps that `forward_tcp` may have ahead of it on its own account. A byte
that it holds on the way up has four moves ahead, on the way down two. -/
def Forward.left : Forward → Nat
  | .opening => 13
  | .naming rest => 4 * rest.length + 4
  | .copying up down =>
      4 * up.held.length + 2 * down.held.length + up.remaining + down.remaining + 1
  | .returned _ => 0

def Serving.left : Serving → Nat
  | .pending => 7
  | .reading _ => 6
  | .named _ => 5
  | .connecting _ _ => 4
  | .copying up down =>
      2 * up.held.length + 4 * down.held.length + up.remaining + down.remaining + 1
  | .returned _ => 0

/-- A byte that was put in and not fetched has five moves ahead of it, one in the
connection has three, and one that has not been read by the end that it is for has
one. -/
def Stream.left (stream : Stream) : Nat :=
  stream.forward.left + stream.serving.left +
    (5 * stream.fromClient.unread.length + 3 * stream.outbound.unread.length +
      stream.toService.unread.length) +
    (5 * stream.fromService.unread.length + 3 * stream.inbound.unread.length +
      stream.toClient.unread.length)

/-- Taking something out of a pipe leaves less in it, so a reader can only take so
often before its pipe is empty. -/
theorem Pipe.take_left {α : Type} {pipe next : Pipe α} {count : Nat} {values : List α}
    (took : pipe.take count = some (values, next)) :
    next = pipe ∨ next.unread.length < pipe.unread.length := by
  obtain ⟨⟨enough, _⟩, rfl, rfl⟩ := (pipe.take_some_iff next count values).mp took
  cases count with
  | zero => simp
  | succ less =>
    refine Or.inr ?_
    rw [List.length_drop]
    omega

/-- Writing some of the port leaves less of it to write, or is the last step
before copying. -/
theorem Stream.left_wrotePort {stream : Stream} {count : Nat} {rest : Bytes} {outbound : Pipe UInt8}
    (naming : stream.forward = .naming rest)
    (put : stream.outbound.put (rest.take count) = some outbound) {next : Stream}
    (after : next =
      { stream with
        outbound,
        forward :=
          if (rest.drop count).isEmpty then .copying stream.copier stream.copier
          else .naming (rest.drop count) }) (changed : next ≠ stream) :
    next.left < stream.left := by
  obtain ⟨_, rfl⟩ := (Pipe.put_some_iff stream.outbound outbound _).mp put
  have parts : (rest.take count).length + (rest.drop count).length = rest.length := by
    rw [← List.length_append, List.take_append_drop]
  by_cases whole : (rest.drop count).isEmpty = true
  · simp only [after, Stream.left, naming, if_pos whole, Forward.left, List.length_append,
      Stream.copier, Copier.fresh, Copier.remaining, List.length_nil, Bool.false_eq_true, if_false]
    omega
  · have more : 0 < (rest.take count).length := by
      refine Nat.pos_of_ne_zero fun none => changed ?_
      have nothing := List.length_eq_zero_iff.mp none
      have all : rest.drop count = rest := by
        conv_rhs => rw [← List.take_append_drop count rest, nothing, List.nil_append]
      rw [after, if_neg whole, nothing, all, List.append_nil, ← naming]
    simp only [after, Stream.left, naming, if_neg whole, Forward.left, List.length_append]
    omega

/-- Reading some of the port leaves less in the connection, or is the last step of
reading it. -/
theorem Stream.left_readPort {stream : Stream} {count : Nat} {bytes read : Bytes}
    {outbound : Pipe UInt8} (reading : stream.serving = .reading bytes)
    (took : stream.outbound.take count = some (read, outbound)) {next : Stream}
    (after : next =
      { stream with
        outbound,
        serving :=
          match readTargetPort (bytes ++ read) with
          | none => .reading (bytes ++ read)
          | some (port, _) => .named port }) (changed : next ≠ stream) :
    next.left < stream.left := by
  obtain ⟨⟨enough, _⟩, rfl, rfl⟩ := (Pipe.take_some_iff stream.outbound outbound count read).mp took
  cases isPort : readTargetPort (bytes ++ stream.outbound.unread.take count) with
  | none =>
    have more : 0 < count := by
      refine Nat.pos_of_ne_zero fun none => changed ?_
      subst none
      simp only [List.take_zero, List.append_nil] at isPort
      simp only [after, List.take_zero, List.append_nil, List.drop_zero, isPort, ← reading]
    simp only [after, isPort, Stream.left, reading, Serving.left, List.length_drop]
    omega
  | some found =>
    simp only [after, isPort, Stream.left, reading, Serving.left, List.length_drop]
    omega

/-- Every onward step that changes anything leaves less to do. The measure counts
a byte once for each place that it has still to pass. -/
theorem Moves.left {peer : EndpointId} {config : Config} {stream next : Stream} {event : Event}
    (moves : Moves peer config stream event next) (own : event.onward = true)
    (changed : next ≠ stream) : next.left < stream.left := by
  cases moves with
  | clientTook count bytes toClient took =>
    rcases Pipe.take_left took with rfl | less
    · exact absurd rfl changed
    · simp only [Stream.left]
      omega
  | serviceTook count bytes toService took =>
    rcases Pipe.take_left took with rfl | less
    · exact absurd rfl changed
    · simp only [Stream.left]
      omega
  | opened opening =>
    have two : stream.header.length = 2 := rfl
    simp only [Stream.left, opening, Forward.left]
    omega
  | wrotePort count rest outbound naming put => exact Stream.left_wrotePort naming put rfl changed
  | forwardedUp action up down up' fromClient outbound copying taken =>
    rcases Copier.step_left 3 taken with same | less
    · cases same
      exact absurd (by rw [← copying]) changed
    · simp only [Stream.left, copying, Forward.left, Copier.left] at less ⊢
      omega
  | forwardedDown action up down down' inbound toClient copying taken =>
    rcases Copier.step_left 1 taken with same | less
    · cases same
      exact absurd (by rw [← copying]) changed
    · simp only [Stream.left, copying, Forward.left, Copier.left] at less ⊢
      omega
  | readPort count bytes read outbound reading few took =>
    exact Stream.left_readPort reading took rfl changed
  | connected port consulted connecting =>
    simp only [Stream.left, connecting, Serving.left, Stream.copier, Copier.fresh, Copier.remaining,
      List.length_nil, Bool.false_eq_true, if_false]
    omega
  | servedUp action up down up' outbound toService copying taken =>
    rcases Copier.step_left 1 taken with same | less
    · cases same
      exact absurd (by rw [← copying]) changed
    · simp only [Stream.left, copying, Serving.left, Copier.left] at less ⊢
      omega
  | servedDown action up down down' fromService inbound copying taken =>
    rcases Copier.step_left 3 taken with same | less
    · cases same
      exact absurd (by rw [← copying]) changed
    · simp only [Stream.left, copying, Serving.left, Copier.left] at less ⊢
      omega
  | accepted here | granted _ here | refused _ here | forwardReturned _ _ here
  | serveReturned _ _ here =>
    simp only [Stream.left, here, Forward.left, Serving.left, Pipe.giveUp_unread]
    omega
  | _ => cases own

/-- The action is an event of this stream. -/
def Action.on (index : Nat) : Action → Bool
  | .move other _ => other = index
  | _ => false

/-- An event of this stream is an onward step, and changes something. -/
def advances (peer : EndpointId) (index : Nat) (state : State) (action : Action) : Bool :=
  match action with
  | .move other event => other ≠ index || (event.onward && decide (step peer state action ≠ some state))
  | _ => true

def State.left (state : State) (index : Nat) : Nat := (state.streams[index]?).elim 0 Stream.left

/-- No onward step of this stream changes anything. -/
def Resting (peer : EndpointId) (index : Nat) (state : State) : Prop :=
  ∀ event next, event.onward = true → step peer state (.move index event) = some next → next = state

/-- What it takes for a stream to make a step, and what it leaves: the other
streams of the connection, its link and its configuration are as they were. -/
theorem step_move_iff (peer : EndpointId) (state next : State) (index : Nat) (event : Event) :
    step peer state (.move index event) = some next ↔
      ∃ stream after, state.streams[index]? = some stream ∧
        streamStep peer state.channel.value state.linkUp stream event = some after ∧
        next = { state with streams := state.streams.set index after } := by
  simp only [step]
  cases state.streams[index]? with
  | none => simp
  | some stream => simp [eq_comm]

/-- A step that changes the state changes the stream, since a step of a stream
touches nothing else. -/
theorem changed_of_step {state : State} {index : Nat} {stream after : Stream}
    (present : state.streams[index]? = some stream)
    (changed : { state with streams := state.streams.set index after } ≠ state) : after ≠ stream := by
  rintro rfl
  obtain ⟨inside, rfl⟩ := List.getElem?_eq_some_iff.mp present
  exact changed (by rw [List.set_getElem_self])

/-- The work on a stream dwindles, whatever happens on the rest of the
connection. -/
theorem dwindles (peer : EndpointId) (index : Nat) :
    Dwindles (step peer) (fun state => index < state.streams.length)
      (fun state action => advances peer index state action = true) (Action.on index)
      (fun state => state.left index) := by
  constructor
  · intro state action next there _ taken
    cases step_effect taken with
    | quiet _ _ streams => rwa [streams]
    | accepted map room =>
      rw [List.length_append]
      exact Nat.lt_add_right _ there
    | moved other event stream after present moves => rwa [List.length_set]
  · intro state action next there advancing taken works
    cases action with
    | move other event =>
      obtain rfl : other = index := of_decide_eq_true works
      obtain ⟨stream, after, present, moved, rfl⟩ := (step_move_iff peer state next other event).mp taken
      obtain ⟨own, changes⟩ : event.onward = true ∧ step peer state (.move other event) ≠ some state := by
        simpa [advances] using advancing
      have changed := changed_of_step present fun same => changes (taken.trans (congrArg some same))
      rw [State.left, State.left, Slots.get_set_self _ _ _ _ present, present]
      exact (streamStep_moves moved).left own changed
    | _ => cases works
  · intro state action next there advancing taken idle
    cases step_effect taken with
    | quiet _ _ streams => rw [State.left, State.left, streams]
    | accepted map room => rw [State.left, State.left, List.getElem?_append_left there]
    | moved other event stream after present moves =>
      have apart : other ≠ index := of_decide_eq_false idle
      rw [State.left, State.left, List.getElem?_set_ne apart]

/-- A task that is still reading the port has less than the port. -/
def Stream.Awaits (stream : Stream) : Prop :=
  ∀ bytes, stream.serving = .reading bytes → bytes.length < 2

/-- Two bytes are a port, so reading ends with the second one, and the check of
the port takes its place. -/
theorem Stream.Awaits.moved {peer : EndpointId} {config : Config} {stream next : Stream}
    {event : Event} (awaits : stream.Awaits) (moves : Moves peer config stream event next) :
    next.Awaits := by
  cases moves with
  | accepted pending =>
    rintro bytes ⟨⟩
    decide
  | readPort count bytes taken outbound reading few took =>
    intro rest isReading
    dsimp only at isReading
    split at isReading
    · rename_i noPort
      cases isReading
      by_contra long
      have isPort := (readTargetPort_isSome_iff (bytes ++ taken)).mpr (Nat.not_lt.mp long)
      rw [noPort] at isPort
      cases isPort
    · cases isReading
  | granted | refused | connected | servedUp | servedDown | serveReturned | serveFailed =>
    intro bytes isReading
    cases isReading
  | _ => exact awaits

/-- The run lemma: no stream of a connection ever waits for more than the port. It
rules out the idle stream whose port has been read and whose check never came. -/
theorem run_awaits {peer : EndpointId} {channel : Watch.Channel Config} {actions : List Action}
    {last : State} (reached : run (step peer) (initial channel) actions = some last) :
    ∀ stream ∈ last.streams, stream.Awaits := by
  refine invariant_of_run (step peer) (fun state => ∀ stream ∈ state.streams, stream.Awaits)
    ?_ _ last actions ?_ reached
  · intro state action next awaits taken
    cases step_effect taken with
    | quiet _ _ streams =>
      rw [streams]
      exact awaits
    | accepted map room =>
      intro stream member
      rcases List.mem_append.mp member with before | isNew
      · exact awaits stream before
      · rw [List.mem_singleton.mp isNew]
        intro bytes isReading
        cases isReading
    | moved index event stream after present moves =>
      intro other member
      rcases List.mem_or_eq_of_mem_set member with before | isNew
      · exact awaits other before
      · rw [isNew]
        exact (awaits stream (List.mem_of_getElem? present)).moved moves
  · intro stream member
    cases member

/-- With the connection up, no onward step changes the stream. -/
def Stream.Idle (peer : EndpointId) (config : Config) (stream : Stream) : Prop :=
  ∀ event next, event.onward = true → streamStep peer config true stream event = some next →
    next = stream

section Idle

variable {peer : EndpointId} {config : Config} {stream : Stream}

/-- An idle stream, at the connecting side: none of the steps of `forward_tcp`,
nor of the client's reads, changes it any more. -/
theorem Stream.Idle.near {next : Stream} (idle : stream.Idle peer config) (event : Event)
    (own : event.onward = true) (forward : event.isForward = true)
    (taken : forwardStep stream event = some next) : next = stream := by
  refine idle event next own ?_
  simp only [streamStep, Bool.not_true, Bool.and_false, Bool.false_eq_true, if_false, forward, if_true]
  exact taken

/-- An idle stream, at the serving side: none of the steps of `serve_stream`, nor
of the service's reads, changes it any more. -/
theorem Stream.Idle.far {next : Stream} (idle : stream.Idle peer config) (event : Event)
    (own : event.onward = true) (serve : event.isForward = false)
    (taken : serveStep peer config stream event = some next) : next = stream := by
  refine idle event next own ?_
  simp only [streamStep, Bool.not_true, Bool.and_false, Bool.false_eq_true, if_false, serve]
  exact taken

/-- The client has read what it was given, unless that was reset. Its read would
be an onward step, and there is none left. -/
theorem Stream.Idle.clientRead (idle : stream.Idle peer config)
    (intact : stream.toClient.ending ≠ some .reset) : stream.toClient.unread = [] := by
  have took := (stream.toClient.take_some_iff _ stream.toClient.unread.length _).mpr
    ⟨⟨Nat.le_refl _, intact⟩, rfl, rfl⟩
  have read := idle.near (.clientTakes stream.toClient.unread.length) rfl rfl
    (by simp only [forwardStep, took, Option.map_some]; rfl)
  have same := congrArg (fun stream => stream.toClient.unread) read
  simpa using same.symm

/-- So has the service, which is not told apart from the client here: both read as
long as there is something to read. -/
theorem Stream.Idle.serviceRead (idle : stream.Idle peer config)
    (intact : stream.toService.ending ≠ some .reset) : stream.toService.unread = [] := by
  have took := (stream.toService.take_some_iff _ stream.toService.unread.length _).mpr
    ⟨⟨Nat.le_refl _, intact⟩, rfl, rfl⟩
  have read := idle.far (.serviceTakes stream.toService.unread.length) rfl rfl
    (by simp only [serveStep, took, Option.map_some]; rfl)
  have same := congrArg (fun stream => stream.toService.unread) read
  simpa using same.symm

/-- The copiers of `forward_tcp` are idle, and not both are done, since it would
return. -/
theorem Stream.Idle.forwarding (idle : stream.Idle peer config) {up down : Copier UInt8}
    (here : stream.forward = .copying up down) :
    up.Idle stream.fromClient stream.outbound ∧ down.Idle stream.inbound stream.toClient ∧
      (up.done = true → down.done = true → stream.forward = .returned true) := by
  refine ⟨?_, ?_, ?_⟩
  · rintro action ⟨up', fromClient, outbound⟩ taken
    have moved := idle.near (.forwardUp action) rfl rfl
      (by simp only [forwardStep, here, taken, Option.map_some]; rfl)
    have copiers := (congrArg Stream.forward moved).trans here
    exact Prod.ext (Forward.copying.inj copiers).1
      (Prod.ext (congrArg Stream.fromClient moved) (congrArg Stream.outbound moved))
  · rintro action ⟨down', inbound, toClient⟩ taken
    have moved := idle.near (.forwardDown action) rfl rfl
      (by simp only [forwardStep, here, taken, Option.map_some]; rfl)
    have copiers := (congrArg Stream.forward moved).trans here
    exact Prod.ext (Forward.copying.inj copiers).2
      (Prod.ext (congrArg Stream.inbound moved) (congrArg Stream.toClient moved))
  · intro upDone downDone
    have returned := idle.near .forwardReturns rfl rfl
      (by simp only [forwardStep, here, upDone, downDone, Bool.and_self, if_true]; rfl)
    cases here.symm.trans (congrArg Stream.forward returned.symm)

/-- So are those of `serve_stream`. If both of them are done, the task has
returned as well, since its return would be a step. -/
theorem Stream.Idle.serving (idle : stream.Idle peer config) {up down : Copier UInt8}
    (here : stream.serving = .copying up down) :
    up.Idle stream.outbound stream.toService ∧ down.Idle stream.fromService stream.inbound ∧
      (up.done = true → down.done = true → stream.serving = .returned true) := by
  refine ⟨?_, ?_, ?_⟩
  · rintro action ⟨up', outbound, toService⟩ taken
    have moved := idle.far (.serveUp action) rfl rfl
      (by simp only [serveStep, here, taken, Option.map_some]; rfl)
    have copiers := (congrArg Stream.serving moved).trans here
    exact Prod.ext (Serving.copying.inj copiers).1
      (Prod.ext (congrArg Stream.outbound moved) (congrArg Stream.toService moved))
  · rintro action ⟨down', fromService, inbound⟩ taken
    have moved := idle.far (.serveDown action) rfl rfl
      (by simp only [serveStep, here, taken, Option.map_some]; rfl)
    have copiers := (congrArg Stream.serving moved).trans here
    exact Prod.ext (Serving.copying.inj copiers).2
      (Prod.ext (congrArg Stream.fromService moved) (congrArg Stream.inbound moved))
  · intro upDone downDone
    have returned := idle.far .serveReturns rfl rfl
      (by simp only [serveStep, here, upDone, downDone, Bool.and_self, if_true]; rfl)
    cases here.symm.trans (congrArg Stream.serving returned.symm)

/-- The port is not being written any more, once what was written of it has been
read. -/
theorem NearSound.named (sound : NearSound stream) (idle : stream.Idle peer config) {rest : Bytes}
    (here : stream.forward = .naming rest) : stream.outbound.unread ≠ [] := by
  intro read
  have forward := sound.forward
  rw [here] at forward
  have put := Pipe.put_first forward.unended read rest
  have named := idle.near (.writePort 1) rfl rfl
    (by simp only [forwardStep, here, put, Option.map_some]; rfl)
  have same := here.symm.trans (congrArg Stream.forward named.symm)
  dsimp only at same
  split at same
  · cases same
  · rename_i more
    have shorter := congrArg List.length (Forward.naming.inj same)
    rw [List.length_drop] at shorter
    refine more (List.isEmpty_iff.mpr (List.eq_nil_of_length_eq_zero ?_))
    rw [List.length_drop]
    omega

/-- What `forward_tcp` has come to when no step changes the stream and what it
has written has been read: its copiers are idle, and if both are done, so is
the task. -/
theorem NearSound.idle (sound : NearSound stream) (idle : stream.Idle peer config)
    (working : stream.forward ≠ .returned false) (read : stream.outbound.unread = []) :
    ∃ up down, Forwarding stream up down ∧ up.Idle stream.fromClient stream.outbound ∧
      down.Idle stream.inbound stream.toClient ∧
      (up.done = true → down.done = true → stream.forward = .returned true) := by
  have forward := sound.forward
  cases here : stream.forward with
  | opening =>
    have opened := idle.near .openBi rfl rfl (by simp only [forwardStep, here]; rfl)
    cases here.symm.trans (congrArg Stream.forward opened.symm)
  | naming rest => exact absurd read (sound.named idle here)
  | copying up down =>
    rw [here] at forward
    exact ⟨up, down, forward, here ▸ idle.forwarding here⟩
  | returned succeeded =>
    cases succeeded with
    | false => exact absurd here working
    | true =>
      rw [here] at forward
      obtain ⟨up, down, both, upDone, downDone⟩ := forward rfl
      exact ⟨up, down, both, Copier.idle_of_done upDone _ _, Copier.idle_of_done downDone _ _,
        fun _ _ => rfl⟩

/-- As long as `forward_tcp` has not failed, it resets nothing: a reset is what
its streams leave when they are dropped unfinished. -/
theorem NearSound.intact (sound : NearSound stream) (working : stream.forward ≠ .returned false) :
    stream.outbound.ending ≠ some .reset ∧ stream.toClient.ending ≠ some .reset := by
  have forward := sound.forward
  cases here : stream.forward with
  | opening | naming _ =>
    rw [here] at forward
    exact ⟨by rw [forward.unended]; simp, by rw [forward.unclosed]; simp⟩
  | copying up down =>
    rw [here] at forward
    exact ⟨forward.up.intact, forward.down.intact⟩
  | returned succeeded =>
    cases succeeded with
    | false => exact absurd here working
    | true =>
      rw [here] at forward
      obtain ⟨_, _, both, _, _⟩ := forward rfl
      exact ⟨both.up.intact, both.down.intact⟩

/-- The stream was refused: nothing was dialed, and the client's half is reset. -/
structure Stream.Refused (stream : Stream) : Prop where
  undialed : stream.dialed = none
  returned : stream.serving = .returned true
  reset : stream.inbound.ending = some .reset

/-- A stream that no step changes has been accepted, if anything was written to
it. -/
theorem Stream.Idle.shown (idle : stream.Idle peer config) (here : stream.serving = .pending) :
    stream.outbound.written = [] := by
  by_contra written
  have shown : (stream.outbound.written.isEmpty && stream.outbound.ending.isNone) = false := by
    rw [Bool.and_eq_false_iff, List.isEmpty_eq_false_iff]
    exact Or.inl written
  have accepted := idle.far .acceptBi rfl rfl
    (by simp only [serveStep, here, shown, Bool.false_eq_true, if_false]; rfl)
  cases here.symm.trans (congrArg Stream.serving accepted.symm)

/-- Where the port is still being read, all that is there of it has been read: one
byte more would have been one more step. -/
theorem Stream.Idle.drained (idle : stream.Idle peer config) {bytes : Bytes}
    (here : stream.serving = .reading bytes) (few : bytes.length < 2)
    (intact : stream.outbound.ending ≠ some .reset) : stream.outbound.unread = [] := by
  by_contra more
  have first : 1 ≤ stream.outbound.unread.length := List.length_pos_iff.mpr more
  have took := (stream.outbound.take_some_iff _ 1 _).mpr ⟨⟨first, intact⟩, rfl, rfl⟩
  have read := idle.far (.readPort 1) rfl rfl
    (by simp only [serveStep, here, took, Option.map_some]; rw [if_pos (by omega)])
  have same := congrArg (fun stream => stream.outbound.unread.length) read
  simp only [List.length_drop] at same
  omega

/-- The check of a port is a step, whatever comes of it, so an idle stream is not
on the point of making it. -/
theorem Stream.Idle.checked (idle : stream.Idle peer config) (port : UInt16) :
    stream.serving ≠ .named port := by
  intro here
  cases reaches : config.reaches peer .tcp port with
  | true =>
    have granted := idle.far .check rfl rfl
      (by simp only [serveStep, here, reaches, if_true]; rfl)
    cases here.symm.trans (congrArg Stream.serving granted.symm)
  | false =>
    have refused := idle.far .check rfl rfl
      (by simp only [serveStep, here, reaches, Bool.false_eq_true, if_false]; rfl)
    cases here.symm.trans (congrArg Stream.serving refused.symm)

/-- What `serve_stream` has come to when no step changes the stream: it has
refused the stream, or its copiers are idle, or it has read all that there is,
which is less than the port. -/
theorem FarSound.idle (sound : FarSound peer stream) (awaits : stream.Awaits)
    (idle : stream.Idle peer config) (working : stream.serving ≠ .returned false)
    (intact : stream.outbound.ending ≠ some .reset) :
    stream.Refused ∨
      (∃ up down, Served stream up down ∧
        up.Idle stream.outbound stream.toService ∧ down.Idle stream.fromService stream.inbound ∧
        (up.done = true → down.done = true → stream.serving = .returned true)) ∨
      stream.outbound.unread = [] ∧ stream.outbound.written.length < 2 := by
  have serving := sound.serving
  cases here : stream.serving with
  | pending =>
    have nothing := idle.shown here
    exact Or.inr (Or.inr ⟨(List.append_eq_nil_iff.mp nothing).2, by rw [nothing]; decide⟩)
  | reading bytes =>
    rw [here] at serving
    have drained := idle.drained here (awaits bytes here) intact
    refine Or.inr (Or.inr ⟨drained, ?_⟩)
    rw [Pipe.written, drained, List.append_nil, serving.1]
    exact awaits bytes here
  | named port => exact absurd here (idle.checked port)
  | connecting port consulted =>
    have connected := idle.far .connect rfl rfl (by simp only [serveStep, here]; rfl)
    cases here.symm.trans (congrArg Stream.serving connected.symm)
  | copying up down =>
    rw [here] at serving
    exact Or.inr (Or.inl ⟨up, down, serving.2, here ▸ idle.serving here⟩)
  | returned succeeded =>
    cases succeeded with
    | false => exact absurd here working
    | true =>
      rw [here] at serving
      rcases serving rfl with ⟨undialed, reset⟩ | ⟨up, down, both, upDone, downDone⟩
      · exact Or.inl ⟨undialed, here, reset⟩
      · exact Or.inr (Or.inl ⟨up, down, both, Copier.idle_of_done upDone _ _,
          Copier.idle_of_done downDone _ _, fun _ _ => rfl⟩)

/-- As long as `serve_stream` has not failed, it does not reset what it passes
on. -/
theorem FarSound.intact (sound : FarSound peer stream) (working : stream.serving ≠ .returned false) :
    stream.toService.ending ≠ some .reset := by
  have serving := sound.serving
  by_cases isDialed : stream.dialed = none
  · rw [(sound.undialed isDialed).1.2]
    simp
  · cases here : stream.serving with
    | pending | reading _ | named _ =>
      rw [here] at serving
      exact absurd serving.2.undialed isDialed
    | connecting _ _ =>
      rw [here] at serving
      exact absurd serving.1.2.undialed isDialed
    | copying up down =>
      rw [here] at serving
      exact serving.2.up.intact
    | returned succeeded =>
      cases succeeded with
      | false => exact absurd here working
      | true =>
        rw [here] at serving
        rcases serving rfl with ⟨undialed, _⟩ | ⟨_, _, both, _, _⟩
        · exact absurd undialed isDialed
        · exact both.up.intact

end Idle

/-- Everything that was put in at one end has been read at the other, each end is
ended exactly if the other one was, and when both are, the tasks have returned. -/
structure Stream.Delivered (stream : Stream) : Prop where
  upload : stream.toService.received = stream.fromClient.written
  uploadEnd : stream.toService.ending = stream.fromClient.ending
  download : stream.toClient.received = stream.fromService.written
  downloadEnd : stream.toClient.ending = stream.fromService.ending
  returned : stream.fromClient.ending = some .finished → stream.fromService.ending = some .finished →
    stream.forward = .returned true ∧ stream.serving = .returned true

/-- At rest everything has arrived. The argument follows the bytes backwards from
the ends, which have read theirs, since a copier is only known to have passed on
what it holds when its target has been read: first up to the connection, which
shows that the port has been written, then from there to both ends. -/
theorem Sound.delivered {peer : EndpointId} {config : Config} {stream : Stream}
    (sound : Sound peer stream) (awaits : stream.Awaits) (idle : stream.Idle peer config)
    (working : ¬ stream.Failed) (client : stream.fromClient.ending ≠ some .reset)
    (service : stream.fromService.ending ≠ some .reset) : stream.Refused ∨ stream.Delivered := by
  have forwardWorks : stream.forward ≠ .returned false := fun failed => working (Or.inl failed)
  have serveWorks : stream.serving ≠ .returned false := fun failed => working (Or.inr failed)
  obtain ⟨outboundIntact, toClientIntact⟩ := sound.near.intact forwardWorks
  have clientRead := idle.clientRead toClientIntact
  have serviceRead := idle.serviceRead (sound.far.intact serveWorks)
  rcases sound.far.idle awaits idle serveWorks outboundIntact with refused |
    ⟨serveUp, serveDown, served, serveUpIdle, serveDownIdle, serveReturned⟩ | ⟨read, short⟩
  · exact Or.inl refused
  · obtain ⟨read, arrived, toServiceEnd, serveUpDone⟩ :=
      served.up.idle serveUpIdle serviceRead outboundIntact
    obtain ⟨up, down, forwarding, upIdle, downIdle, forwardReturned⟩ :=
      sound.near.idle idle forwardWorks read
    obtain ⟨_, sent, outboundEnd, upDone⟩ := forwarding.up.idle upIdle read client
    obtain ⟨inboundRead, returned, toClientEnd, downDone⟩ :=
      forwarding.down.idle downIdle clientRead served.down.intact
    obtain ⟨_, answered, inboundEnd, serveDownDone⟩ :=
      served.down.idle serveDownIdle inboundRead service
    refine Or.inr ⟨?_, toServiceEnd.trans outboundEnd, ?_, toClientEnd.trans inboundEnd, ?_⟩
    · calc stream.toService.received
          = stream.toService.written := by rw [Pipe.written, serviceRead, List.append_nil]
        _ = stream.outbound.written.drop 2 := arrived
        _ = (stream.header ++ stream.fromClient.written).drop 2 := by rw [sent]; rfl
        _ = stream.fromClient.written := rfl
    · calc stream.toClient.received
          = stream.toClient.written := by rw [Pipe.written, clientRead, List.append_nil]
        _ = stream.inbound.written := returned
        _ = stream.fromService.written := answered
    · intro clientEnded serviceEnded
      exact ⟨forwardReturned (upDone clientEnded) (downDone (inboundEnd.trans serviceEnded)),
        serveReturned (serveUpDone (outboundEnd.trans clientEnded)) (serveDownDone serviceEnded)⟩
  · obtain ⟨up, down, forwarding, upIdle, _, _⟩ := sound.near.idle idle forwardWorks read
    obtain ⟨_, sent, _, _⟩ := forwarding.up.idle upIdle read client
    rw [sent, List.length_append] at short
    exact absurd (Nat.lt_of_le_of_lt (Nat.le_add_right 2 _) short) (Nat.lt_irrefl 2)

/-- A stream on which no step changes anything is idle, if the connection is
up. -/
theorem Resting.idle {peer : EndpointId} {index : Nat} {state : State} {stream : Stream}
    (resting : Resting peer index state) (present : state.streams[index]? = some stream)
    (linkUp : state.linkUp = true) : stream.Idle peer state.channel.value := by
  intro event next own taken
  have same := resting event _ own ((step_move_iff peer state _ index event).mpr
    ⟨stream, next, present, linkUp ▸ taken, rfl⟩)
  by_contra changed
  exact changed (Option.some.inj ((Slots.get_set_self _ _ stream next present).symm.trans
    ((congrArg (fun state => state.streams[index]?) same).trans present)))

/-- What onward steps leave as it was: what the ends have put in, and whether a
task has failed. -/
structure Onward (before after : Stream) : Prop where
  fromClient : before.fromClient.TakenFrom after.fromClient
  fromService : before.fromService.TakenFrom after.fromService
  works : ¬ before.Failed → ¬ after.Failed

/-- The step lemma: an onward step fails no task and puts nothing in at an end. So
a stream that is intact in the beginning is intact when it has come to rest. -/
theorem Moves.frame {peer : EndpointId} {config : Config} {stream next : Stream} {event : Event}
    (moves : Moves peer config stream event next) (own : event.onward = true) :
    Onward stream next := by
  have still : Onward stream stream := ⟨.refl _, .refl _, id⟩
  have forward {other : Stream} (serving : other.serving = stream.serving)
      (works : other.forward ≠ .returned false) : ¬ stream.Failed → ¬ other.Failed := by
    rintro unfailed (failed | failed)
    · exact works failed
    · exact unfailed (Or.inr (serving.symm.trans failed))
  have serving {other : Stream} (forward : other.forward = stream.forward)
      (works : other.serving ≠ .returned false) : ¬ stream.Failed → ¬ other.Failed := by
    rintro unfailed (failed | failed)
    · exact unfailed (Or.inl (forward.symm.trans failed))
    · exact works failed
  cases moves with
  | clientTook count bytes toClient took => exact { still with }
  | serviceTook count bytes toService took => exact { still with }
  | opened opening => exact { still with works := forward rfl (by simp) }
  | wrotePort count rest outbound naming put =>
    exact { still with works := forward rfl (by dsimp only; split <;> simp) }
  | forwardedUp action up down up' fromClient outbound copying taken =>
    exact { still with
      fromClient := (Copier.step_sides taken).1, works := forward rfl (by simp) }
  | forwardedDown action up down down' inbound toClient copying taken =>
    exact { still with works := forward rfl (by simp) }
  | forwardReturned up down copying upDone downDone =>
    exact { still with works := forward rfl (by simp) }
  | readPort count bytes read outbound reading few took =>
    exact { still with works := serving rfl (by dsimp only; split <;> simp) }
  | servedDown action up down down' fromService inbound copying taken =>
    exact { still with
      fromService := (Copier.step_sides taken).1, works := serving rfl (by simp) }
  | accepted | granted | refused | connected | servedUp | serveReturned =>
    exact { still with works := serving rfl (by simp) }
  | _ => cases own

/-- One onward step after the others: what each of them keeps all of them keep,
and what the ends take they take in their order. -/
theorem Onward.trans {first second third : Stream} (before : Onward first second)
    (after : Onward second third) : Onward first third where
  fromClient := before.fromClient.trans after.fromClient
  fromService := before.fromService.trans after.fromService
  works := fun unfailed => after.works (before.works unfailed)

/-- The run lemma, for runs of onward steps of this stream alone. The link and
the configuration stay, so the stream goes on under the conditions of its
beginning. -/
theorem run_onward {peer : EndpointId} {index : Nat} {middle last : State} {actions : List Action}
    {stream : Stream} (present : middle.streams[index]? = some stream)
    (own : ∀ action ∈ actions, action.on index = true)
    (meets : Meets (step peer) (fun state action => advances peer index state action = true) middle
      actions) (reached : run (step peer) middle actions = some last) :
    last.linkUp = middle.linkUp ∧
      ∃ after, last.streams[index]? = some after ∧ Onward stream after := by
  refine invariant_of_meets (step peer) _ (fun state => state.linkUp = middle.linkUp ∧
      ∃ after, state.streams[index]? = some after ∧ Onward stream after) ?_ middle last actions
    ⟨rfl, stream, present, ⟨.refl _, .refl _, id⟩⟩
    (meets_and (step peer) (fun _ action => action.on index = true) _ middle actions
      (meets_of_mem (step peer) _ middle actions fun action member _ => own action member) meets)
    reached
  rintro state action next ⟨linkUp, found, isFound, onward⟩ ⟨isOwn, advancing⟩ taken
  cases action with
  | move other event =>
    obtain rfl : other = index := of_decide_eq_true isOwn
    obtain ⟨before, after, isBefore, moved, rfl⟩ := (step_move_iff peer state next other event).mp taken
    obtain rfl : before = found := Option.some.inj (isBefore.symm.trans isFound)
    obtain ⟨ownEvent, _⟩ : event.onward = true ∧ step peer state (.move other event) ≠ some state := by
      simpa [advances] using advancing
    exact ⟨linkUp, after, Slots.get_set_self _ _ _ _ isBefore,
      onward.trans ((streamStep_moves moved).frame ownEvent)⟩
  | _ => cases isOwn

/-- Every stream comes to rest, and then it is complete. From every reachable
state, whatever else happens on the connection, as long as the ends put nothing in
and nothing fails, the tasks of a stream and the ends that read take no more steps
that change anything than are left. Some run of such steps alone brings them to
rest, and then what the ends had put in has been delivered if the stream was not
refused. The same holds of every stream that is at rest while the connection is
up, unless a task has failed or an end has reset what it writes. -/
theorem streams_come_to_rest (peer : EndpointId) (channel : Watch.Channel Config)
    (earlier : List Action) (middle : State)
    (before : run (step peer) (initial channel) earlier = some middle) (index : Nat) (stream : Stream)
    (present : middle.streams[index]? = some stream) :
    (∀ (actions : List Action) (last : State),
      Meets (step peer) (fun state action => advances peer index state action = true) middle actions →
      run (step peer) middle actions = some last →
        actions.countP (Action.on index) ≤ stream.left) ∧
    (∃ (actions : List Action) (last : State) (after : Stream),
      (∀ action ∈ actions, action.on index = true) ∧
      Meets (step peer) (fun state action => advances peer index state action = true) middle actions ∧
      run (step peer) middle actions = some last ∧ Resting peer index last ∧
      last.streams[index]? = some after ∧
      after.fromClient.written = stream.fromClient.written ∧
      after.fromService.written = stream.fromService.written ∧
      (middle.linkUp = true → ¬ stream.Failed → stream.fromClient.ending ≠ some .reset →
        stream.fromService.ending ≠ some .reset → after.Refused ∨ after.Delivered)) ∧
    (Resting peer index middle → middle.linkUp = true → ¬ stream.Failed →
      stream.fromClient.ending ≠ some .reset → stream.fromService.ending ≠ some .reset →
        stream.Refused ∨ stream.Delivered) := by
  have there : index < middle.streams.length := Slots.lt_length_of_get _ _ _ present
  have isLeft : middle.left index = stream.left := by rw [State.left, present, Option.elim]
  have delivered {actions : List Action} {last : State} {after : Stream}
      (reached : run (step peer) (initial channel) actions = some last)
      (isThere : last.streams[index]? = some after) (resting : Resting peer index last)
      (linkUp : last.linkUp = true) (works : ¬ after.Failed)
      (client : after.fromClient.ending ≠ some .reset)
      (service : after.fromService.ending ≠ some .reset) : after.Refused ∨ after.Delivered :=
    (run_sound reached after (List.mem_of_getElem? isThere)).delivered
      (run_awaits reached after (List.mem_of_getElem? isThere)) (resting.idle isThere linkUp) works
      client service
  refine ⟨?_, ?_, ?_⟩
  · intro actions last meets reached
    have bounded := (dwindles peer index).bounded middle last actions there meets reached
    rw [isLeft] at bounded
    exact Nat.le_trans (Nat.le_add_right _ _) bounded
  · obtain ⟨actions, last, own, meets, reached, resting⟩ :=
      (dwindles peer index).rests (Resting peer index) (fun state _ busy => by
        simp only [Resting, not_forall] at busy
        obtain ⟨event, next, own, taken, changed⟩ := busy
        refine ⟨.move index event, next, by simp [Action.on], ?_, taken⟩
        simpa [advances, own, taken] using changed) middle there
    obtain ⟨sameLink, after, isThere, onward⟩ := run_onward present own meets reached
    refine ⟨actions, last, after, own, meets, reached, resting, isThere, onward.fromClient.written,
      onward.fromService.written, ?_⟩
    intro linkUp works client service
    exact delivered ((run_append _ _ _ _ _).mpr ⟨middle, before, reached⟩) isThere resting
      (sameLink.trans linkUp) (onward.works works) (onward.fromClient.ending ▸ client)
      (onward.fromService.ending ▸ service)
  · exact delivered before present

/-- Room for two bytes at the client, and for one everywhere else. -/
def narrowRoom : Room :=
  { fromClient := 2, outbound := 1, toService := 1, fromService := 1, inbound := 1, toClient := 1,
    copying := 1 }

/-- A client that has made its request and ended it. -/
def requested : List Action :=
  .accept { localPort := 2222, remotePort := 22 } narrowRoom ::
    [.clientPuts [104, 105], .clientEnds .finished].map (Action.move 0)

/-- The request reaches the service byte by byte, through pipes that hold one
each. -/
theorem request_comes_to_rest :
    ∃ middle actions last after,
      run (step laptop) (initial (Watch.Channel.new sshGranted)) requested = some middle ∧
      run (step laptop) middle actions = some last ∧ Resting laptop 0 last ∧
      actions.countP (Action.on 0) ≤ 30 ∧ last.streams[0]? = some after ∧
      after.fromClient.written = [104, 105] ∧ (after.Refused ∨ after.Delivered) := by
  have rests := streams_come_to_rest laptop (Watch.Channel.new sshGranted) requested _ rfl 0 _ rfl
  obtain ⟨actions, last, after, _, meets, reached, resting, isThere, written, _, delivered⟩ := rests.2.1
  refine ⟨_, actions, last, after, rfl, reached, resting, rests.1 actions last meets reached, isThere,
    written, delivered rfl ?_ (by decide) (by decide)⟩
  rintro (failed | failed) <;> cases failed

end Rtun.Tcp
