import Rtun.Tcp.Transfer

/-!
# Withdrawing a port

Each stream is judged by the configuration that is current when its port has been read,
however long before that it was opened. So once a port is withdrawn, no stream is let
through to it any more, except those that have been judged already.
-/

namespace Rtun.Tcp

open Framing Run

/-- The stream has passed the check for this local port. -/
def Stream.Passed (stream : Stream) (port : UInt16) : Prop :=
  (∃ consulted, stream.serving = .connecting port consulted) ∨
    ∃ dial, stream.dialed = some dial ∧ dial.port = port

/-- Only a check lets a stream through, and only with a grant. -/
theorem Moves.passed {peer : EndpointId} {config : Config} {stream next : Stream} {event : Event}
    {port : UInt16} (moves : Moves peer config stream event next) (passed : next.Passed port) :
    stream.Passed port ∨ config.reaches peer .tcp port = true := by
  cases moves with
  | granted other named reaches =>
    rcases passed with ⟨consulted, connecting⟩ | dialed
    · cases connecting
      exact Or.inr reaches
    · exact Or.inl (Or.inr dialed)
  | connected other consulted connecting =>
    rcases passed with ⟨_, impossible⟩ | ⟨dial, made, same⟩
    · cases impossible
    · cases made
      exact Or.inl (Or.inl ⟨consulted, same ▸ connecting⟩)
  | readPort count bytes read outbound reading few took =>
    rcases passed with ⟨consulted, connecting⟩ | dialed
    · dsimp only at connecting
      split at connecting <;> cases connecting
    · exact Or.inl (Or.inr dialed)
  | accepted | refused | servedUp | servedDown | serveReturned | serveFailed =>
    rcases passed with ⟨_, impossible⟩ | dialed
    · cases impossible
    · exact Or.inl (Or.inr dialed)
  | _ => exact Or.inl passed

/-- The port is not granted, and the streams that have passed are of the given
ones. -/
structure Closed (peer : EndpointId) (port : UInt16) (given : List Stream) (state : State) : Prop where
  refused : state.channel.value.reaches peer .tcp port = false
  passed : ∀ (index : Nat) (stream : Stream), state.streams[index]? = some stream →
    stream.Passed port → ∃ before, given[index]? = some before ∧ before.Passed port

/-- What is published does not grant the port. -/
def withholds (peer : EndpointId) (port : UInt16) : Action → Bool
  | .publish config => !config.reaches peer .tcp port
  | _ => true

/-- The step lemma: as long as the port is not granted again, no other stream
passes. -/
theorem Closed.step {peer : EndpointId} {port : UInt16} {given : List Stream}
    {state next : State} {action : Action} (closed : Closed peer port given state)
    (withheld : withholds peer port action = true) (taken : step peer state action = some next) :
    Closed peer port given next := by
  have refused : next.channel.value.reaches peer .tcp port = false := by
    cases action with
    | publish config =>
      cases taken
      simpa [withholds] using withheld
    | lose | accept map room =>
      cases taken
      exact closed.refused
    | move index event =>
      simp only [Tcp.step] at taken
      split at taken
      · cases taken
      · obtain ⟨_, _, rfl⟩ := Option.map_eq_some_iff.mp taken
        exact closed.refused
  refine ⟨refused, ?_⟩
  cases step_effect taken with
  | quiet _ _ streams =>
    rw [streams]
    exact closed.passed
  | accepted map room =>
    intro index stream present passed
    rcases (Slots.get_push_iff _ _ _ _).mp present with before | ⟨_, isNew⟩
    · exact closed.passed index stream before passed
    · rw [isNew] at passed
      rcases passed with ⟨_, impossible⟩ | ⟨_, impossible, _⟩ <;> cases impossible
  | moved index event stream after present moves =>
    intro other found isThere passed
    rcases (Slots.get_set_iff _ index other _ _ _ present).mp isThere with
      ⟨rfl, rfl⟩ | ⟨_, before⟩
    · rcases moves.passed passed with earlier | granted
      · exact closed.passed other stream present earlier
      · rw [closed.refused] at granted
        cases granted
    · exact closed.passed other found before passed

/-- A withdrawal takes effect at once and for every stream: from a state whose
configuration does not grant a TCP port to the peer, as long as none that
grants it is published, a stream that has passed the check for that port had
passed it in that state, and every other one for that port carries no byte in
either direction. -/
theorem withdrawn_port_refused (peer : EndpointId) (port : UInt16) (channel : Watch.Channel Config)
    (earlier actions : List Action) (middle last : State)
    (before : run (step peer) (initial channel) earlier = some middle)
    (withdrawn : middle.channel.value.reaches peer .tcp port = false)
    (withheld : ∀ action ∈ actions, withholds peer port action = true)
    (reached : run (step peer) middle actions = some last) (index : Nat) (stream : Stream)
    (present : last.streams[index]? = some stream) :
    (stream.Passed port →
      ∃ old, middle.streams[index]? = some old ∧ old.Passed port) ∧
    (stream.map.remotePort = port →
      (∀ old, middle.streams[index]? = some old → ¬ old.Passed port) →
        stream.toService.written = [] ∧ stream.toClient.written = []) := by
  have closed : Closed peer port middle.streams last :=
    invariant_of_meets (step peer) _ (Closed peer port middle.streams)
      (fun _ _ _ closed withheld taken => closed.step withheld taken) middle last actions
      ⟨withdrawn, fun _ stream present passed => ⟨stream, present, passed⟩⟩
      (meets_of_mem (step peer) _ middle actions fun action member _ => withheld action member)
      reached
  refine ⟨closed.passed index stream present, ?_⟩
  intro isPort unpassed
  have whole : run (step peer) (initial channel) (earlier ++ actions) = some last :=
    (run_append (step peer) (initial channel) last earlier actions).mpr ⟨middle, before, reached⟩
  have sound : Sound peer stream := run_sound whole stream (List.mem_of_getElem? present)
  apply sound.undialed
  by_contra isDialed
  obtain ⟨dial, made⟩ := Option.ne_none_iff_exists'.mp isDialed
  have passed : stream.Passed port := Or.inr ⟨dial, made, (sound.dials made).1.trans isPort⟩
  obtain ⟨old, found, oldPassed⟩ := closed.passed index stream present passed
  exact unpassed old found oldPassed

/-- The port is granted while one stream uses it, and withdrawn before the next
one is checked. -/
def withdrawal : List Action :=
  exchange ++ [.publish { sshGranted with serve := { sshGranted.serve with shared := [] } }]

def lateStream : List Action :=
  .accept { localPort := 2222, remotePort := 22 } smallRoom ::
    [.openBi, .writePort 2, .clientPuts [104], .forwardUp (.fetch 1), .forwardUp (.flush 1),
      .acceptBi, .readPort 2, .check].map (Action.move 1)

/-- The second stream, which was opened after the withdrawal, is refused at its
check: the byte that its client has sent stays in the connection. -/
theorem withdrawal_refused :
    ∃ last stream,
      run (step laptop) (initial (Watch.Channel.new sshGranted)) (withdrawal ++ lateStream) =
        some last ∧
      last.streams[1]? = some stream ∧ stream.serving = .returned true ∧
      stream.toService.written = [] := by
  refine ⟨_, _, rfl, rfl, rfl, ?_⟩
  exact ((withdrawn_port_refused laptop 22 (Watch.Channel.new sshGranted) withdrawal lateStream _ _
    rfl (by decide) (by decide) rfl 1 _ rfl).2 rfl
    (fun _ impossible => by cases impossible)).1

end Rtun.Tcp
