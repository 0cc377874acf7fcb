import Rtun.Serve.IdleSessions

/-!
# What the serving side does for one exchange

A datagram is read, checked and sent on the socket of its session, which is opened for the
first one, and a reply of the local service is received and answered. While the connection is
open the pump can always finish what it has in hand.
-/

namespace Rtun.Serve

universe u
variable {τ : Type u} {peer : EndpointId}

open Framing Run

/-- While the connection is open the pump and the reaper run; and no traffic is in
the future. -/
structure Tended (state : State τ) : Prop where
  pumping : state.link = .established → state.pump ≠ .stopped
  reaping : state.link = .established → state.reaping = true
  timely : Timely state

/-- A connection that was just established has a pump and a reaper, and no
sessions. -/
theorem tended_initial (channel : Watch.Channel Config) (now : Instant) :
    Tended (initial channel now : State τ) :=
  ⟨fun _ => nofun, fun _ => rfl, timely_initial channel now⟩

/-- Only a connection that is not open stops the pump or the reaper. -/
theorem running_step {state next : State τ} {action : Action τ}
    (pumping : state.link = .established → state.pump ≠ .stopped)
    (reaping : state.link = .established → state.reaping = true)
    (taken : step peer state action = some next) (up : next.link = .established) :
    next.pump ≠ .stopped ∧ next.reaping = true := by
  cases action with
  | elapse nanos | publish config =>
    cases taken
    exact ⟨pumping up, reaping up⟩
  | lose | abortPumps | clear =>
    simp only [step, Option.ite_none_right_eq_some, Option.some.injEq] at taken
    obtain ⟨_, rfl⟩ := taken
    cases up
  | stopPump =>
    simp only [step, Option.ite_none_right_eq_some, Option.some.injEq] at taken
    obtain ⟨stops, rfl⟩ := taken
    simp [Pump.canStop, show state.link = .established from up] at stops
  | stopReaper =>
    simp only [step, Option.ite_none_right_eq_some, Option.some.injEq] at taken
    obtain ⟨ended, rfl⟩ := taken
    simp [show state.link = .established from up] at ended
  | reap =>
    simp only [step, Option.ite_none_right_eq_some, Option.some.injEq] at taken
    obtain ⟨reaps, rfl⟩ := taken
    exact ⟨pumping up, reaps⟩
  | receive handle payload | recvError handle | stopReply handle | answer handle accepted =>
    obtain ⟨reply, _, stepped⟩ := reply_taken rfl taken
    obtain ⟨pump, link, reaps⟩ := replyStep_frame stepped
    rw [link] at up
    exact ⟨pump.trans_ne (pumping up), reaps.trans (reaping up)⟩
  | _ =>
    obtain ⟨runs, link, reaps⟩ := pumpStep_frame taken
    exact ⟨runs, reaps.trans (reaping (link.symm.trans up))⟩

/-- The step lemma: the pump and the reaper stop only when the connection does,
and no stamp runs ahead of the clock. -/
theorem Tended.step {state next : State τ} {action : Action τ} (tended : Tended state)
    (taken : Serve.step peer state action = some next) : Tended next where
  pumping := fun up => (running_step tended.pumping tended.reaping taken up).1
  reaping := fun up => (running_step tended.pumping tended.reaping taken up).2
  timely := tended.timely.step taken

/-- The steps by which the pump finishes what it has in hand. -/
def Action.finishes : Action τ → Bool
  | .subscribe | .revoke | .check | .touch | .open _ | .insert | .send _ => true
  | _ => false

/-- Nothing that can be seen from outside of the tasks has changed. -/
structure Unseen (state next : State τ) : Prop where
  channel : next.channel = state.channel
  link : next.link = state.link
  outbox : next.outbox = state.outbox
  sent : next.sent = state.sent
  sockets : next.sockets = state.sockets
  replies : next.replies.length = state.replies.length

/-- What cannot be seen in two stretches cannot be seen in the whole. -/
theorem Unseen.trans {first second third : State τ} (one : Unseen first second)
    (two : Unseen second third) : Unseen first third where
  channel := two.channel.trans one.channel
  link := two.link.trans one.link
  outbox := two.outbox.trans one.outbox
  sent := two.sent.trans one.sent
  sockets := two.sockets.trans one.sockets
  replies := two.replies.trans one.replies

/-- The pump can come to its `select!`, unseen from outside. -/
def CanFinish (peer : EndpointId) (state : State τ) : Prop :=
  ∃ actions, (∀ action ∈ actions, action.finishes = true) ∧
    ∃ next, run (step peer) state actions = some next ∧ next.pump = .selecting ∧ Unseen state next

/-- It is one step further away. -/
theorem CanFinish.before {state next : State τ} (can : CanFinish peer next) (action : Action τ)
    (finishes : action.finishes = true) (taken : step peer state action = some next)
    (unseen : Unseen state next) : CanFinish peer state := by
  obtain ⟨actions, finishing, last, reached, selecting, after⟩ := can
  refine ⟨action :: actions, ?_, last, (run_cons_some _ _ _ _ _).mpr ⟨next, taken, reached⟩,
    selecting, unseen.trans after⟩
  intro other member
  rcases List.mem_cons.mp member with rfl | later
  · exact finishes
  · exact finishing other later

/-- The pump waits, and no session is left. -/
structure Rested (state : State τ) : Prop where
  selecting : state.pump = .selecting
  empty : ∀ id, state.sessions.lookup id = none

/-- The id has a session with this socket, which is connected to the port and
whose reply task waits. -/
structure Holds (id : UInt32) (port : UInt16) (sock handle : Nat) (state : State τ) : Prop where
  session : ∃ session, state.sessions.lookup id = some session ∧ session.sock = sock
  socket : ∃ socket, state.sockets[sock]? = some socket ∧ socket.port = port
  task : ∃ told, state.replies[handle]? = some { sock, id, port, stage := .receiving, told }

/-- The pump waits as well, and the port is granted. -/
structure Carries (peer : EndpointId) (id : UInt32) (port : UInt16) (sock handle : Nat)
    (state : State τ) : Prop where
  selecting : state.pump = .selecting
  granted : state.channel.value.reaches peer .udp port = true
  holds : Holds id port sock handle state

/-- A payload was sent on a socket, and nothing else has left the serving side. -/
structure Delivered (state after : State τ) (payload : Bytes) (sock : Nat) (port : UInt16) : Prop where
  outbox : after.outbox = state.outbox
  sent : ∃ datagram : Admitted τ, datagram.payload = payload ∧
    after.sent = state.sent ++ [{ datagram, sock, port := port }]

/-- What the check makes of a datagram for a granted port. -/
theorem consult_granted {config : Config} {port : UInt16}
    (granted : config.reaches peer .udp port = true) (tag : τ) (id : UInt32) (payload : Bytes) :
    consult peer config tag (encodeDatagram id port payload) = some
      { tag, bytes := encodeDatagram id port payload, id, port, payload, consulted := config } := by
  simp only [consult, decode_encode, granted, if_true]

/-- The last step of the pump: the payload is sent. -/
theorem send_delivers {state : State τ} {datagram : Admitted τ} {id : UInt32} {port : UInt16}
    {sock handle : Nat} (sending : state.pump = .sending datagram sock)
    (granted : state.channel.value.reaches peer .udp port = true)
    (holds : Holds id port sock handle state) :
    ∃ after, Carries peer id port sock handle after ∧
      Delivered state after datagram.payload sock port ∧
      step peer state (.send true) = some after := by
  obtain ⟨socket, there, samePort⟩ := holds.socket
  let carrying : Socket τ := { socket with carried := socket.carried ++ [datagram] }
  let after : State τ := { state with
    sockets := state.sockets.set sock carrying,
    sent := state.sent ++ [{ datagram, sock, port := port }], pump := .selecting }
  refine ⟨after, ⟨rfl, granted, holds.session, ⟨carrying, ?_, samePort⟩, holds.task⟩,
    ⟨rfl, datagram, rfl, rfl⟩, ?_⟩
  · exact Slots.get_set_self _ _ _ _ there
  · simp only [step, pumpStep, sending, there, samePort, after, carrying]

/-- A datagram for a session is sent on its socket. -/
theorem Carries.request {state : State τ} {id : UInt32} {port : UInt16} {sock handle : Nat}
    (carries : Carries peer id port sock handle state) (tag : τ) (payload : Bytes) :
    ∃ after, Carries peer id port sock handle after ∧ Delivered state after payload sock port ∧
      run (step peer) state
        [.read tag (encodeDatagram id port payload), .check, .touch, .send true] = some after := by
  let datagram : Admitted τ :=
    { tag, bytes := encodeDatagram id port payload, id, port, payload,
      consulted := state.channel.value }
  let found : State τ := { state with
    sessions := state.sessions.touched id state.now, pump := .sending datagram sock }
  obtain ⟨session, listed, sameSock⟩ := carries.holds.session
  have touched := (Sessions.touch_some_iff state.sessions _ id state.now sock).mpr
    ⟨session, listed, sameSock, rfl⟩
  have holds : Holds id port sock handle found := by
    refine ⟨⟨{ session with last := state.now }, ?_, sameSock⟩, carries.holds.socket,
      carries.holds.task⟩
    rw [Sessions.lookup_traffic, listed, Option.map_some, if_pos rfl]
  obtain ⟨after, still, delivered, sent⟩ := send_delivers
    (show found.pump = .sending datagram sock from rfl) carries.granted holds
  refine ⟨after, still, ⟨delivered.outbox, delivered.sent⟩, ?_⟩
  refine (run_append _ _ _ [_, _, _] [_]).mpr ⟨found, ?_, (run_cons_some _ _ _ _ _).mpr ⟨after, sent, rfl⟩⟩
  simp only [run, step, pumpStep, carries.selecting,
    consult_granted carries.granted tag id payload, touched, found, datagram]

/-- The first datagram of a session opens it, and is sent on its socket. -/
theorem Rested.request {state : State τ} (rested : Rested state) {port : UInt16}
    (granted : state.channel.value.reaches peer .udp port = true) (tag : τ) (id : UInt32)
    (payload : Bytes) :
    ∃ after, Carries peer id port state.sockets.length state.replies.length after ∧
      Delivered state after payload state.sockets.length port ∧
      run (step peer) state [.read tag (encodeDatagram id port payload), .check, .touch, .open true,
        .insert, .send true] = some after := by
  let datagram : Admitted τ :=
    { tag, bytes := encodeDatagram id port payload, id, port, payload,
      consulted := state.channel.value }
  let socket : Socket τ := { port, opener := datagram, carried := [] }
  let reply : Reply :=
    { sock := state.sockets.length, id, port, stage := .receiving, told := false }
  let session : Session :=
    { sock := state.sockets.length, reply := state.replies.length, last := state.now, port }
  let opened : State τ := { state with
    sockets := state.sockets ++ [socket], replies := state.replies ++ [reply],
    pump := .spawned datagram state.sockets.length state.replies.length }
  let inserted : State τ := { opened.insert id session with
    pump := .sending datagram state.sockets.length }
  have absent := (Sessions.touch_none_iff state.sessions id state.now).mpr (rested.empty id)
  have holds : Holds id port state.sockets.length state.replies.length inserted := by
    refine ⟨⟨session, ?_, rfl⟩, ⟨socket, ?_, rfl⟩, false, ?_⟩
    · simp [inserted, State.insert]
    · exact (Slots.get_push_iff _ _ _ _).mpr (Or.inr ⟨rfl, rfl⟩)
    · simp only [inserted, State.insert, abortAll_get, opened, rested.empty id]
      simp [reply]
  obtain ⟨after, still, delivered, sent⟩ := send_delivers
    (show inserted.pump = .sending datagram state.sockets.length from rfl) granted holds
  refine ⟨after, still, ⟨delivered.outbox, delivered.sent⟩, ?_⟩
  refine (run_append _ _ _ [_, _, _, _, _] [_]).mpr
    ⟨inserted, ?_, (run_cons_some _ _ _ _ _).mpr ⟨after, sent, rfl⟩⟩
  simp only [run, step, pumpStep, rested.selecting, consult_granted granted tag id payload, absent,
    inserted, opened, datagram, socket, reply, session]

/-- A reply of the service is handed to the connection. -/
theorem Carries.reply {state : State τ} {id : UInt32} {port : UInt16} {sock handle : Nat}
    (carries : Carries peer id port sock handle state) (payload : Bytes) :
    ∃ after, Carries peer id port sock handle after ∧ after.sent = state.sent ∧
      after.outbox = state.outbox ++ [{ bytes := encodeDatagram id port payload, sock }] ∧
      run (step peer) state [.receive handle payload, .answer handle true] = some after := by
  obtain ⟨told, there⟩ := carries.holds.task
  obtain ⟨session, listed, sameSock⟩ := carries.holds.session
  let waiting : Reply := { sock, id, port, stage := .receiving, told }
  let holding : Reply := { sock, id, port, stage := .received payload, told }
  have between : (state.replies.set handle holding)[handle]? = some holding :=
    Slots.get_set_self _ _ _ _ there
  let after : State τ := { state with
    replies := state.replies, sessions := state.sessions.touched id state.now,
    outbox := state.outbox ++ [{ bytes := encodeDatagram id port payload, sock }] }
  have back : (state.replies.set handle holding).set handle waiting = state.replies := by
    obtain ⟨inside, same⟩ := List.getElem?_eq_some_iff.mp there
    rw [List.set_set, show waiting = state.replies[handle] from same.symm]
    exact List.set_getElem_self inside
  refine ⟨after, ⟨carries.selecting, carries.granted, ⟨{ session with last := state.now }, ?_, sameSock⟩,
    carries.holds.socket, told, there⟩, rfl, rfl, ?_⟩
  · rw [Sessions.lookup_traffic, listed, Option.map_some, if_pos rfl]
  · refine (run_cons_some _ _ _ _ _).mpr ⟨state.advance handle waiting (.received payload), ?_,
      (run_cons_some _ _ _ _ _).mpr ⟨after, ?_, rfl⟩⟩
    · simp only [step, there, replyStep, waiting]
    · simp only [step, State.advance, waiting]
      rw [between]
      simp only [replyStep, holding, State.advance, if_true]
      rw [show (state.replies.set handle holding).set handle waiting = state.replies from back]

end Rtun.Serve
