import Rtun.Serve.Soundness

/-!
# UDP port authorisation on the serving side

The allowlist check is made on the port that a datagram names, while delivery goes
through the session found by the id alone. The two agree as long as every session
that a datagram finds was opened for the port that the datagram names. A peer that
reuses an id for another port breaks this: its payload goes to the port of the old
session, whether or not that port is still granted.
-/

namespace Rtun.Serve

universe u
variable {τ : Type u} {peer : EndpointId}

open Framing Run

/-- A touch that finds a session finds one for the port that the datagram
names. -/
def foundForItsPort (state : State τ) (action : Action τ) : Bool :=
  match action, state.pump with
  | .touch, .granted datagram =>
      (state.sessions.lookup datagram.id).all (fun session => session.port == datagram.port)
  | _, _ => true

/-- Every payload that was sent to a local port came in a datagram that named that
port, and the configuration consulted for the datagram grants it. -/
def Authorised (peer : EndpointId) (state : State τ) : Prop :=
  ∀ sent ∈ state.sent,
    (∃ id, decodeDatagram sent.datagram.bytes = some (id, sent.port, sent.datagram.payload)) ∧
      sent.datagram.consulted.reaches peer .udp sent.port = true

/-- Two datagrams name one port. -/
def SamePort (opener datagram : Admitted τ) : Prop := opener.port = datagram.port

/-- The condition says what the touch finds. -/
theorem finds_samePort (state : State τ) (action : Action τ) (sound : Sound peer state)
    (condition : foundForItsPort state action = true) : FindsRelated SamePort state action := by
  intro datagram session opener isTouch held present opened
  obtain ⟨known, found, _, samePort⟩ := sound.sessions datagram.id session present
  obtain rfl : opener = known := Option.some.inj (opened.symm.trans found)
  have forIt : session.port = datagram.port := by
    simpa [foundForItsPort, isTouch, held, present] using condition
  exact samePort.trans forIt

/-- A sound state whose datagrams went to sockets for their own port is
authorised. -/
theorem authorised_of_matched (state : State τ) (sound : Sound peer state)
    (matched : Matched SamePort state) : Authorised peer state := by
  intro sent member
  obtain ⟨⟨decoded, reached⟩, opener, opened, toPort⟩ := sound.sent sent member
  obtain ⟨known, found, samePort⟩ := matched.sent sent member
  obtain rfl : opener = known := Option.some.inj (opened.symm.trans found)
  have port : sent.datagram.port = sent.port := samePort.symm.trans toPort
  rw [← port]
  exact ⟨⟨sent.datagram.id, decoded⟩, reached⟩

/-- Whatever the peer sends, in every run in which each datagram that finds a
session finds one for the port it names, payloads go only to the port that their
datagram names and that the configuration consulted for it grants. -/
theorem sends_authorised (peer : EndpointId) (channel : Watch.Channel Config) (now : Instant)
    (actions : List (Action τ)) (last : State τ)
    (meets : Meets (step peer) (fun state action => foundForItsPort state action = true)
      (initial channel now) actions)
    (reached : run (step peer) (initial channel now) actions = some last) :
    Authorised peer last := by
  have kept : Sound peer last ∧ Matched SamePort last := by
    refine invariant_of_meets (step peer) _ (fun state => Sound peer state ∧ Matched SamePort state)
      ?_ (initial channel now) last actions
      ⟨sound_initial peer channel now, matched_initial SamePort channel now⟩ meets reached
    intro state action next holds condition taken
    have effect : Effect peer state action next := step_effect peer state next action taken
    have finds : FindsRelated SamePort state action :=
      finds_samePort state action holds.1 condition
    exact ⟨holds.1.step effect, holds.2.step holds.1 (fun _ => rfl) finds effect⟩
  exact authorised_of_matched last kept.1 kept.2

/-- The condition is not too strong: once a datagram has found a session for
another port, a send that succeeds is one that was not authorised. -/
theorem mismatch_misdirects (peer : EndpointId) (state : State τ) (sound : Sound peer state)
    (datagram : Admitted τ) (held : state.pump = .granted datagram) (session : Session)
    (present : state.sessions.lookup datagram.id = some session)
    (differs : session.port ≠ datagram.port) :
    ∃ last, run (step peer) state [.touch, .send true] = some last ∧ ¬ Authorised peer last := by
  obtain ⟨last, taken, member⟩ := touch_sends sound held present
  refine ⟨last, taken, ?_⟩
  intro authorised
  obtain ⟨⟨id, decoded⟩, _⟩ := authorised _ member
  have valid : datagram.Valid peer := sound.held datagram (by rw [held]; rfl)
  have same : datagram.port = session.port := by
    simpa using congrArg (Option.map (fun header => header.2.1)) (valid.1.symm.trans decoded)
  exact differs same.symm

/-- One datagram for a session that is opened for it. -/
def openSession (id : UInt32) (port : UInt16) (payload : Bytes) : List (Action Unit) :=
  [.read () (encodeDatagram id port payload), .check, .touch, .open true, .insert, .send true]

/-- One datagram for a session that is known. -/
def useSession (id : UInt32) (port : UInt16) (payload : Bytes) : List (Action Unit) :=
  [.read () (encodeDatagram id port payload), .check, .touch, .send true]

/-- Two sessions for two ports, one of them used again. -/
def twoServices : List (Action Unit) :=
  .subscribe :: openSession 1 53 [7] ++ openSession 2 123 [8] ++ useSession 1 53 [9]

/-- Each datagram has gone to the port that its header names, on the socket of its
own session. -/
theorem two_services_authorised :
    ∃ last, run (step laptop) (initial (Watch.Channel.new (offering true)) 0) twoServices = some last ∧
      last.sent.map Sent.port = [53, 123, 53] ∧ Authorised laptop last := by
  refine ⟨_, rfl, rfl, ?_⟩
  exact sends_authorised laptop (Watch.Channel.new (offering true)) 0 twoServices _ (by decide) rfl

/-- A session is opened for DNS, DNS is withdrawn, and the id is reused for
NTP. -/
def reusedId : List (Action Unit) :=
  .subscribe :: openSession 1 53 [7] ++ [.publish (offering false)] ++ useSession 1 123 [8]

/-- The second payload goes to DNS, which neither its datagram names nor the
configuration consulted for it grants. -/
theorem reused_id_misdirects :
    ∃ last, run (step laptop) (initial (Watch.Channel.new (offering true)) 0) reusedId = some last ∧
      last.sent.map Sent.port = [53, 53] ∧ ¬ Authorised laptop last := by
  refine ⟨_, rfl, rfl, ?_⟩
  intro authorised
  have granted := (authorised _ (List.mem_cons_of_mem _ List.mem_cons_self)).2
  exact absurd granted (by decide)

end Rtun.Serve
