import Rtun.Serve.Authorised
import Rtun.Tunnel

/-!
# Forward routing from end to end

A payload should reach the port that the binding of its listener had when it was
received. Within one generation of forwarders the id stands for the port; an id of a
new generation may be one that the serving side still knows from an old one, for
another port, and then the payload goes there.
-/

namespace Rtun.Tunnel

open Framing Connect Run

variable {peer : EndpointId}

/-- Every payload that was sent to a local port on the serving side was received
on a listener whose binding had that remote port at the moment of reception. -/
def RoutedAsBound (state : State) : Prop :=
  ∀ sent ∈ state.far.sent, sent.datagram.tag.bound = some sent.port

/-- A touch that finds a session finds one for the port that the datagram names,
or one that was opened for a datagram of the same generation. -/
def foundByPortOrGeneration (far : Serve.State Origin) (action : Serve.Action Origin) : Bool :=
  match action, far.pump with
  | .touch, .granted datagram =>
      (far.sessions.lookup datagram.id).all (fun session =>
        session.port == datagram.port ||
          (far.opener session.sock).all (fun opener =>
            opener.tag.generation == datagram.tag.generation))
  | _, _ => true

/-- The conditions on the two sides. -/
def staysOnCourse (state : State) (action : Action) : Bool :=
  match action with
  | .near action => receivesWhereBound state.near action
  | .far action => foundByPortOrGeneration state.far action
  | _ => true

/-- The invariant: both sides are linked, what is under way was received where it
was bound, and each socket carries datagrams for its own port. -/
structure OnCourse (peer : EndpointId) (state : State) : Prop where
  linked : Linked peer state
  current : Current state.near
  tagged : Serve.Tagged (fun origin _ => origin.Current) state.far
  matched : Serve.Matched Serve.SamePort state.far

/-- A datagram names the port that its forwarder was spawned with. -/
theorem port_of_framed (generations : List Generation) (datagram : Serve.Admitted Origin)
    (valid : datagram.Valid peer) (framed : Framed generations datagram.bytes datagram.tag) :
    datagram.port = datagram.tag.mapped := by
  obtain ⟨id, payload, generation, decoded, _⟩ := framed
  rw [valid.1, Option.some.injEq, Prod.mk.injEq, Prod.mk.injEq] at decoded
  exact decoded.2.1

/-- Within one generation the id decides the port. -/
theorem finds_samePort (state : State) (linked : Linked peer state)
    (action : Serve.Action Origin) (condition : foundByPortOrGeneration state.far action = true) :
    Serve.FindsRelated Serve.SamePort state.far action := by
  intro datagram session opener isTouch held present opened
  have either : session.port = datagram.port ∨
      opener.tag.generation = datagram.tag.generation := by
    simpa [foundByPortOrGeneration, isTouch, held, present, opened] using condition
  rcases either with forIt | sameGeneration
  · obtain ⟨known, found, _, samePort⟩ := linked.far.sessions datagram.id session present
    obtain rfl : opener = known := Option.some.inj (opened.symm.trans found)
    exact samePort.trans forIt
  · have holds : state.far.pump.datagram = some datagram := by
      rw [held]
      rfl
    exact (linked.found_unique holds present opened sameGeneration).2

/-- The step lemma. -/
theorem OnCourse.step {checks : Bool} {state next : State} {action : Action}
    (onCourse : OnCourse peer state) (condition : staysOnCourse state action = true)
    (effect : Effect checks peer state action next) (few : FewSessions next.near.generations) :
    OnCourse peer next := by
  have linked : Linked peer next := onCourse.linked.step effect few
  have reflexive : ∀ datagram : Serve.Admitted Origin, Serve.SamePort datagram datagram :=
    fun _ => rfl
  cases effect with
  | near own near _ effect =>
    exact ⟨linked, onCourse.current.step condition effect, onCourse.tagged, onCourse.matched⟩
  | far own far notRead effect =>
    have finds := finds_samePort state onCourse.linked own condition
    refine ⟨linked, onCourse.current, onCourse.tagged.step effect ?_,
      onCourse.matched.step onCourse.linked.far reflexive finds effect⟩
    intro tag bytes isRead
    exact absurd isRead (notRead tag bytes)
  | arrive index bytes origin far inFlight effect =>
    refine ⟨linked, ⟨onCourse.current.held, ?_⟩, onCourse.tagged.step effect ?_,
      onCourse.matched.step onCourse.linked.far reflexive ?_ effect⟩
    · intro sent member
      exact onCourse.current.outbox sent (List.mem_of_mem_eraseIdx member)
    · intro tag other isRead
      obtain ⟨rfl, rfl⟩ := Serve.Action.read.inj isRead
      exact onCourse.current.outbox (bytes, origin) inFlight
    · intro datagram session opener isTouch
      cases isTouch
  | answer index generation reply near inFlight effect =>
    refine ⟨linked, onCourse.current.step rfl effect, ?_, ?_⟩
    · exact ⟨onCourse.tagged.received, onCourse.tagged.held, onCourse.tagged.openers,
        onCourse.tagged.sent⟩
    · exact ⟨onCourse.matched.sending, onCourse.matched.carried, onCourse.matched.sent⟩

/-- On course, every payload goes where its binding pointed. -/
theorem OnCourse.routed (state : State) (onCourse : OnCourse peer state) : RoutedAsBound state := by
  intro sent member
  obtain ⟨valid, opener, opened, toPort⟩ := onCourse.linked.far.sent sent member
  obtain ⟨known, found, samePort⟩ := onCourse.matched.sent sent member
  obtain rfl : opener = known := Option.some.inj (opened.symm.trans found)
  have mapped : sent.datagram.port = sent.datagram.tag.mapped :=
    port_of_framed _ sent.datagram valid (onCourse.linked.framed.sent sent member)
  rw [onCourse.tagged.sent sent member, ← mapped, ← samePort, toPort]

/-- In every run in which no forwarder receives on a listener that was retargeted
or dropped since it was spawned, and each datagram that finds a session finds one
for its port or of its own generation, every payload goes where its binding
pointed when it was received. -/
theorem forwarded_as_bound (checks : Bool) (peer : EndpointId) (channel : Watch.Channel Config)
    (receiver : Watch.Receiver) (listeners : Listeners) (runtime : Runtime) (now : Instant)
    (farChannel : Watch.Channel Config) (farNow : Instant) (actions : List Action) (last : State)
    (meets : Meets (step checks peer) (fun state action => staysOnCourse state action = true)
      (initial channel receiver listeners runtime now farChannel farNow) actions)
    (reached : run (step checks peer)
      (initial channel receiver listeners runtime now farChannel farNow) actions = some last)
    (few : FewSessions last.near.generations) : RoutedAsBound last := by
  have onCourse : FewSessions last.near.generations → OnCourse peer last := by
    refine invariant_of_meets (step checks peer) _
      (fun state => FewSessions state.near.generations → OnCourse peer state) ?_
      (initial channel receiver listeners runtime now farChannel farNow) last actions ?_ meets reached
    · intro state action next before condition taken fewNext
      have effect : Effect checks peer state action next :=
        step_effect checks peer state next action taken
      exact (before (fewNext.before (generations_grow effect))).step condition effect fewNext
    · intro _
      exact ⟨linked_initial peer channel receiver listeners runtime now farChannel farNow,
        current_initial channel receiver listeners runtime now,
        Serve.tagged_initial _ farChannel farNow, Serve.matched_initial _ farChannel farNow⟩
  exact (onCourse few).routed

/-- The condition on the serving side is not too strong: once a datagram has found
a session for another port, a send that succeeds misroutes its payload. -/
theorem mismatch_misroutes (checks : Bool) (state : State) (onCourse : OnCourse peer state)
    (datagram : Serve.Admitted Origin) (held : state.far.pump = .granted datagram)
    (session : Serve.Session) (present : state.far.sessions.lookup datagram.id = some session)
    (differs : session.port ≠ datagram.port) :
    ∃ last, run (step checks peer) state [.far .touch, .far (.send true)] = some last ∧
      ¬ RoutedAsBound last := by
  have holds : state.far.pump.datagram = some datagram := by
    rw [held]
    rfl
  obtain ⟨far, taken, member⟩ :=
    Serve.touch_sends onCourse.linked.far held present
  refine ⟨_, run_far checks peer state far [.touch, .send true] (by simp) taken, ?_⟩
  intro routed
  have bound : datagram.tag.bound = some session.port := routed _ member
  have mapped : datagram.port = datagram.tag.mapped :=
    port_of_framed _ datagram (onCourse.linked.far.held datagram holds)
      (onCourse.linked.framed.held datagram holds)
  rw [onCourse.tagged.held datagram holds, ← mapped] at bound
  exact differs (Option.some.inj bound).symm

/-- A binding is parked and restored between two datagrams of one source. -/
def parkedAndRestored : List Action :=
  .far .subscribe :: forwardOpening 0 (localSource 40000) [7] ++ rebind [] ++
    rebind [udpBinding 5000 53] ++ forwardKnown 2 (localSource 40000) [8]

/-- The restored binding has the remote port it had, so its id may be used again:
both datagrams have gone where they were bound. -/
theorem restored_binding_on_course :
    ∃ last, run (step true laptop) (established [udpBinding 5000 53]) parkedAndRestored = some last ∧
      last.far.sent.map Serve.Sent.port = [53, 53] ∧ RoutedAsBound last := by
  refine ⟨_, rfl, rfl, ?_⟩
  exact forwarded_as_bound true laptop (Watch.Channel.new (bindings [udpBinding 5000 53]))
    { seen := 0 } (listening [udpBinding 5000 53]).listeners
    (listening [udpBinding 5000 53]).runtime 0 (Watch.Channel.new (offering true)) 0 parkedAndRestored _
    (by decide +kernel) rfl (by decide +kernel)

/-- A binding is pointed at another remote port between two datagrams of one
source. -/
def retargeted : List Action :=
  .far .subscribe :: forwardOpening 0 (localSource 40000) [7] ++ rebind [udpBinding 5000 123] ++
    forwardKnown 1 (localSource 40000) [8]

/-- The payload received for NTP goes to DNS: the new generation gives it the id
under which the serving side still has the session of the old one. -/
theorem retargeted_binding_misrouted :
    ∃ last, run (step true laptop) (established [udpBinding 5000 53]) retargeted = some last ∧
      last.far.sent.map (fun sent => (sent.datagram.tag.bound, sent.port)) =
        [(some 53, 53), (some 123, 53)] ∧ ¬ RoutedAsBound last := by
  refine ⟨_, rfl, rfl, ?_⟩
  intro routed
  have bound := routed _ (List.mem_cons_of_mem _ List.mem_cons_self)
  exact absurd bound (by decide)

end Rtun.Tunnel
