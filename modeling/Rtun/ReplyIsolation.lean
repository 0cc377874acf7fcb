import Rtun.Tunnel

/-!
# Reply isolation from end to end

A reply should go to the local source whose datagrams the session socket carries.
Within one generation of forwarders the id stands for the source, on both sides. Across
generations it does not: an id of a new generation may find the session of another
source on the serving side, and a reply of an old session may be routed by a table in
which its id stands for another source.
-/

namespace Rtun.Tunnel

open Framing Connect Run

variable {peer : EndpointId} {state : State}

/-- Every reply that was handed to a local source was received on a session socket
that has only carried datagrams of that source. -/
def RepliesIsolated (state : State) : Prop :=
  ∀ handed ∈ state.near.handed, ∃ socket, state.far.sockets[handed.via]? = some socket ∧
    ∀ datagram ∈ socket.carried, datagram.tag.src = handed.src

/-- Two datagrams were sent by one source. -/
def SameSource (opener datagram : Serve.Admitted Origin) : Prop :=
  opener.tag.src = datagram.tag.src

/-- A touch that finds a session finds one that was opened for a datagram of the
same source, or of the same generation. -/
def foundBySourceOrGeneration (far : Serve.State Origin) (action : Serve.Action Origin) : Bool :=
  match action, far.pump with
  | .touch, .granted datagram =>
      (far.sessions.lookup datagram.id).all (fun session =>
        (far.opener session.sock).all (fun opener =>
          opener.tag.src == datagram.tag.src || opener.tag.generation == datagram.tag.generation))
  | _, _ => true

/-- The reply that a generation is about to route was received on a socket that
was opened for a datagram of the same generation, or of the source that the reply
is routed to. -/
def routedBySourceOrGeneration (far : Serve.State Origin) (index : Nat) (generation : Generation) :
    Bool :=
  match generation.inbound with
  | .got bytes via =>
      match decodeDatagram bytes with
      | none => true
      | some (id, _, _) =>
          (generation.sessions.byId.lookup id).all (fun session =>
            (far.opener via).all (fun opener =>
              opener.tag.src == session.src || opener.tag.generation == index))
  | _ => true

/-- The conditions on the two sides. -/
def staysApart (state : State) (action : Action) : Bool :=
  match action with
  | .near (.route index) =>
      (state.near.generations[index]?).all (routedBySourceOrGeneration state.far index)
  | .far action => foundBySourceOrGeneration state.far action
  | _ => true

/-- What `pump_udp_in` holds belongs to a session socket: a reply carries the id
that the socket was opened with, and one that is routed goes to the source that it
was opened for. -/
def BelongsTo (far : Serve.State Origin) : Inbound → Prop
  | .got bytes via => ∃ opener port payload, far.opener via = some opener ∧
      decodeDatagram bytes = some (opener.id, port, payload)
  | .routed _ src _ via => ∃ opener, far.opener via = some opener ∧ opener.tag.src = src
  | _ => True

/-- The invariant: both sides are linked, each socket carries datagrams of one
source, and each reply belongs to the socket that it was received on. -/
structure Apart (peer : EndpointId) (state : State) : Prop where
  linked : Linked peer state
  matched : Serve.Matched SameSource state.far
  inbound : ∀ (index : Nat) (generation : Generation),
    state.near.generations[index]? = some generation → BelongsTo state.far generation.inbound
  handed : ∀ handed ∈ state.near.handed, ∃ opener, state.far.opener handed.via = some opener ∧
    opener.tag.src = handed.src

/-- What holds nothing belongs anywhere. -/
theorem belongsTo_of_free (far : Serve.State Origin) (inbound : Inbound) (free : inbound.free) :
    BelongsTo far inbound := by
  cases inbound with
  | got => exact free.elim
  | routed => exact free.elim
  | absent => trivial
  | reading => trivial
  | ended => trivial

/-- What belongs to a socket still does after a step of the serving side. -/
theorem BelongsTo.later {far next : Serve.State Origin} {action : Serve.Action Origin}
    {inbound : Inbound} (belongs : BelongsTo far inbound)
    (effect : Serve.Effect peer far action next) : BelongsTo next inbound := by
  cases inbound with
  | got bytes via =>
    obtain ⟨opener, port, payload, opened, decoded⟩ := belongs
    exact ⟨opener, port, payload, Serve.opener_kept effect via opener opened, decoded⟩
  | routed sock src payload via =>
    obtain ⟨opener, opened, same⟩ := belongs
    exact ⟨opener, Serve.opener_kept effect via opener opened, same⟩
  | absent => trivial
  | reading => trivial
  | ended => trivial

/-- Within one generation the id decides the source. -/
theorem finds_sameSource (linked : Linked peer state) (action : Serve.Action Origin)
    (condition : foundBySourceOrGeneration state.far action = true) :
    Serve.FindsRelated SameSource state.far action := by
  intro datagram session opener isTouch held present opened
  have either : opener.tag.src = datagram.tag.src ∨
      opener.tag.generation = datagram.tag.generation := by
    simpa [foundBySourceOrGeneration, isTouch, held, present, opened] using condition
  rcases either with sameSource | sameGeneration
  · exact sameSource
  · have holds : state.far.pump.datagram = some datagram := by
      rw [held]
      rfl
    exact (linked.found_unique holds present opened sameGeneration).1

/-- The table of the generation that opened a session routes its replies to the
source that it was opened for. -/
theorem routed_to_opener (linked : Linked peer state) (index : Nat) (generation : Generation)
    (present : state.near.generations[index]? = some generation) (via : Nat)
    (opener : Serve.Admitted Origin) (opened : state.far.opener via = some opener)
    (sameGeneration : opener.tag.generation = index) (session : Session)
    (listed : generation.sessions.byId.lookup opener.id = some session) :
    opener.tag.src = session.src := by
  obtain ⟨socket, found, rfl⟩ := Option.map_eq_some_iff.mp opened
  obtain ⟨id, payload, known, header, there, logged⟩ := linked.framed.openers via socket found
  obtain rfl : generation = known := by
    rw [sameGeneration, present] at there
    exact Option.some.inj there
  have decoded := (linked.far.sockets via socket found).1.1
  rw [decoded, Option.some.injEq, Prod.mk.injEq] at header
  obtain ⟨port, keyed⟩ := (linked.near.logged index generation present).ids socket.opener.id session
    listed
  rw [header.1, logged] at keyed
  exact (Prod.mk.inj (Option.some.inj keyed)).1

namespace Apart

variable {next : State} {action : Action}

/-- A reply that is routed as the condition says goes to the source its socket was
opened for. -/
theorem routed (apart : Apart peer state) (index : Nat) (generation : Generation)
    (present : state.near.generations[index]? = some generation)
    (condition : routedBySourceOrGeneration state.far index generation = true) {bytes : Bytes}
    {via : Nat} (held : generation.inbound = .got bytes via) {id : UInt32} {port : UInt16}
    {payload : Bytes} (decoded : decodeDatagram bytes = some (id, port, payload)) {sock : Nat}
    {src : SocketAddr} {sessions : Sessions}
    (route : generation.sessions.replyRoute id state.near.now = some ((sock, src), sessions)) :
    ∃ opener, state.far.opener via = some opener ∧ opener.tag.src = src := by
  have belongs : BelongsTo state.far (.got bytes via) := held ▸ apart.inbound index generation present
  obtain ⟨opener, _, _, opened, header⟩ := belongs
  obtain rfl : id = opener.id := (Prod.mk.inj (Option.some.inj (decoded.symm.trans header))).1
  obtain ⟨session, listed, _, rfl⟩ := Sessions.replyRoute_some route
  have either : opener.tag.src = session.src ∨ opener.tag.generation = index := by
    simpa [routedBySourceOrGeneration, held, decoded, listed, opened] using condition
  rcases either with sameSource | sameGeneration
  · exact ⟨opener, opened, sameSource⟩
  · exact ⟨opener, opened, routed_to_opener apart.linked index generation present via opener opened
      sameGeneration session listed⟩

/-- A step of the connecting side, in which a reply that it reads is one in
flight. -/
theorem near_step (apart : Apart peer state) {checks : Bool} {own : Connect.Action}
    {near : Connect.State} (effect : Connect.Effect checks state.near own near)
    (condition : staysApart state (.near own) = true)
    (reads : ∀ index bytes via, own = .read index bytes via → BelongsTo state.far (.got bytes via)) :
    (∀ (index : Nat) (generation : Generation), near.generations[index]? = some generation →
      BelongsTo state.far generation.inbound) ∧
    ∀ handed ∈ near.handed, ∃ opener, state.far.opener handed.via = some opener ∧
      opener.tag.src = handed.src := by
  constructor
  · intro index generation present
    rcases inbound_origin effect index generation present with
      ⟨before, known, same⟩ | free | ⟨bytes, via, isRead, holds⟩ |
      ⟨rfl, before, bytes, via, id, port, payload, sock, src, sessions, known, held, decoded, route,
        holds⟩
    · rw [same]
      exact apart.inbound index before known
    · exact belongsTo_of_free state.far generation.inbound free
    · rw [holds]
      exact reads index bytes via isRead
    · rw [holds]
      have own : routedBySourceOrGeneration state.far index before = true := by
        simpa [staysApart, known] using condition
      exact apart.routed index before known own held decoded route
  · intro handed member
    rcases handed_origin effect handed member with earlier | ⟨index, generation, known, held⟩
    · exact apart.handed handed earlier
    · have belongs := apart.inbound index generation known
      rw [held] at belongs
      exact belongs

/-- A step of the serving side. -/
theorem far_step (apart : Apart peer state) {own : Serve.Action Origin} {far : Serve.State Origin}
    (effect : Serve.Effect peer state.far own far)
    (condition : foundBySourceOrGeneration state.far own = true) :
    Serve.Matched SameSource far ∧
    (∀ (index : Nat) (generation : Generation), state.near.generations[index]? = some generation →
      BelongsTo far generation.inbound) ∧
    ∀ handed ∈ state.near.handed, ∃ opener, far.opener handed.via = some opener ∧
      opener.tag.src = handed.src := by
  refine ⟨apart.matched.step apart.linked.far (fun _ => rfl)
    (finds_sameSource apart.linked own condition) effect, ?_, ?_⟩
  · intro index generation present
    exact (apart.inbound index generation present).later effect
  · intro handed member
    obtain ⟨opener, opened, same⟩ := apart.handed handed member
    exact ⟨opener, Serve.opener_kept effect handed.via opener opened, same⟩

/-- The step lemma. -/
theorem step {checks : Bool} (apart : Apart peer state)
    (condition : staysApart state action = true) (effect : Effect checks peer state action next)
    (few : FewSessions next.near.generations) : Apart peer next := by
  have linked : Linked peer next := apart.linked.step effect few
  cases effect with
  | near own near notRead effect =>
    obtain ⟨inbound, handed⟩ := apart.near_step effect condition
      (fun index bytes via isRead => absurd isRead (notRead index bytes via))
    exact ⟨linked, apart.matched, inbound, handed⟩
  | far own far notRead effect =>
    obtain ⟨matched, inbound, handed⟩ := apart.far_step effect condition
    exact ⟨linked, matched, inbound, handed⟩
  | arrive index bytes origin far inFlight effect =>
    obtain ⟨matched, inbound, handed⟩ := apart.far_step effect rfl
    exact ⟨linked, matched, inbound, handed⟩
  | answer index generation reply near inFlight effect =>
    obtain ⟨inbound, handed⟩ := apart.near_step effect rfl (by
      intro index' bytes via isRead
      obtain ⟨rfl, rfl, rfl⟩ := Connect.Action.read.inj isRead
      exact apart.linked.far.outbox reply inFlight)
    exact ⟨linked, ⟨apart.matched.sending, apart.matched.carried, apart.matched.sent⟩, inbound, handed⟩

/-- Apart, every reply goes to the source whose datagrams its socket carries. -/
theorem isolated (apart : Apart peer state) : RepliesIsolated state := by
  intro handed member
  obtain ⟨opener, opened, same⟩ := apart.handed handed member
  obtain ⟨socket, present, rfl⟩ := Option.map_eq_some_iff.mp opened
  refine ⟨socket, present, ?_⟩
  intro datagram carried
  have related := apart.matched.carried handed.via socket present datagram carried
  exact related.symm.trans same

end Apart

/-- A connection that has just been established keeps the sources apart. -/
theorem apart_initial (peer : EndpointId) (channel : Watch.Channel Config)
    (receiver : Watch.Receiver) (listeners : Listeners) (runtime : Runtime) (now : Instant)
    (farChannel : Watch.Channel Config) (farNow : Instant) :
    Apart peer (initial channel receiver listeners runtime now farChannel farNow) := by
  refine ⟨linked_initial peer channel receiver listeners runtime now farChannel farNow,
    Serve.matched_initial _ farChannel farNow, ?_, fun handed member => absurd member List.not_mem_nil⟩
  intro index generation present
  obtain rfl := List.mem_singleton.mp (List.mem_of_getElem? present)
  exact belongsTo_of_free _ _ (spawned_free listeners)

/-- In every run in which each datagram that finds a session finds one of its own
source or generation, and each reply is routed by the generation that its session
was opened by or to the source that it was opened for, no local source is handed a
reply from a socket that carried a datagram of another one. -/
theorem replies_isolated (checks : Bool) (peer : EndpointId) (channel : Watch.Channel Config)
    (receiver : Watch.Receiver) (listeners : Listeners) (runtime : Runtime) (now : Instant)
    (farChannel : Watch.Channel Config) (farNow : Instant) (actions : List Action) (last : State)
    (meets : Meets (step checks peer) (fun state action => staysApart state action = true)
      (initial channel receiver listeners runtime now farChannel farNow) actions)
    (reached : run (step checks peer)
      (initial channel receiver listeners runtime now farChannel farNow) actions = some last)
    (few : FewSessions last.near.generations) : RepliesIsolated last := by
  have apart : FewSessions last.near.generations → Apart peer last := by
    refine invariant_of_meets (step checks peer) _
      (fun state => FewSessions state.near.generations → Apart peer state) ?_
      (initial channel receiver listeners runtime now farChannel farNow) last actions ?_ meets reached
    · intro state action next before condition taken fewNext
      have effect : Effect checks peer state action next :=
        step_effect checks peer state next action taken
      exact (before (fewNext.before (generations_grow effect))).step condition effect fewNext
    · intro _
      exact apart_initial peer channel receiver listeners runtime now farChannel farNow
  exact (apart few).isolated

/-- The condition on the connecting side is not too strong: a reply that is routed
to another source than the one its socket was opened for breaks the isolation once
it is delivered, if the socket has carried anything. -/
theorem foreign_route_misdelivers (checks : Bool) (apart : Apart peer state) (index : Nat)
    (generation : Generation) (present : state.near.generations[index]? = some generation)
    (healthy : generation.poisoned = false) {bytes : Bytes} {via : Nat}
    (held : generation.inbound = .got bytes via) {id : UInt32} {port : UInt16} {payload : Bytes}
    (decoded : decodeDatagram bytes = some (id, port, payload)) (session : Session)
    (listed : generation.sessions.byId.lookup id = some session) (socket : Serve.Socket Origin)
    (found : state.far.sockets[via]? = some socket)
    (foreign : socket.opener.tag.src ≠ session.src) (datagram : Serve.Admitted Origin)
    (carried : datagram ∈ socket.carried) :
    ∃ last, run (step checks peer) state [.near (.route index), .near (.handOver index true)] =
      some last ∧ ¬ RepliesIsolated last := by
  obtain ⟨sessions, route⟩ : ∃ sessions, generation.sessions.replyRoute id state.near.now =
      some ((session.sock, session.src), sessions) := by
    simp [Sessions.replyRoute, listed]
  obtain ⟨near, taken, handed⟩ :
      ∃ near, run (Connect.step checks) state.near [.route index, .handOver index true] = some near ∧
        { sock := session.sock, src := session.src, payload, via } ∈ near.handed := by
    have routed := Slots.get_set_self state.near.generations index generation { generation with
      sessions, inbound := .routed session.sock session.src payload via } present
    rw [healthy] at routed
    simp only [run, Connect.step, present, generationStep, held, decoded, healthy, route,
      Bool.false_eq_true, if_false, routed]
    exact ⟨_, rfl, List.mem_append_right _ (List.mem_singleton.mpr rfl)⟩
  refine ⟨_, run_near checks peer state near [.route index, .handOver index true] (by simp) taken, ?_⟩
  intro isolated
  obtain ⟨owner, there, own⟩ := isolated _ handed
  obtain rfl : socket = owner := Option.some.inj (found.symm.trans there)
  have related : socket.opener.tag.src = datagram.tag.src :=
    apart.matched.carried via socket found datagram carried
  exact foreign (related.trans (own datagram carried))

/-- The service answers on a session socket, and a generation reads the reply and
hands it over. -/
def replyTo (reply generation : Nat) (payload : Bytes) : List Action :=
  [.far (.receive reply payload), .far (.answer reply true), .answer 0 generation,
    .near (.route generation), .near (.handOver generation true)]

/-- Two sources, one of them again after its binding was parked and restored. -/
def twoSources : List Action :=
  .far .subscribe :: forwardOpening 0 (localSource 40000) [7] ++
    forwardOpening 0 (localSource 40001) [8] ++ replyTo 1 0 [9] ++ rebind [] ++
      rebind [udpBinding 5000 53] ++ forwardKnown 2 (localSource 40000) [7] ++ replyTo 0 2 [10]

/-- The ids of the two sources differ in the first generation, and in the second
one the first source has asked alone. -/
theorem two_sources_isolated :
    ∃ last, run (step true laptop) (established [udpBinding 5000 53]) twoSources = some last ∧
      last.near.handed.map Handed.src = [localSource 40001, localSource 40000] ∧
      RepliesIsolated last := by
  have evaluated : (run (step true laptop) (established [udpBinding 5000 53]) twoSources).map
      (fun last => (last.near.handed.map Handed.src, decide (FewSessions last.near.generations))) =
        some ([localSource 40001, localSource 40000], true) := by decide +kernel
  obtain ⟨last, reached, facts⟩ := Option.map_eq_some_iff.mp evaluated
  obtain ⟨handed, few⟩ := Prod.mk.inj facts
  refine ⟨last, reached, handed, ?_⟩
  exact replies_isolated true laptop (Watch.Channel.new (bindings [udpBinding 5000 53]))
    { seen := 0 } (listening [udpBinding 5000 53]).listeners
    (listening [udpBinding 5000 53]).runtime 0 (Watch.Channel.new (offering true)) 0 twoSources last
    (by decide +kernel) reached (of_decide_eq_true few)

/-- The service answers the first source only after the forwarders were respawned
for another binding and the second source has sent its first datagram, to the same
port. -/
def lateReply : List Action :=
  .far .subscribe :: forwardOpening 0 (localSource 40000) [7] ++
    rebind [udpBinding 5000 53, udpBinding 6000 123] ++
      [.near (.receive 1 1 (localSource 40001) [8]), .near (.forward 1 1 true)] ++ replyTo 0 1 [9]

/-- The second source is handed the answer to the first one: the new
generation gave it the id under which the serving side still has the session
of the old one. -/
theorem late_reply_misdelivered :
    ∃ last, run (step true laptop) (established [udpBinding 5000 53]) lateReply = some last ∧
      last.near.handed.map (fun handed => (handed.src, handed.payload, handed.via)) =
        [(localSource 40001, [9], 0)] ∧
      last.far.sockets.map (fun socket => socket.carried.map (fun datagram => datagram.tag.src)) =
        [[localSource 40000]] ∧ ¬ RepliesIsolated last := by
  have evaluated : (run (step true laptop) (established [udpBinding 5000 53]) lateReply).map
      (fun last =>
        (last.near.handed.map (fun handed => (handed.src, handed.payload, handed.via)),
          last.far.sockets.map (fun socket =>
            socket.carried.map (fun datagram => datagram.tag.src)))) =
        some ([(localSource 40001, [9], 0)], [[localSource 40000]]) := by decide +kernel
  obtain ⟨last, reached, facts⟩ := Option.map_eq_some_iff.mp evaluated
  obtain ⟨replies, sources⟩ := Prod.mk.inj facts
  refine ⟨last, reached, replies, sources, ?_⟩
  intro isolated
  obtain ⟨handed, only, given⟩ := List.map_eq_singleton_iff.mp replies
  obtain ⟨socket, onlySocket, owners⟩ := List.map_eq_singleton_iff.mp sources
  obtain ⟨datagram, carried, owner⟩ := List.map_eq_singleton_iff.mp owners
  obtain ⟨found, present, own⟩ := isolated handed (by simp [only])
  obtain ⟨source, _, via⟩ : handed.src = localSource 40001 ∧ handed.payload = [9] ∧
      handed.via = 0 := by simpa using given
  obtain rfl : socket = found := by simpa [onlySocket, via] using present
  have same : datagram.tag.src = handed.src := own datagram (by simp [carried])
  rw [owner, source] at same
  exact absurd same (by decide)

end Rtun.Tunnel
