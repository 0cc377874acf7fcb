import Rtun.Connect.Sessions
import Rtun.Grants
import Rtun.Run

/-!
# Where replies leave

One session table, used by the forwarders of a fixed set of listeners. Two listeners may
lead to the same remote port, and then one source has one session for both: its replies
leave through the listener that the session was opened on. A reply leaves through the
listener that was asked exactly as long as no source asks for a port through two of them.
-/

namespace Rtun.Connect.ReplyRoutes

open Run

/-- The UDP listeners of a configuration; the position of one is the handle of its
socket. -/
def udpListeners (config : Config) : List Binding :=
  config.activeBindings.filter (fun binding => binding.proto == .udp)

/-- A datagram that was sent under an id: the socket it was received on and its
source. -/
structure Asked where
  id : UInt32
  sock : Nat
  src : SocketAddr

/-- The table, and the datagrams whose sessions have not been reaped since. -/
structure State where
  sessions : Sessions
  now : Instant
  asked : List Asked

/-- A datagram arrives, a reply is routed, the idle sessions are reaped, or time
passes. -/
inductive Action where
  | datagram (sock : Nat) (src : SocketAddr)
  | reply (id : UInt32)
  | reap
  | elapse (nanos : Nat)

def step (overflowChecks : Bool) (config : Config) (state : State) (action : Action) : Option State :=
  match action with
  | .datagram sock src =>
      match (udpListeners config)[sock]? with
      | none => none
      | some binding =>
          match state.sessions.idFor overflowChecks src binding.remotePort sock state.now with
          | none => none
          | some (id, sessions) =>
              some { state with sessions, asked := state.asked ++ [{ id, sock, src }] }
  | .reply id =>
      match state.sessions.replyRoute id state.now with
      | none => some state
      | some (_, sessions) => some { state with sessions }
  | .reap =>
      let sessions := state.sessions.reap state.now
      some { state with
        sessions, asked := state.asked.filter (fun asked => (sessions.byId.lookup asked.id).isSome) }
  | .elapse nanos => some { state with now := state.now + nanos }

def initial (now : Instant) : State := { sessions := Sessions.empty, now, asked := [] }

/-- Until its session is reaped, a datagram's id routes to the listener and the
source that it came from. -/
def Routed (state : State) : Prop :=
  ∀ asked ∈ state.asked, ∃ after,
    state.sessions.replyRoute asked.id state.now = some ((asked.sock, asked.src), after)

/-- A datagram that finds a session finds one that was opened on its own listener,
and one that opens a session is given an id that no session has. -/
def findsOwnListener (config : Config) (state : State) (action : Action) : Bool :=
  match action with
  | .datagram sock src =>
      ((udpListeners config)[sock]?).all (fun binding =>
        match state.sessions.byKey.lookup (src, binding.remotePort) with
        | some id => (state.sessions.byId.lookup id).all (fun session => session.sock == sock)
        | none => (state.sessions.byId.lookup (state.sessions.nextId + 1)).isNone)
  | _ => true

/-- The route of an id is the socket and the source of its session. -/
theorem replyRoute_iff (sessions : Sessions) (id : UInt32) (now : Instant) (sock : Nat)
    (src : SocketAddr) :
    (∃ after, sessions.replyRoute id now = some ((sock, src), after)) ↔
      ∃ session, sessions.byId.lookup id = some session ∧ session.sock = sock ∧ session.src = src := by
  cases found : sessions.byId.lookup id with
  | none => simp [Sessions.replyRoute, found]
  | some session => simp [Sessions.replyRoute, found]

/-- The invariant. Keys and sessions are two views of one set, and each datagram
whose session lives has the session of its own listener and source. -/
structure Paired (config : Config) (state : State) : Prop where
  keys : ∀ key id, state.sessions.byKey.lookup key = some id →
    ∃ session binding, state.sessions.byId.lookup id = some session ∧
      (udpListeners config)[session.sock]? = some binding ∧ (session.src, binding.remotePort) = key
  ids : ∀ id session, state.sessions.byId.lookup id = some session →
    ∃ binding, (udpListeners config)[session.sock]? = some binding ∧
      state.sessions.byKey.lookup (session.src, binding.remotePort) = some id
  opened : ∀ id session, state.sessions.byId.lookup id = some session →
    { id, sock := session.sock, src := session.src } ∈ state.asked
  routed : ∀ asked ∈ state.asked, ∃ session, state.sessions.byId.lookup asked.id = some session ∧
    session.sock = asked.sock ∧ session.src = asked.src

/-- In the beginning no session is open, so every pair is in order. -/
theorem paired_initial (config : Config) (now : Instant) : Paired config (initial now) := by
  constructor <;> simp [initial, Sessions.empty]

/-- The invariant gives the property: a reply goes out on the socket on which the
last datagram of its session came in. -/
theorem Paired.toRouted {config : Config} {state : State} (paired : Paired config state) :
    Routed state := by
  intro asked member
  exact (replyRoute_iff _ _ _ _ _).mpr (paired.routed asked member)

/-- Touching a session changes nothing but the moment of its last traffic. -/
theorem Paired.touch {config : Config} {state : State} (paired : Paired config state)
    (id : UInt32) (session : Session) (found : state.sessions.byId.lookup id = some session) :
    Paired config { state with sessions := { state.sessions with
      byId := state.sessions.byId.insert id { session with last := state.now } } } := by
  have present (other : UInt32) (held : Session) (listed : state.sessions.byId.lookup other = some held) :
      ∃ after, (state.sessions.byId.insert id { session with last := state.now }).lookup other =
        some after ∧ after.sock = held.sock ∧ after.src = held.src := by
    rw [lookup_touch found, listed]
    refine ⟨_, rfl, ?_⟩
    split <;> exact ⟨rfl, rfl⟩
  constructor
  · intro key other listed
    obtain ⟨held, binding, before, listens, isKey⟩ := paired.keys key other listed
    obtain ⟨after, now, sameSock, sameSrc⟩ := present other held before
    exact ⟨after, binding, now, by rw [sameSock, listens], by rw [sameSrc, isKey]⟩
  · intro other after listed
    obtain ⟨held, before, sameSock, sameSrc⟩ := touched_origin found listed
    rw [sameSock, sameSrc]
    exact paired.ids other held before
  · intro other after listed
    obtain ⟨held, before, sameSock, sameSrc⟩ := touched_origin found listed
    rw [sameSock, sameSrc]
    exact paired.opened other held before
  · intro asked member
    obtain ⟨held, before, ofSock, ofSrc⟩ := paired.routed asked member
    obtain ⟨after, now, sameSock, sameSrc⟩ := present asked.id held before
    exact ⟨after, now, sameSock.trans ofSock, sameSrc.trans ofSrc⟩

/-- Opening a session under an id that is not in use, for a key that has none. -/
theorem Paired.openSession {config : Config} {state : State} (paired : Paired config state)
    (sock : Nat) (src : SocketAddr) (binding : Binding) (id : UInt32)
    (listens : (udpListeners config)[sock]? = some binding)
    (newKey : state.sessions.byKey.lookup (src, binding.remotePort) = none)
    (newId : state.sessions.byId.lookup id = none) :
    Paired config { state with
      sessions := { byKey := state.sessions.byKey.insert (src, binding.remotePort) id,
                    byId := state.sessions.byId.insert id { src, sock, last := state.now },
                    nextId := id },
      asked := state.asked ++ [{ id, sock, src }] } := by
  have present (other : UInt32) (session : Session)
      (listed : state.sessions.byId.lookup other = some session) :
      (state.sessions.byId.insert id { src, sock, last := state.now }).lookup other = some session := by
    have apart : other ≠ id := by
      intro same
      rw [same, newId] at listed
      cases listed
    rw [Table.lookup_insert_cases, if_neg apart, listed]
  constructor
  · intro key other listed
    rw [Table.lookup_insert_cases] at listed
    by_cases isKey : key = (src, binding.remotePort)
    · rw [if_pos isKey] at listed
      have isId : id = other := Option.some.inj listed
      refine ⟨{ src, sock, last := state.now }, binding, ?_, listens, isKey.symm⟩
      rw [← isId]
      exact AList.lookup_insert state.sessions.byId
    · rw [if_neg isKey] at listed
      obtain ⟨session, known, before, rest⟩ := paired.keys key other listed
      exact ⟨session, known, present other session before, rest⟩
  · intro other session listed
    rw [Table.lookup_insert_cases] at listed
    by_cases isId : other = id
    · rw [if_pos isId] at listed
      have isNew : { src, sock, last := state.now } = session := Option.some.inj listed
      subst isNew
      exact ⟨binding, listens, isId ▸ AList.lookup_insert state.sessions.byKey⟩
    · rw [if_neg isId] at listed
      obtain ⟨known, heard, before⟩ := paired.ids other session listed
      refine ⟨known, heard, ?_⟩
      have apart : (session.src, known.remotePort) ≠ (src, binding.remotePort) := by
        intro same
        rw [same, newKey] at before
        cases before
      rw [Table.lookup_insert_cases, if_neg apart, before]
  · intro other session listed
    rw [Table.lookup_insert_cases] at listed
    by_cases isId : other = id
    · rw [if_pos isId] at listed
      have isNew : { src, sock, last := state.now } = session := Option.some.inj listed
      subst isNew
      rw [isId]
      exact List.mem_append_right _ (List.mem_singleton.mpr rfl)
    · rw [if_neg isId] at listed
      exact List.mem_append_left _ (paired.opened other session listed)
  · intro asked member
    cases List.mem_append.mp member with
    | inl earlier =>
      obtain ⟨session, before, own⟩ := paired.routed asked earlier
      exact ⟨session, present asked.id session before, own⟩
    | inr new =>
      rw [List.mem_singleton.mp new]
      exact ⟨_, AList.lookup_insert state.sessions.byId, rfl, rfl⟩

/-- Recording a datagram that found the session of its own listener and source. -/
theorem Paired.ask {config : Config} {state : State} (paired : Paired config state) (asked : Asked)
    (own : ∃ session, state.sessions.byId.lookup asked.id = some session ∧
      session.sock = asked.sock ∧ session.src = asked.src) :
    Paired config { state with asked := state.asked ++ [asked] } := by
  refine ⟨paired.keys, paired.ids, ?_, ?_⟩
  · intro id session listed
    exact List.mem_append_left _ (paired.opened id session listed)
  · intro other member
    cases List.mem_append.mp member with
    | inl earlier => exact paired.routed other earlier
    | inr new =>
      rw [List.mem_singleton.mp new]
      exact own

/-- Reaping drops sessions, their keys, and the datagrams that were waiting for
them. -/
theorem Paired.reap {config : Config} {state : State} (paired : Paired config state) :
    Paired config { state with
      sessions := state.sessions.reap state.now,
      asked := state.asked.filter
        (fun asked => ((state.sessions.reap state.now).byId.lookup asked.id).isSome) } := by
  have keyed : state.sessions.Keyed := by
    intro key id listed
    obtain ⟨session, _, found, _⟩ := paired.keys key id listed
    rw [found]
    rfl
  obtain ⟨kept, keys⟩ := keyed.reap_spec state.now
  constructor
  · intro key id listed
    obtain ⟨before, alive⟩ := (keys key id).mp listed
    obtain ⟨after, now⟩ := Option.isSome_iff_exists.mp alive
    obtain ⟨session, binding, found, rest⟩ := paired.keys key id before
    have same : after = session := Option.some.inj ((kept id after now).symm.trans found)
    exact ⟨session, binding, same ▸ now, rest⟩
  · intro id session listed
    obtain ⟨binding, listens, before⟩ := paired.ids id session (kept id session listed)
    refine ⟨binding, listens, (keys _ id).mpr ⟨before, ?_⟩⟩
    rw [listed]
    rfl
  · intro id session listed
    refine List.mem_filter.mpr ⟨paired.opened id session (kept id session listed), ?_⟩
    dsimp only
    rw [listed]
    rfl
  · intro asked member
    obtain ⟨before, alive⟩ := List.mem_filter.mp member
    obtain ⟨after, now⟩ := Option.isSome_iff_exists.mp alive
    obtain ⟨session, found, own⟩ := paired.routed asked before
    have same : after = session :=
      Option.some.inj ((kept asked.id after now).symm.trans found)
    exact ⟨session, same ▸ now, own⟩

/-- A datagram that finds a session keeps the invariant exactly if the session is
of its own listener; otherwise it has no route of its own. -/
theorem Paired.found {config : Config} {state : State} (paired : Paired config state) (sock : Nat)
    (src : SocketAddr) (binding : Binding) (id : UInt32) (session : Session)
    (known : state.sessions.byKey.lookup (src, binding.remotePort) = some id)
    (present : state.sessions.byId.lookup id = some session) (next : State)
    (isNext : next = { state with
      sessions := { state.sessions with
        byId := state.sessions.byId.insert id { session with last := state.now } },
      asked := state.asked ++ [{ id, sock, src }] }) :
    (session.sock = sock → Paired config next) ∧ (Routed next → session.sock = sock) := by
  subst isNext
  obtain ⟨same, _, listed, _, isKey⟩ := paired.keys _ id known
  have isSession : session = same := Option.some.inj (present.symm.trans listed)
  have sameSrc : session.src = src := isSession ▸ congrArg Prod.fst isKey
  have touched := AList.lookup_insert (a := id) (b := { session with last := state.now })
    state.sessions.byId
  constructor
  · intro own
    exact (paired.touch id session present).ask { id, sock, src } ⟨_, touched, own, sameSrc⟩
  · intro routed
    obtain ⟨after, now, own, _⟩ := (replyRoute_iff _ _ _ _ _).mp
      (routed { id, sock, src } (List.mem_append_right _ (List.mem_singleton.mpr rfl)))
    have isAfter : { session with last := state.now } = after :=
      Option.some.inj (touched.symm.trans now)
    have sameSock : session.sock = after.sock := isAfter ▸ rfl
    exact sameSock.trans own

/-- A datagram of a new key keeps the invariant exactly if its id is not in use;
otherwise it takes the route of the session that has the id. -/
theorem Paired.opening {config : Config} {state : State} (paired : Paired config state) (sock : Nat)
    (src : SocketAddr) (binding : Binding) (id : UInt32)
    (listens : (udpListeners config)[sock]? = some binding)
    (newKey : state.sessions.byKey.lookup (src, binding.remotePort) = none) (next : State)
    (isNext : next = { state with
      sessions := { byKey := state.sessions.byKey.insert (src, binding.remotePort) id,
                    byId := state.sessions.byId.insert id { src, sock, last := state.now },
                    nextId := id },
      asked := state.asked ++ [{ id, sock, src }] }) :
    (state.sessions.byId.lookup id = none → Paired config next) ∧
      (Routed next → state.sessions.byId.lookup id = none) := by
  subst isNext
  refine ⟨paired.openSession sock src binding id listens newKey, ?_⟩
  intro routed
  cases inUse : state.sessions.byId.lookup id with
  | none => rfl
  | some session =>
    -- The session that is overwritten was opened for another listener or source.
    obtain ⟨after, now, ofSock, ofSrc⟩ := (replyRoute_iff _ _ _ _ _).mp
      (routed _ (List.mem_append_left _ (paired.opened _ session inUse)))
    have same : { src, sock, last := state.now } = after :=
      Option.some.inj ((AList.lookup_insert state.sessions.byId).symm.trans now)
    have sameSock : sock = session.sock := Eq.trans (same ▸ rfl) ofSock
    have sameSrc : src = session.src := Eq.trans (same ▸ rfl) ofSrc
    obtain ⟨other, heard, keyed⟩ := paired.ids _ session inUse
    have isBinding : binding = other := by
      rw [← sameSock, listens] at heard
      exact Option.some.inj heard
    rw [← sameSrc, ← isBinding, newKey] at keyed
    cases keyed

/-- The step lemma, and the converse: the invariant is kept exactly by the steps
that find their own listener, and any other step loses a route at once. -/
theorem Paired.step {checks : Bool} {config : Config} {state next : State} {action : Action}
    (paired : Paired config state) (taken : ReplyRoutes.step checks config state action = some next) :
    (findsOwnListener config state action = true → Paired config next) ∧
      (Routed next → findsOwnListener config state action = true) := by
  cases action with
  | elapse nanos =>
    cases taken
    exact ⟨fun _ => ⟨paired.keys, paired.ids, paired.opened, paired.routed⟩, fun _ => rfl⟩
  | reap =>
    cases taken
    exact ⟨fun _ => paired.reap, fun _ => rfl⟩
  | reply id =>
    refine ⟨fun _ => ?_, fun _ => rfl⟩
    cases found : state.sessions.byId.lookup id with
    | none =>
      simp only [ReplyRoutes.step, Sessions.replyRoute, found, Option.some.injEq] at taken
      subst taken
      exact paired
    | some session =>
      simp only [ReplyRoutes.step, Sessions.replyRoute, found, Option.some.injEq] at taken
      subst taken
      exact paired.touch id session found
  | datagram sock src =>
    cases listens : (udpListeners config)[sock]? with
    | none => simp [ReplyRoutes.step, listens] at taken
    | some binding =>
      cases known : state.sessions.byKey.lookup (src, binding.remotePort) with
      | some id =>
        obtain ⟨session, _, present, _⟩ := paired.keys _ id known
        simp only [ReplyRoutes.step, listens, Sessions.idFor, known, present,
          Option.some.injEq] at taken
        have condition : findsOwnListener config state (.datagram sock src) = true ↔
            session.sock = sock := by
          simp [findsOwnListener, listens, known, present]
        rw [condition]
        exact paired.found sock src binding id session known present next taken.symm
      | none =>
        have condition : findsOwnListener config state (.datagram sock src) = true ↔
            state.sessions.byId.lookup (state.sessions.nextId + 1) = none := by
          simp [findsOwnListener, listens, known]
        rw [condition]
        by_cases full : (checks && state.sessions.nextId == 0xffffffff) = true
        · simp [ReplyRoutes.step, listens, Sessions.idFor, known, full] at taken
        · simp only [ReplyRoutes.step, listens, Sessions.idFor, known, full, Bool.false_eq_true,
            if_false, Option.some.injEq] at taken
          exact paired.opening sock src binding _ listens known next taken.symm

/-- Over every run of one table, each datagram's id routes to the listener and
the source that it came from until its session is reaped, if and only if each
datagram finds a session of its own listener or opens one under an id that is
not in use. -/
theorem replies_leave_by_own_listener_iff (overflowChecks : Bool) (config : Config) (now : Instant)
    (actions : List Action) (last : State)
    (reached : run (step overflowChecks config) (initial now) actions = some last) :
    Always (step overflowChecks config) Routed (initial now) actions ↔
      Meets (step overflowChecks config)
        (fun state action => findsOwnListener config state action = true) (initial now) actions :=
  always_iff_meets_of_invariant (step overflowChecks config) (Paired config) Routed _
    (fun _ paired => paired.toRouted) (fun _ _ _ paired taken => (paired.step taken).1)
    (fun _ _ _ paired taken => (paired.step taken).2) (initial now) last actions
    (paired_initial config now) reached

/-- Two local ports that lead to one remote port. -/
def twoPorts : Config :=
  { Config.default with connect := { bindings :=
      [{ proto := .udp, localPort := 5000, remotePort := 53, name := "", enabled := true },
       { proto := .udp, localPort := 5001, remotePort := 53, name := "", enabled := true }] } }

def localSource (port : UInt16) : SocketAddr := { ip := 0x7f000001, port }

/-- Two sources ask one port each; one of them falls silent and asks the other
port. -/
def onePortAtATime : List Action :=
  [.datagram 0 (localSource 40000), .datagram 1 (localSource 40001), .reply 2, .elapse udpIdle,
    .reap, .datagram 1 (localSource 40000), .reply 3]

/-- When the source asks the other port its first session has been reaped, so the
new one has the new socket, and every reply leaves where its source has asked. -/
theorem one_port_at_a_time_routed :
    (run (step true twoPorts) (initial 0) onePortAtATime).isSome = true ∧
      Always (step true twoPorts) Routed (initial 0) onePortAtATime := by
  have performed : (run (step true twoPorts) (initial 0) onePortAtATime).isSome = true := by
    decide +kernel
  obtain ⟨last, reached⟩ := Option.isSome_iff_exists.mp performed
  refine ⟨performed, ?_⟩
  exact (replies_leave_by_own_listener_iff true twoPorts 0 onePortAtATime last reached).mpr
    (by decide +kernel)

/-- One source asks both ports. -/
def bothPorts : List Action :=
  [.datagram 0 (localSource 40000), .datagram 1 (localSource 40000)]

/-- A source that uses two local ports with one remote port has one session for
both, and the answers to the second come from the first. -/
theorem second_port_answered_by_first :
    twoPorts.validate = .ok () ∧ ∃ last, run (step true twoPorts) (initial 0) bothPorts = some last ∧
      last.asked.map (fun asked => (asked.id, asked.sock)) = [(1, 0), (1, 1)] ∧
      (last.sessions.replyRoute 1 0).map Prod.fst = some (0, localSource 40000) ∧ ¬ Routed last := by
  refine ⟨by decide, _, rfl, by decide, by decide, ?_⟩
  intro routed
  obtain ⟨after, route⟩ := routed { id := 1, sock := 1, src := localSource 40000 }
    (List.mem_cons_of_mem _ List.mem_cons_self)
  have second : Option.map Prod.fst _ = some (1, localSource 40000) :=
    congrArg (Option.map Prod.fst) route
  exact absurd second (by decide)

end Rtun.Connect.ReplyRoutes
