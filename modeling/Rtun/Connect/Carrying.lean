import Rtun.Connect.IdleSessions
import Rtun.Connect.Serving

/-!
# What the connecting side does for one exchange

A datagram is received and forwarded, and a reply is read, routed and handed over. Both work
in every state in which the tasks wait, and the tasks of a generation that was not told to
abort can always finish what they have in hand.
-/

namespace Rtun.Connect

open Framing Run

/-- The task was spawned and has not ended. -/
def Inbound.goesOn : Inbound → Bool
  | .absent | .ended => false
  | _ => true

/-- Unless it was told to abort or its table is poisoned, a generation that has
forwarders has a `pump_udp_in` and a reaper that go on. -/
def Attended (generation : Generation) : Prop :=
  generation.told = false → generation.poisoned = false → generation.forwarders ≠ [] →
    generation.inbound.goesOn = true ∧ generation.reaping = true

/-- A generation that was just spawned reads replies, reaps and has not been told
to abort. -/
theorem attended_spawned (listeners : Listeners) : Attended (spawnForwarders listeners) := by
  intro _ _ crewed
  have udp : listeners.udp.isEmpty = false := by
    simpa [spawnForwarders, List.isEmpty_eq_false_iff] using crewed
  constructor <;> simp [spawnForwarders, udp, Inbound.goesOn]

/-- A step of a forwarder leaves `pump_udp_in` and the reaper as they are. The
three share the table and nothing else. -/
theorem forwarderStep_attended {checks : Bool} {state next : State} {index handle : Nat}
    {generation : Generation} {forwarder : Forwarder} {action : Action}
    (attended : Attended generation)
    (taken : forwarderStep checks state index generation handle forwarder action = some next) :
    ∃ after, next.generations = state.generations.set index after ∧ Attended after := by
  have stays (stage : Forwarding) (sessions : Sessions) (log : List Key) :
      Attended { generation with
        sessions, log, forwarders := generation.forwarders.set handle { forwarder with stage } } := by
    intro untold clean crewed
    exact attended untold clean (by simpa using crewed)
  unfold forwarderStep at taken
  dsimp only at taken
  split at taken
  · cases taken
    exact ⟨_, rfl, stays _ _ _⟩
  · cases taken
    exact ⟨_, rfl, stays _ _ _⟩
  · split at taken
    · cases taken
      exact ⟨_, rfl, stays _ _ _⟩
    · cases taken
  · split at taken
    · cases taken
      exact ⟨_, rfl, stays _ _ _⟩
    · split at taken
      · cases taken
        exact ⟨_, rfl, fun _ clean => nomatch clean⟩
      · cases taken
        exact ⟨_, rfl, stays _ _ _⟩
  · cases taken

/-- `pump_udp_in` and the reaper end only when they are told to, or on a poisoned
table. -/
theorem generationStep_attended {state next : State} {index : Nat} {generation : Generation}
    {action : Action} (attended : Attended generation)
    (taken : generationStep state index generation action = some next) :
    ∃ after, next.generations = state.generations.set index after ∧ Attended after := by
  have reads (inbound : Inbound) (goesOn : inbound.goesOn = true) (sessions : Sessions) :
      Attended { generation with sessions, inbound } :=
    fun untold clean crewed => ⟨goesOn, (attended untold clean crewed).2⟩
  unfold generationStep at taken
  dsimp only at taken
  split at taken
  · cases taken
    exact ⟨_, rfl, reads _ rfl _⟩
  · split at taken
    · rename_i told
      cases taken
      exact ⟨_, rfl, fun untold => nomatch told.symm.trans untold⟩
    · cases taken
  · split at taken
    · rename_i told
      cases taken
      exact ⟨_, rfl, fun untold => nomatch told.symm.trans untold⟩
    · cases taken
  · split at taken
    · cases taken
      exact ⟨_, rfl, reads _ rfl _⟩
    · split at taken
      · rename_i poisoned
        cases taken
        exact ⟨_, rfl, fun _ clean => nomatch poisoned.symm.trans clean⟩
      · split at taken
        · cases taken
          exact ⟨_, rfl, reads _ rfl _⟩
        · cases taken
          exact ⟨_, rfl, reads _ rfl _⟩
  · cases taken
    exact ⟨_, rfl, reads _ rfl _⟩
  · split at taken
    · cases taken
    · split at taken
      · rename_i poisoned
        cases taken
        exact ⟨_, rfl, fun _ clean => nomatch poisoned.symm.trans clean⟩
      · cases taken
        exact ⟨_, rfl, fun untold clean crewed => attended untold clean crewed⟩
  · split at taken
    · rename_i told
      cases taken
      exact ⟨_, rfl, fun untold => nomatch told.symm.trans untold⟩
    · cases taken
  · cases taken

/-- What holds in every run, whatever becomes of the counters: every key leads to
a session, no table is poisoned where overflow is not checked, no traffic is in
the future, and the current generations are attended. -/
structure Tended (checks : Bool) (state : State) : Prop where
  keyed : ∀ generation ∈ state.generations, generation.sessions.Keyed
  clean : checks = false → ∀ generation ∈ state.generations, generation.poisoned = false
  attended : ∀ generation ∈ state.generations, Attended generation
  past : ∀ index, Past index state

/-- The generation of the beginning has all of its tasks and an empty table, and
its lock is not poisoned. -/
theorem tended_initial (checks : Bool) (channel : Watch.Channel Config)
    (receiver : Watch.Receiver) (listeners : Listeners) (runtime : Runtime) (now : Instant) :
    Tended checks (initial channel receiver listeners runtime now) := by
  refine ⟨?_, ?_, ?_, ?_⟩
  · intro generation member
    rw [List.mem_singleton.mp member]
    exact keyed_empty
  · intro _ generation member
    rw [List.mem_singleton.mp member]
    rfl
  · intro generation member
    rw [List.mem_singleton.mp member]
    exact attended_spawned listeners
  · intro index generation present id session listed
    obtain rfl := List.mem_singleton.mp (List.mem_of_getElem? present)
    cases listed

/-- Where overflow is not checked nothing panics under the lock of a table, as
every key leads to a session; so no table is poisoned. -/
theorem clean_step {checks : Bool} {state next : State} {action : Action}
    (keyed : ∀ generation ∈ state.generations, generation.sessions.Keyed) (unchecked : checks = false)
    (clean : ∀ generation ∈ state.generations, generation.poisoned = false)
    (taken : step checks state action = some next) :
    ∀ generation ∈ next.generations, generation.poisoned = false := by
  intro after member
  obtain ⟨index, there⟩ := List.getElem?_of_mem member
  cases known : state.generations[index]? with
  | none =>
    rw [step_born taken index after known there]
    rfl
  | some before =>
    obtain ⟨after', there', later⟩ := (step_later taken).2 index before known
    obtain rfl : after = after' := Option.some.inj (there.symm.trans there')
    have among := List.mem_of_getElem? known
    exact later.healthy unchecked (keyed before among) (clean before among)

/-- The generations stay attended: their tasks go on until the supervisor tells
them to abort, or until the lock is poisoned. -/
theorem attended_step {checks : Bool} {state next : State} {action : Action}
    (attended : ∀ generation ∈ state.generations, Attended generation)
    (taken : step checks state action = some next) :
    ∀ generation ∈ next.generations, Attended generation := by
  have overwritten (index : Nat)
      (left : ∃ after, next.generations = state.generations.set index after ∧ Attended after) :
      ∀ generation ∈ next.generations, Attended generation := by
    obtain ⟨after, generations, still⟩ := left
    intro generation member
    rw [generations] at member
    rcases List.mem_or_eq_of_mem_set member with before | rfl
    · exact attended generation before
    · exact still
  cases action with
  | publish config | elapse nanos =>
    cases taken
    exact attended
  | reconcile bindOne =>
    simp only [step, Option.ite_none_right_eq_some, Option.some.injEq] at taken
    obtain ⟨_, rfl⟩ := taken
    exact attended
  | respawn =>
    simp only [step, Option.ite_none_right_eq_some, Option.some.injEq] at taken
    obtain ⟨_, rfl⟩ := taken
    intro generation member
    rcases List.mem_append.mp member with old | new
    · obtain ⟨before, _, rfl⟩ := List.mem_map.mp old
      intro untold
      cases untold
    · rw [List.mem_singleton.mp new]
      exact attended_spawned state.listeners
  | receive index handle src payload | recvError index handle | forward index handle accepted
  | stopForwarder index handle =>
    obtain ⟨generation, forwarder, present, _, stepped⟩ := forwarder_taken rfl taken
    exact overwritten index
      (forwarderStep_attended (attended generation (List.mem_of_getElem? present)) stepped)
  | read index bytes via | route index | handOver index delivered | stopInbound index | reap index
  | stopReaper index =>
    obtain ⟨generation, present, stepped⟩ := generation_taken rfl taken
    exact overwritten index
      (generationStep_attended (attended generation (List.mem_of_getElem? present)) stepped)

/-- The step lemma: every generation that was not told to abort still has its
tasks, and without overflow checks no table is ever poisoned. -/
theorem Tended.step {checks : Bool} {state next : State} {action : Action}
    (tended : Tended checks state) (taken : Connect.step checks state action = some next) :
    Tended checks next where
  keyed := Dialing.keyed_effect tended.keyed (step_effect checks state next action taken)
  clean := fun unchecked => clean_step tended.keyed unchecked (tended.clean unchecked) taken
  attended := attended_step tended.attended taken
  past := fun index => (tended.past index).step taken

/-- A forwarder that receives a datagram forwards it, in two steps and under the
id that `id_for` gives for its source. -/
theorem forward_run {checks : Bool} {state : State} {index handle : Nat} {generation : Generation}
    {forwarder : Forwarder} {src : SocketAddr} {id : UInt32} {sessions : Sessions}
    (present : state.generations[index]? = some generation)
    (listed : generation.forwarders[handle]? = some forwarder)
    (receiving : forwarder.stage = .receiving) (clean : generation.poisoned = false)
    (minted : generation.sessions.idFor checks src forwarder.map.remotePort forwarder.sock state.now =
      some (id, sessions)) (payload : Bytes) :
    ∃ origin log, run (step checks) state
      [.receive index handle src payload, .forward index handle true] =
        some { state with
          generations := state.generations.set index { generation with sessions, log },
          outbox := state.outbox ++ [(encodeDatagram id forwarder.map.remotePort payload, origin)] } := by
  let origin : Origin :=
    { generation := index, src, mapped := forwarder.map.remotePort,
      bound := state.listeners.remoteOf forwarder.sock forwarder.map.localPort }
  let held : Generation := { generation with
    forwarders := generation.forwarders.set handle
      { forwarder with stage := .received origin payload } }
  have there : (state.generations.set index held)[index]? = some held :=
    Slots.get_set_self _ _ _ _ present
  have holds : held.forwarders[handle]? = some { forwarder with stage := .received origin payload } :=
    Slots.get_set_self _ _ _ _ listed
  have back : (generation.forwarders.set handle
      { forwarder with stage := .received origin payload }).set handle
        { forwarder with stage := .receiving } = generation.forwarders := by
    obtain ⟨inside, same⟩ := List.getElem?_eq_some_iff.mp listed
    rw [List.set_set, ← receiving, ← same]
    exact List.set_getElem_self inside
  refine ⟨origin, logAfter generation.sessions generation.log (src, forwarder.map.remotePort), ?_⟩
  refine (run_cons_some _ _ _ _ _).mpr ⟨{ state with
    generations := state.generations.set index held }, ?_, ?_⟩
  · simp only [step, present, listed, forwarderStep, receiving]
    rfl
  · refine (run_cons_some _ _ _ _ _).mpr ⟨_, ?_, rfl⟩
    simp only [step, there, holds, forwarderStep]
    simp only [held, clean, minted, back, List.set_set, Bool.false_eq_true, if_false, if_true, origin]

/-- A reply that is read is routed and handed over, in three steps and to the
source of the session under its id. -/
theorem handOver_run {checks : Bool} {state : State} {index : Nat} {generation : Generation}
    {id : UInt32} {sock : Nat} {src : SocketAddr} {sessions : Sessions}
    (present : state.generations[index]? = some generation)
    (reading : generation.inbound = .reading) (clean : generation.poisoned = false)
    (route : generation.sessions.replyRoute id state.now = some ((sock, src), sessions))
    (port : UInt16) (payload : Bytes) (via : Nat) :
    run (step checks) state
      [.read index (encodeDatagram id port payload) via, .route index, .handOver index true] =
        some { state with
          generations := state.generations.set index { generation with sessions },
          handed := state.handed ++ [{ sock, src, payload, via }] } := by
  let got : Generation := { generation with inbound := .got (encodeDatagram id port payload) via }
  let routed : Generation := { generation with sessions, inbound := .routed sock src payload via }
  have there (after : Generation) : (state.generations.set index after)[index]? = some after :=
    Slots.get_set_self _ _ _ _ present
  refine (run_cons_some _ _ _ _ _).mpr
    ⟨{ state with generations := state.generations.set index got }, ?_, ?_⟩
  · simp only [step, present, generationStep, reading, got]
  · refine (run_cons_some _ _ _ _ _).mpr
      ⟨{ state with generations := state.generations.set index routed }, ?_, ?_⟩
    · simp only [step, there, generationStep, got, decode_encode, clean, route, routed, List.set_set,
        Bool.false_eq_true, if_false]
    · refine (run_cons_some _ _ _ _ _).mpr ⟨_, ?_, rfl⟩
      simp only [step, there, generationStep, routed, List.set_set, ← reading, if_true]

/-- The steps by which a task finishes what it has in hand. -/
def Action.finishes : Action → Bool
  | .forward .. | .route _ | .handOver .. => true
  | _ => false

/-- So many sessions can still be opened without a panic. -/
def Sessions.Roomy (checks : Bool) (sessions : Sessions) (count : Nat) : Prop :=
  checks = true → sessions.nextId.toNat + count < UInt32.size

/-- With room left `id_for` does not panic, and uses up one id at most. Without
overflow checks there is always room. -/
theorem Sessions.Roomy.idFor {checks : Bool} {sessions : Sessions} {count : Nat}
    (room : sessions.Roomy checks (count + 1)) (keyed : sessions.Keyed) (src : SocketAddr)
    (port : UInt16) (sock : Nat) (now : Instant) :
    ∃ id after, sessions.idFor checks src port sock now = some (id, after) ∧
      after.Roomy checks count := by
  cases minted : sessions.idFor checks src port sock now with
  | none =>
    obtain ⟨checked, limit, _⟩ := (keyed.idFor_none_iff checks src port sock now).mp minted
    have within := room checked
    rw [limit] at within
    exact absurd within (by simp [UInt32.size]; omega)
  | some result =>
    refine ⟨result.1, result.2, rfl, fun checked => ?_⟩
    have within := room checked
    unfold Sessions.idFor at minted
    split at minted
    · split at minted
      · cases minted
      · cases minted
        exact Nat.lt_of_succ_lt within
    · split at minted
      · cases minted
      · cases minted
        have inside : sessions.nextId.toNat + 1 < UInt32.size := by omega
        have next : (sessions.nextId + 1).toNat = sessions.nextId.toNat + 1 := by
          rw [UInt32.toNat_add, UInt32.toNat_one]
          exact Nat.mod_eq_of_lt inside
        dsimp only
        omega

/-- The source has a session with this id for the port, on the listener with this
socket. -/
structure Sessions.Routes (sessions : Sessions) (src : SocketAddr) (port : UInt16) (id : UInt32)
    (sock : Nat) : Prop where
  key : sessions.byKey.lookup (src, port) = some id
  session : ∃ session, sessions.byId.lookup id = some session ∧ session.sock = sock ∧ session.src = src

/-- Traffic keeps the session: it is stamped anew, and its source, its socket and
its id stay as they are. -/
theorem Sessions.Routes.used {sessions : Sessions} {src : SocketAddr} {port : UInt16} {id : UInt32}
    {sock : Nat} (routes : sessions.Routes src port id sock) (session : Session) (now : Instant)
    (present : sessions.byId.lookup id = some session) :
    Sessions.Routes { sessions with byId := sessions.byId.insert id { session with last := now } }
      src port id sock := by
  obtain ⟨known, found, sameSock, sameSrc⟩ := routes.session
  obtain rfl : session = known := Option.some.inj (present.symm.trans found)
  exact ⟨routes.key, { session with last := now }, AList.lookup_insert _, sameSock, sameSrc⟩

/-- A datagram of the source is sent under the id: `id_for` finds the session by
its key and opens no other. -/
theorem Sessions.Routes.again {sessions : Sessions} {src : SocketAddr} {port : UInt16} {id : UInt32}
    {sock : Nat} (routes : sessions.Routes src port id sock) (checks : Bool) (now : Instant) :
    ∃ after, sessions.idFor checks src port sock now = some (id, after) ∧
      after.Routes src port id sock := by
  obtain ⟨session, found, _⟩ := routes.session
  refine ⟨_, ?_, routes.used session now found⟩
  simp only [Sessions.idFor, routes.key, found]

/-- A reply under the id goes to the source, by the socket on which the source was
heard, and the session lives on. -/
theorem Sessions.Routes.reply {sessions : Sessions} {src : SocketAddr} {port : UInt16} {id : UInt32}
    {sock : Nat} (routes : sessions.Routes src port id sock) (now : Instant) :
    ∃ after, sessions.replyRoute id now = some ((sock, src), after) ∧
      after.Routes src port id sock := by
  obtain ⟨session, found, sameSock, sameSrc⟩ := routes.session
  refine ⟨_, ?_, routes.used session now found⟩
  simp only [Sessions.replyRoute, found, sameSock, sameSrc]

/-- A source without a session is given one, if there is room for it, and requests
and replies go by it from then on. -/
theorem Sessions.routes_opened {checks : Bool} {sessions : Sessions} (src : SocketAddr)
    (port : UInt16) (sock : Nat) (now : Instant) (absent : sessions.byKey.lookup (src, port) = none)
    (room : sessions.Roomy checks 1) :
    ∃ id after, sessions.idFor checks src port sock now = some (id, after) ∧
      after.Routes src port id sock := by
  have within : (checks && sessions.nextId == 0xffffffff) = false := by
    rw [Bool.and_eq_false_imp]
    intro checked
    rw [beq_eq_false_iff_ne]
    intro limit
    have few := room checked
    rw [limit] at few
    exact absurd few (by decide)
  let opened : Sessions :=
    { byKey := sessions.byKey.insert (src, port) (sessions.nextId + 1),
      byId := sessions.byId.insert (sessions.nextId + 1) { src, sock, last := now },
      nextId := sessions.nextId + 1 }
  refine ⟨sessions.nextId + 1, opened, ?_, AList.lookup_insert _, _, AList.lookup_insert _, rfl, rfl⟩
  simp only [opened, Sessions.idFor, absent, within, Bool.false_eq_true, if_false]

/-- The tasks that carry the datagrams of a source wait, and its session is
there. -/
structure Carries (src : SocketAddr) (id : UInt32) (handle : Nat) (forwarder : Forwarder)
    (generation : Generation) : Prop where
  clean : generation.poisoned = false
  reading : generation.inbound = .reading
  listed : generation.forwarders[handle]? = some forwarder
  receiving : forwarder.stage = .receiving
  routes : generation.sessions.Routes src forwarder.map.remotePort id forwarder.sock

/-- A request of the source is sent under its id, and the session carries the next
one just the same. -/
theorem Carries.request {state : State} {index handle : Nat} {generation : Generation}
    {forwarder : Forwarder} {src : SocketAddr} {id : UInt32}
    (carries : Carries src id handle forwarder generation)
    (present : state.generations[index]? = some generation) (checks : Bool) (payload : Bytes) :
    ∃ origin after, Carries src id handle forwarder after ∧ run (step checks) state
      [.receive index handle src payload, .forward index handle true] =
        some { state with
          generations := state.generations.set index after,
          outbox := state.outbox ++ [(encodeDatagram id forwarder.map.remotePort payload, origin)] } := by
  obtain ⟨sessions, minted, routes⟩ := carries.routes.again checks state.now
  obtain ⟨origin, log, ran⟩ := forward_run present carries.listed carries.receiving carries.clean minted
    payload
  exact ⟨origin, { generation with sessions, log },
    ⟨carries.clean, carries.reading, carries.listed, carries.receiving, routes⟩, ran⟩

/-- A reply under the id is handed to the source, and the session carries the next
one just the same. -/
theorem Carries.reply {state : State} {index handle : Nat} {generation : Generation}
    {forwarder : Forwarder} {src : SocketAddr} {id : UInt32}
    (carries : Carries src id handle forwarder generation)
    (present : state.generations[index]? = some generation) (checks : Bool) (port : UInt16)
    (payload : Bytes) (via : Nat) :
    ∃ after, Carries src id handle forwarder after ∧ run (step checks) state
      [.read index (encodeDatagram id port payload) via, .route index, .handOver index true] =
        some { state with
          generations := state.generations.set index after,
          handed := state.handed ++ [{ sock := forwarder.sock, src, payload, via }] } := by
  obtain ⟨sessions, route, routes⟩ := carries.routes.reply state.now
  exact ⟨{ generation with sessions },
    ⟨carries.clean, carries.reading, carries.listed, carries.receiving, routes⟩,
    handOver_run present carries.reading carries.clean route port payload via⟩

/-- The tasks of a forwarder wait, and no source of it has a session. -/
structure Rested (checks : Bool) (handle : Nat) (forwarder : Forwarder) (generation : Generation) :
    Prop where
  clean : generation.poisoned = false
  reading : generation.inbound = .reading
  listed : generation.forwarders[handle]? = some forwarder
  receiving : forwarder.stage = .receiving
  empty : ∀ key, generation.sessions.byKey.lookup key = none
  room : generation.sessions.Roomy checks 1

/-- The first request of a source opens its session. The generation is at rest, so
nothing else comes between its two steps. -/
theorem Rested.request {state : State} {index handle : Nat} {generation : Generation}
    {forwarder : Forwarder} {checks : Bool} (rested : Rested checks handle forwarder generation)
    (present : state.generations[index]? = some generation) (src : SocketAddr) (payload : Bytes) :
    ∃ id origin after, Carries src id handle forwarder after ∧ run (step checks) state
      [.receive index handle src payload, .forward index handle true] =
        some { state with
          generations := state.generations.set index after,
          outbox := state.outbox ++ [(encodeDatagram id forwarder.map.remotePort payload, origin)] } := by
  obtain ⟨id, sessions, minted, routes⟩ := Sessions.routes_opened src forwarder.map.remotePort
    forwarder.sock state.now (rested.empty _) rested.room
  obtain ⟨origin, log, ran⟩ := forward_run present rested.listed rested.receiving rested.clean minted
    payload
  exact ⟨id, origin, { generation with sessions, log },
    ⟨rested.clean, rested.reading, rested.listed, rested.receiving, routes⟩, ran⟩

end Rtun.Connect
