import Rtun.Connect.Sessions
import Rtun.Run

/-!
# The session table is a bijection

Any sequence of `id_for`, `reply_route` and `reap` on one table, at any times. The history
of a table is the list of the sessions that it has opened, each with its key and its id: ids
count up from one, modulo 2^32. As long as no session is opened under the id of a live one,
the two maps of the table are inverse to each other, and a live id is that of one of the
last 2^32 sessions.
-/

namespace Rtun.Connect.SessionTable

open Run

/-- The table, and the sessions that it has opened: the keys and the ids, the
first one first. -/
structure State where
  sessions : Sessions
  opened : List (Key × UInt32)

/-- The operations of the table, each with the moment it is called at. -/
inductive Action where
  | idFor (src : SocketAddr) (port : UInt16) (sock : Nat) (now : Instant)
  | replyRoute (id : UInt32) (now : Instant)
  | reap (now : Instant)

/-- A panic of `id_for` ends the run. -/
def step (overflowChecks : Bool) (state : State) (action : Action) : Option State :=
  match action with
  | .idFor src port sock now =>
      (state.sessions.idFor overflowChecks src port sock now).map (fun given =>
        { sessions := given.2
          opened :=
            if (state.sessions.byKey.lookup (src, port)).isSome then state.opened
            else state.opened ++ [((src, port), given.1)] })
  | .replyRoute id now =>
      some { state with
        sessions := ((state.sessions.replyRoute id now).map Prod.snd).getD state.sessions }
  | .reap now => some { state with sessions := state.sessions.reap now }

def initial : State := { sessions := Sessions.empty, opened := [] }

/-- The table after traffic of a session that it knows. -/
def State.refreshed (state : State) (id : UInt32) (session : Session) (now : Instant) : State :=
  { state with sessions := { state.sessions with
      byId := state.sessions.byId.insert id { session with last := now } } }

/-- The table after a session was opened for a new key, under the next id. -/
def State.withOpened (state : State) (key : Key) (sock : Nat) (now : Instant) : State :=
  let id := state.sessions.nextId + 1
  { sessions :=
      { byKey := state.sessions.byKey.insert key id,
        byId := state.sessions.byId.insert id { src := key.1, sock, last := now }, nextId := id }
    opened := state.opened ++ [(key, id)] }

/-- The steps, by what they find. -/
inductive Moves (checks : Bool) (state : State) : Action → State → Prop where
  | found (src : SocketAddr) (port : UInt16) (sock : Nat) (now : Instant) (id : UInt32)
      (session : Session) (live : state.sessions.byKey.lookup (src, port) = some id)
      (present : state.sessions.byId.lookup id = some session) :
      Moves checks state (.idFor src port sock now) (state.refreshed id session now)
  | opened (src : SocketAddr) (port : UInt16) (sock : Nat) (now : Instant)
      (new : state.sessions.byKey.lookup (src, port) = none)
      (counts : ¬ (checks = true ∧ state.sessions.nextId = 0xffffffff)) :
      Moves checks state (.idFor src port sock now) (state.withOpened (src, port) sock now)
  | unknown (id : UInt32) (now : Instant) (absent : state.sessions.byId.lookup id = none) :
      Moves checks state (.replyRoute id now) state
  | routed (id : UInt32) (now : Instant) (session : Session)
      (present : state.sessions.byId.lookup id = some session) :
      Moves checks state (.replyRoute id now) (state.refreshed id session now)
  | reaped (now : Instant) :
      Moves checks state (.reap now) { state with sessions := state.sessions.reap now }

/-- Every step is one of these moves. The unwrap of `id_for` fails where the table
has the key and not the id, and then there is no step. -/
theorem step_moves {checks : Bool} {state next : State} {action : Action}
    (taken : step checks state action = some next) : Moves checks state action next := by
  cases action with
  | idFor src port sock now =>
    obtain ⟨given, minted, rfl⟩ := Option.map_eq_some_iff.mp taken
    cases live : state.sessions.byKey.lookup (src, port) with
    | some id =>
      cases present : state.sessions.byId.lookup id with
      | none => simp [Sessions.idFor, live, present] at minted
      | some session =>
        simp only [Sessions.idFor, live, present, Option.some.injEq] at minted
        cases minted
        exact .found src port sock now id session live present
    | none =>
      simp only [Sessions.idFor, live] at minted
      split at minted
      · cases minted
      · rename_i counts
        cases minted
        exact .opened src port sock now live (by simpa using counts)
  | replyRoute id now =>
    cases taken
    cases present : state.sessions.byId.lookup id with
    | none =>
      have route : state.sessions.replyRoute id now = none := by simp [Sessions.replyRoute, present]
      rw [route]
      exact .unknown id now present
    | some session =>
      have route : (state.sessions.replyRoute id now).map Prod.snd = some { state.sessions with
          byId := state.sessions.byId.insert id { session with last := now } } := by
        simp [Sessions.replyRoute, present]
      rw [route]
      exact .routed id now session present
  | reap now =>
    cases taken
    exact .reaped now

/-- What runs keep as long as no session is opened under the id of a live one: a
live id is that of one key and of its source, and of one of the last 2^32 sessions
that were opened. -/
structure Kept (checks : Bool) (state : State) : Prop where
  values : ∀ id, (∃ key, state.sessions.byKey.lookup key = some id) ↔
    (state.sessions.byId.lookup id).isSome = true
  sources : ∀ src port id session, state.sessions.byKey.lookup (src, port) = some id →
    state.sessions.byId.lookup id = some session → session.src = src
  counter : state.sessions.nextId.toNat = state.opened.length % UInt32.size
  numbers : ∀ (n : Nat) key id, state.opened[n]? = some (key, id) → id.toNat = (n + 1) % UInt32.size
  recent : ∀ key id, state.sessions.byKey.lookup key = some id →
    ∃ n : Nat, state.opened[n]? = some (key, id) ∧ state.opened.length ≤ n + UInt32.size
  bounded : checks = true → state.opened.length < UInt32.size

/-- An empty table has nothing to keep: both maps are empty, and the next id is
that after the last of no sessions. -/
theorem kept_initial (checks : Bool) : Kept checks initial := by
  constructor <;> simp [initial, Sessions.empty, UInt32.size]

section Laws

variable {checks : Bool} {state : State} (kept : Kept checks state)

include kept

/-- Every key leads to a session, so the unwrap of `id_for` finds one and the lock
is never poisoned by it. -/
theorem Kept.keyed : state.sessions.Keyed :=
  fun key id listed => (kept.values id).mp ⟨key, listed⟩

/-- The number of the next id. -/
theorem Kept.next_number :
    (state.sessions.nextId + 1).toNat = (state.opened.length + 1) % UInt32.size := by
  have counter := kept.counter
  rw [UInt32.toNat_add, counter, UInt32.toNat_one]
  exact Nat.mod_add_mod _ _ _

/-- Two keys never share an id: both are of the last 2^32 sessions, whose ids
differ. -/
theorem Kept.injective (first second : Key) (id : UInt32)
    (one : state.sessions.byKey.lookup first = some id)
    (other : state.sessions.byKey.lookup second = some id) : first = second := by
  obtain ⟨n, opened, isRecent⟩ := kept.recent first id one
  obtain ⟨m, opened', isRecent'⟩ := kept.recent second id other
  have number := kept.numbers n first id opened
  have number' := kept.numbers m second id opened'
  have inside := (List.getElem?_eq_some_iff.mp opened).1
  have inside' := (List.getElem?_eq_some_iff.mp opened').1
  have same : n = m := by
    rw [UInt32.size] at *
    omega
  subst same
  exact congrArg Prod.fst (Option.some.inj (opened.symm.trans opened'))

/-- The next id is that of a live session exactly when the session that was opened
2^32 openings before is still alive. -/
theorem Kept.next_live_iff :
    (state.sessions.byId.lookup (state.sessions.nextId + 1)).isSome = true ↔
      UInt32.size ≤ state.opened.length ∧
        ∃ key id, state.opened[state.opened.length - UInt32.size]? = some (key, id) ∧
          state.sessions.byKey.lookup key = some id := by
  have next := kept.next_number
  rw [← kept.values]
  constructor
  · rintro ⟨key, live⟩
    obtain ⟨n, opened, isRecent⟩ := kept.recent key _ live
    have number := kept.numbers n key _ opened
    have inside := (List.getElem?_eq_some_iff.mp opened).1
    have place : state.opened.length = n + UInt32.size := by
      rw [UInt32.size] at *
      omega
    refine ⟨by omega, key, _, ?_, live⟩
    rw [place, Nat.add_sub_cancel]
    exact opened
  · rintro ⟨long, key, id, opened, live⟩
    have number := kept.numbers _ key id opened
    have sameId : id = state.sessions.nextId + 1 := by
      apply UInt32.toNat_inj.mp
      rw [number, next]
      rw [UInt32.size] at *
      omega
    exact ⟨key, sameId ▸ live⟩

end Laws

/-- Starting the idle timer of a session anew changes no source and no id, so what
is kept stays. -/
theorem Kept.refreshed {checks : Bool} {state : State} {id : UInt32} {session : Session}
    (kept : Kept checks state) (present : state.sessions.byId.lookup id = some session)
    (now : Instant) : Kept checks (state.refreshed id session now) := by
  refine { kept with values := ?_, sources := ?_ }
  · intro other
    rw [State.refreshed, lookup_touch present, Option.isSome_map]
    exact kept.values other
  · intro src port other after live listed
    obtain ⟨held, before, _, sameSrc⟩ := touched_origin present listed
    exact sameSrc.trans (kept.sources src port other held live before)

/-- Reaping keeps exactly the sessions that have not been idle for too long, and
these under their ids and as they are. -/
theorem reap_byId (sessions : Sessions) (now : Instant) (id : UInt32) :
    (sessions.reap now).byId.lookup id =
      (sessions.byId.lookup id).filter (fun session => decide (now - session.last < udpIdle)) := by
  have retained := Table.lookup_retain
    (fun _ session => decide (now - session.last < udpIdle)) sessions.byId id
  unfold Sessions.reap
  dsimp only
  split <;> exact retained

/-- So it does when sessions are reaped: their keys go with them, in the second
pass over the other map. -/
theorem Kept.reaped {checks : Bool} {state : State} (kept : Kept checks state) (now : Instant) :
    Kept checks { state with sessions := state.sessions.reap now } := by
  obtain ⟨_, keys⟩ := kept.keyed.reap_spec now
  have sameCounter : (state.sessions.reap now).nextId = state.sessions.nextId := by
    unfold Sessions.reap
    dsimp only
    split <;> rfl
  refine ⟨?_, ?_, ?_, kept.numbers, ?_, kept.bounded⟩
  · intro id
    constructor
    · rintro ⟨key, listed⟩
      exact ((keys key id).mp listed).2
    · intro live
      have before : (state.sessions.byId.lookup id).isSome = true := by
        obtain ⟨session, listed⟩ := Option.isSome_iff_exists.mp live
        rw [reap_byId, Option.filter_eq_some_iff] at listed
        rw [listed.1]
        rfl
      obtain ⟨key, known⟩ := (kept.values id).mpr before
      exact ⟨key, (keys key id).mpr ⟨known, live⟩⟩
  · intro src port id session listed found
    rw [reap_byId, Option.filter_eq_some_iff] at found
    exact kept.sources src port id session ((keys _ id).mp listed).1 found.1
  · rw [sameCounter]
    exact kept.counter
  · intro key id listed
    exact kept.recent key id ((keys key id).mp listed).1

/-- A session for a new key is opened under the next id, unless that panics: with
overflow checks there is no id after the last one. -/
theorem idFor_new (checks : Bool) {sessions : Sessions} {src : SocketAddr} {port : UInt16}
    (new : sessions.byKey.lookup (src, port) = none) (sock : Nat) (now : Instant) :
    (sessions.idFor checks src port sock now).map Prod.fst =
      if checks = true ∧ sessions.nextId = 0xffffffff then none else some (sessions.nextId + 1) := by
  simp only [Sessions.idFor, new, Bool.and_eq_true, beq_iff_eq]
  split <;> rfl

/-- A new key is given the next id, unless the counter overflows and that is
checked. -/
theorem step_new {checks : Bool} {state : State} {src : SocketAddr} {port : UInt16}
    (new : state.sessions.byKey.lookup (src, port) = none)
    (counts : ¬ (checks = true ∧ state.sessions.nextId = 0xffffffff)) (sock : Nat) (now : Instant) :
    step checks state (.idFor src port sock now) =
      some (state.withOpened (src, port) sock now) := by
  simp [step, Sessions.idFor, new, State.withOpened, show ¬ (checks = true ∧ _) from counts]

/-- A key that has a session is given its id again, and the idle timer of the
session starts anew. -/
theorem step_live {checks : Bool} {state : State} {src : SocketAddr} {port : UInt16} {id : UInt32}
    {session : Session} (live : state.sessions.byKey.lookup (src, port) = some id)
    (present : state.sessions.byId.lookup id = some session) (sock : Nat) (now : Instant) :
    step checks state (.idFor src port sock now) = some (state.refreshed id session now) := by
  simp [step, Sessions.idFor, live, present, State.refreshed]

/-- The sessions opened so far, once one more has been. -/
theorem withOpened_listed {state : State} {key : Key} {sock : Nat} {now : Instant} {n : Nat}
    {entry : Key × UInt32} :
    (state.withOpened key sock now).opened[n]? = some entry ↔
      state.opened[n]? = some entry ∨
        n = state.opened.length ∧ entry = (key, state.sessions.nextId + 1) := by
  rw [State.withOpened, List.getElem?_append]
  split
  · rename_i inside
    simp [Nat.ne_of_lt inside]
  · rename_i beyond
    have absent : state.opened[n]? = none := List.getElem?_eq_none (Nat.le_of_not_lt beyond)
    rw [List.getElem?_singleton, absent]
    by_cases isLast : n = state.opened.length
    · simp [isLast, eq_comm]
    · simp [isLast, show n - state.opened.length ≠ 0 by omega]

section Opening

variable {checks : Bool} {state : State} {key : Key} (kept : Kept checks state)

include kept

/-- The values of the one map are still the keys of the other after an opening,
since the same id is written to both. -/
theorem Kept.withOpened_values (new : state.sessions.byKey.lookup key = none) (sock : Nat)
    (now : Instant) (id : UInt32) :
    (∃ other, (state.withOpened key sock now).sessions.byKey.lookup other = some id) ↔
      ((state.withOpened key sock now).sessions.byId.lookup id).isSome = true := by
  simp only [State.withOpened, Table.lookup_insert_cases]
  by_cases isNext : id = state.sessions.nextId + 1
  · simp only [isNext, if_true, Option.isSome_some, iff_true]
    exact ⟨key, if_pos rfl⟩
  · rw [if_neg isNext, ← kept.values]
    constructor
    · rintro ⟨other, listed⟩
      split at listed
      · exact absurd (Option.some.inj listed).symm isNext
      · exact ⟨other, listed⟩
    · rintro ⟨other, listed⟩
      have isOther : other ≠ key := by
        rintro rfl
        rw [new] at listed
        cases listed
      exact ⟨other, (if_neg isOther).trans listed⟩

variable (free : state.sessions.byId.lookup (state.sessions.nextId + 1) = none)

include free

/-- When the next id is that of no live session, no key has it: the keys lead to
live sessions only. -/
theorem Kept.next_unused (other : Key) :
    state.sessions.byKey.lookup other ≠ some (state.sessions.nextId + 1) := by
  intro live
  have present := (kept.values _).mp ⟨other, live⟩
  rw [free] at present
  cases present

/-- Then no live session is as old as 2^32 openings. An id that comes round again
is therefore free, as long as no session outlives them. -/
theorem Kept.younger {other : Key} {id : UInt32}
    (live : state.sessions.byKey.lookup other = some id) :
    ∃ n : Nat, state.opened[n]? = some (other, id) ∧ state.opened.length < n + UInt32.size := by
  obtain ⟨n, listed, isRecent⟩ := kept.recent other id live
  have number := kept.numbers n other id listed
  have notOldest : n + UInt32.size ≠ state.opened.length := by
    intro oldest
    have isNext : id = state.sessions.nextId + 1 := by
      apply UInt32.toNat_inj.mp
      rw [number, kept.next_number, ← oldest, Nat.add_right_comm, Nat.add_mod_right]
    exact kept.next_unused free other (isNext ▸ live)
  exact ⟨n, listed, by omega⟩

/-- Opening a session keeps the maps inverse to each other if its id is that of no
live one. -/
theorem Kept.withOpened (new : state.sessions.byKey.lookup key = none)
    (counts : ¬ (checks = true ∧ state.sessions.nextId = 0xffffffff)) (sock : Nat) (now : Instant) :
    Kept checks (state.withOpened key sock now) := by
  have next := kept.next_number
  refine ⟨kept.withOpened_values new sock now, ?_, ?_, ?_, ?_, ?_⟩
  · intro src port id session live present
    rw [State.withOpened, Table.lookup_insert_cases] at live present
    split at live
    · rename_i isKey
      cases live
      rw [if_pos rfl] at present
      cases present
      exact (congrArg Prod.fst isKey).symm
    · have isOther : id ≠ state.sessions.nextId + 1 :=
        fun same => kept.next_unused free _ (same ▸ live)
      rw [if_neg isOther] at present
      exact kept.sources src port id session live present
  · simpa [State.withOpened] using next
  · intro n other id listed
    rcases withOpened_listed.mp listed with before | ⟨rfl, same⟩
    · exact kept.numbers n other id before
    · cases same
      exact next
  · intro other id live
    simp only [State.withOpened, Table.lookup_insert_cases] at live
    split at live
    · rename_i isKey
      cases live
      refine ⟨state.opened.length, withOpened_listed.mpr (.inr ⟨rfl, by rw [isKey]⟩), ?_⟩
      simp [State.withOpened, UInt32.size]
    · obtain ⟨n, listed, isYounger⟩ := kept.younger free live
      refine ⟨n, withOpened_listed.mpr (.inl listed), ?_⟩
      simp only [State.withOpened, List.length_append, List.length_singleton]
      omega
  · intro isChecked
    have before := kept.bounded isChecked
    have counter := kept.counter
    have notLast : state.sessions.nextId.toNat ≠ 4294967295 := by
      intro last
      exact counts ⟨isChecked, UInt32.toNat_inj.mp last⟩
    rw [Nat.mod_eq_of_lt before] at counter
    simp only [State.withOpened, List.length_append, List.length_singleton]
    rw [UInt32.size] at *
    omega

end Opening

/-- A step keeps the maps inverse to each other unless it opens a session under
the id of a live one. -/
theorem Kept.step {checks : Bool} {state next : State} {action : Action} (kept : Kept checks state)
    (free : ∀ src port sock now, action = .idFor src port sock now →
      state.sessions.byKey.lookup (src, port) = none →
        ¬ (checks = true ∧ state.sessions.nextId = 0xffffffff) →
          state.sessions.byId.lookup (state.sessions.nextId + 1) = none)
    (taken : step checks state action = some next) : Kept checks next := by
  cases step_moves taken with
  | found src port sock now id session live present => exact kept.refreshed present now
  | opened src port sock now new counts =>
    exact kept.withOpened (free src port sock now rfl new counts) new counts sock now
  | unknown id now absent => exact kept
  | routed id now session present => exact kept.refreshed present now
  | reaped now => exact kept.reaped now

/-- The sessions that have been opened are never forgotten. The log is no part of
the program; it counts the openings for the statement. -/
theorem step_opened {checks : Bool} {state next : State} {action : Action}
    (taken : step checks state action = some next) : state.opened <+: next.opened := by
  cases step_moves taken with
  | opened src port sock now new counts => exact List.prefix_append _ _
  | found | unknown | routed | reaped => exact List.prefix_rfl

/-- A table that has opened fewer than 2^32 sessions has never met a live id, so
its runs need no condition on what is live when the counter wraps. -/
theorem kept_of_run {checks : Bool} {actions : List Action} {state : State}
    (reached : run (step checks) initial actions = some state)
    (few : state.opened.length < UInt32.size) : Kept checks state := by
  refine invariant_of_run (step checks)
    (fun state => state.opened.length < UInt32.size → Kept checks state) ?_
    initial state actions (fun _ => kept_initial checks) reached few
  intro state action next inductively taken few
  have shorter := (step_opened taken).length_le
  have kept := inductively (Nat.lt_of_le_of_lt shorter few)
  refine kept.step (fun _ _ _ _ _ _ _ => ?_) taken
  rw [← Option.not_isSome_iff_eq_none, kept.next_live_iff]
  omega

/-- The ids that have been handed out count up from one, so the next is a new one
until 2^32 sessions have been opened. -/
theorem Kept.next_new {checks : Bool} {state : State} (kept : Kept checks state)
    (few : state.opened.length < UInt32.size) (key : Key) :
    (key, state.sessions.nextId + 1) ∉ state.opened := by
  intro member
  obtain ⟨n, inside, listed⟩ := List.mem_iff_getElem.mp member
  have number := kept.numbers n key _ (List.getElem?_eq_some_iff.mpr ⟨inside, listed⟩)
  rw [kept.next_number] at number
  rw [UInt32.size] at *
  omega

/-- A table after traffic of one session, which is named by its key: its idle
timer starts anew, and every other entry is as it was. -/
structure Touched (before after : Sessions) (key : Key) (id : UInt32) (now : Instant) : Prop where
  named : after.byKey.lookup key = some id
  fresh : ∃ session, after.byId.lookup id = some session ∧ session.src = key.1 ∧ session.last = now
  same : ∀ session, before.byId.lookup id = some session →
    after.byId.lookup id = some { session with last := now }
  otherIds : ∀ other, other ≠ id → after.byId.lookup other = before.byId.lookup other
  otherKeys : ∀ other, other ≠ key → after.byKey.lookup other = before.byKey.lookup other

/-- Starting the idle timer of a live session anew is no more than that: the keys,
the other sessions and the counter stay as they are. -/
theorem touched_of_present {sessions : Sessions} {key : Key} {id : UInt32} {session : Session}
    (live : sessions.byKey.lookup key = some id) (present : sessions.byId.lookup id = some session)
    (owner : session.src = key.1) (now : Instant) :
    Touched sessions
      { sessions with byId := sessions.byId.insert id { session with last := now } } key id now where
  named := live
  fresh := ⟨{ session with last := now }, AList.lookup_insert _, owner, rfl⟩
  same := by
    intro other isOther
    obtain rfl : session = other := Option.some.inj (present.symm.trans isOther)
    exact AList.lookup_insert _
  otherIds := fun other apart => (Table.lookup_insert_cases _ _ _ _).trans (if_neg apart)
  otherKeys := fun _ _ => rfl

/-- `id_for` touches one session, that of the key, or opens it. Whatever the key,
no other session is younger or older for it. -/
theorem Kept.touched_idFor {checks : Bool} {state : State} (kept : Kept checks state)
    (few : state.opened.length < UInt32.size) {src : SocketAddr} {port : UInt16} {sock : Nat}
    {now : Instant} {id : UInt32} {after : Sessions}
    (minted : state.sessions.idFor checks src port sock now = some (id, after)) :
    Touched state.sessions after (src, port) id now := by
  cases live : state.sessions.byKey.lookup (src, port) with
  | some known =>
    obtain ⟨session, present⟩ := Option.isSome_iff_exists.mp (kept.keyed _ known live)
    simp only [Sessions.idFor, live, present, Option.some.injEq] at minted
    have owner := kept.sources src port known session live present
    cases minted
    exact touched_of_present live present owner now
  | none =>
    simp only [Sessions.idFor, live] at minted
    split at minted
    · cases minted
    · cases minted
      have free : state.sessions.byId.lookup (state.sessions.nextId + 1) = none := by
        rw [← Option.not_isSome_iff_eq_none, kept.next_live_iff]
        omega
      constructor
      · exact AList.lookup_insert _
      · exact ⟨_, AList.lookup_insert _, rfl, rfl⟩
      · intro session present
        rw [free] at present
        cases present
      · exact fun other apart => (Table.lookup_insert_cases _ _ _ _).trans (if_neg apart)
      · exact fun other apart => (Table.lookup_insert_cases _ _ _ _).trans (if_neg apart)

/-- `reply_route` finds every live session and no other, so a reply is dropped for
want of a session only if there is none. -/
theorem replyRoute_isSome (sessions : Sessions) (id : UInt32) (now : Instant) :
    (sessions.replyRoute id now).isSome = (sessions.byId.lookup id).isSome := by
  unfold Sessions.replyRoute
  cases sessions.byId.lookup id <;> rfl

/-- It leads to the owner of the id, and touches that session alone. So a reply
counts as traffic of the client it goes to. -/
theorem Kept.touched_replyRoute {checks : Bool} {state : State} (kept : Kept checks state)
    {id : UInt32} {now : Instant} {sock : Nat} {src : SocketAddr} {after : Sessions}
    (routed : state.sessions.replyRoute id now = some ((sock, src), after)) :
    ∃ port, (∀ key, state.sessions.byKey.lookup key = some id ↔ key = (src, port)) ∧
      Touched state.sessions after (src, port) id now := by
  obtain ⟨session, present, _, sameSrc⟩ := Sessions.replyRoute_some routed
  obtain ⟨⟨source, port⟩, live⟩ := (kept.values id).mpr (by rw [present]; rfl)
  have owner := kept.sources source port id session live present
  obtain rfl : source = src := owner.symm.trans sameSrc
  refine ⟨port, fun key => ⟨fun other => kept.injective key (source, port) id other live, ?_⟩, ?_⟩
  · rintro rfl
    exact live
  · simp only [Sessions.replyRoute, present, Option.some.injEq] at routed
    cases routed
    exact touched_of_present live present owner now

/-- The session table is a bijection in every state that a run reaches in which
fewer than 2^32 sessions have been opened: `by_key` is injective, its values are
the keys of `by_id`, and the session under the id of a key has the source of the
key. Then `id_for` hands out the id of a live key and a new id for a new key, and
it panics only where the counter overflows; `reap` removes from both maps the
sessions that are idle; a reply is routed exactly if its id is live, and goes to
the source that the id is for. Both `id_for` and `reply_route` start the idle
timer of their session anew, and leave every other entry as it was. -/
theorem session_table_bijective (checks : Bool) (actions : List Action) (state : State)
    (reached : run (step checks) initial actions = some state)
    (few : state.opened.length < UInt32.size) :
    (∀ first second id, state.sessions.byKey.lookup first = some id →
      state.sessions.byKey.lookup second = some id → first = second) ∧
    (∀ id, (∃ key, state.sessions.byKey.lookup key = some id) ↔ id ∈ state.sessions.byId) ∧
    (∀ src port id, state.sessions.byKey.lookup (src, port) = some id →
      ∃ session, state.sessions.byId.lookup id = some session ∧ session.src = src) ∧
    (∀ src port sock now id, state.sessions.byKey.lookup (src, port) = some id →
      ∃ after, state.sessions.idFor checks src port sock now = some (id, after)) ∧
    (∀ src port sock now id after, state.sessions.byKey.lookup (src, port) = none →
      state.sessions.idFor checks src port sock now = some (id, after) →
        ∀ key, (key, id) ∉ state.opened) ∧
    (∀ src port sock now, state.sessions.idFor checks src port sock now = none ↔
      checks = true ∧ state.opened.length + 1 = UInt32.size ∧
        state.sessions.byKey.lookup (src, port) = none) ∧
    (∀ now id session, (state.sessions.reap now).byId.lookup id = some session ↔
      state.sessions.byId.lookup id = some session ∧ now - session.last < udpIdle) ∧
    (∀ now key id, (state.sessions.reap now).byKey.lookup key = some id ↔
      state.sessions.byKey.lookup key = some id ∧
        ∃ session, state.sessions.byId.lookup id = some session ∧ now - session.last < udpIdle) ∧
    (∀ src port sock now id after, state.sessions.idFor checks src port sock now = some (id, after) →
      Touched state.sessions after (src, port) id now) ∧
    (∀ now id, (state.sessions.replyRoute id now).isSome = true ↔ id ∈ state.sessions.byId) ∧
    (∀ now id sock src after, state.sessions.replyRoute id now = some ((sock, src), after) →
      ∃ port, (∀ key, state.sessions.byKey.lookup key = some id ↔ key = (src, port)) ∧
        Touched state.sessions after (src, port) id now) := by
  have kept := kept_of_run reached few
  have reapedId (now : Instant) (id : UInt32) (session : Session) :
      (state.sessions.reap now).byId.lookup id = some session ↔
        state.sessions.byId.lookup id = some session ∧ now - session.last < udpIdle := by
    rw [reap_byId, Option.filter_eq_some_iff, decide_eq_true_iff]
  refine ⟨kept.injective, ?_, ?_, ?_, ?_, ?_, reapedId, ?_, ?_, ?_, ?_⟩
  · intro id
    rw [kept.values, AList.lookup_isSome]
  · intro src port id live
    obtain ⟨session, present⟩ := Option.isSome_iff_exists.mp (kept.keyed _ id live)
    exact ⟨session, present, kept.sources src port id session live present⟩
  · intro src port sock now id live
    obtain ⟨session, present⟩ := Option.isSome_iff_exists.mp (kept.keyed _ id live)
    simp [Sessions.idFor, live, present]
  · intro src port sock now id after new minted
    simp only [Sessions.idFor, new] at minted
    split at minted
    · cases minted
    · cases minted
      exact kept.next_new few
  · intro src port sock now
    have counter := kept.counter
    rw [Nat.mod_eq_of_lt few] at counter
    rw [kept.keyed.idFor_none_iff]
    have limit : state.sessions.nextId = 0xffffffff ↔ state.opened.length + 1 = UInt32.size := by
      rw [← UInt32.toNat_inj, counter, UInt32.size]
      exact ⟨congrArg (· + 1), Nat.succ.inj⟩
    rw [limit]
  · intro now key id
    rw [(kept.keyed.reap_spec now).2, Option.isSome_iff_exists]
    simp only [reapedId]
  · exact fun _ _ _ _ _ _ minted => kept.touched_idFor few minted
  · intro now id
    rw [replyRoute_isSome, AList.lookup_isSome]
  · exact fun _ _ _ _ _ routed => kept.touched_replyRoute routed

/-- Two clients of one port; the first one stays quiet and is reaped, and comes
back. -/
def quietClient : List Action :=
  [.idFor ⟨0x7f000001, 40000⟩ 53 0 0, .idFor ⟨0x7f000001, 40001⟩ 53 0 0, .replyRoute 2 udpIdle,
    .reap udpIdle, .idFor ⟨0x7f000001, 40000⟩ 53 0 udpIdle]

/-- It has a new id then; the other one, to which a reply came in between, has
kept its own. -/
theorem quiet_client_comes_back :
    ∃ state, run (step true) initial quietClient = some state ∧
      state.sessions.byKey.lookup (⟨0x7f000001, 40000⟩, 53) = some 3 ∧
      (∀ key, state.sessions.byKey.lookup key = some 3 ↔ key = (⟨0x7f000001, 40000⟩, 53)) ∧
      state.sessions.byId.lookup 2 =
        some { src := ⟨0x7f000001, 40001⟩, sock := 0, last := udpIdle } ∧
      (∀ key, state.sessions.byKey.lookup key = some 2 ↔ key = (⟨0x7f000001, 40001⟩, 53)) := by
  obtain ⟨state, reached, few, live, other, session⟩ : ∃ state,
      run (step true) initial quietClient = some state ∧
      state.opened.length < UInt32.size ∧
      state.sessions.byKey.lookup (⟨0x7f000001, 40000⟩, 53) = some 3 ∧
      state.sessions.byKey.lookup (⟨0x7f000001, 40001⟩, 53) = some 2 ∧
      state.sessions.byId.lookup 2 = some { src := ⟨0x7f000001, 40001⟩, sock := 0, last := udpIdle } :=
    ⟨_, rfl, by decide, rfl, rfl, rfl⟩
  have unique := (session_table_bijective true quietClient state reached few).1
  have only (key : Key) (id : UInt32) (isLive : state.sessions.byKey.lookup key = some id)
      (found : Key) : state.sessions.byKey.lookup found = some id ↔ found = key := by
    refine ⟨fun alsoLive => unique found key id alsoLive isLive, ?_⟩
    rintro rfl
    exact isLive
  exact ⟨state, reached, live, only _ _ live, session, only _ _ other⟩

end Rtun.Connect.SessionTable
