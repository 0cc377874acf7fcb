import Rtun.Runtime
import Rtun.Table

/-!
# The session table of the connecting side

UDP has no connections, so the connecting side makes them up: a local source address
and a target port are a session, and a `u32` id lets a reply find its way back to the
source. Ids count up from one for the life of the table. The log of a table is the
list of the keys that sessions were opened for: its n-th key is that of id n.
-/

namespace Rtun.Connect

/-- The address that a local datagram came from. -/
structure SocketAddr where
  ip : BitVec 32
  port : UInt16
deriving DecidableEq

/-- One session: the source, the listener socket it came in on, and the moment of
its last traffic. -/
structure Session where
  src : SocketAddr
  sock : Nat
  last : Instant
deriving DecidableEq

/-- What makes two datagrams one session: the source and the target port. -/
abbrev Key := SocketAddr × UInt16

structure Sessions where
  byKey : Table Key UInt32
  byId : Table UInt32 Session
  nextId : UInt32

namespace Sessions

def empty : Sessions := { byKey := ∅, byId := ∅, nextId := 0 }

/-- The id for a datagram from a source to a port, opening a session for a new
key. Nothing stands for a panic: of the `unwrap`, or of the addition where
overflow is checked. -/
def idFor (overflowChecks : Bool) (sessions : Sessions) (src : SocketAddr) (port : UInt16)
    (sock : Nat) (now : Instant) : Option (UInt32 × Sessions) :=
  match sessions.byKey.lookup (src, port) with
  | some id =>
      match sessions.byId.lookup id with
      | none => none
      | some session =>
          some (id, { sessions with byId := sessions.byId.insert id { session with last := now } })
  | none =>
      if overflowChecks && sessions.nextId == 0xffffffff then none
      else
        let id := sessions.nextId + 1
        some (id, { byKey := sessions.byKey.insert (src, port) id,
                    byId := sessions.byId.insert id { src, sock, last := now },
                    nextId := id })

/-- Where a reply goes: the listener socket and the source of a known session,
whose idle timer starts anew. -/
def replyRoute (sessions : Sessions) (id : UInt32) (now : Instant) :
    Option ((Nat × SocketAddr) × Sessions) :=
  match sessions.byId.lookup id with
  | none => none
  | some session =>
      some ((session.sock, session.src),
        { sessions with byId := sessions.byId.insert id { session with last := now } })

/-- Release the sessions that have been idle, and their keys if there were any. -/
def reap (sessions : Sessions) (now : Instant) : Sessions :=
  let byId := sessions.byId.retain (fun _ session => decide (now - session.last < udpIdle))
  if byId.size = sessions.byId.size then { sessions with byId }
  else
    { sessions with
      byId, byKey := sessions.byKey.retain (fun _ id => (byId.lookup id).isSome) }

end Sessions

/-- The log of a table after `id_for` was asked for a key. -/
def logAfter (sessions : Sessions) (log : List Key) (key : Key) : List Key :=
  if (sessions.byKey.lookup key).isSome then log else log ++ [key]

/-- The key that an id was handed out for. -/
def keyOf (log : List Key) (id : UInt32) : Option Key :=
  match id.toNat with
  | 0 => none
  | count + 1 => log[count]?

/-- A log that grows keeps the keys of the ids handed out. -/
theorem keyOf_append (log added : List Key) (id : UInt32) (key : Key)
    (known : keyOf log id = some key) : keyOf (log ++ added) id = some key := by
  unfold keyOf at known ⊢
  split at known
  · cases known
  · rename_i count _
    have inside : count < log.length := (List.getElem?_eq_some_iff.mp known).1
    rw [List.getElem?_append_left inside]
    exact known

/-- What the table holds is what the log says, and the counter is the length of
the log. -/
structure Sessions.Logged (sessions : Sessions) (log : List Key) : Prop where
  count : sessions.nextId.toNat = log.length
  keys : ∀ key id, sessions.byKey.lookup key = some id → keyOf log id = some key
  ids : ∀ id session, sessions.byId.lookup id = some session →
    ∃ port, keyOf log id = some (session.src, port)

/-- An empty table has handed out no id. -/
theorem logged_empty : Sessions.empty.Logged [] := by
  constructor <;> simp [Sessions.empty]

/-- A new id is that of the key that is added to the log. -/
theorem keyOf_next (log : List Key) (nextId : UInt32) (key : Key)
    (count : nextId.toNat = log.length) (few : log.length + 1 < UInt32.size) :
    (nextId + 1).toNat = log.length + 1 ∧ keyOf (log ++ [key]) (nextId + 1) = some key := by
  have next : (nextId + 1).toNat = log.length + 1 := by
    rw [UInt32.toNat_add, count, UInt32.toNat_one]
    exact Nat.mod_eq_of_lt few
  constructor
  · exact next
  · simp [keyOf, next]

/-- Touching a session changes the moment of its last traffic and nothing else. -/
theorem lookup_touch {byId : Table UInt32 Session} {id : UInt32} {session : Session}
    (found : byId.lookup id = some session) (now : Instant) (other : UInt32) :
    (byId.insert id { session with last := now }).lookup other =
      (byId.lookup other).map (fun held => if other = id then { held with last := now } else held) := by
  rw [Table.lookup_insert_cases]
  split
  · rename_i same
    rw [same, found]
    rfl
  · exact Option.map_id'.symm

/-- So what is found under an id has the socket and the source that it had. -/
theorem touched_origin {byId : Table UInt32 Session} {id other : UInt32} {session after : Session}
    {now : Instant} (found : byId.lookup id = some session)
    (listed : (byId.insert id { session with last := now }).lookup other = some after) :
    ∃ held, byId.lookup other = some held ∧ after.sock = held.sock ∧ after.src = held.src := by
  rw [lookup_touch found, Option.map_eq_some_iff] at listed
  obtain ⟨held, before, rfl⟩ := listed
  refine ⟨held, before, ?_⟩
  split <;> exact ⟨rfl, rfl⟩

/-- The specification of `id_for`: the id is the one logged for the key, and the
table goes on as the log says, as long as the counter does not wrap. -/
theorem Sessions.Logged.idFor {sessions after : Sessions} {log : List Key} {checks : Bool}
    {src : SocketAddr} {port : UInt16} {sock : Nat} {now : Instant} {id : UInt32}
    (logged : sessions.Logged log) (few : (logAfter sessions log (src, port)).length < UInt32.size)
    (minted : sessions.idFor checks src port sock now = some (id, after)) :
    after.Logged (logAfter sessions log (src, port)) ∧
      keyOf (logAfter sessions log (src, port)) id = some (src, port) := by
  unfold Sessions.idFor at minted
  split at minted
  · rename_i known found
    have same : logAfter sessions log (src, port) = log := by simp [logAfter, found]
    rw [same]
    split at minted
    · cases minted
    · rename_i session present
      obtain ⟨rfl, rfl⟩ := Prod.mk.inj (Option.some.inj minted)
      refine ⟨⟨logged.count, logged.keys, ?_⟩, logged.keys _ _ found⟩
      intro other after listed
      obtain ⟨held, before, _, sameSrc⟩ := touched_origin present listed
      rw [sameSrc]
      exact logged.ids other held before
  · rename_i absent
    have longer : logAfter sessions log (src, port) = log ++ [(src, port)] := by
      simp [logAfter, absent]
    rw [longer] at few ⊢
    split at minted
    · cases minted
    · obtain ⟨rfl, rfl⟩ := Prod.mk.inj (Option.some.inj minted)
      obtain ⟨next, newKey⟩ := keyOf_next log sessions.nextId (src, port) logged.count
        (by simpa using few)
      refine ⟨⟨by simpa using next, ?_, ?_⟩, newKey⟩
      · intro key other listed
        rw [Table.lookup_insert_cases] at listed
        split at listed
        · rename_i isKey
          cases listed
          rw [isKey]
          exact newKey
        · exact keyOf_append log _ other key (logged.keys key other listed)
      · intro other held listed
        rw [Table.lookup_insert_cases] at listed
        split at listed
        · rename_i isId
          cases listed
          rw [isId]
          exact ⟨port, newKey⟩
        · obtain ⟨known, before⟩ := logged.ids other held listed
          exact ⟨known, keyOf_append log _ other _ before⟩

/-- A route is the socket and the source of the session under the id. -/
theorem Sessions.replyRoute_some {sessions after : Sessions} {id : UInt32} {now : Instant}
    {sock : Nat} {src : SocketAddr}
    (routed : sessions.replyRoute id now = some ((sock, src), after)) :
    ∃ session, sessions.byId.lookup id = some session ∧ session.sock = sock ∧ session.src = src := by
  unfold Sessions.replyRoute at routed
  split at routed
  · cases routed
  · rename_i session present
    obtain ⟨route, _⟩ := Prod.mk.inj (Option.some.inj routed)
    obtain ⟨sameSock, sameSrc⟩ := Prod.mk.inj route
    exact ⟨session, present, sameSock, sameSrc⟩

/-- A route leads to the source that the log has for the id. -/
theorem Sessions.Logged.replyRoute {sessions after : Sessions} {log : List Key} {id : UInt32}
    {now : Instant} {sock : Nat} {src : SocketAddr} (logged : sessions.Logged log)
    (routed : sessions.replyRoute id now = some ((sock, src), after)) :
    after.Logged log ∧ ∃ port, keyOf log id = some (src, port) := by
  unfold Sessions.replyRoute at routed
  split at routed
  · cases routed
  · rename_i session present
    obtain ⟨route, rfl⟩ := Prod.mk.inj (Option.some.inj routed)
    obtain ⟨rfl, rfl⟩ := Prod.mk.inj route
    refine ⟨⟨logged.count, logged.keys, ?_⟩, logged.ids id session present⟩
    intro other after listed
    obtain ⟨held, before, _, sameSrc⟩ := touched_origin present listed
    rw [sameSrc]
    exact logged.ids other held before

/-- Reaping only removes. -/
theorem Sessions.Logged.reap {sessions : Sessions} {log : List Key} (logged : sessions.Logged log)
    (now : Instant) : (sessions.reap now).Logged log := by
  have kept (id : UInt32) (session : Session)
      (listed : (sessions.byId.retain
        (fun _ session => decide (now - session.last < udpIdle))).lookup id = some session) :
      ∃ port, keyOf log id = some (session.src, port) := by
    rw [Table.lookup_retain, Option.filter_eq_some_iff] at listed
    exact logged.ids id session listed.1
  unfold Sessions.reap
  dsimp only
  split
  · exact ⟨logged.count, logged.keys, kept⟩
  · refine ⟨logged.count, ?_, kept⟩
    intro key id listed
    rw [Table.lookup_retain, Option.filter_eq_some_iff] at listed
    exact logged.keys key id listed.1

/-- Every key leads to a session, so the `unwrap` of `id_for` finds one. This
holds even of a table whose counter has wrapped. -/
def Sessions.Keyed (sessions : Sessions) : Prop :=
  ∀ key id, sessions.byKey.lookup key = some id → (sessions.byId.lookup id).isSome = true

/-- And has no key that could lack its session. -/
theorem keyed_empty : Sessions.empty.Keyed := by
  intro key id listed
  cases listed

/-- Writing a session leaves every id with a session that had one. -/
theorem isSome_insert (table : Table UInt32 Session) (id other : UInt32) (session : Session)
    (known : (table.lookup other).isSome = true) :
    ((table.insert id session).lookup other).isSome = true := by
  rw [Table.lookup_insert_cases]
  split
  · rfl
  · exact known

/-- Asking for an id leaves every key with a session: a new key is put in together
with its own. -/
theorem Sessions.Keyed.idFor {sessions after : Sessions} {checks : Bool} {src : SocketAddr}
    {port : UInt16} {sock : Nat} {now : Instant} {id : UInt32} (keyed : sessions.Keyed)
    (minted : sessions.idFor checks src port sock now = some (id, after)) : after.Keyed := by
  unfold Sessions.idFor at minted
  split at minted
  · split at minted
    · cases minted
    · cases minted
      intro key other listed
      exact isSome_insert _ _ other _ (keyed key other listed)
  · split at minted
    · cases minted
    · cases minted
      intro key other listed
      rw [Table.lookup_insert_cases] at listed
      split at listed
      · cases listed
        simp
      · exact isSome_insert _ _ other _ (keyed key other listed)

/-- `id_for` panics exactly when a new key meets a counter at its limit, and
overflow is checked. -/
theorem Sessions.Keyed.idFor_none_iff {sessions : Sessions} (keyed : sessions.Keyed) (checks : Bool)
    (src : SocketAddr) (port : UInt16) (sock : Nat) (now : Instant) :
    sessions.idFor checks src port sock now = none ↔
      checks = true ∧ sessions.nextId = 0xffffffff ∧ sessions.byKey.lookup (src, port) = none := by
  unfold Sessions.idFor
  cases found : sessions.byKey.lookup (src, port) with
  | some id =>
    obtain ⟨session, present⟩ := Option.isSome_iff_exists.mp (keyed (src, port) id found)
    simp [present]
  | none => simp

/-- Routing a reply changes only a stamp. -/
theorem Sessions.Keyed.replyRoute {sessions after : Sessions} {id : UInt32} {now : Instant}
    {route : Nat × SocketAddr} (keyed : sessions.Keyed)
    (routed : sessions.replyRoute id now = some (route, after)) : after.Keyed := by
  unfold Sessions.replyRoute at routed
  split at routed
  · cases routed
  · cases routed
    intro key other listed
    exact isSome_insert _ _ other _ (keyed key other listed)

/-- What `reap` keeps: the sessions that are fresh, and the keys of sessions it
keeps. -/
theorem Sessions.Keyed.reap_spec {sessions : Sessions} (keyed : sessions.Keyed) (now : Instant) :
    (∀ id session, (sessions.reap now).byId.lookup id = some session →
      sessions.byId.lookup id = some session) ∧
    ∀ key id, (sessions.reap now).byKey.lookup key = some id ↔
      sessions.byKey.lookup key = some id ∧ ((sessions.reap now).byId.lookup id).isSome = true := by
  unfold Sessions.reap
  dsimp only
  split
  · rename_i nothing
    have same := Table.retain_of_size _ _ nothing
    rw [same]
    refine ⟨fun _ _ listed => listed, ?_⟩
    intro key id
    exact ⟨fun listed => ⟨listed, keyed key id listed⟩, And.left⟩
  · refine ⟨?_, ?_⟩
    · intro id session listed
      rw [Table.lookup_retain, Option.filter_eq_some_iff] at listed
      exact listed.1
    · intro key id
      rw [Table.lookup_retain, Option.filter_eq_some_iff]

/-- Reaping takes the keys of the sessions that it takes. It skips them only when
it has taken none, as both counts show. -/
theorem Sessions.Keyed.reap {sessions : Sessions} (keyed : sessions.Keyed) (now : Instant) :
    (sessions.reap now).Keyed := by
  intro key id listed
  exact (((keyed.reap_spec now).2 key id).mp listed).2

end Rtun.Connect
