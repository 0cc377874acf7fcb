import Rtun.Runtime
import Rtun.Table

/-!
# The session table of the serving side

Sessions are keyed by the id that the connecting side minted. Each has a socket of
its own, so that the local service sees a distinct source per session, and a task
that reads the replies from it. Dropping an entry aborts that task; the functions
below return the remaining table, and `Table.dropped` names the entries dropped.
-/

namespace Rtun.Serve

/-- One session: handles of its socket and of its reply task, the moment of its
last traffic, and the port that its socket is connected to. -/
structure Session where
  sock : Nat
  reply : Nat
  last : Instant
  port : UInt16
deriving DecidableEq

abbrev Sessions := Table UInt32 Session

namespace Sessions

/-- The socket of a known session, whose idle timer starts anew. -/
def touch (sessions : Sessions) (id : UInt32) (now : Instant) : Option (Nat × Sessions) :=
  match sessions.lookup id with
  | none => none
  | some session => some (session.sock, sessions.insert id { session with last := now })

/-- The table after a touch whose result is not used. -/
def touched (sessions : Sessions) (id : UInt32) (now : Instant) : Sessions :=
  match sessions.touch id now with
  | none => sessions
  | some (_, after) => after

/-- The sessions that `reap` keeps. -/
def fresh (now : Instant) (_ : UInt32) (session : Session) : Bool :=
  decide (now - session.last < udpIdle)

/-- The sessions that `drop_ungranted` keeps. -/
def stillGranted (granted : List UInt16) (_ : UInt32) (session : Session) : Bool :=
  granted.contains session.port

/-- A touch finds exactly the session under the id. -/
theorem touch_some_iff (sessions after : Sessions) (id : UInt32) (now : Instant) (sock : Nat) :
    sessions.touch id now = some (sock, after) ↔
      ∃ session, sessions.lookup id = some session ∧ session.sock = sock ∧
        after = sessions.touched id now := by
  cases found : sessions.lookup id with
  | none => simp [touch, found]
  | some session => simp [touch, touched, found, eq_comm]

/-- Touching fails exactly for the ids that have no session. -/
theorem touch_none_iff (sessions : Sessions) (id : UInt32) (now : Instant) :
    sessions.touch id now = none ↔ sessions.lookup id = none := by
  cases found : sessions.lookup id <;> simp [touch, found]

/-- A touch changes nothing but the moment of the last traffic. -/
theorem lookup_touched (sessions : Sessions) (id other : UInt32) (now : Instant) (session : Session)
    (present : (sessions.touched id now).lookup other = some session) :
    ∃ before, sessions.lookup other = some before ∧ session = { before with last := session.last } := by
  cases found : sessions.lookup id with
  | none =>
    simp only [touched, touch, found] at present
    exact ⟨session, present, rfl⟩
  | some known =>
    simp only [touched, touch, found, Table.lookup_insert_cases] at present
    by_cases same : other = id
    · subst same
      obtain rfl : { known with last := now } = session := by simpa using present
      exact ⟨known, found, rfl⟩
    · simp only [same, if_false] at present
      exact ⟨session, present, rfl⟩

end Sessions

end Rtun.Serve
