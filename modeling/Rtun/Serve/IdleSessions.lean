import Rtun.Expiry
import Rtun.Serve.Authorised

/-!
# How long a session of the serving side lives

A datagram that finds the session and a reply of its service both count as traffic. Without
traffic a session is released by the next sweep after the idle time, and while there is
traffic only a withdrawn grant or the end of the connection releases it.
-/

namespace Rtun.Serve

universe u
variable {τ : Type u} {peer : EndpointId}

open Expiry Run

/-- The time that passes in a step. -/
def Action.elapsed : Action τ → Nat
  | .elapse nanos => nanos
  | _ => 0

/-- The step is a tick of the reaper. -/
def Action.sweeps : Action τ → Bool
  | .reap => true
  | _ => false

/-- The step carries a datagram under this id: one that was admitted looks for its
session or enters the one that was opened for it, or a reply task passes on what
its service sent. -/
def State.carries (state : State τ) (action : Action τ) (id : UInt32) : Bool :=
  match action with
  | .touch =>
      match state.pump with
      | .granted datagram => datagram.id == id
      | _ => false
  | .insert =>
      match state.pump with
      | .spawned datagram _ _ => datagram.id == id
      | _ => false
  | .answer handle _ =>
      match state.replies[handle]? with
      | some reply => reply.id == id
      | none => false
  | _ => false

/-- The step can release a session of this port whatever its age: a pass that does
not find the port among the grants, or the end of the connection. -/
def State.releases (state : State τ) (action : Action τ) (port : UInt16) : Bool :=
  match action with
  | .revoke =>
      match state.pump with
      | .revoking granted => !granted.contains port
      | _ => false
  | .clear => true
  | _ => false

/-- What a step does to the table and to the clock. A step that leaves the table
alone carries nothing, unless it is a datagram that does not find its session. -/
inductive Times (state : State τ) : Action τ → State τ → Prop where
  | still (action : Action τ) (next : State τ) (now : next.now = state.now + action.elapsed)
      (sessions : next.sessions = state.sessions) (sweeps : action.sweeps = false)
      (silent : ∀ id, state.carries action id = true → state.sessions.lookup id = none) :
      Times state action next
  | traffic (action : Action τ) (next : State τ) (id : UInt32)
      (now : next.now = state.now + action.elapsed)
      (sessions : next.sessions = state.sessions.touched id state.now)
      (sweeps : action.sweeps = false) (own : ∀ other, state.carries action other = (id == other)) :
      Times state action next
  | inserted (next : State τ) (datagram : Admitted τ) (sock reply : Nat)
      (held : state.pump = .spawned datagram sock reply) (now : next.now = state.now)
      (sessions : next.sessions = state.sessions.insert datagram.id
        { sock, reply, last := state.now, port := datagram.port }) : Times state .insert next
  | reaped (next : State τ) (now : next.now = state.now)
      (sessions : next.sessions = state.sessions.retain (Sessions.fresh state.now)) :
      Times state .reap next
  | revoked (next : State τ) (granted : List UInt16) (held : state.pump = .revoking granted)
      (now : next.now = state.now)
      (sessions : next.sessions = state.sessions.retain (Sessions.stillGranted granted)) :
      Times state .revoke next
  | cleared (next : State τ) (now : next.now = state.now)
      (sessions : next.sessions = state.sessions.retain (fun _ _ => false)) :
      Times state .clear next

/-- A step that carries nothing and leaves the table alone. Most steps of the
connection are of this kind; those that open, use or remove sessions are treated
on their own. -/
theorem Times.aside {state next : State τ} {action : Action τ}
    (now : next.now = state.now + action.elapsed) (sessions : next.sessions = state.sessions)
    (sweeps : action.sweeps = false) (silent : ∀ id, state.carries action id = false) :
    Times state action next := by
  refine .still action next now sessions sweeps fun id carried => ?_
  rw [silent] at carried
  cases carried

/-- A use of a session takes no time: the stamp that the step leaves is the time
at which it begins. Only waiting moves the clock, and waiting carries nothing. -/
theorem carries_timeless (state : State τ) (action : Action τ) (id : UInt32)
    (carries : state.carries action id = true) : action.elapsed = 0 := by
  cases action <;> first | rfl | cases carries

/-- What the pump does to the stamps: it sets that of the session that it forwards
for or opens, and takes sessions out in a pass over the table. -/
theorem pumpStep_times {state next : State τ} {action : Action τ}
    (taken : pumpStep peer state action = some next) : Times state action next := by
  unfold pumpStep at taken
  split at taken
  · cases taken
    exact .aside rfl rfl rfl fun _ => rfl
  · cases taken
    exact .aside rfl rfl rfl fun _ => rfl
  · split at taken
    · cases taken
      exact .aside rfl rfl rfl fun _ => rfl
    · cases taken
  · rename_i granted held
    cases taken
    exact .revoked _ granted held rfl rfl
  · split at taken
    · cases taken
      exact .aside rfl rfl rfl fun _ => rfl
    · cases taken
      exact .aside rfl rfl rfl fun _ => rfl
  · rename_i datagram held
    have own (other : UInt32) : state.carries .touch other = (datagram.id == other) := by
      simp only [State.carries, held]
    split at taken
    · rename_i absent
      cases taken
      refine .still _ _ rfl rfl rfl fun id carried => ?_
      rw [own, beq_iff_eq] at carried
      exact carried ▸ (Sessions.touch_none_iff _ _ _).mp absent
    · rename_i sock sessions touched
      obtain ⟨_, _, _, rfl⟩ := (Sessions.touch_some_iff _ _ _ _ _).mp touched
      cases taken
      exact .traffic _ _ datagram.id rfl rfl rfl own
  · cases taken
    exact .aside rfl rfl rfl fun _ => rfl
  · cases taken
    exact .aside rfl rfl rfl fun _ => rfl
  · rename_i datagram sock reply held
    cases taken
    exact .inserted _ datagram sock reply held rfl rfl
  · cases taken
    exact .aside rfl rfl rfl fun _ => rfl
  · split at taken
    · cases taken
    · cases taken
      exact .aside rfl rfl rfl fun _ => rfl
  · cases taken

/-- Every step does one of these to the table. This is the one place where the
steps of `serve` are taken apart for the clock and the stamps; what follows rests
on `Times` alone. -/
theorem step_times {state next : State τ} {action : Action τ}
    (taken : step peer state action = some next) : Times state action next := by
  cases action with
  | elapse nanos | publish config =>
    cases taken
    exact .aside rfl rfl rfl fun _ => rfl
  | reap =>
    simp only [step, Option.ite_none_right_eq_some, Option.some.injEq] at taken
    obtain ⟨_, rfl⟩ := taken
    exact .reaped _ rfl rfl
  | clear =>
    simp only [step, Option.ite_none_right_eq_some, Option.some.injEq] at taken
    obtain ⟨_, rfl⟩ := taken
    exact .cleared _ rfl rfl
  | lose | stopPump | stopReaper | abortPumps =>
    simp only [step, Option.ite_none_right_eq_some, Option.some.injEq] at taken
    obtain ⟨_, rfl⟩ := taken
    exact .aside rfl rfl rfl fun _ => rfl
  | receive handle payload | recvError handle =>
    obtain ⟨reply, present, stepped⟩ := reply_taken rfl taken
    cases stage : reply.stage <;>
      simp only [replyStep, stage, reduceCtorEq, Option.some.injEq] at stepped
    subst stepped
    exact .aside rfl rfl rfl fun _ => rfl
  | stopReply handle =>
    obtain ⟨reply, present, stepped⟩ := reply_taken rfl taken
    cases stage : reply.stage <;> simp only [replyStep, stage, reduceCtorEq,
      Option.ite_none_right_eq_some, Option.some.injEq] at stepped
    obtain ⟨_, rfl⟩ := stepped
    exact .aside rfl rfl rfl fun _ => rfl
  | answer handle accepted =>
    obtain ⟨reply, present, stepped⟩ := reply_taken rfl taken
    cases stage : reply.stage <;>
      simp only [replyStep, stage, reduceCtorEq, Option.some.injEq] at stepped
    subst stepped
    refine .traffic _ _ reply.id rfl rfl rfl fun other => ?_
    simp only [State.carries, present]
  | _ => exact pumpStep_times taken

/-- What traffic leaves under an id: the session that has it is stamped with the
present, and the sessions under all other ids are as they were. -/
theorem Sessions.lookup_traffic (sessions : Sessions) (id other : UInt32) (now : Instant) :
    (sessions.touched id now).lookup other = (sessions.lookup other).map (fun session =>
      if other = id then { session with last := now } else session) := by
  cases found : sessions.lookup id with
  | none =>
    simp only [touched, touch, found]
    by_cases same : other = id
    · subst same
      rw [found]
      rfl
    · simp [same]
  | some session =>
    simp only [touched, touch, found, Table.lookup_insert_cases]
    by_cases same : other = id
    · subst same
      simp [found]
    · simp [same]

/-- A session by its id, its socket and its port, which it keeps as long as it
lives. -/
abbrev Named := UInt32 × Nat × UInt16

/-- The stamp of the session with this id, this socket and this port. -/
def stamp (state : State τ) (key : Named) : Option Instant :=
  ((state.sessions.lookup key.1).filter
    (fun session => session.sock = key.2.1 ∧ session.port = key.2.2)).map Session.last

/-- A session is named by its id, its socket and its port, and its stamp is the
moment of `last`. So a session that is opened later under the same id is another
one. -/
theorem stamp_some_iff (state : State τ) (id : UInt32) (sock : Nat) (port : UInt16)
    (moment : Instant) :
    stamp state (id, sock, port) = some moment ↔
      ∃ session, state.sessions.lookup id = some session ∧ session.sock = sock ∧
        session.port = port ∧ session.last = moment := by
  simp [stamp, Option.filter_eq_some_iff, and_assoc]

/-- The stamp of the session that is under the id. A session is named by its id
with its socket and its port, so that a new one under an old id is not taken for
the old one. -/
theorem stamp_of_lookup {state : State τ} {id : UInt32} {session : Session}
    (listed : state.sessions.lookup id = some session) :
    stamp state (id, session.sock, session.port) = some session.last :=
  (stamp_some_iff state id _ _ _).mpr ⟨session, listed, rfl, rfl, rfl⟩

/-- The table of one connection, as one whose entries expire. -/
def aging : Aging (State τ) (Action τ) Named :=
  { now := State.now, stamp, uses := fun key state action => state.carries action key.1,
    elapsed := Action.elapsed, sweeps := Action.sweeps, idle := udpIdle }

/-- The clock moves by what the step takes, and by nothing else: it never goes
back, which is what makes the age of a session meaningful. -/
theorem step_clock {state next : State τ} {action : Action τ}
    (taken : step peer state action = some next) : next.now = state.now + action.elapsed := by
  cases step_times taken with
  | still _ _ now | traffic _ _ _ now => exact now
  | inserted _ _ _ _ _ now | reaped _ now | revoked _ _ _ now | cleared _ now => exact now

/-- What a sweep or a pass leaves it leaves as it was, and neither carries
anything. -/
theorem stamped_retain {state next : State τ} {action : Action τ} {keep : UInt32 → Session → Bool}
    (sessions : next.sessions = state.sessions.retain keep)
    (silent : ∀ id, state.carries action id = false) {key : Named} {moment : Instant}
    (present : stamp next key = some moment) :
    if state.carries action key.1 then moment = state.now else stamp state key = some moment := by
  obtain ⟨id, sock, port⟩ := key
  obtain ⟨session, listed, rfl, rfl, rfl⟩ := (stamp_some_iff next id sock port moment).mp present
  rw [sessions, Table.lookup_retain, Option.filter_eq_some_iff] at listed
  rw [silent]
  exact stamp_of_lookup listed.1

/-- The stamp of a session is that of its traffic, and its traffic takes no
time. -/
theorem stamping (peer : EndpointId) : (aging (τ := τ)).Stamping (step peer) where
  clock := fun _ _ _ taken => step_clock taken
  timeless := fun key state action carried => carries_timeless state action key.1 carried
  stamped := by
    intro state action next taken ⟨id, sock, port⟩ moment present
    obtain ⟨session, listed, rfl, rfl, rfl⟩ := (stamp_some_iff next id sock port moment).mp present
    change if state.carries action id then session.last = state.now else
      stamp state (id, session.sock, session.port) = some session.last
    cases step_times taken with
    | still _ _ _ sessions _ silent =>
      rw [sessions] at listed
      cases carried : state.carries action id with
      | true =>
        rw [silent id carried] at listed
        cases listed
      | false => exact stamp_of_lookup listed
    | traffic _ _ other _ sessions _ own =>
      rw [own]
      rw [sessions, Sessions.lookup_traffic, Option.map_eq_some_iff] at listed
      obtain ⟨known, found, isSession⟩ := listed
      by_cases same : id = other
      · rw [if_pos same] at isSession
        rw [if_pos (beq_iff_eq.mpr same.symm), ← isSession]
      · rw [if_neg same] at isSession
        rw [if_neg (fun equal => same (beq_iff_eq.mp equal).symm)]
        exact stamp_of_lookup (isSession ▸ found)
    | inserted _ datagram _ _ held _ sessions =>
      have own : state.carries .insert id = (datagram.id == id) := by
        simp only [State.carries, held]
      rw [own]
      rw [sessions, Table.lookup_insert_cases] at listed
      by_cases same : id = datagram.id
      · rw [if_pos same] at listed
        cases listed
        rw [if_pos (beq_iff_eq.mpr same.symm)]
      · rw [if_neg same] at listed
        rw [if_neg (fun equal => same (beq_iff_eq.mp equal).symm)]
        exact stamp_of_lookup listed
    | reaped _ _ sessions | revoked _ _ _ _ sessions | cleared _ _ sessions =>
      exact stamped_retain sessions (fun _ => rfl) present

/-- Every sweep removes what is old. Here the library's rule about stamped entries
meets the code: the sweeper of a connection is the only one that removes sessions
by their age. -/
theorem swept (peer : EndpointId) : (aging (τ := τ)).Swept (step peer) where
  stamping := stamping peer
  positive := Nat.mul_pos (by decide) (by decide)
  swept := by
    intro state action next taken sweeps ⟨id, sock, port⟩ moment present
    obtain ⟨session, listed, _, _, sameLast⟩ := (stamp_some_iff next id sock port moment).mp present
    cases step_times taken with
    | still _ _ _ _ never | traffic _ _ _ _ _ never =>
      rw [show action.sweeps = true from sweeps] at never
      cases never
    | inserted | revoked | cleared => cases sweeps
    | reaped _ now sessions =>
      rw [sessions, Table.lookup_retain, Option.filter_eq_some_iff] at listed
      have young : state.now - session.last < udpIdle := of_decide_eq_true listed.2
      rw [sameLast, ← now] at young
      exact young

/-- The pump is about to open a session for this id. -/
def Pump.claims (pump : Pump τ) (id : UInt32) : Prop :=
  match pump with
  | .opening datagram | .spawned datagram _ _ => datagram.id = id
  | _ => False

/-- While the pump opens a session the table has none under its id, as nothing
else inserts; and no traffic is in the future. -/
structure Timely (state : State τ) : Prop where
  unclaimed : ∀ id, state.pump.claims id → state.sessions.lookup id = none
  past : ∀ id session, state.sessions.lookup id = some session → session.last ≤ state.now

/-- In the beginning the table is empty, so no stamp is ahead of the clock and no
session is older than its traffic. -/
theorem timely_initial (channel : Watch.Channel Config) (now : Instant) :
    Timely (initial channel now : State τ) := by
  constructor
  · intro id claims
    exact claims.elim
  · simp [initial]

/-- While the pump opens a session for an id, none is in the table under this id:
the pump is the only one to insert, and it has looked. -/
theorem Timely.unclaimed_step {state next : State τ} {action : Action τ} (timely : Timely state)
    (effect : Effect peer state action next) (id : UInt32) (claims : next.pump.claims id) :
    next.sessions.lookup id = none := by
  cases effect with
  | quiet _ _ sessions _ _ _ _ pump =>
    rw [sessions]
    rcases pump with same | idle
    · exact timely.unclaimed id (same ▸ claims)
    · cases here : next.pump <;> rw [here] at claims idle <;>
        first | exact claims.elim | exact idle.elim
  | read | admitted | found | inserted | delivered => exact claims.elim
  | missing datagram held absent => exact claims ▸ absent
  | opened datagram held =>
    refine timely.unclaimed id ?_
    rw [held]
    exact claims
  | dropped _ keep pump _ settled =>
    simp only [State.retain, Table.lookup_retain]
    rcases settled with rfl | idle
    · rw [timely.unclaimed id claims]
      rfl
    · cases pump <;> first | exact claims.elim | exact idle.elim
  | received | failed | ended => exact timely.unclaimed id claims
  | answered handle reply payload accepted present held =>
    have before := timely.unclaimed id claims
    simp only [Sessions.lookup_traffic, before, Option.map_none]

/-- No stamp is ahead of the clock: a session is stamped with the present, and the
clock only moves on. -/
theorem Timely.past_step {state next : State τ} {action : Action τ} (timely : Timely state)
    (taken : step peer state action = some next) (id : UInt32) (session : Session)
    (listed : next.sessions.lookup id = some session) : session.last ≤ next.now := by
  rcases (stamping peer).before_or_now taken (stamp_of_lookup listed) with before | isNow
  · obtain ⟨known, found, _, _, same⟩ := (stamp_some_iff state id _ _ _).mp before
    rw [← same, step_clock taken]
    exact Nat.le_add_right_of_le (timely.past id known found)
  · exact Nat.le_of_eq isNow

/-- The step lemma of the two together: the stamps stay at or before the clock,
and each of them is the time of the last traffic under its id. -/
theorem Timely.step {state next : State τ} {action : Action τ} (timely : Timely state)
    (taken : Serve.step peer state action = some next) : Timely next :=
  ⟨timely.unclaimed_step (step_effect peer state next action taken), timely.past_step taken⟩

/-- Sweeps and traffic remove no session within its time, and a pass that grants
its port or the traffic of others do not either. -/
theorem spared (peer : EndpointId) :
    (aging (τ := τ)).Spared (step peer) Timely
      (fun key state action => state.releases action key.2.2 = false) where
  stamping := stamping peer
  kept := fun _ _ _ timely taken => timely.step taken
  spared := by
    intro state action next timely taken ⟨id, sock, port⟩ moment spares present recent
    obtain ⟨session, listed, rfl, rfl, rfl⟩ := (stamp_some_iff state id sock port moment).mp present
    have after (later : Session) (found : next.sessions.lookup id = some later)
        (sameSock : later.sock = session.sock) (samePort : later.port = session.port) :
        (aging.stamp next (id, session.sock, session.port)).isSome = true :=
      Option.isSome_iff_exists.mpr
        ⟨later.last, (stamp_some_iff next id _ _ _).mpr ⟨later, found, sameSock, samePort, rfl⟩⟩
    cases step_times taken with
    | still _ _ _ sessions => exact after session (sessions ▸ listed) rfl rfl
    | traffic _ _ other _ sessions =>
      have found : next.sessions.lookup id =
          some (if id = other then { session with last := state.now } else session) := by
        rw [sessions, Sessions.lookup_traffic, listed]
        rfl
      split at found <;> exact after _ found rfl rfl
    | inserted _ datagram _ _ held _ sessions =>
      have absent := timely.unclaimed datagram.id (held ▸ rfl)
      refine after session ?_ rfl rfl
      rw [sessions, Table.lookup_insert_cases, if_neg, listed]
      rintro rfl
      rw [absent] at listed
      cases listed
    | reaped _ now sessions =>
      refine after session ?_ rfl rfl
      rw [sessions, Table.lookup_retain, listed, Option.filter_eq_some_iff]
      refine ⟨rfl, decide_eq_true ?_⟩
      rw [← now]
      exact recent
    | revoked _ granted held _ sessions =>
      refine after session ?_ rfl rfl
      rw [sessions, Table.lookup_retain, listed, Option.filter_eq_some_iff]
      refine ⟨rfl, ?_⟩
      change granted.contains session.port = true
      simpa only [State.releases, held, Bool.not_eq_false'] using spares
    | cleared => cases spares

/-- The moment of the last traffic under an id in a run, where this was the last
one before. -/
def lastTraffic (peer : EndpointId) (id : UInt32) (before : Option Instant) (state : State τ)
    (actions : List (Action τ)) : Option Instant :=
  lastUse (step peer) State.now (fun state action => state.carries action id) before state actions

/-- There is always traffic under an id: in every state of a run the last one is
less than `udpIdle` ago. -/
def hasTraffic (peer : EndpointId) (id : UInt32) (before : Instant) (state : State τ)
    (actions : List (Action τ)) : Bool :=
  inUse (step peer) State.now (fun state action => state.carries action id) udpIdle before state
    actions

/-- A session of the serving side lives as long as its traffic says. In every run
a session is stamped with the moment of the last traffic under its id, and in
every run in which the reaper is on time none is held a tick past `udpIdle` after
that. And in every run, on time or not, a session stays with its socket and its
port for as long as it never goes without traffic for `udpIdle`, every pass over
the table still grants its port, and the connection does not end. -/
theorem sessions_live_by_traffic (peer : EndpointId) (channel : Watch.Channel Config)
    (now : Instant) (earlier actions : List (Action τ)) (middle last : State τ)
    (before : run (step peer) (initial channel now) earlier = some middle)
    (reached : run (step peer) middle actions = some last) :
    (∀ id session, last.sessions.lookup id = some session →
      lastTraffic peer id none (initial channel now) (earlier ++ actions) = some session.last ∧
      (aging.onTime udpReapInterval 0 (earlier ++ actions) = true →
        last.now - session.last < udpIdle + udpReapInterval)) ∧
    ∀ id session moment, middle.sessions.lookup id = some session →
      lastTraffic peer id none (initial channel now) earlier = some moment →
      hasTraffic peer id moment middle actions = true →
      Meets (step peer) (fun state action => state.releases action session.port = false) middle
        actions →
        ∃ after, last.sessions.lookup id = some after ∧ after.sock = session.sock ∧
          after.port = session.port := by
  have whole : run (step peer) (initial channel now) (earlier ++ actions) = some last :=
    (run_append (step peer) _ last earlier actions).mpr ⟨middle, before, reached⟩
  constructor
  · intro id session listed
    constructor
    · exact (stamping peer).stamp_of_run (id, session.sock, session.port) none _ last _
        (fun moment present => by cases present) whole session.last (stamp_of_lookup listed)
    · intro onTime
      exact (swept peer).bounded udpReapInterval 0 _ last _ (fun _ moment present => by cases present)
        (Nat.zero_le _) onTime whole (id, session.sock, session.port) session.last
        (stamp_of_lookup listed)
  · intro id session moment listed isLast busy granting
    have timely : Timely middle := invariant_of_run (step peer) Timely
      (fun _ _ _ timely taken => timely.step taken) _ middle earlier (timely_initial channel now)
      before
    have stamped := (stamping peer).stamp_of_run (id, session.sock, session.port) none _ middle
      earlier (fun moment present => by cases present) before session.last (stamp_of_lookup listed)
    obtain rfl : session.last = moment := Option.some.inj (stamped.symm.trans isLast)
    have stays := (spared peer).stays (id, session.sock, session.port) middle last actions timely
      granting reached session.last (stamp_of_lookup listed) busy
    obtain ⟨latest, isLatest⟩ := Option.isSome_iff_exists.mp stays
    obtain ⟨after, found, sameSock, samePort, _⟩ := (stamp_some_iff last id _ _ latest).mp isLatest
    exact ⟨after, found, sameSock, samePort⟩

/-- A session is swept twice, between which its service replies and an edit makes
the pump pass over the table, which still grants the port of the session. -/
def sweptTwice : List (Action Unit) :=
  [.elapse udpReapInterval, .reap, .receive 0 [70], .answer 0 true, .publish (offering true),
    .notice, .revoke, .elapse udpReapInterval, .reap]

/-- It lives through both sweeps with the socket and the port it had, and its
stamp is the moment of the reply. -/
theorem swept_session_lives :
    ∃ middle last after, run (step laptop) (initial (Watch.Channel.new (offering true)) 0)
        (.subscribe :: openSession 1 53 [7]) = some middle ∧
      run (step laptop) middle sweptTwice = some last ∧
      last.sessions.lookup 1 = some after ∧ after.sock = 0 ∧ after.port = 53 ∧
      after.last = udpReapInterval ∧ last.now - after.last < udpIdle + udpReapInterval := by
  have lives := sessions_live_by_traffic laptop (Watch.Channel.new (offering true)) 0
    (.subscribe :: openSession 1 53 [7]) sweptTwice _ _ rfl rfl
  obtain ⟨after, found, sameSock, samePort⟩ :=
    lives.2 1 { sock := 0, reply := 0, last := 0, port := 53 } 0 (by decide +kernel) (by decide +kernel)
      (by decide) (by decide)
  obtain ⟨isLast, inTime⟩ := lives.1 1 after found
  have sameLast : after.last = udpReapInterval := by
    refine Option.some.inj (isLast.symm.trans ?_)
    rfl
  exact ⟨_, _, after, rfl, rfl, found, sameSock, samePort, sameLast, inTime (by decide)⟩

end Rtun.Serve
