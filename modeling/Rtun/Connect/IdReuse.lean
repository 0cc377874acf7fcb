import Rtun.Connect.SessionTable

/-!
# Ids at the limit of the counter

The counter of the session table is never compared with the ids of live sessions. A run is
safe as long as no session outlives 2^32 openings, and, where overflow is checked, as long
as fewer than 2^32 sessions are opened at all. One long-lived source among many short-lived
ones breaks both.
-/

namespace Rtun.Connect.SessionTable

open Run

/-- A session for a new key is opened, and under an id that no live session
has. -/
def OpensSafely (checks : Bool) (state : State) : Action → Prop
  | .idFor src port sock now =>
      state.sessions.byKey.lookup (src, port) = none →
        ∃ id after, state.sessions.idFor checks src port sock now = some (id, after) ∧
          state.sessions.byId.lookup id = none
  | _ => True

/-- A session for a new key comes in time for the counter: the session that was
opened 2^32 openings before is no longer alive, and where overflow is checked
there is none. -/
def InTime (checks : Bool) (state : State) : Action → Prop
  | .idFor src port _ _ =>
      state.sessions.byKey.lookup (src, port) = none →
        (checks = true → state.opened.length + 1 < UInt32.size) ∧
          ∀ key id, UInt32.size ≤ state.opened.length →
            state.opened[state.opened.length - UInt32.size]? = some (key, id) →
              state.sessions.byKey.lookup key ≠ some id
  | _ => True

/-- The addition overflows when as many sessions have been opened as the counter
can count. -/
theorem Kept.counts_iff {checks : Bool} {state : State} (kept : Kept checks state) :
    ¬ (checks = true ∧ state.sessions.nextId = 0xffffffff) ↔
      (checks = true → state.opened.length + 1 < UInt32.size) := by
  cases checks with
  | false => simp
  | true =>
    have few := kept.bounded rfl
    have counter := kept.counter
    rw [Nat.mod_eq_of_lt few] at counter
    rw [← UInt32.toNat_inj, counter]
    simp only [true_and, forall_const]
    change ¬ state.opened.length = 4294967295 ↔ _
    rw [UInt32.size] at *
    omega

/-- The next id is free when no session has outlived 2^32 openings. -/
theorem Kept.next_free_iff {checks : Bool} {state : State} (kept : Kept checks state) :
    state.sessions.byId.lookup (state.sessions.nextId + 1) = none ↔
      ∀ key id, UInt32.size ≤ state.opened.length →
        state.opened[state.opened.length - UInt32.size]? = some (key, id) →
          state.sessions.byKey.lookup key ≠ some id := by
  rw [← Option.not_isSome_iff_eq_none, kept.next_live_iff]
  constructor
  · intro noneLeft key id long opened live
    exact noneLeft ⟨long, key, id, opened, live⟩
  · rintro outlived ⟨long, key, id, opened, live⟩
    exact outlived key id long opened live

/-- Opening for a new key, by the counter and the next id. -/
theorem opensSafely_iff {checks : Bool} {state : State} {src : SocketAddr} {port : UInt16}
    {sock : Nat} {now : Instant} (new : state.sessions.byKey.lookup (src, port) = none) :
    OpensSafely checks state (.idFor src port sock now) ↔
      ¬ (checks = true ∧ state.sessions.nextId = 0xffffffff) ∧
        state.sessions.byId.lookup (state.sessions.nextId + 1) = none := by
  have minted := idFor_new checks new sock now
  by_cases limit : checks = true ∧ state.sessions.nextId = 0xffffffff
  · rw [if_pos limit, Option.map_eq_none_iff] at minted
    refine iff_of_false (fun safely => ?_) (fun both => both.1 limit)
    obtain ⟨id, after, given, _⟩ := safely new
    rw [minted] at given
    cases given
  · rw [if_neg limit, Option.map_eq_some_iff] at minted
    obtain ⟨⟨id, after⟩, given, rfl⟩ := minted
    simp [OpensSafely, new, given, limit]

/-- On a table that has kept its invariant, a session is opened safely exactly in
time. -/
theorem Kept.opensSafely_iff_inTime {checks : Bool} {state : State} (kept : Kept checks state)
    (action : Action) : OpensSafely checks state action ↔ InTime checks state action := by
  cases action with
  | idFor src port sock now =>
    cases live : state.sessions.byKey.lookup (src, port) with
    | none =>
      rw [opensSafely_iff live, kept.counts_iff, kept.next_free_iff]
      simp [InTime, live]
    | some id => simp [OpensSafely, InTime, live]
  | replyRoute | reap => exact Iff.rfl

/-- Every opening of a run is safe exactly if each comes in time for the
counter. -/
theorem opens_safely_iff_in_time (checks : Bool) (actions : List Action) :
    Meets (step checks) (OpensSafely checks) initial actions ↔
      Meets (step checks) (InTime checks) initial actions := by
  refine meets_iff_of_invariant (step checks) (Kept checks) (OpensSafely checks) (InTime checks)
    (fun state action kept => kept.opensSafely_iff_inTime action) ?_
    initial actions (kept_initial checks)
  intro state action next kept safely taken
  refine kept.step ?_ taken
  rintro src port sock now rfl new counts
  exact ((opensSafely_iff new).mp safely).2

/-- A tunnel that stays alive. -/
def tunnel : SocketAddr := ⟨0x7f000001, 51820⟩

/-- A client whose sessions are short. -/
def client : SocketAddr := ⟨0x7f000001, 40000⟩

/-- The tunnel opens its session, and from then on every minute the client opens
one that is reaped. -/
def traffic : Nat → List Action
  | 0 => [.idFor tunnel 51820 0 0]
  | count + 1 => traffic count ++
      [.idFor client 53 0 (count * udpIdle), .idFor tunnel 51820 0 ((count + 1) * udpIdle),
        .reap ((count + 1) * udpIdle)]

/-- After so many sessions of the client, the tunnel still has the first id. -/
structure Held (checks : Bool) (count : Nat) (state : State) : Prop where
  kept : Kept checks state
  openings : state.opened.length = count + 1
  route : state.sessions.byKey.lookup (tunnel, 51820) = some 1
  session : state.sessions.byId.lookup 1 = some ⟨tunnel, 0, count * udpIdle⟩
  quiet : state.sessions.byKey.lookup (client, 53) = none

/-- One more session of the client, as long as the counter has not come round. -/
theorem Held.cycle {checks : Bool} {count : Nat} {state : State} (held : Held checks count state)
    (before : count + 2 ≤ UInt32.size) (counts : checks = true → count + 2 < UInt32.size) :
    ∃ next, run (step checks) state
        [.idFor client 53 0 (count * udpIdle), .idFor tunnel 51820 0 ((count + 1) * udpIdle),
          .reap ((count + 1) * udpIdle)] = some next ∧ Held checks (count + 1) next := by
  have limit : ¬ (checks = true ∧ state.sessions.nextId = 0xffffffff) :=
    held.kept.counts_iff.mpr (fun isChecked => by rw [held.openings]; exact counts isChecked)
  have free : state.sessions.byId.lookup (state.sessions.nextId + 1) = none := by
    apply held.kept.next_free_iff.mpr
    intro key id long
    rw [held.openings] at long
    omega
  have notNext : 1 ≠ state.sessions.nextId + 1 := by
    rintro isNext
    rw [← isNext, held.session] at free
    cases free
  have opened := held.kept.withOpened free held.quiet limit 0 (count * udpIdle)
  have route : (state.withOpened (client, 53) 0 (count * udpIdle)).sessions.byKey.lookup
      (tunnel, 51820) = some 1 := by
    rw [State.withOpened, Table.lookup_insert_cases, if_neg (by decide)]
    exact held.route
  have session : (state.withOpened (client, 53) 0 (count * udpIdle)).sessions.byId.lookup 1 =
      some ⟨tunnel, 0, count * udpIdle⟩ := by
    rw [State.withOpened, Table.lookup_insert_cases, if_neg notNext]
    exact held.session
  have refreshed := opened.refreshed session ((count + 1) * udpIdle)
  obtain ⟨_, keys⟩ := refreshed.keyed.reap_spec ((count + 1) * udpIdle)
  have again : (((state.withOpened (client, 53) 0 (count * udpIdle)).refreshed 1
      ⟨tunnel, 0, count * udpIdle⟩ ((count + 1) * udpIdle)).sessions.reap
        ((count + 1) * udpIdle)).byId.lookup 1 = some ⟨tunnel, 0, (count + 1) * udpIdle⟩ := by
    rw [reap_byId, State.refreshed, Table.lookup_insert_cases, if_pos rfl]
    simp [Option.filter, udpIdle, nanosPerSec]
  refine ⟨_, ?_, refreshed.reaped ((count + 1) * udpIdle), ?_, ?_, again, ?_⟩
  · refine (run_cons_some ..).mpr ⟨_, step_new held.quiet limit 0 _, ?_⟩
    refine (run_cons_some ..).mpr ⟨_, step_live route session 0 _, ?_⟩
    exact (run_cons_some ..).mpr ⟨_, rfl, rfl⟩
  · simp [State.refreshed, State.withOpened, held.openings]
  · exact (keys _ 1).mpr ⟨route, by rw [again]; rfl⟩
  · apply Option.eq_none_iff_forall_ne_some.mpr
    intro id live
    obtain ⟨before, present⟩ := (keys _ id).mp live
    rw [State.refreshed, State.withOpened, Table.lookup_insert_cases, if_pos rfl] at before
    cases before
    rw [reap_byId, State.refreshed, Table.lookup_insert_cases, if_neg (Ne.symm notNext),
      State.withOpened, Table.lookup_insert_cases, if_pos rfl] at present
    simp [Option.filter, Nat.succ_mul] at present

/-- By induction on the number of minutes: each round opens one session for the
client, touches the tunnel, and reaps the client alone. -/
theorem traffic_held (checks : Bool) (count : Nat) (before : count + 1 ≤ UInt32.size)
    (counts : checks = true → count + 1 < UInt32.size) :
    ∃ state, run (step checks) initial (traffic count) = some state ∧ Held checks count state := by
  induction count with
  | zero =>
    have limit : ¬ (checks = true ∧ initial.sessions.nextId = 0xffffffff) := by
      rintro ⟨_, last⟩
      cases last
    refine ⟨initial.withOpened (tunnel, 51820) 0 0, ?_, ?_, rfl, rfl, rfl, rfl⟩
    · exact (run_cons_some ..).mpr ⟨_, step_new rfl limit 0 0, rfl⟩
    · exact (kept_initial checks).withOpened rfl rfl limit 0 0
  | succ count inductionHypothesis =>
    obtain ⟨state, reached, held⟩ := inductionHypothesis (by omega) (fun _ => by omega)
    obtain ⟨next, taken, held⟩ := held.cycle before counts
    exact ⟨next, (run_append ..).mpr ⟨state, reached, taken⟩, held⟩

/-- With the counter at its limit the next session of the client is not opened
safely. -/
theorem Held.notSafe {checks : Bool} {count : Nat} {state : State} (held : Held checks count state)
    (limit : count + (if checks then 2 else 1) = UInt32.size) (now : Instant) :
    ¬ OpensSafely checks state (.idFor client 53 0 now) := by
  rw [opensSafely_iff held.quiet]
  rintro ⟨counts, free⟩
  cases checks with
  | true =>
    have few := held.kept.counts_iff.mp counts rfl
    rw [held.openings] at few
    simp only [if_true] at limit
    omega
  | false =>
    simp only [Bool.false_eq_true, if_false] at limit
    have isFirst : state.sessions.nextId + 1 = 1 := by
      apply UInt32.toNat_inj.mp
      rw [held.kept.next_number, held.openings, limit]
      rfl
    rw [isFirst, held.session] at free
    cases free

/-- After 2^32 sessions the client's next session gets the id of the tunnel, which
is alive; where overflow is checked, its 2^32nd opening panics. -/
theorem long_lived_tunnel_unsafe :
    ¬ Meets (step false) (OpensSafely false) initial
        (traffic 4294967295 ++ [.idFor client 53 0 (4294967295 * udpIdle)]) ∧
      ¬ Meets (step true) (OpensSafely true) initial
        (traffic 4294967294 ++ [.idFor client 53 0 (4294967294 * udpIdle)]) := by
  constructor
  · obtain ⟨state, reached, held⟩ := traffic_held false 4294967295 (by decide) (by decide)
    rw [meets_append _ _ _ _ _ _ reached]
    rintro ⟨_, safely, _⟩
    exact held.notSafe rfl _ safely
  · obtain ⟨state, reached, held⟩ := traffic_held true 4294967294 (by decide) (by decide)
    rw [meets_append _ _ _ _ _ _ reached]
    rintro ⟨_, safely, _⟩
    exact held.notSafe rfl _ safely

end Rtun.Connect.SessionTable
