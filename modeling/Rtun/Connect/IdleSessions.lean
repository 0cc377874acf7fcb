import Rtun.Connect.Edits
import Rtun.Connect.SessionTable
import Rtun.Connect.Soundness
import Rtun.Expiry

/-!
# How long a session of the connecting side lives

Each generation of forwarders sweeps its own table. A datagram of the source and a reply
that is routed both count as traffic. Without traffic a session is released by the next
sweep after the idle time, and while there is traffic the source keeps its id, and with it
the socket that it has on the serving side.
-/

namespace Rtun.Connect

open Expiry Framing Run

/-- The time that passes in a step. -/
def Action.elapsed : Action → Nat
  | .elapse nanos => nanos
  | _ => 0

/-- The step is a tick of the reaper of this generation. -/
def Action.sweeps (index : Nat) : Action → Bool
  | .reap other => other == index
  | _ => false

/-- The id that a forwarder asks the table for with the datagram that it holds. -/
def Generation.sends (checks : Bool) (generation : Generation) (handle : Nat) (now : Instant) :
    Option UInt32 :=
  match generation.forwarders[handle]? with
  | none => none
  | some forwarder =>
      match forwarder.stage with
      | .received origin _ =>
          (generation.sessions.idFor checks origin.src forwarder.map.remotePort forwarder.sock
            now).map Prod.fst
      | _ => none

/-- The id that `pump_udp_in` looks up with the reply that it holds. -/
def Generation.routes (generation : Generation) : Option UInt32 :=
  match generation.inbound with
  | .got bytes _ => (decodeDatagram bytes).map Prod.fst
  | _ => none

/-- The id under which a step carries a datagram of a generation, to the serving
side or back. A poisoned table carries nothing. -/
def Generation.carried (checks : Bool) (index : Nat) (now : Instant) (generation : Generation)
    (action : Action) : Option UInt32 :=
  if generation.poisoned then none
  else
    match action with
    | .forward own handle _ => if own = index then generation.sends checks handle now else none
    | .route own => if own = index then generation.routes else none
    | _ => none

/-- The step carries a datagram under this id of this generation. -/
def State.carries (checks : Bool) (index : Nat) (id : UInt32) (state : State) (action : Action) :
    Bool :=
  match state.generations[index]? with
  | none => false
  | some generation => generation.carried checks index state.now action == some id

/-- Only `forward` and `route` of the generation itself carry anything. All other
actions leave the sessions of the generation without traffic, and may only age or
sweep them. -/
theorem carried_none {checks : Bool} {index : Nat} {now : Instant} {generation : Generation}
    {action : Action} (noForward : ∀ handle accepted, action ≠ .forward index handle accepted)
    (noRoute : action ≠ .route index) : generation.carried checks index now action = none := by
  unfold Generation.carried
  split
  · rfl
  · split
    · refine if_neg ?_
      rintro rfl
      exact noForward _ _ rfl
    · refine if_neg ?_
      rintro rfl
      exact noRoute rfl
    · rfl

/-- A use of a session takes no time: the stamp that the step leaves is the time
at which it begins. Only waiting moves the clock, and waiting carries nothing. -/
theorem carries_timeless (checks : Bool) (index : Nat) (id : UInt32) (state : State)
    (action : Action) (carries : state.carries checks index id action = true) :
    action.elapsed = 0 := by
  cases action with
  | elapse nanos =>
    unfold State.carries at carries
    split at carries
    · cases carries
    · rename_i generation _
      have nothing : generation.carried checks index state.now (.elapse nanos) = none :=
        carried_none (by simp) (by simp)
      rw [nothing] at carries
      cases carries
  | _ => rfl

/-- What a step does to a table that carries a datagram under this id, or none:
one session is used, one is opened for a new key, or the table is left alone or
swept. -/
inductive TableMove (now : Instant) (carried : Option UInt32) (before after : Sessions) : Prop where
  | still (same : after = before) (silent : ∀ id, carried = some id → before.byId.lookup id = none)
  | used (id : UInt32) (session : Session) (present : before.byId.lookup id = some session)
      (own : carried = some id)
      (same : after =
        { before with byId := before.byId.insert id { session with last := now } })
  | opened (key : Key) (sock : Nat) (id : UInt32) (new : before.byKey.lookup key = none)
      (next : id = before.nextId + 1) (own : carried = some id)
      (same : after =
        { byKey := before.byKey.insert key id,
          byId := before.byId.insert id { src := key.1, sock, last := now }, nextId := id })
  | reaped (silent : carried = none) (same : after = before.reap now)

/-- `id_for` uses the session under the id that it gives, or opens it. In both
cases the session is stamped with the present under the id and under the key
alike. -/
theorem move_of_idFor {checks : Bool} {before after : Sessions} {src : SocketAddr} {port : UInt16}
    {sock : Nat} {now : Instant} {id : UInt32}
    (minted : before.idFor checks src port sock now = some (id, after)) :
    TableMove now (some id) before after := by
  unfold Sessions.idFor at minted
  split at minted
  · split at minted
    · cases minted
    · rename_i session present
      obtain ⟨rfl, isAfter⟩ := Prod.mk.inj (Option.some.inj minted)
      exact .used _ session present rfl isAfter.symm
  · rename_i new
    split at minted
    · cases minted
    · obtain ⟨rfl, isAfter⟩ := Prod.mk.inj (Option.some.inj minted)
      exact .opened (src, port) sock _ new rfl rfl isAfter.symm

/-- `reply_route` uses the session that it finds, and stamps it: a reply is
traffic as much as a datagram of the client is. -/
theorem move_of_replyRoute {before after : Sessions} {id : UInt32} {now : Instant}
    {route : Nat × SocketAddr} (routed : before.replyRoute id now = some (route, after)) :
    TableMove now (some id) before after := by
  unfold Sessions.replyRoute at routed
  split at routed
  · cases routed
  · rename_i session present
    obtain ⟨_, isAfter⟩ := Prod.mk.inj (Option.some.inj routed)
    exact .used id session present rfl isAfter.symm

/-- What a generation is after a step: its table has made a move, a poisoned one
stays so and only a counter that is checked for overflow poisons one, and a tick
of its reaper has swept it unless it is poisoned. -/
structure Later (checks : Bool) (state : State) (index : Nat) (action : Action)
    (before after : Generation) : Prop where
  moved : TableMove state.now (before.carried checks index state.now action) before.sessions
    after.sessions
  poisoned : before.poisoned = true → after.poisoned = true
  healthy : checks = false → before.sessions.Keyed → before.poisoned = false →
    after.poisoned = false
  swept : action.sweeps index = true → before.poisoned = false →
    after.sessions = before.sessions.reap state.now

/-- A step that has nothing to do with a table leaves it. It may still let time
pass; what it may not do is sweep the table, unless the sweep does not take place
for want of the lock. -/
theorem later_still {checks : Bool} {state : State} {index : Nat} {action : Action}
    {before after : Generation} (sessions : after.sessions = before.sessions)
    (poisoned : after.poisoned = before.poisoned)
    (sweeps : action.sweeps index = false ∨ before.poisoned = true)
    (silent : ∀ id, before.carried checks index state.now action = some id →
      before.sessions.byId.lookup id = none) :
    Later checks state index action before after where
  moved := .still sessions silent
  poisoned := poisoned.trans
  healthy := fun _ _ => poisoned.trans
  swept := by
    intro swept healthy
    rcases sweeps with never | isPoisoned
    · rw [never] at swept
      cases swept
    · rw [isPoisoned] at healthy
      cases healthy

/-- A step other than `forward` and `route` that leaves a table alone. The two are
the only ones that carry, so nothing needs to be said of what it carries. -/
theorem later_aside {checks : Bool} {state : State} {index : Nat} {action : Action}
    {before after : Generation} (sessions : after.sessions = before.sessions)
    (poisoned : after.poisoned = before.poisoned)
    (sweeps : action.sweeps index = false ∨ before.poisoned = true)
    (noForward : ∀ handle accepted, action ≠ .forward index handle accepted)
    (noRoute : action ≠ .route index) : Later checks state index action before after := by
  refine later_still sessions poisoned sweeps fun id carried => ?_
  rw [carried_none noForward noRoute] at carried
  cases carried

/-- What a healthy generation forwards it carries under the id that the table
gives. -/
theorem carried_forward {checks : Bool} {index handle : Nat} {now : Instant}
    {generation : Generation} {forwarder : Forwarder} {origin : Origin} {payload : Bytes}
    (listed : generation.forwarders[handle]? = some forwarder)
    (held : forwarder.stage = .received origin payload) (healthy : generation.poisoned = false)
    (accepted : Bool) :
    generation.carried checks index now (.forward index handle accepted) =
      (generation.sessions.idFor checks origin.src forwarder.map.remotePort forwarder.sock now).map
        Prod.fst := by
  simp only [Generation.carried, healthy, Bool.false_eq_true, if_false, if_true, Generation.sends,
    listed, held]

/-- What it routes it carries under the id that the datagram names. A datagram
that is too short to name one carries nothing and is dropped. -/
theorem carried_route {checks : Bool} {index via : Nat} {now : Instant} {generation : Generation}
    {bytes : Bytes} (got : generation.inbound = .got bytes via)
    (healthy : generation.poisoned = false) :
    generation.carried checks index now (.route index) = (decodeDatagram bytes).map Prod.fst := by
  simp only [Generation.carried, healthy, Bool.false_eq_true, if_false, if_true, Generation.routes,
    got]

/-- A poisoned table carries nothing: every task that would use it panics on the
lock, and neither a datagram nor a reply passes. -/
theorem carried_poisoned {checks : Bool} {index : Nat} {now : Instant} {generation : Generation}
    (poisoned : generation.poisoned = true) (action : Action) :
    generation.carried checks index now action = none :=
  if_pos poisoned

/-- A step of a forwarder leaves the clock, and puts its generation in place. The
table of the generation is touched by `id_for` only, with what the datagram has
brought. -/
theorem forwarderStep_later {checks : Bool} {state next : State} {action : Action}
    {index handle : Nat} {generation : Generation} {forwarder : Forwarder}
    (own : action.forwarder = some (index, handle))
    (listed : generation.forwarders[handle]? = some forwarder)
    (taken : forwarderStep checks state index generation handle forwarder action = some next) :
    next.now = state.now + action.elapsed ∧
      ∃ after, next.generations = state.generations.set index after ∧
        Later checks state index action generation after := by
  unfold forwarderStep at taken
  dsimp only at taken
  split at taken
  · cases taken
    exact ⟨rfl, _, rfl, later_aside rfl rfl (Or.inl rfl) (by simp) (by simp)⟩
  · cases taken
    exact ⟨rfl, _, rfl, later_aside rfl rfl (Or.inl rfl) (by simp) (by simp)⟩
  · split at taken
    · cases taken
      exact ⟨rfl, _, rfl, later_aside rfl rfl (Or.inl rfl) (by simp) (by simp)⟩
    · cases taken
  · rename_i origin payload held
    cases own
    split at taken
    · rename_i poisoned
      cases taken
      refine ⟨rfl, _, rfl, later_still rfl rfl (Or.inl rfl) fun id carried => ?_⟩
      rw [carried_poisoned poisoned] at carried
      cases carried
    · rename_i healthy
      have carries (accepted : Bool) : generation.carried checks index state.now _ = _ :=
        carried_forward listed held (Bool.eq_false_of_not_eq_true healthy) accepted
      split at taken
      · rename_i full
        cases taken
        refine ⟨rfl, _, rfl, .still rfl fun id carried => ?_, fun _ => rfl, fun unchecked keyed => ?_,
          fun swept => by cases swept⟩
        · rw [carries, full] at carried
          cases carried
        · cases unchecked.symm.trans ((keyed.idFor_none_iff _ _ _ _ _).mp full).1
      · rename_i minted
        cases taken
        refine ⟨rfl, _, rfl, ?_, id, fun _ _ => id, fun swept => by cases swept⟩
        rw [carries, minted]
        exact move_of_idFor minted
  · cases taken

/-- Routing a datagram touches the session of its id, if there is one. One that
cannot be decoded, one without a session and one that finds the table poisoned
leave the table as it is, and carry nothing. -/
theorem routeStep_later {checks : Bool} {state next : State} {index : Nat} {generation : Generation}
    (taken : generationStep state index generation (.route index) = some next) :
    next.now = state.now ∧
      ∃ after, next.generations = state.generations.set index after ∧
        Later checks state index (.route index) generation after := by
  cases got : generation.inbound with
  | got bytes via =>
    simp only [generationStep, got] at taken
    split at taken
    · rename_i short
      cases taken
      refine ⟨rfl, _, rfl, later_still rfl rfl (Or.inl rfl) fun id carried => ?_⟩
      cases healthy : generation.poisoned with
      | true =>
        rw [carried_poisoned healthy] at carried
        cases carried
      | false =>
        rw [carried_route got healthy, short] at carried
        cases carried
    · rename_i own port payload decoded
      split at taken
      · rename_i poisoned
        cases taken
        refine ⟨rfl, _, rfl, later_still rfl rfl (Or.inl rfl) fun id carried => ?_⟩
        rw [carried_poisoned poisoned] at carried
        cases carried
      · rename_i healthy
        have carries : generation.carried checks index state.now _ = _ :=
          carried_route got (Bool.eq_false_of_not_eq_true healthy)
        rw [decoded] at carries
        split at taken
        · rename_i unknown
          cases taken
          refine ⟨rfl, _, rfl, later_still rfl rfl (Or.inl rfl) fun id carried => ?_⟩
          obtain rfl : own = id := Option.some.inj (carries.symm.trans carried)
          cases found : generation.sessions.byId.lookup own with
          | none => rfl
          | some session => simp [Sessions.replyRoute, found] at unknown
        · rename_i routed
          cases taken
          refine ⟨rfl, _, rfl, ?_, id, fun _ _ => id, fun swept => by cases swept⟩
          rw [carries]
          exact move_of_replyRoute routed
  | _ => simp [generationStep, got] at taken

/-- So does a step of `pump_udp_in` and a tick of the reaper. The first touches
the session of the reply, and the second is the only one that removes any. -/
theorem generationStep_later {checks : Bool} {state next : State} {action : Action} {index : Nat}
    {generation : Generation} (own : action.generation = some index)
    (taken : generationStep state index generation action = some next) :
    next.now = state.now + action.elapsed ∧
      ∃ after, next.generations = state.generations.set index after ∧
        Later checks state index action generation after := by
  unfold generationStep at taken
  dsimp only at taken
  split at taken
  · cases taken
    exact ⟨rfl, _, rfl, later_aside rfl rfl (Or.inl rfl) (by simp) (by simp)⟩
  · split at taken
    · cases taken
      exact ⟨rfl, _, rfl, later_aside rfl rfl (Or.inl rfl) (by simp) (by simp)⟩
    · cases taken
  · split at taken
    · cases taken
      exact ⟨rfl, _, rfl, later_aside rfl rfl (Or.inl rfl) (by simp) (by simp)⟩
    · cases taken
  · rename_i got
    cases own
    exact routeStep_later (by simpa only [generationStep, got] using taken)
  · cases taken
    exact ⟨rfl, _, rfl, later_aside rfl rfl (Or.inl rfl) (by simp) (by simp)⟩
  · split at taken
    · cases taken
    · split at taken
      · rename_i poisoned
        cases taken
        exact ⟨rfl, _, rfl, later_aside rfl rfl (Or.inr poisoned) (by simp) (by simp)⟩
      · cases taken
        exact ⟨rfl, _, rfl, .reaped (carried_none (by simp) (by simp)) rfl, id, fun _ _ => id,
          fun _ _ => rfl⟩
  · split at taken
    · cases taken
      exact ⟨rfl, _, rfl, later_aside rfl rfl (Or.inl rfl) (by simp) (by simp)⟩
    · cases taken
  · cases taken

/-- The step is taken by a task of another generation, or by none. -/
def Action.apart (index : Nat) (action : Action) : Bool :=
  action.forwarder.all (fun owner => owner.1 != index) && action.generation.all (· != index)

/-- A generation that has no part in a step has the table that it had: the tables
of different generations are never shared, so the steps of one say nothing of
another. -/
theorem later_apart {checks : Bool} {state : State} {index : Nat} {action : Action}
    {before after : Generation} (apart : action.apart index = true)
    (sessions : after.sessions = before.sessions)
    (poisoned : after.poisoned = before.poisoned) :
    Later checks state index action before after := by
  refine later_aside sessions poisoned (Or.inl ?_) ?_ ?_
  · cases action <;> simp_all [Action.apart, Action.sweeps, Action.forwarder, Action.generation]
  · rintro handle accepted rfl
    simp [Action.apart, Action.forwarder] at apart
  · rintro rfl
    simp [Action.apart, Action.generation] at apart

/-- What a step does to the clock and to the generations. No generation ever goes
away, and to each of them one of the changes of `Later` is made. -/
theorem step_later {checks : Bool} {state next : State} {action : Action}
    (taken : step checks state action = some next) :
    next.now = state.now + action.elapsed ∧
      ∀ (index : Nat) (before : Generation), state.generations[index]? = some before →
        ∃ after, next.generations[index]? = some after ∧
          Later checks state index action before after := by
  have unchanged (generations : next.generations = state.generations)
      (apart : ∀ index, action.apart index = true) (index : Nat) (before : Generation)
      (present : state.generations[index]? = some before) :
      ∃ after, next.generations[index]? = some after ∧
        Later checks state index action before after :=
    ⟨before, generations ▸ present, later_apart (apart index) rfl rfl⟩
  have overwritten (own : Nat) (generation : Generation)
      (there : state.generations[own]? = some generation)
      (apart : ∀ index, index ≠ own → action.apart index = true)
      (moved : next.now = state.now + action.elapsed ∧
        ∃ after, next.generations = state.generations.set own after ∧
          Later checks state own action generation after) (index : Nat) (before : Generation)
      (present : state.generations[index]? = some before) :
      ∃ after, next.generations[index]? = some after ∧
        Later checks state index action before after := by
    obtain ⟨_, after, generations, later⟩ := moved
    rw [generations]
    by_cases same : index = own
    · subst same
      obtain rfl : before = generation := Option.some.inj (present.symm.trans there)
      exact ⟨after, Slots.get_set_self _ _ _ _ there, later⟩
    · exact ⟨before, (Slots.get_set_iff _ _ _ _ _ _ there).mpr (Or.inr ⟨same, present⟩),
        later_apart (apart index same) rfl rfl⟩
  cases action with
  | publish config | elapse nanos =>
    cases taken
    exact ⟨rfl, unchanged rfl fun _ => rfl⟩
  | reconcile bindOne =>
    simp only [step, Option.ite_none_right_eq_some, Option.some.injEq] at taken
    obtain ⟨_, rfl⟩ := taken
    exact ⟨rfl, unchanged rfl fun _ => rfl⟩
  | respawn =>
    simp only [step, Option.ite_none_right_eq_some, Option.some.injEq] at taken
    obtain ⟨_, rfl⟩ := taken
    refine ⟨rfl, fun index before present => ⟨{ before with told := true }, ?_, ?_⟩⟩
    · refine (Slots.get_push_iff _ _ _ _).mpr (Or.inl ?_)
      rw [List.getElem?_map, present]
      rfl
    · exact later_apart rfl rfl rfl
  | receive index handle src payload | recvError index handle | forward index handle accepted
  | stopForwarder index handle =>
    obtain ⟨generation, forwarder, present, listed, stepped⟩ := forwarder_taken rfl taken
    have later := forwarderStep_later rfl listed stepped
    refine ⟨later.1, overwritten index generation present (fun other different => ?_) later⟩
    simp [Action.apart, Action.forwarder, Action.generation, different.symm]
  | read index bytes via | route index | handOver index delivered | stopInbound index
  | stopReaper index | reap index =>
    obtain ⟨generation, present, stepped⟩ := generation_taken rfl taken
    have later : _ ∧ ∃ after, _ ∧ Later checks state index _ generation after :=
      generationStep_later rfl stepped
    refine ⟨later.1, overwritten index generation present (fun other different => ?_) later⟩
    simp [Action.apart, Action.forwarder, Action.generation, different.symm]

/-- A generation that was not there has just been spawned, with a table that has
no session yet. Its index is new, since finished generations keep theirs. -/
theorem step_born {checks : Bool} {state next : State} {action : Action}
    (taken : step checks state action = some next) (index : Nat) (born : Generation)
    (absent : state.generations[index]? = none) (present : next.generations[index]? = some born) :
    born = spawnForwarders state.listeners := by
  have overwritten (own : Nat) (after : Generation)
      (generations : next.generations = state.generations.set own after) :
      born = spawnForwarders state.listeners := by
    have inside := Slots.lt_length_of_get _ _ _ present
    rw [generations, List.length_set] at inside
    rw [List.getElem?_eq_none_iff] at absent
    omega
  cases action with
  | publish config | elapse nanos =>
    cases taken
    rw [absent] at present
    cases present
  | reconcile bindOne =>
    simp only [step, Option.ite_none_right_eq_some, Option.some.injEq] at taken
    obtain ⟨_, rfl⟩ := taken
    rw [absent] at present
    cases present
  | respawn =>
    simp only [step, Option.ite_none_right_eq_some, Option.some.injEq] at taken
    obtain ⟨_, rfl⟩ := taken
    rcases (Slots.get_push_iff _ _ _ _).mp present with before | ⟨_, rfl⟩
    · rw [List.getElem?_map, absent] at before
      cases before
    · rfl
  | receive own handle src payload | recvError own handle | forward own handle accepted
  | stopForwarder own handle =>
    obtain ⟨_, _, _, listed, stepped⟩ := forwarder_taken rfl taken
    obtain ⟨_, after, generations, _⟩ := forwarderStep_later rfl listed stepped
    exact overwritten own after generations
  | read own bytes via | route own | handOver own delivered | stopInbound own | stopReaper own
  | reap own =>
    obtain ⟨generation, _, stepped⟩ := generation_taken rfl taken
    have later : _ ∧ ∃ after, _ ∧ Later checks state own _ generation after :=
      generationStep_later rfl stepped
    obtain ⟨_, after, generations, _⟩ := later
    exact overwritten own after generations

/-- The stamp of what a table has after a move: the moment of the move if it was
one under this id, and the stamp that it had otherwise. -/
theorem TableMove.byId {now : Instant} {carried : Option UInt32} {before after : Sessions}
    (move : TableMove now carried before after) (id : UInt32) (session : Session)
    (listed : after.byId.lookup id = some session) :
    if carried = some id then session.last = now else before.byId.lookup id = some session := by
  cases move with
  | still same silent =>
    rw [same] at listed
    split
    · rename_i carries
      rw [silent id carries] at listed
      cases listed
    · exact listed
  | used other known _ own same =>
    rw [same, Table.lookup_insert_cases] at listed
    rw [own]
    by_cases isOther : id = other
    · rw [if_pos isOther] at listed
      cases listed
      rw [if_pos (congrArg some isOther.symm)]
    · rw [if_neg isOther] at listed
      rw [if_neg fun equal => isOther (Option.some.inj equal).symm]
      exact listed
  | opened key sock other _ _ own same =>
    rw [same, Table.lookup_insert_cases] at listed
    rw [own]
    by_cases isOther : id = other
    · rw [if_pos isOther] at listed
      cases listed
      rw [if_pos (congrArg some isOther.symm)]
    · rw [if_neg isOther] at listed
      rw [if_neg fun equal => isOther (Option.some.inj equal).symm]
      exact listed
  | reaped silent same =>
    rw [same, SessionTable.reap_byId, Option.filter_eq_some_iff] at listed
    rw [silent]
    exact listed.1

/-- A sweep leaves no key that was not there: `reap` only removes, and what it
keeps it keeps under the id that it had. -/
theorem reap_byKey {sessions : Sessions} {now : Instant} {key : Key} {id : UInt32}
    (live : (sessions.reap now).byKey.lookup key = some id) :
    sessions.byKey.lookup key = some id := by
  unfold Sessions.reap at live
  dsimp only at live
  split at live
  · exact live
  · rw [Table.lookup_retain, Option.filter_eq_some_iff] at live
    exact live.1

/-- A key that leads to an id after a move did so before, unless the move is one
under the id. -/
theorem TableMove.key_before {now : Instant} {carried : Option UInt32} {before after : Sessions}
    (move : TableMove now carried before after) (key : Key) (id : UInt32)
    (live : after.byKey.lookup key = some id) (other : carried ≠ some id) :
    before.byKey.lookup key = some id := by
  cases move with
  | still same => exact same ▸ live
  | used known _ _ _ same =>
    rw [same] at live
    exact live
  | opened new _ _ _ _ own same =>
    rw [same, Table.lookup_insert_cases] at live
    split at live
    · exact absurd (own.trans live) other
    · exact live
  | reaped _ same =>
    rw [same] at live
    exact reap_byKey live

/-- What a table has under a key, and has used within the idle time, it still has
after a move, under the same id. -/
theorem TableMove.byKey {now : Instant} {carried : Option UInt32} {before after : Sessions}
    (move : TableMove now carried before after) (key : Key) (id : UInt32) (session : Session)
    (live : before.byKey.lookup key = some id) (present : before.byId.lookup id = some session)
    (recent : now - session.last < udpIdle) :
    after.byKey.lookup key = some id ∧ (after.byId.lookup id).isSome = true := by
  have known : (before.byId.lookup id).isSome = true := by
    rw [present]
    rfl
  cases move with
  | still same =>
    rw [same]
    exact ⟨live, known⟩
  | used other found _ _ same =>
    rw [same]
    exact ⟨live, isSome_insert _ _ _ _ known⟩
  | opened newKey sock other new _ _ same =>
    have different : key ≠ newKey := by
      rintro rfl
      rw [new] at live
      cases live
    rw [same, Table.lookup_insert_cases, if_neg different]
    exact ⟨live, isSome_insert _ _ _ _ known⟩
  | reaped _ same =>
    have kept : (before.reap now).byId.lookup id = some session := by
      rw [SessionTable.reap_byId, present, Option.filter_eq_some_iff]
      exact ⟨rfl, decide_eq_true recent⟩
    rw [same, kept]
    refine ⟨?_, rfl⟩
    unfold Sessions.reap at kept ⊢
    dsimp only at kept ⊢
    split at kept <;> rename_i size
    · rw [if_pos size]
      exact live
    · rw [if_neg size, Table.lookup_retain, live, Option.filter_eq_some_iff]
      exact ⟨rfl, by rw [kept]; rfl⟩

/-- The sessions of a table by keys of some kind: the id that a key stands for,
and whether the table shows the session under it. -/
structure View (κ : Type) where
  id : κ → UInt32
  shows : Generation → κ → Bool

/-- By their ids, in a table that is not poisoned. -/
def byIds : View UInt32 where
  id := id
  shows generation _ := !generation.poisoned

/-- By a key and the id that it leads to, in a table poisoned or not. -/
def byKeys : View (Key × UInt32) where
  id := Prod.snd
  shows generation key := generation.sessions.byKey.lookup key.1 == some key.2

/-- By ids a session is seen unless its table is poisoned: then nobody can touch
or reap it. -/
theorem byIds_shows_iff (generation : Generation) (id : UInt32) :
    byIds.shows generation id = true ↔ generation.poisoned = false :=
  by simp [byIds]

/-- By keys it is seen as long as the key leads to this id. Once the key leads to
another, the client has got a new session, and its old one is no longer meant. -/
theorem byKeys_shows_iff (generation : Generation) (key : Key) (id : UInt32) :
    byKeys.shows generation (key, id) = true ↔ generation.sessions.byKey.lookup key = some id :=
  beq_iff_eq

/-- The stamp of a session that is shown. -/
def View.stamp {κ : Type} (view : View κ) (index : Nat) (state : State) (key : κ) :
    Option Instant :=
  match state.generations[index]? with
  | none => none
  | some generation =>
      if view.shows generation key then
        (generation.sessions.byId.lookup (view.id key)).map Session.last
      else none

/-- What a view shows under a key of a generation is the stamp of the session that
the key stands for. -/
theorem View.stamp_some_iff {κ : Type} (view : View κ) (index : Nat) (state : State) (key : κ)
    (moment : Instant) :
    view.stamp index state key = some moment ↔
      ∃ generation session, state.generations[index]? = some generation ∧
        view.shows generation key = true ∧
        generation.sessions.byId.lookup (view.id key) = some session ∧ session.last = moment := by
  unfold View.stamp
  split
  · rename_i absent
    simp [absent]
  · rename_i generation present
    split
    · rename_i shown
      simp [present, shown]
    · rename_i hidden
      simp [present, hidden]

/-- The table of one generation, as one whose entries expire. -/
def aging {κ : Type} (view : View κ) (checks : Bool) (index : Nat) : Aging State Action κ :=
  { now := State.now, stamp := view.stamp index,
    uses := fun key => State.carries checks index (view.id key), elapsed := Action.elapsed,
    sweeps := Action.sweeps index, idle := udpIdle }

/-- Where the generation is there, what is carried is a matter of it alone, and of
the time; the other generations and the listeners play no part. -/
theorem carries_iff {checks : Bool} {index : Nat} {id : UInt32} {state : State}
    {generation : Generation} (present : state.generations[index]? = some generation)
    (action : Action) :
    state.carries checks index id action = true ↔
      generation.carried checks index state.now action = some id := by
  simp only [State.carries, present, beq_iff_eq]

/-- The stamp of a session is that of its traffic, and its traffic takes no time.
The view must not hide a session before a step that has nothing to do with it. -/
theorem stamping {κ : Type} {view : View κ} {checks : Bool} {index : Nat}
    (shown : ∀ (state : State) (action : Action) (before after : Generation) (key : κ),
      Later checks state index action before after → view.shows after key = true →
      before.carried checks index state.now action ≠ some (view.id key) →
      view.shows before key = true) :
    (aging view checks index).Stamping (step checks) where
  clock := fun _ _ _ taken => (step_later taken).1
  timeless := fun key => carries_timeless checks index (view.id key)
  stamped := by
    intro state action next taken key moment present
    obtain ⟨after, session, there, shows, listed, rfl⟩ :=
      (view.stamp_some_iff index next key moment).mp present
    cases known : state.generations[index]? with
    | none =>
      rw [step_born taken index after known there] at listed
      cases listed
    | some before =>
      obtain ⟨after', there', later⟩ := (step_later taken).2 index before known
      obtain rfl : after = after' := Option.some.inj (there.symm.trans there')
      have stamped := later.moved.byId (view.id key) session listed
      change if state.carries checks index (view.id key) action = true then session.last = state.now
        else view.stamp index state key = some session.last
      split at stamped
      · rename_i carries
        rw [if_pos ((carries_iff known action).mpr carries)]
        exact stamped
      · rename_i other
        rw [if_neg fun carries => other ((carries_iff known action).mp carries)]
        exact (view.stamp_some_iff index state key _).mpr ⟨before, session, known,
          shown state action before after key later shows other, stamped, rfl⟩

/-- In every run the stamp of a session is that of its last traffic, by its id. A
use stamps it with the present, and nothing else ever changes a stamp. -/
theorem stamping_byIds (checks : Bool) (index : Nat) :
    (aging byIds checks index).Stamping (step checks) := by
  refine stamping ?_
  intro state action before after id later healthy _
  rw [byIds_shows_iff] at healthy ⊢
  by_contra poisoned
  rw [later.poisoned (by simpa using poisoned)] at healthy
  cases healthy

/-- The same by its key and its id, which is how the client finds its session:
here too, traffic in either direction makes the stamp the present. -/
theorem stamping_byKeys (checks : Bool) (index : Nat) :
    (aging byKeys checks index).Stamping (step checks) := by
  refine stamping ?_
  intro state action before after key later live other
  exact (byKeys_shows_iff _ _ _).mpr
    (later.moved.key_before key.1 key.2 ((byKeys_shows_iff _ _ _).mp live) other)

/-- Every sweep removes what is old, by ids: after a tick of the reaper, every
session that is left has had traffic within the last minute. -/
theorem swept (checks : Bool) (index : Nat) : (aging byIds checks index).Swept (step checks) where
  stamping := stamping_byIds checks index
  positive := Nat.mul_pos (by decide) (by decide)
  swept := by
    intro state action next taken sweeps id moment present
    obtain ⟨after, session, there, healthy, listed, rfl⟩ :=
      (byIds.stamp_some_iff index next id moment).mp present
    obtain ⟨clock, later⟩ := step_later taken
    cases known : state.generations[index]? with
    | none =>
      rw [step_born taken index after known there] at listed
      cases listed
    | some before =>
      obtain ⟨after', there', moved⟩ := later index before known
      obtain rfl : after = after' := Option.some.inj (there.symm.trans there')
      have sound : before.poisoned = false := by
        by_contra poisoned
        rw [byIds_shows_iff, moved.poisoned (by simpa using poisoned)] at healthy
        cases healthy
      rw [moved.swept sweeps sound, SessionTable.reap_byId, Option.filter_eq_some_iff] at listed
      have timeless : action.elapsed = 0 := by cases action <;> first | rfl | cases sweeps
      have young : state.now - session.last < udpIdle := of_decide_eq_true listed.2
      rw [← Nat.add_zero state.now, ← timeless, ← clock] at young
      exact young

/-- No traffic is in the future. -/
def Past (index : Nat) (state : State) : Prop :=
  ∀ generation, state.generations[index]? = some generation → ∀ id session,
    generation.sessions.byId.lookup id = some session → session.last ≤ state.now

/-- The step lemma: no stamp is ahead of the clock. A session is stamped with the
present, and time only moves on. -/
theorem Past.step {checks : Bool} {index : Nat} {state next : State} {action : Action}
    (past : Past index state) (taken : step checks state action = some next) : Past index next := by
  intro after there id session listed
  obtain ⟨clock, later⟩ := step_later taken
  have goesOn : state.now ≤ next.now := by
    rw [clock]
    exact Nat.le_add_right _ _
  cases known : state.generations[index]? with
  | none =>
    rw [step_born taken index after known there] at listed
    cases listed
  | some before =>
    obtain ⟨after', there', moved⟩ := later index before known
    obtain rfl : after = after' := Option.some.inj (there.symm.trans there')
    have stamped := moved.moved.byId id session listed
    split at stamped
    · exact stamped ▸ goesOn
    · exact Nat.le_trans (past before known id session stamped) goesOn

/-- No step removes a key within the time of its session. The reaper compares the
age with the same bound, and no other step takes a key away. -/
theorem spared (checks : Bool) (index : Nat) :
    (aging byKeys checks index).Spared (step checks) (fun _ => True) (fun _ _ _ => True) where
  stamping := stamping_byKeys checks index
  kept := fun _ _ _ _ _ => trivial
  spared := by
    intro state action next _ taken ⟨key, id⟩ moment _ present recent
    obtain ⟨before, session, known, live, listed, rfl⟩ :=
      (byKeys.stamp_some_iff index state (key, id) moment).mp present
    obtain ⟨clock, later⟩ := step_later taken
    obtain ⟨after, there, moved⟩ := later index before known
    have recentBefore : state.now - session.last < udpIdle := by
      refine Nat.lt_of_le_of_lt (Nat.sub_le_sub_right ?_ _) recent
      rw [show (aging byKeys checks index).now next = next.now from rfl, clock]
      exact Nat.le_add_right _ _
    obtain ⟨stillLive, found⟩ := moved.moved.byKey key id session
      ((byKeys_shows_iff _ _ _).mp live) listed recentBefore
    obtain ⟨latest, isLatest⟩ := Option.isSome_iff_exists.mp found
    exact Option.isSome_iff_exists.mpr ⟨latest.last,
      (byKeys.stamp_some_iff index next (key, id) _).mpr
        ⟨after, latest, there, (byKeys_shows_iff _ _ _).mpr stillLive, isLatest, rfl⟩⟩

/-- The id has been given out by the table of this generation, and if a session is
under it, then it is one of this source and this listener socket. -/
def Leads (index : Nat) (id : UInt32) (src : SocketAddr) (sock : Nat) (state : State) : Prop :=
  ∃ generation, state.generations[index]? = some generation ∧
    (keyOf generation.log id).isSome = true ∧
    ∀ session, generation.sessions.byId.lookup id = some session →
      session.src = src ∧ session.sock = sock

/-- As long as the counter does not wrap, the next id is not one that has been
given out. -/
theorem next_not_given {log added : List Key} {nextId : UInt32} (count : nextId.toNat = log.length)
    (later : (nextId + 1).toNat = (log ++ added).length) : keyOf log (nextId + 1) = none := by
  rw [List.length_append] at later
  have next : (nextId + 1).toNat = log.length + 1 := by
    rw [UInt32.toNat_add, count, UInt32.toNat_one] at later ⊢
    by_cases wraps : log.length + 1 < 2 ^ 32
    · exact Nat.mod_eq_of_lt wraps
    · have small := nextId.toNat_lt
      rw [count] at small
      omega
  simp [keyOf, next]

/-- An id that has been given out leads to the same source by the same socket for
good. -/
theorem Leads.step {checks : Bool} {index : Nat} {id : UInt32} {src : SocketAddr} {sock : Nat}
    {state next : State} {action : Action} (leads : Leads index id src sock state)
    (sound : Sound state) (few : FewSessions next.generations)
    (taken : Connect.step checks state action = some next) : Leads index id src sock next := by
  obtain ⟨before, known, given, leadsTo⟩ := leads
  obtain ⟨after, there, later⟩ := (step_later taken).2 index before known
  have effect := step_effect checks state next action taken
  obtain ⟨after', added, there', longer⟩ := effect_grows effect index before known
  obtain rfl : after = after' := Option.some.inj (there.symm.trans there')
  obtain ⟨key, isKey⟩ := Option.isSome_iff_exists.mp given
  refine ⟨after, there, ?_, ?_⟩
  · rw [longer, keyOf_append before.log added id key isKey]
    rfl
  · intro session listed
    cases later.moved with
    | still same => exact leadsTo session (same ▸ listed)
    | used other held found _ same =>
      rw [same, Table.lookup_insert_cases] at listed
      split at listed
      · rename_i isOther
        cases listed
        exact leadsTo held (isOther ▸ found)
      · exact leadsTo session listed
    | opened _ _ other _ isNext _ same =>
      rw [same, Table.lookup_insert_cases] at listed
      split at listed
      · rename_i isOther
        have counted := (sound.logged index before known).count
        have countedAfter := ((sound.step effect few).logged index after there).count
        rw [same, longer] at countedAfter
        rw [isOther, isNext, next_not_given counted (isNext ▸ countedAfter)] at isKey
        cases isKey
      · exact leadsTo session listed
    | reaped _ same =>
      rw [same, SessionTable.reap_byId, Option.filter_eq_some_iff] at listed
      exact leadsTo session listed.1

/-- The moment of the last traffic under an id of a generation in a run, where
this was the last one before. -/
def lastTraffic (checks : Bool) (index : Nat) (id : UInt32) (before : Option Instant)
    (state : State) (actions : List Action) : Option Instant :=
  lastUse (step checks) State.now (State.carries checks index id) before state actions

/-- There is always traffic under an id of a generation: in every state of a run
the last one is less than `udpIdle` ago. -/
def hasTraffic (checks : Bool) (index : Nat) (id : UInt32) (before : Instant) (state : State)
    (actions : List Action) : Bool :=
  inUse (step checks) State.now (State.carries checks index id) udpIdle before state actions

/-- The table is swept twice, between which the resolver has an answer. -/
def sweptTwice : List Action :=
  [.elapse udpReapInterval, .reap 0, .read 0 (encodeDatagram 1 53 [8]) 0, .route 0,
    .handOver 0 true, .elapse udpReapInterval, .reap 0]

end Rtun.Connect
