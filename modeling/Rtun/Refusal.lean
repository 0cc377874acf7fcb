import Rtun.Connect.Dialing
import Rtun.Serve.Eviction

/-!
# Being refused

The two sides of a tunnel, step by step in any order: on the serving side all connections of
all peers, on the connecting side the dialing, holding and losing of one connection after the
other. The serving side closes a connection when its allowlist does not admit the peer, at
the check or later. The connecting side takes such a close for a permanent no, and any other
end of a connection for an outage, after which it dials again.

A handshake gives the serving side a new connection; the connecting side may hear of the end
of it long before or after that. Closing a connection that has ended already is not heard.
-/

namespace Rtun.Refusal

open Run Connect

/-- Why the serving side closes a connection. -/
inductive Reason where
  | notAllowlisted
  | accessRevoked
deriving DecidableEq

/-- `REFUSED`. -/
def refused : Nat := 1

def Reason.text : Reason → String
  | .notAllowlisted => "not allowlisted"
  | .accessRevoked => "access revoked"

/-- The failure that ends `run` on the connecting side. -/
def closedByPeer (reason : Reason) : String :=
  "closed by peer: " ++ reason.text ++ " (code " ++ toString refused ++ ")"

/-- Both sides, which connection of the serving side the current dial or link
is about, with which reasons connections were closed, and what `run` has
failed with. -/
structure State where
  serving : Serve.Eviction.State
  connecting : Dialing.State
  link : Option Nat
  closes : Nat → Option Reason
  failure : Option String

inductive Action where
  | serving (action : Serve.Eviction.Action)
  | shake
  | connecting (action : Dialing.Action)

/-- The close that a step of the serving side sends: of a connection that is still
open, by the check or by the watcher. -/
def closing (serving : Serve.Eviction.State) : Serve.Eviction.Action → Option (Nat × Reason)
  | .check index =>
      (serving.conns[index]?).bind (fun conn =>
        if conn.isOpen = true ∧ serving.channel.value.admits conn.peer = false then
          some (index, .notAllowlisted)
        else none)
  | .evict index =>
      (serving.conns[index]?).bind (fun conn =>
        if conn.isOpen = true then some (index, .accessRevoked) else none)
  | _ => none

/-- The closes after one more. -/
def recorded (closes : Nat → Option Reason) : Option (Nat × Reason) → Nat → Option Reason
  | none => closes
  | some (index, reason) => fun other => if other = index then some reason else closes other

/-- The connecting side is done with this dial, or with this link. -/
def ends : Dialing.Action → Bool
  | .dialFailed | .lost _ => true
  | _ => false

/-- `ConnectionError::ApplicationClosed`. -/
def hearsClose : Dialing.Action → Bool
  | .lost refused => refused
  | _ => false

/-- A step of one side, or a handshake of both. That the peer has closed the
connection is heard only if it has. -/
def step (checks : Bool) (caller peer : EndpointId) (state : State) : Action → Option State
  | .serving action =>
      (Serve.Eviction.step state.serving action).map (fun serving =>
        { state with serving, closes := recorded state.closes (closing state.serving action) })
  | .shake =>
      if state.link = none ∧ (state.connecting.phase = .dialing ∨ state.connecting.phase = .held) then
        (Serve.Eviction.step state.serving (.accept caller)).map (fun serving =>
          { state with serving, link := some state.serving.conns.length })
      else none
  | .connecting action =>
      (Dialing.step checks peer state.connecting action).bind (fun connecting =>
        if hearsClose action then
          (state.link.bind state.closes).map (fun reason =>
            { state with connecting, link := none, failure := some (closedByPeer reason) })
        else some { state with connecting, link := if ends action then none else state.link })

/-- Both sides have just been started. -/
def initial (allowlist : Config) (bindings : Watch.Channel Config) (now : Instant) : State :=
  { serving := Serve.Eviction.initial allowlist now, connecting := Dialing.initial bindings,
    link := none, closes := fun _ => none, failure := none }

/-- Only connections that are there have been closed. -/
def Recorded (state : State) : Prop :=
  ∀ index, state.serving.conns.length ≤ index → state.closes index = none

/-- What a step of one connection of the serving side leaves: the same peer, and a
watcher that is about to evict only if it was, or if it has just seen that the
peer is not admitted. -/
theorem connStep_evicting (serving next : Serve.Eviction.State) (index : Nat)
    (conn : Serve.Eviction.Conn) (action : Serve.Eviction.Action)
    (taken : Serve.Eviction.connStep serving index conn action = some next) :
    next.channel = serving.channel ∧ ∃ after, next.conns = serving.conns.set index after ∧
      after.peer = conn.peer ∧ (after.watcher = .evicting → conn.watcher = .evicting ∨
        serving.channel.value.admits conn.peer = false) := by
  unfold Serve.Eviction.connStep at taken
  split at taken
  · cases taken
    exact ⟨rfl, _, rfl, rfl, Or.inl⟩
  · split at taken
    · cases taken
      exact ⟨rfl, _, rfl, rfl, Or.inl⟩
    · cases taken
      exact ⟨rfl, _, rfl, rfl, Or.inl⟩
  · cases taken
    exact ⟨rfl, _, rfl, rfl, Or.inl⟩
  · cases taken
    exact ⟨rfl, _, rfl, rfl, fun evicting => by cases evicting⟩
  · split at taken
    · cases taken
    · cases taken
      exact ⟨rfl, _, rfl, rfl, Or.inl⟩
  · cases taken
    exact ⟨rfl, _, rfl, rfl, Or.inl⟩
  · cases taken
    exact ⟨rfl, _, rfl, rfl, fun evicting => by cases evicting⟩
  · split at taken
    · cases taken
      exact ⟨rfl, _, rfl, rfl, fun evicting => by cases evicting⟩
    · cases taken
  · dsimp only at taken
    split at taken
    · cases taken
      exact ⟨rfl, _, rfl, rfl, fun evicting => by cases evicting⟩
    · rename_i rx refused
      cases taken
      exact ⟨rfl, _, rfl, rfl, fun _ => Or.inr (Bool.eq_false_of_not_eq_true refused)⟩
  · cases taken
    exact ⟨rfl, _, rfl, rfl, fun evicting => by cases evicting⟩
  · cases taken
    exact ⟨rfl, _, rfl, rfl, fun evicting => by cases evicting⟩
  · cases taken
    exact ⟨rfl, _, rfl, rfl, fun evicting => by cases evicting⟩
  · cases taken

/-- A step of the serving side publishes, lets time pass, accepts a connection, or
is one of a connection that is there. -/
inductive ServingMoves (serving : Serve.Eviction.State) : Serve.Eviction.Action →
    Serve.Eviction.State → Prop where
  | published (config : Config) :
      ServingMoves serving (.publish config)
        { serving with channel := serving.channel.sendReplace config }
  | elapsed (nanos : Nat) :
      ServingMoves serving (.elapse nanos) { serving with now := serving.now + nanos }
  | accepted (peer : EndpointId) :
      ServingMoves serving (.accept peer) { serving with
        conns := serving.conns ++
          [{ peer, isOpen := true, task := .handshaken, watcher := .absent }] }
  | moved (action : Serve.Eviction.Action) (index : Nat) (conn : Serve.Eviction.Conn)
      (next : Serve.Eviction.State) (own : action.conn = some index)
      (present : serving.conns[index]? = some conn)
      (taken : Serve.Eviction.connStep serving index conn action = some next) :
      ServingMoves serving action next

/-- Every step of the serving side is one of these moves, as far as closes and
watchers go. -/
theorem serving_moves {serving next : Serve.Eviction.State} {action : Serve.Eviction.Action}
    (taken : Serve.Eviction.step serving action = some next) : ServingMoves serving action next := by
  cases own : action.conn with
  | some index =>
    obtain ⟨conn, present, moved⟩ := Serve.Eviction.conn_taken own taken
    exact .moved action index conn next own present moved
  | none =>
    cases action with
    | publish config =>
      cases taken
      exact .published config
    | elapse nanos =>
      cases taken
      exact .elapsed nanos
    | accept peer =>
      cases taken
      exact .accepted peer
    | _ => cases own

/-- A close is sent by the check of a peer that is not admitted, or by a watcher
that evicts. -/
theorem closing_some {serving next : Serve.Eviction.State} {action : Serve.Eviction.Action}
    {index : Nat} {reason : Reason} (taken : Serve.Eviction.step serving action = some next)
    (closes : closing serving action = some (index, reason)) :
    ∃ conn, serving.conns[index]? = some conn ∧
      (serving.channel.value.admits conn.peer = false ∨ conn.watcher = .evicting) := by
  cases action with
  | check named =>
    obtain ⟨conn, present, decided⟩ := Option.bind_eq_some_iff.mp closes
    split at decided
    · rename_i refuses
      cases decided
      exact ⟨conn, present, Or.inl refuses.2⟩
    · cases decided
  | evict named =>
    obtain ⟨conn, present, decided⟩ := Option.bind_eq_some_iff.mp closes
    split at decided
    · cases decided
      obtain ⟨same, there, moved⟩ :=
        Serve.Eviction.conn_taken (rfl : Serve.Eviction.Action.conn (.evict index) = some index) taken
      obtain rfl : conn = same := Option.some.inj (present.symm.trans there)
      refine ⟨conn, present, Or.inr ?_⟩
      cases watcher : conn.watcher with
      | evicting => rfl
      | _ => simp [Serve.Eviction.connStep, watcher] at moved
    · cases decided
  | _ => cases closes

/-- A connection that has not been closed is still open after another one was. -/
theorem recorded_fresh {closes : Nat → Option Reason} {close : Option (Nat × Reason)} {other : Nat}
    (free : closes other = none) (apart : ∀ index reason, close = some (index, reason) → index ≠ other) :
    recorded closes close other = none := by
  cases close with
  | none => exact free
  | some pair =>
    obtain ⟨index, reason⟩ := pair
    exact (if_neg (Ne.symm (apart index reason rfl))).trans free

/-- Closes are recorded for connections that are there. -/
theorem Recorded.served {state : State} (known : Recorded state) {action : Serve.Eviction.Action}
    {next : Serve.Eviction.State} (taken : Serve.Eviction.step state.serving action = some next) :
    Recorded { state with
      serving := next, closes := recorded state.closes (closing state.serving action) } := by
  have grows : state.serving.conns.length ≤ next.conns.length := by
    cases serving_moves taken with
    | published => exact Nat.le_refl _
    | elapsed => exact Nat.le_refl _
    | accepted =>
      rw [List.length_append]
      exact Nat.le_add_right _ _
    | moved _ index conn _ own present moved =>
      obtain ⟨_, after, conns, _⟩ := connStep_evicting _ _ _ _ _ moved
      rw [conns, List.length_set]
  intro index beyond
  refine recorded_fresh (known index (Nat.le_trans grows beyond)) fun other reason closes => ?_
  obtain ⟨conn, present, _⟩ := closing_some taken closes
  exact Nat.ne_of_lt (Nat.lt_of_lt_of_le (Slots.lt_length_of_get _ _ _ present)
    (Nat.le_trans grows beyond))

/-- The step lemma for the records. -/
theorem Recorded.step {checks : Bool} {caller peer : EndpointId} {state next : State}
    (known : Recorded state) {action : Action}
    (taken : Refusal.step checks caller peer state action = some next) : Recorded next := by
  cases action with
  | serving action =>
    obtain ⟨serving, served, rfl⟩ := Option.map_eq_some_iff.mp taken
    exact known.served served
  | shake =>
    simp only [Refusal.step, Option.ite_none_right_eq_some] at taken
    obtain ⟨serving, served, rfl⟩ := Option.map_eq_some_iff.mp taken.2
    exact known.served served
  | connecting action =>
    obtain ⟨connecting, _, heard⟩ := Option.bind_eq_some_iff.mp taken
    split at heard
    · obtain ⟨reason, _, rfl⟩ := Option.map_eq_some_iff.mp heard
      exact known
    · cases heard
      exact known

/-- The connecting side is up, and the serving side has nothing against it: the
allowlist admits it, and of the connections from this one on none of its own is
closed or about to be. -/
structure Welcome (caller : EndpointId) (count : Nat) (state : State) : Prop where
  admits : state.serving.channel.value.admits caller = true
  up : state.connecting.phase ≠ .starting ∧ state.connecting.phase ≠ .exited
  known : Recorded state
  counted : count ≤ state.serving.conns.length
  link : ∀ index, state.link = some index →
    count ≤ index ∧ ∃ conn, state.serving.conns[index]? = some conn ∧ conn.peer = caller
  clean : ∀ (index : Nat) (conn : Serve.Eviction.Conn), count ≤ index →
    state.serving.conns[index]? = some conn → conn.peer = caller →
      state.closes index = none ∧ conn.watcher ≠ .evicting

/-- Publications admit the connecting side. -/
def welcomes (caller : EndpointId) : Action → Bool
  | .serving (.publish config) => config.admits caller
  | _ => true

/-- The link of a welcome peer has not been closed. -/
theorem Welcome.notClosed {caller : EndpointId} {count : Nat} {state : State}
    (welcome : Welcome caller count state) : state.link.bind state.closes = none := by
  cases link : state.link with
  | none => rfl
  | some index =>
    obtain ⟨counted, conn, present, own⟩ := welcome.link index link
    exact (welcome.clean index conn counted present own).1

/-- The serving side takes a step. -/
theorem Welcome.served {caller : EndpointId} {count : Nat} {state : State}
    (welcome : Welcome caller count state) {action : Serve.Eviction.Action}
    {next : Serve.Eviction.State} (fine : welcomes caller (.serving action) = true)
    (taken : Serve.Eviction.step state.serving action = some next) :
    Welcome caller count { state with
      serving := next, closes := recorded state.closes (closing state.serving action) } := by
  have known := welcome.known.served taken
  have unclosed (index : Nat) (conn : Serve.Eviction.Conn) (counted : count ≤ index)
      (present : state.serving.conns[index]? = some conn) (own : conn.peer = caller) :
      recorded state.closes (closing state.serving action) index = none := by
    obtain ⟨free, calm⟩ := welcome.clean index conn counted present own
    refine recorded_fresh free fun other reason closes => ?_
    rintro rfl
    obtain ⟨same, there, cause⟩ := closing_some taken closes
    obtain rfl : conn = same := Option.some.inj (present.symm.trans there)
    rcases cause with refuses | evicting
    · rw [own, welcome.admits] at refuses
      cases refuses
    · exact calm evicting
  cases serving_moves taken with
  | published config =>
    exact ⟨fine, welcome.up, known, welcome.counted, welcome.link, welcome.clean⟩
  | elapsed nanos =>
    exact ⟨welcome.admits, welcome.up, known, welcome.counted, welcome.link, welcome.clean⟩
  | accepted other =>
    refine ⟨welcome.admits, welcome.up, known, ?_, ?_, ?_⟩
    · rw [List.length_append]
      exact Nat.le_add_right_of_le welcome.counted
    · intro index link
      obtain ⟨counted, conn, present, own⟩ := welcome.link index link
      exact ⟨counted, conn, (Slots.get_push_iff _ _ _ _).mpr (Or.inl present), own⟩
    · intro index conn counted present own
      rcases (Slots.get_push_iff _ _ _ _).mp present with before | ⟨isNew, rfl⟩
      · exact welcome.clean index conn counted before own
      · exact ⟨welcome.known index (Nat.le_of_eq isNew.symm), fun evicting => by cases evicting⟩
  | moved _ index conn _ own present moved =>
    obtain ⟨channel, after, conns, samePeer, evicts⟩ := connStep_evicting _ _ _ _ _ moved
    refine ⟨by rw [channel]; exact welcome.admits, welcome.up, known, ?_, ?_, ?_⟩
    · rw [conns, List.length_set]
      exact welcome.counted
    · intro linked link
      obtain ⟨counted, before, there, isCaller⟩ := welcome.link linked link
      refine ⟨counted, ?_⟩
      rw [conns]
      by_cases same : linked = index
      · subst same
        obtain rfl : conn = before := Option.some.inj (present.symm.trans there)
        exact ⟨after, Slots.get_set_self _ _ _ _ present, samePeer.trans isCaller⟩
      · exact ⟨before, (Slots.get_set_iff _ _ _ _ _ _ present).mpr (Or.inr ⟨same, there⟩), isCaller⟩
    · intro other found counted there isCaller
      rw [conns] at there
      rcases (Slots.get_set_iff _ _ _ _ _ _ present).mp there with ⟨rfl, rfl⟩ | ⟨_, before⟩
      · have wasCaller : conn.peer = caller := samePeer.symm.trans isCaller
        refine ⟨unclosed other conn counted present wasCaller, fun evicting => ?_⟩
        rcases evicts evicting with already | refuses
        · exact (welcome.clean other conn counted present wasCaller).2 already
        · rw [wasCaller, welcome.admits] at refuses
          cases refuses
      · exact ⟨unclosed other found counted before isCaller,
          (welcome.clean other found counted before isCaller).2⟩

/-- Unless it has not bound its listeners yet, only a close that it hears ends the
connecting side. -/
theorem dialing_up {checks : Bool} {peer : EndpointId} {state next : Dialing.State}
    {action : Dialing.Action} (up : state.phase ≠ .starting ∧ state.phase ≠ .exited)
    (deaf : hearsClose action = false) (taken : Dialing.step checks peer state action = some next) :
    next.phase ≠ .starting ∧ next.phase ≠ .exited := by
  cases Dialing.step_moves taken with
  | bound bindOne starting => exact absurd starting up.1
  | dropped refused =>
    obtain rfl : refused = false := deaf
    exact ⟨Dialing.Phase.noConfusion, Dialing.Phase.noConfusion⟩
  | connected | failed | retried => exact ⟨Dialing.Phase.noConfusion, Dialing.Phase.noConfusion⟩
  | _ => exact up

/-- The step lemma. -/
theorem Welcome.step {checks : Bool} {caller peer : EndpointId} {count : Nat} {state next : State}
    (welcome : Welcome caller count state) {action : Action} (fine : welcomes caller action = true)
    (taken : Refusal.step checks caller peer state action = some next) :
    Welcome caller count next ∧ next.failure = state.failure := by
  cases action with
  | serving action =>
    obtain ⟨serving, served, rfl⟩ := Option.map_eq_some_iff.mp taken
    exact ⟨welcome.served fine served, rfl⟩
  | shake =>
    simp only [Refusal.step, Option.ite_none_right_eq_some] at taken
    obtain ⟨serving, served, rfl⟩ := Option.map_eq_some_iff.mp taken.2
    have after := welcome.served (rfl : welcomes caller (.serving (.accept caller)) = true) served
    refine ⟨⟨after.admits, after.up, after.known, after.counted, ?_, after.clean⟩, rfl⟩
    intro index isNew
    obtain rfl : state.serving.conns.length = index := Option.some.inj isNew
    cases served
    exact ⟨welcome.counted, _, (Slots.get_push_iff _ _ _ _).mpr (Or.inr ⟨rfl, rfl⟩), rfl⟩
  | connecting action =>
    obtain ⟨connecting, moved, heard⟩ := Option.bind_eq_some_iff.mp taken
    split at heard
    · rw [welcome.notClosed] at heard
      cases heard
    · rename_i deaf
      cases heard
      refine ⟨⟨welcome.admits, dialing_up welcome.up (Bool.eq_false_of_not_eq_true deaf) moved,
        welcome.known, welcome.counted, ?_, welcome.clean⟩, rfl⟩
      intro index link
      split at link
      · cases link
      · exact welcome.link index link

/-- A close that was sent can be heard: the connecting side then fails with its
reason. -/
theorem refusal_heard (checks : Bool) (caller peer : EndpointId) (state : State) (index : Nat)
    (reason : Reason) (held : state.connecting.phase = .held) (link : state.link = some index)
    (closed : state.closes index = some reason) :
    ∃ (own : List Dialing.Action) (last : State),
      run (step checks caller peer) state (own.map .connecting) = some last ∧
        last.connecting.phase = .exited ∧ last.failure = some (closedByPeer reason) ∧
        last.serving = state.serving := by
  have selecting (state : State) (held : state.connecting.phase = .held)
      (loop : state.connecting.inner.loop = .selecting) (link : state.link = some index)
      (closed : state.closes index = some reason) : ∃ last : State,
        run (step checks caller peer) state [.connecting .linkDown, .connecting (.lost true)] =
            some last ∧
          last.connecting.phase = .exited ∧ last.failure = some (closedByPeer reason) ∧
          last.serving = state.serving := by
    refine ⟨{ state with
      connecting := { state.connecting with linkUp := false }.dropped peer true,
      link := none, failure := some (closedByPeer reason) }, ?_, rfl, rfl, rfl⟩
    simp [run, step, Dialing.step, held, loop, link, closed, hearsClose, ends]
  cases loop : state.connecting.inner.loop with
  | selecting =>
    obtain ⟨last, reached, ended⟩ := selecting state held loop link closed
    exact ⟨[.linkDown, .lost true], last, reached, ended⟩
  | respawning =>
    obtain ⟨last, reached, ended⟩ := selecting
      { state with connecting := state.connecting.respawned } held rfl link closed
    refine ⟨[.respawn, .linkDown, .lost true], last, ?_, ended⟩
    refine (run_cons_some _ _ _ _ _).mpr ⟨_, ?_, reached⟩
    simp [step, Dialing.step, held, loop, hearsClose, ends]

/-- A process that has returned does not dial again. -/
theorem exited_step {checks : Bool} {caller peer : EndpointId} {state next : State} {action : Action}
    (exited : state.connecting.phase = .exited)
    (taken : step checks caller peer state action = some next) :
    next.connecting.phase = .exited ∧ next.failure = state.failure := by
  cases action with
  | serving action =>
    obtain ⟨serving, _, rfl⟩ := Option.map_eq_some_iff.mp taken
    exact ⟨exited, rfl⟩
  | shake =>
    simp [step, exited] at taken
  | connecting action =>
    obtain ⟨connecting, moved, heard⟩ := Option.bind_eq_some_iff.mp taken
    have stays : connecting.phase = .exited ∧ hearsClose action = false := by
      cases Dialing.step_moves moved with
      | bound _ phase | connected _ phase | failed phase | reconciled _ phase | respawned phase
      | linkLost phase | dropped _ phase | observed _ _ phase | retried _ phase =>
        rw [exited] at phase
        cases phase
      | _ => exact ⟨exited, rfl⟩
    rw [stays.2] at heard
    cases heard
    exact ⟨stays.1, rfl⟩

/-- The connecting side gives up exactly on a refusal. Take any run of both sides
up to a moment at which the connecting side is up and has no connection. As long
as the allowlist then admits it, it never gives up, whatever else happens on
either side, to other peers and on the way. Once the serving side has closed the
connection that it holds, it can hear that, and then fails with the reason of the
close; and having failed it does not dial again. -/
theorem gives_up_on_refusal (checks : Bool) (caller peer : EndpointId) (allowlist : Config)
    (bindings : Watch.Channel Config) (now : Instant) (earlier : List Action) (middle : State)
    (before : run (step checks caller peer) (initial allowlist bindings now) earlier = some middle) :
    (middle.link = none → middle.connecting.phase ≠ .starting → middle.connecting.phase ≠ .exited →
      middle.serving.channel.value.admits caller = true →
      ∀ (actions : List Action) (last : State), (∀ action ∈ actions, welcomes caller action = true) →
        run (step checks caller peer) middle actions = some last →
          last.connecting.phase ≠ .exited ∧ last.failure = middle.failure) ∧
    (∀ (index : Nat) (reason : Reason), middle.connecting.phase = .held → middle.link = some index →
      middle.closes index = some reason →
        ∃ (own : List Dialing.Action) (last : State),
          run (step checks caller peer) middle (own.map .connecting) = some last ∧
            last.connecting.phase = .exited ∧ last.failure = some (closedByPeer reason) ∧
            last.serving = middle.serving) ∧
    (middle.connecting.phase = .exited → ∀ (actions : List Action) (last : State),
      run (step checks caller peer) middle actions = some last →
        last.connecting.phase = .exited ∧ last.failure = middle.failure) := by
  have known : Recorded middle := invariant_of_run (step checks caller peer) Recorded
    (fun _ _ _ known taken => known.step taken) (initial allowlist bindings now) middle earlier
    (fun _ _ => rfl) before
  refine ⟨?_, fun index reason => refusal_heard checks caller peer middle index reason, ?_⟩
  · intro free notStarting notExited admits actions last welcome reached
    have begins : Welcome caller middle.serving.conns.length middle := by
      refine ⟨admits, ⟨notStarting, notExited⟩, known, Nat.le_refl _, ?_, ?_⟩
      · intro index link
        rw [free] at link
        cases link
      · intro index conn counted present _
        exact absurd (Slots.lt_length_of_get _ _ _ present) (Nat.not_lt.mpr counted)
    have ends := invariant_of_meets (step checks caller peer)
      (fun _ action => welcomes caller action = true)
      (fun state => Welcome caller middle.serving.conns.length state ∧ state.failure = middle.failure)
      (fun _ _ _ holds fine taken =>
        ⟨(holds.1.step fine taken).1, (holds.1.step fine taken).2.trans holds.2⟩)
      middle last actions ⟨begins, rfl⟩
      (meets_of_mem _ _ middle actions fun action member _ => welcome action member) reached
    exact ⟨ends.1.up.2, ends.2⟩
  · intro exited actions last reached
    exact invariant_of_run (step checks caller peer)
      (fun state => state.connecting.phase = .exited ∧ state.failure = middle.failure)
      (fun _ _ _ holds taken =>
        ⟨(exited_step holds.1 taken).1, (exited_step holds.1 taken).2.trans holds.2⟩)
      middle last actions ⟨exited, rfl⟩ reached

/-- The laptop is connected, and its link goes down. -/
def outage : List Action :=
  [.connecting (.bindInitial (fun _ => none)), .shake, .connecting (.dialed none),
    .serving (.check 0), .serving (.record 0), .serving (.serve 0), .connecting .linkDown,
    .connecting (.lost false)]

/-- It dials again, while another offer is made to it. -/
def redialed : List Action :=
  [.connecting (.task (.elapse Dialing.backoffStart)), .connecting .retry, .connecting (.dialed none),
    .serving (.publish (offering true)), .shake, .serving (.check 1), .serving (.lose 0)]

/-- The link fails and the caller dials anew while it is admitted: `connect::run`
goes on, and no failure is recorded. -/
theorem redialed_not_refused :
    ∃ middle last,
      run (step true laptop Dialing.office)
        (initial (offering false) (Watch.Channel.new Config.default) 0) outage = some middle ∧
      run (step true laptop Dialing.office) middle redialed = some last ∧
      last.connecting.phase ≠ .exited ∧ last.failure = none := by
  have evaluated : ((run (step true laptop Dialing.office)
      (initial (offering false) (Watch.Channel.new Config.default) 0) outage).bind (fun middle =>
        (run (step true laptop Dialing.office) middle redialed).map (fun _ =>
          (middle.link, middle.connecting.phase, middle.serving.channel.value, middle.failure)))) =
      some (none, .waiting Dialing.backoffStart, offering false, none) := by decide +kernel
  obtain ⟨middle, before, evaluated⟩ := Option.bind_eq_some_iff.mp evaluated
  obtain ⟨last, reached, facts⟩ := Option.map_eq_some_iff.mp evaluated
  obtain ⟨free, phase, config, failure⟩ : middle.link = none ∧
      middle.connecting.phase = .waiting Dialing.backoffStart ∧
      middle.serving.channel.value = offering false ∧ middle.failure = none := by
    simpa only [Prod.mk.injEq] using facts
  have up := (gives_up_on_refusal true laptop Dialing.office (offering false) _ 0 outage middle before).1
    free (by rw [phase]; decide) (by rw [phase]; decide) (by rw [config]; decide) redialed last
    (by decide) reached
  exact ⟨middle, last, before, reached, up.1, up.2.trans failure⟩

end Rtun.Refusal
