import Rtun.Grants
import Rtun.Run
import Rtun.Runtime
import Rtun.Slots
import Rtun.Watch

/-!
# Admission and eviction

The task that serves one accepted connection, and the watcher that closes it when
the peer stops being admitted, for any number of connections of any peers. The task
checks the allowlist, records the peer and starts to serve, which spawns the
watcher; the watcher subscribes when it first runs. What it subscribes to counts as
seen, so a change between the check and the subscription is never looked at.
-/

namespace Rtun.Serve.Eviction

open Run

/-- Where the task of a connection is. -/
inductive Task where
  | handshaken
  | refused
  | admitted
  | recorded
  | serving
  | returned
  | ended
deriving DecidableEq

/-- Where the watcher of a connection is. -/
inductive Watcher where
  | absent
  | spawned
  | waiting (rx : Watch.Receiver)
  | woken (rx : Watch.Receiver)
  | evicting
  | stopped
deriving DecidableEq

structure Conn where
  peer : EndpointId
  isOpen : Bool
  task : Task
  watcher : Watcher
deriving DecidableEq

structure State where
  channel : Watch.Channel Config
  runtime : Runtime
  now : Instant
  conns : List Conn

/-- A publication, the passing of time, or the next step of one connection's
tasks. -/
inductive Action where
  | publish (config : Config)
  | elapse (nanos : Nat)
  | accept (peer : EndpointId)
  | lose (conn : Nat)
  | check (conn : Nat)
  | record (conn : Nat)
  | serve (conn : Nat)
  | finish (conn : Nat)
  | disconnect (conn : Nat)
  | subscribe (conn : Nat)
  | changed (conn : Nat)
  | recheck (conn : Nat)
  | evict (conn : Nat)
  | stopWatcher (conn : Nat)

def State.put (state : State) (index : Nat) (conn : Conn) : State :=
  { state with conns := state.conns.set index conn }

/-- A step of the connection at this position. -/
def connStep (state : State) (index : Nat) (conn : Conn) (action : Action) : Option State :=
  match action, conn.task, conn.watcher with
  | .lose _, _, _ => some (state.put index { conn with isOpen := false })
  | .check _, .handshaken, _ =>
      if state.channel.value.admits conn.peer then
        some (state.put index { conn with task := .admitted })
      else some (state.put index { conn with task := .refused, isOpen := false })
  | .record _, .admitted, _ =>
      some { state.put index { conn with task := .recorded } with
        runtime := state.runtime.peerConnected conn.peer state.now }
  | .serve _, .recorded, _ =>
      some (state.put index { conn with task := .serving, watcher := .spawned })
  | .finish _, .serving, _ =>
      -- `accept_bi` fails only when the connection has ended.
      if conn.isOpen then none else some (state.put index { conn with task := .returned })
  | .disconnect _, .returned, _ =>
      some { state.put index { conn with task := .ended } with
        runtime := state.runtime.peerDisconnected conn.peer }
  | .subscribe _, _, .spawned =>
      some (state.put index { conn with watcher := .waiting state.channel.subscribe })
  | .changed _, _, .waiting rx =>
      if state.channel.hasChanged rx then
        some (state.put index { conn with watcher := .woken state.channel.subscribe })
      else none
  | .recheck _, _, .woken rx =>
      let looked := state.channel.borrowAndUpdate rx
      if looked.1.admits conn.peer then
        some (state.put index { conn with watcher := .waiting looked.2 })
      else some (state.put index { conn with watcher := .evicting })
  | .evict _, _, .evicting =>
      some (state.put index { conn with isOpen := false, watcher := .stopped })
  | .stopWatcher _, .returned, _ | .stopWatcher _, .ended, _ =>
      some (state.put index { conn with watcher := .stopped })
  | _, _, _ => none

def step (state : State) (action : Action) : Option State :=
  match action with
  | .publish config => some { state with channel := state.channel.sendReplace config }
  | .elapse nanos => some { state with now := state.now + nanos }
  | .accept peer =>
      let conn : Conn := { peer, isOpen := true, task := .handshaken, watcher := .absent }
      some { state with conns := state.conns ++ [conn] }
  | .lose index | .check index | .record index | .serve index | .finish index | .disconnect index
  | .subscribe index | .changed index | .recheck index | .evict index | .stopWatcher index =>
      match state.conns[index]? with
      | none => none
      | some conn => connStep state index conn action

/-- The connection that the step is about. -/
def Action.conn : Action → Option Nat
  | .lose index | .check index | .record index | .serve index | .finish index | .disconnect index
  | .subscribe index | .changed index | .recheck index | .evict index | .stopWatcher index =>
      some index
  | _ => none

/-- A step of a connection is one of a connection that is there. -/
theorem conn_taken {state next : State} {action : Action} {index : Nat}
    (own : action.conn = some index) (taken : step state action = some next) :
    ∃ conn, state.conns[index]? = some conn ∧ connStep state index conn action = some next := by
  have found : (match state.conns[index]? with
      | none => none
      | some conn => connStep state index conn action) = some next := by
    cases action <;> cases own <;> exact taken
  split at found
  · cases found
  · rename_i conn present
    exact ⟨conn, present, found⟩

/-- A serving process that has just started. -/
def initial (config : Config) (now : Instant) : State :=
  { channel := Watch.Channel.new config, runtime := Runtime.empty, now, conns := [] }

/-- An open connection whose watcher waits with nothing left to see. -/
def Conn.settled (conn : Conn) (version : Nat) : Prop :=
  conn.isOpen = true ∧ ∃ rx, conn.watcher = .waiting rx ∧ rx.seen = version

/-- Revocation reaches every open connection: where the watcher of an open
connection has subscribed and has no unseen version, the current configuration
admits the peer. -/
def Enforced (state : State) : Prop :=
  ∀ (index : Nat) (conn : Conn), state.conns[index]? = some conn →
    conn.settled state.channel.version → state.channel.value.admits conn.peer = true

/-- A watcher subscribes while its peer is admitted, or after its connection has
closed. -/
def subscribesInTime (state : State) (action : Action) : Bool :=
  match action with
  | .subscribe index =>
      (state.conns[index]?).all
        (fun conn => !conn.isOpen || state.channel.value.admits conn.peer)
  | _ => true

/-- No watcher is ahead of the channel. -/
def Behind (state : State) : Prop :=
  ∀ (index : Nat) (conn : Conn), state.conns[index]? = some conn →
    ∀ rx, conn.watcher = .waiting rx → rx.seen ≤ state.channel.version

/-- The invariant: no watcher is ahead, and revocation has reached every
connection. -/
structure Watched (state : State) : Prop where
  behind : Behind state
  enforced : Enforced state

/-- In the beginning there are no connections, so none has a watcher that could be
late. -/
theorem watched_initial (config : Config) (now : Instant) : Watched (initial config now) := by
  constructor
  · intro index conn present
    simp [initial] at present
  · intro index conn present
    simp [initial] at present

/-- What a step of one connection does: the channel stays, the connection
keeps its peer and does not open again, and its watcher waits where it waited
before, or at the current version after a subscription or after a look that
admits the peer. -/
theorem connStep_spec (state next : State) (index : Nat) (conn : Conn) (action : Action)
    (taken : connStep state index conn action = some next) :
    next.channel = state.channel ∧ ∃ after, next.conns = state.conns.set index after ∧
      after.peer = conn.peer ∧ (after.isOpen = true → conn.isOpen = true) ∧
      ∀ rx, after.watcher = .waiting rx → conn.watcher = .waiting rx ∨
        rx = state.channel.subscribe ∧
          (state.channel.value.admits conn.peer = true ∨ ∃ named, action = .subscribe named) := by
  unfold connStep at taken
  split at taken
  · cases taken
    exact ⟨rfl, _, rfl, rfl, (fun closed => by cases closed), fun _ waits => Or.inl waits⟩
  · split at taken
    · cases taken
      exact ⟨rfl, _, rfl, rfl, id, fun _ waits => Or.inl waits⟩
    · cases taken
      exact ⟨rfl, _, rfl, rfl, (fun closed => by cases closed), fun _ waits => Or.inl waits⟩
  · cases taken
    exact ⟨rfl, _, rfl, rfl, id, fun _ waits => Or.inl waits⟩
  · cases taken
    exact ⟨rfl, _, rfl, rfl, id, fun _ waits => by cases waits⟩
  · split at taken
    · cases taken
    · cases taken
      exact ⟨rfl, _, rfl, rfl, id, fun _ waits => Or.inl waits⟩
  · cases taken
    exact ⟨rfl, _, rfl, rfl, id, fun _ waits => Or.inl waits⟩
  · rename_i named _
    cases taken
    refine ⟨rfl, _, rfl, rfl, id, ?_⟩
    intro rx waits
    exact Or.inr ⟨(Watcher.waiting.inj waits).symm, Or.inr ⟨named, rfl⟩⟩
  · split at taken
    · cases taken
      exact ⟨rfl, _, rfl, rfl, id, fun _ waits => by cases waits⟩
    · cases taken
  · dsimp only at taken
    split at taken
    · rename_i admitted
      cases taken
      refine ⟨rfl, _, rfl, rfl, id, ?_⟩
      intro rx waits
      exact Or.inr ⟨(Watcher.waiting.inj waits).symm, Or.inl admitted⟩
    · cases taken
      exact ⟨rfl, _, rfl, rfl, id, fun _ waits => by cases waits⟩
  · cases taken
    exact ⟨rfl, _, rfl, rfl, (fun closed => by cases closed), fun _ waits => by cases waits⟩
  · cases taken
    exact ⟨rfl, _, rfl, rfl, id, fun _ waits => by cases waits⟩
  · cases taken
    exact ⟨rfl, _, rfl, rfl, id, fun _ waits => by cases waits⟩
  · cases taken

/-- A step of one connection keeps the invariant, if a subscription is in time. -/
theorem Watched.connStep {state next : State} (watched : Watched state) (index : Nat) (conn : Conn)
    (present : state.conns[index]? = some conn) (action : Action)
    (inTime : (∃ named, action = .subscribe named) →
      conn.isOpen = true → state.channel.value.admits conn.peer = true)
    (taken : connStep state index conn action = some next) : Watched next := by
  obtain ⟨sameChannel, after, conns, samePeer, stillOpen, watcher⟩ :=
    connStep_spec state next index conn action taken
  constructor
  · intro other found listed rx waits
    rw [sameChannel]
    rw [conns] at listed
    rcases (Slots.get_set_iff _ _ _ _ _ _ present).mp listed with ⟨rfl, rfl⟩ | ⟨_, known⟩
    · rcases watcher rx waits with before | ⟨rfl, _⟩
      · exact watched.behind other conn present rx before
      · exact Nat.le_refl _
    · exact watched.behind other found known rx waits
  · intro other found listed settled
    rw [sameChannel] at settled ⊢
    rw [conns] at listed
    rcases (Slots.get_set_iff _ _ _ _ _ _ present).mp listed with ⟨rfl, rfl⟩ | ⟨_, known⟩
    · obtain ⟨isOpen, rx, waits, level⟩ := settled
      rw [samePeer]
      rcases watcher rx waits with before | ⟨_, admitted | subscribed⟩
      · exact watched.enforced other conn present ⟨stillOpen isOpen, rx, before, level⟩
      · exact admitted
      · exact inTime subscribed (stillOpen isOpen)
    · exact watched.enforced other found known settled

/-- The step lemma. A publication leaves every waiting watcher with something to
see. -/
theorem Watched.step {state next : State} (watched : Watched state) (action : Action)
    (condition : subscribesInTime state action = true)
    (taken : Eviction.step state action = some next) : Watched next := by
  have byConn (index : Nat) (own : action.conn = some index)
      (inTime : ∀ conn, state.conns[index]? = some conn → (∃ named, action = .subscribe named) →
        conn.isOpen = true → state.channel.value.admits conn.peer = true) : Watched next := by
    obtain ⟨conn, present, stepped⟩ := conn_taken own taken
    exact watched.connStep index conn present action (inTime conn present) stepped
  cases action with
  | publish config =>
    cases taken
    constructor
    · intro index conn present rx waits
      exact Nat.le_succ_of_le (watched.behind index conn present rx waits)
    · rintro index conn present ⟨_, rx, waits, level⟩
      have behind : rx.seen ≤ state.channel.version := watched.behind index conn present rx waits
      rw [Watch.Channel.sendReplace_version] at level
      omega
  | elapse nanos =>
    cases taken
    exact ⟨watched.behind, watched.enforced⟩
  | accept peer =>
    cases taken
    constructor
    · intro index conn present rx waits
      rcases (Slots.get_push_iff _ _ _ _).mp present with known | ⟨_, rfl⟩
      · exact watched.behind index conn known rx waits
      · cases waits
    · intro index conn present settled
      rcases (Slots.get_push_iff _ _ _ _).mp present with known | ⟨_, rfl⟩
      · exact watched.enforced index conn known settled
      · obtain ⟨_, rx, waits, _⟩ := settled
        cases waits
  | subscribe index =>
    apply byConn index rfl
    intro conn present _ isOpen
    simpa [subscribesInTime, present, isOpen] using condition
  | _ index =>
    apply byConn index rfl
    rintro conn present ⟨named, other⟩
    cases other

/-- In every run in which each watcher subscribes while its peer is still
admitted, or after its connection has closed, revocation reaches every open
connection. -/
theorem revocation_reaches (config : Config) (now : Instant) (actions : List Action) (last : State)
    (meets : Meets step (fun state action => subscribesInTime state action = true)
      (initial config now) actions)
    (reached : run step (initial config now) actions = some last) : Enforced last :=
  (invariant_of_meets step _ Watched
    (fun _ action _ watched condition taken => watched.step action condition taken)
    (initial config now) last actions (watched_initial config now) meets reached).enforced

/-- The condition is not too strong: a watcher that subscribes after its peer was
revoked has nothing left to see, and the connection stays open. -/
theorem late_subscription_unenforced (state : State) (index : Nat) (conn : Conn)
    (present : state.conns[index]? = some conn) (spawned : conn.watcher = .spawned)
    (isOpen : conn.isOpen = true) (revoked : state.channel.value.admits conn.peer = false) :
    ∃ last, run step state [.subscribe index] = some last ∧ ¬ Enforced last := by
  refine ⟨state.put index { conn with watcher := .waiting state.channel.subscribe }, ?_, ?_⟩
  · cases task : conn.task <;> simp [run, step, connStep, present, spawned, task]
  · intro enforced
    have admitted := enforced index _ (Slots.get_set_self _ _ _ _ present) ⟨isOpen, _, rfl, rfl⟩
    rw [State.put, revoked] at admitted
    cases admitted

/-- A connection is served, and its peer is removed once the watcher waits. -/
def revokedLater : List Action :=
  [.accept laptop, .check 0, .record 0, .serve 0, .subscribe 0, .publish Config.default,
    .changed 0, .recheck 0, .evict 0, .finish 0, .disconnect 0]

/-- The watcher has subscribed before the peer is removed, so it is woken and
closes the connection. -/
theorem later_revocation_reaches :
    ∃ last, run step (initial (offering true) 0) revokedLater = some last ∧
      last.conns.map Conn.isOpen = [false] ∧ Enforced last := by
  refine ⟨_, rfl, rfl, ?_⟩
  exact revocation_reaches (offering true) 0 revokedLater _ (by decide) rfl

/-- The peer is removed after the check that admitted it, before the watcher
runs. -/
def revokedBetween : List Action :=
  [.accept laptop, .check 0, .record 0, .serve 0, .publish Config.default, .subscribe 0]

/-- The watcher takes the version of the removal for one that it has seen, so the
connection stays open. -/
theorem revocation_between_is_missed :
    ∃ last, run step (initial (offering true) 0) revokedBetween = some last ∧
      last.conns.map Conn.isOpen = [true] ∧ ¬ Enforced last := by
  refine ⟨_, rfl, rfl, ?_⟩
  intro enforced
  have admitted := enforced 0 _ rfl ⟨rfl, _, rfl, rfl⟩
  exact absurd admitted (by decide)

end Rtun.Serve.Eviction
