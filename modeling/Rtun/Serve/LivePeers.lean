import Rtun.Serve.Eviction

/-!
# The peers that the runtime facts list

The runtime facts are kept by peer, and the events that maintain them come from single
connections. Connecting a second time changes nothing, which is right; but the first
of two connections to end removes the entry for both. The facts are therefore exact as
long as a connection that ends is the last one of its peer.
-/

namespace Rtun.Serve.LivePeers

open Run Eviction

/-- The connection is between its `peer_connected` and its `peer_disconnected`. -/
def connected (conn : Conn) : Bool :=
  match conn.task with
  | .recorded | .serving | .returned => true
  | .handshaken | .refused | .admitted | .ended => false

/-- A step of the connections and their watchers, or a path report for a peer. -/
inductive Action where
  | own (action : Eviction.Action)
  | report (peer : EndpointId) (path : String) (addr : Option String) (rttMs : Option Nat)

def step (state : State) (action : Action) : Option State :=
  match action with
  | .own action => Eviction.step state action
  | .report peer path addr rttMs =>
      some { state with runtime := state.runtime.peerPath peer path addr rttMs }

/-- Some connection of the peer is connected. -/
def HasConnection (conns : List Conn) (peer : EndpointId) : Prop :=
  ∃ conn ∈ conns, conn.peer = peer ∧ connected conn = true

/-- The admin surface lists exactly the peers that have a connection. -/
def Tracked (state : State) : Prop :=
  ∀ peer, (∃ live ∈ state.runtime.livePeers state.now, live.id = peer.text) ↔
    HasConnection state.conns peer

/-- A connection whose peer is about to be removed is the last one of its peer. -/
def endsAlone (state : State) (action : Action) : Bool :=
  match action with
  | .own (.disconnect index) =>
      (state.conns[index]?).all (fun conn =>
        !(state.conns.eraseIdx index).any (fun other => other.peer == conn.peer && connected other))
  | _ => true

/-- What a step of one connection does to the runtime facts, and whether the
connection is connected before and after. -/
inductive Presence (state : State) (before after : Conn) : Eviction.Action → Runtime → Prop where
  | kept (action : Eviction.Action) (other : ∀ index, action ≠ .disconnect index)
      (same : connected after = connected before) :
      Presence state before after action state.runtime
  | recorded (index : Nat) (now : connected after = true) :
      Presence state before after (.record index)
        (state.runtime.peerConnected before.peer state.now)
  | left (index : Nat) (now : connected after = false) :
      Presence state before after (.disconnect index)
        (state.runtime.peerDisconnected before.peer)

/-- Every step of a connection has one of these effects. The cases follow the
definition. -/
theorem connStep_presence (state next : State) (index : Nat) (conn : Conn)
    (action : Eviction.Action) (taken : connStep state index conn action = some next) :
    ∃ after, next.conns = state.conns.set index after ∧ after.peer = conn.peer ∧
      Presence state conn after action next.runtime := by
  unfold connStep at taken
  split at taken
  · cases taken
    exact ⟨_, rfl, rfl, .kept _ (by simp) rfl⟩
  · rename_i handshaken
    split at taken
    · cases taken
      exact ⟨_, rfl, rfl, .kept _ (by simp) (by simp [connected, handshaken])⟩
    · cases taken
      exact ⟨_, rfl, rfl, .kept _ (by simp) (by simp [connected, handshaken])⟩
  · cases taken
    exact ⟨_, rfl, rfl, .recorded _ rfl⟩
  · rename_i recorded
    cases taken
    exact ⟨_, rfl, rfl, .kept _ (by simp) (by simp [connected, recorded])⟩
  · rename_i serving
    split at taken
    · cases taken
    · cases taken
      exact ⟨_, rfl, rfl, .kept _ (by simp) (by simp [connected, serving])⟩
  · cases taken
    exact ⟨_, rfl, rfl, .left _ rfl⟩
  · cases taken
    exact ⟨_, rfl, rfl, .kept _ (by simp) rfl⟩
  · split at taken
    · cases taken
      exact ⟨_, rfl, rfl, .kept _ (by simp) rfl⟩
    · cases taken
  · dsimp only at taken
    split at taken
    · cases taken
      exact ⟨_, rfl, rfl, .kept _ (by simp) rfl⟩
    · cases taken
      exact ⟨_, rfl, rfl, .kept _ (by simp) rfl⟩
  · cases taken
    exact ⟨_, rfl, rfl, .kept _ (by simp) rfl⟩
  · cases taken
    exact ⟨_, rfl, rfl, .kept _ (by simp) rfl⟩
  · cases taken
    exact ⟨_, rfl, rfl, .kept _ (by simp) rfl⟩
  · cases taken

/-- A peer has a connection through the one at this position, or through
another. -/
theorem hasConnection_iff (conns : List Conn) (index : Nat) (conn : Conn) (peer : EndpointId)
    (present : conns[index]? = some conn) :
    HasConnection conns peer ↔
      (conn.peer = peer ∧ connected conn = true) ∨ HasConnection (conns.eraseIdx index) peer := by
  simp only [HasConnection, Slots.mem_iff_eraseIdx conns index conn _ present]
  constructor
  · rintro ⟨found, rfl | member, own⟩
    · exact Or.inl own
    · exact Or.inr ⟨found, member, own⟩
  · rintro (own | ⟨found, member, own⟩)
    · exact ⟨conn, Or.inl rfl, own⟩
    · exact ⟨found, Or.inr member, own⟩

/-- The same after the connection at this position has made a step. -/
theorem hasConnection_set_iff (conns : List Conn) (index : Nat) (conn after : Conn)
    (peer : EndpointId) (present : conns[index]? = some conn) :
    HasConnection (conns.set index after) peer ↔
      (after.peer = peer ∧ connected after = true) ∨ HasConnection (conns.eraseIdx index) peer := by
  rw [hasConnection_iff _ index after peer (Slots.get_set_self _ _ _ _ present),
    List.eraseIdx_set_eq]

/-- A step of one connection keeps the facts exact, unless it ends a connection
whose peer has another one. -/
theorem tracked_connStep (state next : State) (index : Nat) (conn : Conn)
    (action : Eviction.Action) (present : state.conns[index]? = some conn)
    (named : ∀ other, action = .disconnect other → other = index) (tracked : Tracked state)
    (taken : connStep state index conn action = some next) :
    Tracked next ↔ endsAlone state (.own action) = true := by
  obtain ⟨after, conns, samePeer, presence⟩ := connStep_presence state next index conn action taken
  have before (peer : EndpointId) : (state.runtime.peers.lookup peer).isSome = true ↔
      (conn.peer = peer ∧ connected conn = true) ∨ HasConnection (state.conns.eraseIdx index) peer := by
    rw [← Runtime.listed_iff state.runtime state.now, tracked peer]
    exact hasConnection_iff _ _ _ _ present
  have exactly : Tracked next ↔ ∀ peer, (next.runtime.peers.lookup peer).isSome = true ↔
      (conn.peer = peer ∧ connected after = true) ∨
        HasConnection (state.conns.eraseIdx index) peer := by
    unfold Tracked
    simp only [Runtime.listed_iff, conns, hasConnection_set_iff _ _ _ _ _ present, samePeer]
  rw [exactly]
  generalize next.runtime = runtime at presence ⊢
  cases presence with
  | kept _ other same =>
    have condition : endsAlone state (.own action) = true := by
      cases action <;> first | rfl | exact absurd rfl (other _)
    simp only [condition, iff_true, same]
    exact before
  | recorded other now =>
    have condition : endsAlone state (.own (.record other)) = true := rfl
    simp only [condition, iff_true, now, and_true, Runtime.peerConnected_listed, before]
    intro peer
    constructor
    · rintro (rfl | ⟨same, _⟩ | others)
      · exact Or.inl rfl
      · exact Or.inl same
      · exact Or.inr others
    · rintro (rfl | others)
      · exact Or.inl rfl
      · exact Or.inr (Or.inr others)
  | left other now =>
    obtain rfl : other = index := named other rfl
    have condition : endsAlone state (.own (.disconnect other)) = true ↔
        ¬ HasConnection (state.conns.eraseIdx other) conn.peer := by
      simp [endsAlone, present, HasConnection]
    simp only [condition, now, Bool.false_eq_true, and_false, false_or,
      Runtime.peerDisconnected_listed, before]
    constructor
    · intro listed remaining
      exact ((listed conn.peer).mpr remaining).1 rfl
    · intro alone peer
      constructor
      · rintro ⟨differs, ⟨same, _⟩ | others⟩
        · exact absurd same.symm differs
        · exact others
      · intro others
        refine ⟨?_, Or.inr others⟩
        rintro rfl
        exact alone others

/-- The step lemma: the facts stay exact exactly if the step meets the
condition. -/
theorem tracked_step (state : State) (action : Action) (next : State) (tracked : Tracked state)
    (taken : step state action = some next) :
    Tracked next ↔ endsAlone state action = true := by
  have byConn (own : Eviction.Action) (index : Nat)
      (named : ∀ other, own = .disconnect other → other = index)
      (isOwn : own.conn = some index) (moved : Eviction.step state own = some next) :
      Tracked next ↔ endsAlone state (.own own) = true := by
    obtain ⟨conn, present, stepped⟩ := Eviction.conn_taken isOwn moved
    exact tracked_connStep state next index conn own present named tracked stepped
  cases action with
  | report peer path addr rttMs =>
    cases taken
    simp only [endsAlone, iff_true]
    intro other
    rw [Runtime.listed_iff, Runtime.peerPath_listed, ← Runtime.listed_iff _ state.now]
    exact tracked other
  | own action =>
    cases action with
    | publish config =>
      cases taken
      exact iff_of_true tracked rfl
    | elapse nanos =>
      cases taken
      refine iff_of_true ?_ rfl
      intro other
      rw [Runtime.listed_iff, ← Runtime.listed_iff _ state.now]
      exact tracked other
    | accept peer =>
      cases taken
      refine iff_of_true ?_ rfl
      intro other
      rw [tracked other]
      simp [HasConnection, connected, or_and_right, exists_or]
    | disconnect index =>
      exact byConn _ index (fun _ same => (Eviction.Action.disconnect.inj same).symm) rfl taken
    | _ index => exact byConn _ index (by simp) rfl taken

/-- In the beginning nobody is connected and nobody is shown. -/
theorem tracked_initial (config : Config) (now : Instant) : Tracked (initial config now) := by
  intro peer
  simp [Runtime.listed_iff, initial, Runtime.empty, HasConnection]

/-- In every run, the listed peers are exactly the connected ones in every state
if and only if every connection that ends is the last one of its peer. -/
theorem tracked_iff_ends_alone (config : Config) (now : Instant) (actions : List Action)
    (last : State) (reached : run step (initial config now) actions = some last) :
    Always step Tracked (initial config now) actions ↔
      Meets step (fun state action => endsAlone state action = true) (initial config now) actions :=
  always_iff_meets step Tracked _ tracked_step (initial config now) last actions
    (tracked_initial config now) reached

/-- A connection from its admission until its end is recorded. -/
def served (conn : Nat) : List Action :=
  [.own (.check conn), .own (.record conn), .own (.serve conn)]

def lost (conn : Nat) : List Action :=
  [.own (.lose conn), .own (.finish conn), .own (.disconnect conn)]

/-- The laptop connects, is lost, and connects again. -/
def reconnects : List Action :=
  .own (.accept laptop) :: served 0 ++ lost 0 ++ .own (.accept laptop) :: served 1

/-- The first connection has ended when the second one is recorded, so the peer is
shown while it is connected, and only then. -/
theorem reconnect_tracked :
    (run step (initial (offering true) 0) reconnects).isSome = true ∧
      Always step Tracked (initial (offering true) 0) reconnects := by
  have performed : (run step (initial (offering true) 0) reconnects).isSome = true := by decide
  refine ⟨performed, ?_⟩
  obtain ⟨last, reached⟩ := Option.isSome_iff_exists.mp performed
  exact (tracked_iff_ends_alone (offering true) 0 reconnects last reached).mpr (by decide)

/-- The laptop connects again before its first connection, half dead, is lost. -/
def overlaps : List Action :=
  .own (.accept laptop) :: served 0 ++ .own (.accept laptop) :: served 1 ++ lost 0

/-- The end of the first connection takes the peer off the list while the second
one is still served. -/
theorem overlap_loses_peer :
    ∃ last, run step (initial (offering true) 0) overlaps = some last ∧
      last.conns.map (fun conn => (conn.peer, connected conn)) = [(laptop, false), (laptop, true)] ∧
      last.runtime.livePeers last.now = [] ∧ ¬ Tracked last := by
  refine ⟨_, rfl, rfl, rfl, ?_⟩
  intro tracked
  obtain ⟨live, listed, _⟩ := (tracked laptop).mpr ⟨_, List.mem_cons_of_mem _ List.mem_cons_self,
    rfl, rfl⟩
  cases listed

end Rtun.Serve.LivePeers
