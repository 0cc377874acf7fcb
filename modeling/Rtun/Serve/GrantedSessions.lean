import Rtun.Serve.Authorised

/-!
# No session outlives its grant

The pump checks a datagram against the current configuration, and inserts a session
several steps later; revocations arrive through a receiver of its own, and may be
published in between. What connects the two is the version that the receiver has seen:
while it is the current one, whatever the pump holds has been granted by the current
configuration, and so has every session, except while the pump is about to drop some.
-/

namespace Rtun.Serve

universe u
variable {τ : Type u} {peer : EndpointId}

open Run

/-- While the pump waits for its next event and has seen the latest configuration,
every session has a port that this configuration grants to the peer, and there is
none when it does not admit the peer. -/
def SessionsGranted (peer : EndpointId) (state : State τ) : Prop :=
  state.pump = .selecting → state.channel.hasChanged state.receiver = false →
    (∀ id session, state.sessions.lookup id = some session →
      ∃ ports, state.channel.value.granted peer .udp = some ports ∧ session.port ∈ ports) ∧
    (state.channel.value.admits peer = false → state.sessions = ∅)

/-- What a step does to the channel, to the receiver, and to the pump where it
starts or is about to drop sessions. -/
inductive Control (peer : EndpointId) (state : State τ) : Action τ → State τ → Prop where
  | published (config : Config) :
      Control peer state (.publish config) { state with
        channel := state.channel.sendReplace config }
  | subscribed (starting : state.pump = .starting) :
      Control peer state .subscribe { state with
        receiver := state.channel.subscribe, pump := .selecting }
  | noticed (selecting : state.pump = .selecting) :
      Control peer state .notice { state with
        receiver := state.channel.subscribe, pump := .revoking (state.grants peer) }
  | revoked (granted : List UInt16) (held : state.pump = .revoking granted) :
      Control peer state .revoke { state.retain (Sessions.stillGranted granted) with
        pump := .selecting }
  | other (action : Action τ) (next : State τ) (channel : next.channel = state.channel)
      (receiver : next.receiver = state.receiver)
      (pump : next.pump = state.pump ∨ (∀ granted, state.pump ≠ .revoking granted) ∧
        next.pump ≠ .starting ∧ ∀ granted, next.pump ≠ .revoking granted) :
      Control peer state action next

/-- A step of a reply task is none of the pump's. -/
theorem replyStep_control {state next : State τ} {action : Action τ} (named : Action τ)
    {handle : Nat} {reply : Reply} (taken : replyStep state named handle reply = some next) :
    Control peer state action next := by
  unfold replyStep at taken
  split at taken
  · cases taken
    exact .other _ _ rfl rfl (Or.inl rfl)
  · cases taken
    exact .other _ _ rfl rfl (Or.inl rfl)
  · cases taken
    exact .other _ _ rfl rfl (Or.inl rfl)
  · split at taken
    · cases taken
      exact .other _ _ rfl rfl (Or.inl rfl)
    · cases taken
  · cases taken

/-- Every step of the pump is one of these. The cases follow the definition. -/
theorem pumpStep_control {state next : State τ} {action : Action τ}
    (taken : pumpStep peer state action = some next) : Control peer state action next := by
  unfold pumpStep at taken
  split at taken
  · rename_i starting
    cases taken
    exact .subscribed starting
  · rename_i selecting
    cases taken
    exact .other _ _ rfl rfl (Or.inr (by simp [selecting]))
  · rename_i selecting
    split at taken
    · cases taken
      exact .noticed selecting
    · cases taken
  · rename_i granted held
    cases taken
    exact .revoked granted held
  · rename_i held
    split at taken
    · cases taken
      exact .other _ _ rfl rfl (Or.inr (by simp [held]))
    · cases taken
      exact .other _ _ rfl rfl (Or.inr (by simp [held]))
  · rename_i held
    split at taken
    · cases taken
      exact .other _ _ rfl rfl (Or.inr (by simp [held]))
    · cases taken
      exact .other _ _ rfl rfl (Or.inr (by simp [held]))
  · rename_i held
    cases taken
    exact .other _ _ rfl rfl (Or.inr (by simp [held]))
  · rename_i held
    cases taken
    exact .other _ _ rfl rfl (Or.inr (by simp [held]))
  · rename_i held
    cases taken
    exact .other _ _ rfl rfl (Or.inr (by simp [held]))
  · rename_i held
    cases taken
    exact .other _ _ rfl rfl (Or.inr (by simp [held]))
  · rename_i held
    split at taken
    · cases taken
    · cases taken
      exact .other _ _ rfl rfl (Or.inr (by simp [held]))
  · cases taken

/-- Every step is one of these. -/
theorem step_control {state next : State τ} {action : Action τ}
    (taken : step peer state action = some next) : Control peer state action next := by
  have byReply (index : Nat) (own : action.replyTask = some index) :
      Control peer state action next := by
    obtain ⟨reply, _, stepped⟩ := reply_taken own taken
    exact replyStep_control action stepped
  cases action with
  | publish config =>
    cases taken
    exact .published config
  | elapse nanos =>
    cases taken
    exact .other _ _ rfl rfl (Or.inl rfl)
  | lose | reap | stopReaper | abortPumps | clear =>
    simp only [step, Option.ite_none_right_eq_some, Option.some.injEq] at taken
    obtain ⟨_, rfl⟩ := taken
    exact .other _ _ rfl rfl (Or.inl rfl)
  | stopPump =>
    simp only [step, Option.ite_none_right_eq_some, Option.some.injEq] at taken
    obtain ⟨canStop, rfl⟩ := taken
    refine .other _ _ rfl rfl (Or.inr ⟨?_, by simp, by simp⟩)
    intro granted held
    cases link : state.link <;> simp [Pump.canStop, held, link] at canStop
  | receive index payload => exact byReply index rfl
  | recvError index => exact byReply index rfl
  | answer index accepted => exact byReply index rfl
  | stopReply index => exact byReply index rfl
  | _ => exact pumpStep_control taken

/-- The check passes on the current configuration. -/
theorem consult_reaches (peer : EndpointId) (config : Config) (tag : τ) (bytes : Framing.Bytes)
    (datagram : Admitted τ) (passed : consult peer config tag bytes = some datagram) :
    config.reaches peer .udp datagram.port = true := by
  unfold consult at passed
  split at passed
  · cases passed
  · split at passed
    · rename_i reached
      cases passed
      exact reached
    · cases passed

/-- The invariant. The receiver is never ahead; and while it has seen the latest
version, what the pump holds is granted by it, and so are the sessions unless the
pump is about to drop those that are not. -/
structure UpToDate (peer : EndpointId) (state : State τ) : Prop where
  behind : state.receiver.seen ≤ state.channel.version
  unused : state.pump = .starting → ∀ id, state.sessions.lookup id = none
  held : state.receiver.seen = state.channel.version → ∀ datagram,
    state.pump.datagram = some datagram → state.channel.value.reaches peer .udp datagram.port = true
  revoking : state.receiver.seen = state.channel.version → ∀ granted,
    state.pump = .revoking granted → granted = state.grants peer
  sessions : state.receiver.seen = state.channel.version → (∀ granted, state.pump ≠ .revoking granted) →
    ∀ id session, state.sessions.lookup id = some session →
      state.channel.value.reaches peer .udp session.port = true

/-- In the beginning the pump has not subscribed yet and there are no sessions. -/
theorem upToDate_initial (peer : EndpointId) (channel : Watch.Channel Config) (now : Instant) :
    UpToDate peer (initial channel now : State τ) := by
  constructor <;> simp [initial, Pump.datagram]

/-- A step that is none of the pump's control steps: the pump goes on with a
datagram that was granted, and may insert the session that it opened for one. -/
theorem UpToDate.other {state next : State τ} {action : Action τ} (upToDate : UpToDate peer state)
    (effect : Effect peer state action next) (channel : next.channel = state.channel)
    (receiver : next.receiver = state.receiver)
    (pump : next.pump = state.pump ∨ (∀ granted, state.pump ≠ .revoking granted) ∧
      next.pump ≠ .starting ∧ ∀ granted, next.pump ≠ .revoking granted) : UpToDate peer next where
  behind := by
    rw [channel, receiver]
    exact upToDate.behind
  unused starting id := by
    have started : state.pump = .starting := by
      rcases pump with same | ⟨_, elsewhere, _⟩
      · exact same.symm.trans starting
      · exact absurd starting elsewhere
    apply Option.eq_none_iff_forall_ne_some.mpr
    intro session present
    rcases session_origin effect id session present with
      ⟨before, known, _⟩ | ⟨datagram, sock, reply, held, _⟩
    · simp [upToDate.unused started id] at known
    · simp [started] at held
  held level datagram holds := by
    rw [channel, receiver] at level
    rw [channel]
    rcases datagram_origin effect datagram holds with before | ⟨tag, bytes, _, passed⟩
    · exact upToDate.held level datagram before
    · exact consult_reaches peer _ tag bytes datagram passed
  revoking level granted holds := by
    rw [channel, receiver] at level
    have before : state.pump = .revoking granted := by
      rcases pump with same | ⟨_, _, elsewhere⟩
      · exact same.symm.trans holds
      · exact absurd holds (elsewhere granted)
    rw [upToDate.revoking level granted before, State.grants, State.grants, channel]
  sessions level settled id session present := by
    rw [channel, receiver] at level
    rw [channel]
    have settledBefore : ∀ granted, state.pump ≠ .revoking granted := by
      rcases pump with same | ⟨elsewhere, _⟩
      · intro granted held
        exact settled granted (same.trans held)
      · exact elsewhere
    rcases session_origin effect id session present with
      ⟨before, known, same⟩ | ⟨datagram, sock, reply, held, _, same, _⟩
    · rw [same]
      exact upToDate.sessions level settledBefore id before known
    · rw [same]
      exact upToDate.held level datagram (by rw [held]; rfl)

/-- The step lemma. A publication leaves the receiver behind; a look at the
channel makes it level and hands the pump the current grants; dropping sessions
uses those. -/
theorem UpToDate.step {state next : State τ} {action : Action τ} (upToDate : UpToDate peer state)
    (taken : Serve.step peer state action = some next) : UpToDate peer next := by
  have effect : Effect peer state action next := step_effect peer state next action taken
  have control : Control peer state action next := step_control taken
  cases control with
  | other _ _ channel receiver pump => exact upToDate.other effect channel receiver pump
  | published config =>
    have behind : state.receiver.seen ≠ state.channel.version + 1 := by
      have := upToDate.behind
      omega
    exact ⟨Nat.le_succ_of_le upToDate.behind, upToDate.unused, fun level => absurd level behind,
      fun level => absurd level behind, fun level => absurd level behind⟩
  | subscribed starting =>
    refine ⟨Nat.le_refl _, by simp, by simp [Pump.datagram], by simp, ?_⟩
    intro _ _ id session present
    simp [upToDate.unused starting id] at present
  | noticed selecting =>
    refine ⟨Nat.le_refl _, by simp, by simp [Pump.datagram], ?_, ?_⟩
    · intro _ granted held
      exact (Pump.revoking.inj held).symm
    · intro _ settled
      exact absurd rfl (settled _)
  | revoked granted held =>
    refine ⟨upToDate.behind, by simp, by simp [Pump.datagram], by simp, ?_⟩
    intro level _ id session present
    simp only [State.retain, Table.lookup_retain, Option.filter_eq_some_iff,
      Sessions.stillGranted] at present
    rw [upToDate.revoking level granted held] at present
    exact present.2

/-- In every run, wherever the pump waits with the latest configuration seen,
every session is granted by it. -/
theorem no_session_outlives_grant (peer : EndpointId) (channel : Watch.Channel Config)
    (now : Instant) (actions : List (Action τ)) (last : State τ)
    (reached : run (step peer) (initial channel now) actions = some last) :
    SessionsGranted peer last := by
  have upToDate : UpToDate peer last :=
    invariant_of_run (step peer) (UpToDate peer) (fun _ _ _ holds taken => holds.step taken)
      (initial channel now) last actions (upToDate_initial peer channel now) reached
  intro selecting unchanged
  have level : last.receiver.seen = last.channel.version := by
    have behind := upToDate.behind
    have notBehind : ¬ last.receiver.seen < last.channel.version := by
      simpa [Watch.Channel.hasChanged] using unchanged
    omega
  have granted : ∀ id session, last.sessions.lookup id = some session →
      last.channel.value.reaches peer .udp session.port = true :=
    upToDate.sessions level (by simp [selecting])
  constructor
  · intro id session present
    exact (Config.reaches_iff_granted _ peer .udp _).mp (granted id session present)
  · intro refused
    apply Table.eq_empty_of_lookup
    intro id
    apply Option.eq_none_iff_forall_ne_some.mpr
    intro session present
    have admitted := Config.admits_of_reaches _ peer .udp _ (granted id session present)
    rw [refused] at admitted
    cases admitted

/-- DNS is withdrawn while a session for it is being opened; the session is
inserted all the same, and is dropped when the pump takes notice. -/
def withdrawnWhileOpening : List (Action Unit) :=
  .subscribe :: openSession 2 123 [8] ++
    [.read () (Framing.encodeDatagram 1 53 [7]), .check, .touch, .publish (offering false),
      .open true, .insert, .send true, .notice, .revoke]

/-- When the pump waits again, having seen the withdrawal, only the session of the
other port is left. -/
theorem withdrawn_session_dropped :
    ∃ last, run (step laptop) (initial (Watch.Channel.new (offering true)) 0)
        withdrawnWhileOpening = some last ∧
      last.pump = .selecting ∧ last.channel.hasChanged last.receiver = false ∧
      last.sessions.keys = [2] ∧ SessionsGranted laptop last := by
  refine ⟨_, rfl, rfl, rfl, by decide +kernel, ?_⟩
  exact no_session_outlives_grant laptop (Watch.Channel.new (offering true)) 0
    withdrawnWhileOpening _ rfl

end Rtun.Serve
