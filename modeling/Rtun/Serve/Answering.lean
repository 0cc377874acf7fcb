import Rtun.Serve.Authorised

/-!
# Sessions that can answer

A table entry and its reply task are two halves of one session. The reaper, the
revocation and the teardown remove the entry and abort the task together. The task
has one exit of its own, the error branch of its receive, and that one leaves the
entry behind: from then on the session accepts datagrams and nobody reads replies.
-/

namespace Rtun.Serve

universe u
variable {τ : Type u} {peer : EndpointId}

open Framing Run

/-- The handle is that of a task which reads replies for this id from this socket,
and goes on doing so. -/
def Attended (replies : List Reply) (id : UInt32) (sock handle : Nat) : Prop :=
  ∃ reply, replies[handle]? = some reply ∧ reply.id = id ∧ reply.sock = sock ∧
    reply.told = false ∧ reply.stage ≠ .ended

/-- While the connection is open and the pump waits for its next event, or is
about to touch a session, every session in the table has a reply task that is
running. -/
def Answering (state : State τ) : Prop :=
  state.link = .established → (state.pump = .selecting ∨ ∃ datagram, state.pump = .granted datagram) →
    ∀ id session, state.sessions.lookup id = some session →
      Attended state.replies id session.sock session.reply

/-- A receive fails only on a socket whose reply task was told to abort. -/
def failsOnlyWhenTold (state : State τ) (action : Action τ) : Bool :=
  match action with
  | .recvError handle => (state.replies[handle]?).all Reply.told
  | _ => true

/-- Every session is attended, and so is the one about to be inserted, by a task
that no other session has. -/
structure Paired (state : State τ) : Prop where
  sessions : ∀ id session, state.sessions.lookup id = some session →
    Attended state.replies id session.sock session.reply
  inserting : ∀ datagram sock handle, state.pump = .spawned datagram sock handle →
    Attended state.replies datagram.id sock handle ∧
      ∀ id session, state.sessions.lookup id = some session → session.reply ≠ handle

/-- In the beginning there are no sessions that could lack their tasks. -/
theorem paired_initial (channel : Watch.Channel Config) (now : Instant) :
    Paired (initial channel now : State τ) := by
  constructor <;> simp [initial]

/-- A task that is not told to abort stays attended when others are. -/
theorem Attended.abortAll {replies : List Reply} {id : UInt32} {sock handle : Nat}
    (attended : Attended replies id sock handle) (handles : List Nat)
    (spared : handle ∉ handles) : Attended (abortAll handles replies) id sock handle := by
  obtain ⟨reply, present, rest⟩ := attended
  refine ⟨reply, ?_, rest⟩
  rw [abortAll_get, present]
  simp [spared]

/-- A step of one reply task within its loop leaves every task attended. -/
theorem Attended.advance {replies : List Reply} {id : UInt32} {sock handle index : Nat}
    (attended : Attended replies id sock handle) (reply : Reply) (stage : Stage)
    (present : replies[index]? = some reply) (running : reply.told = true ∨ stage ≠ .ended) :
    Attended (replies.set index { reply with stage }) id sock handle := by
  obtain ⟨known, found, sameId, sameSock, untold, alive⟩ := attended
  by_cases same : handle = index
  · subst same
    obtain rfl : reply = known := Option.some.inj (present.symm.trans found)
    have goesOn : stage ≠ .ended := by
      rcases running with told | goesOn
      · rw [untold] at told
        cases told
      · exact goesOn
    exact ⟨_, Slots.get_set_self _ _ _ _ present, sameId, sameSock, untold, goesOn⟩
  · exact ⟨known, (Slots.get_set_iff _ _ _ _ _ _ present).mpr (Or.inr ⟨same, found⟩),
      sameId, sameSock, untold, alive⟩

/-- A new task leaves every task attended. -/
theorem Attended.push {replies : List Reply} {id : UInt32} {sock handle : Nat}
    (attended : Attended replies id sock handle) (added : Reply) :
    Attended (replies ++ [added]) id sock handle := by
  obtain ⟨reply, present, rest⟩ := attended
  exact ⟨reply, (Slots.get_push_iff _ _ _ _).mpr (Or.inl present), rest⟩

/-- Two sessions with one task have one id, the one recorded in the task. -/
theorem Paired.owner {state : State τ} (paired : Paired state) (id other : UInt32)
    (session shared : Session) (present : state.sessions.lookup id = some session)
    (listed : state.sessions.lookup other = some shared) (same : shared.reply = session.reply) :
    other = id := by
  obtain ⟨task, found, taskId, _⟩ := paired.sessions id session present
  obtain ⟨task', found', taskId', _⟩ := paired.sessions other shared listed
  rw [same, found] at found'
  obtain rfl := Option.some.inj found'
  exact taskId'.symm.trans taskId

/-- The sessions of the next state are attended: an entry that stays was attended
before, and its task is not among those told to abort, since no other entry has
it. -/
theorem Paired.sessions_step {state next : State τ} {action : Action τ} (paired : Paired state)
    (condition : failsOnlyWhenTold state action = true) (effect : Effect peer state action next)
    (id : UInt32) (session : Session) (present : next.sessions.lookup id = some session) :
    Attended next.replies id session.sock session.reply := by
  cases effect with
  | quiet _ _ sessions _ replies =>
    rw [replies]
    exact paired.sessions id session (sessions ▸ present)
  | found datagram =>
    obtain ⟨before, known, same⟩ := Sessions.lookup_touched _ datagram.id id state.now session present
    rw [same]
    exact paired.sessions id before known
  | opened =>
    exact (paired.sessions id session present).push _
  | inserted datagram sock handle held =>
    obtain ⟨attended, unused⟩ := paired.inserting datagram sock handle held
    simp only [State.insert, Table.lookup_insert_cases] at present
    by_cases same : id = datagram.id
    · rw [if_pos same] at present
      cases present
      rw [same]
      apply attended.abortAll
      intro aborted
      obtain ⟨old, listed, isHandle⟩ := List.mem_map.mp aborted
      exact unused datagram.id old (Option.mem_toList.mp listed) isHandle
    · rw [if_neg same] at present
      apply (paired.sessions id session present).abortAll
      intro aborted
      obtain ⟨old, listed, isHandle⟩ := List.mem_map.mp aborted
      exact same (paired.owner id datagram.id session old present (Option.mem_toList.mp listed)
        isHandle).symm
  | dropped _ keep =>
    simp only [State.retain, Table.lookup_retain, Option.filter_eq_some_iff] at present
    apply (paired.sessions id session present.1).abortAll
    intro aborted
    obtain ⟨old, listed, isHandle⟩ := List.mem_map.mp aborted
    obtain ⟨other, known, fails⟩ := (Table.mem_dropped _ _ _).mp listed
    obtain rfl := paired.owner id other session old present.1 known isHandle
    obtain rfl := Option.some.inj (known.symm.trans present.1)
    simp [fails] at present
  | received handle reply payload found =>
    exact (paired.sessions id session present).advance reply _ found (Or.inr (by simp))
  | failed handle reply found =>
    have told : reply.told = true := by simpa [failsOnlyWhenTold, found] using condition
    exact (paired.sessions id session present).advance reply _ found (Or.inl told)
  | answered handle reply payload accepted found =>
    obtain ⟨before, known, same⟩ := Sessions.lookup_touched _ reply.id id state.now session present
    have attended := paired.sessions id before known
    rw [same]
    exact attended.advance reply _ found (Or.inr (by simp))
  | ended handle reply found told =>
    exact (paired.sessions id session present).advance reply _ found (Or.inl told)
  | _ => exact paired.sessions id session present

/-- The task of a session about to be inserted is attended and new. -/
theorem Paired.inserting_step {state next : State τ} {action : Action τ} (paired : Paired state)
    (condition : failsOnlyWhenTold state action = true) (effect : Effect peer state action next)
    (datagram : Admitted τ) (sock handle : Nat) (held : next.pump = .spawned datagram sock handle) :
    Attended next.replies datagram.id sock handle ∧
      ∀ id session, next.sessions.lookup id = some session → session.reply ≠ handle := by
  have holds : next.pump.datagram = some datagram := by
    rw [held]
    rfl
  cases effect with
  | quiet _ _ sessions _ replies _ _ settled =>
    have same := (Pump.datagram_of_settled _ _ datagram settled holds).symm.trans held
    rw [replies, sessions]
    exact paired.inserting datagram sock handle same
  | dropped _ keep pump _ settled =>
    have same := (Pump.datagram_of_settled _ _ datagram settled holds).symm.trans held
    obtain ⟨attended, unused⟩ := paired.inserting datagram sock handle same
    constructor
    · apply attended.abortAll
      intro aborted
      obtain ⟨old, listed, isHandle⟩ := List.mem_map.mp aborted
      obtain ⟨other, known, _⟩ := (Table.mem_dropped _ _ _).mp listed
      exact unused other old known isHandle
    · intro id session present
      simp only [State.retain, Table.lookup_retain, Option.filter_eq_some_iff] at present
      exact unused id session present.1
  | opened added was =>
    obtain ⟨rfl, rfl, rfl⟩ : added = datagram ∧ state.sockets.length = sock ∧
        state.replies.length = handle := by simpa using held
    constructor
    · exact ⟨_, (Slots.get_push_iff _ _ _ _).mpr (Or.inr ⟨rfl, rfl⟩), rfl, rfl, rfl, by simp⟩
    · intro id session present
      obtain ⟨reply, found, _⟩ := paired.sessions id session present
      exact Nat.ne_of_lt (Slots.lt_length_of_get _ _ _ found)
  | received index reply payload found =>
    obtain ⟨attended, unused⟩ := paired.inserting datagram sock handle held
    exact ⟨attended.advance reply _ found (Or.inr (by simp)), unused⟩
  | failed index reply found =>
    have told : reply.told = true := by simpa [failsOnlyWhenTold, found] using condition
    obtain ⟨attended, unused⟩ := paired.inserting datagram sock handle held
    exact ⟨attended.advance reply _ found (Or.inl told), unused⟩
  | answered index reply payload accepted found =>
    obtain ⟨attended, unused⟩ := paired.inserting datagram sock handle held
    refine ⟨attended.advance reply _ found (Or.inr (by simp)), ?_⟩
    intro id session present
    obtain ⟨before, known, same⟩ := Sessions.lookup_touched _ reply.id id state.now session present
    rw [same]
    exact unused id before known
  | ended index reply found told =>
    obtain ⟨attended, unused⟩ := paired.inserting datagram sock handle held
    exact ⟨attended.advance reply _ found (Or.inl told), unused⟩
  | read | admitted | found | missing | inserted | delivered => cases held

/-- In every run in which receives fail only on the sockets of sessions that were
dropped, every session in the table can answer. -/
theorem sessions_answer (peer : EndpointId) (channel : Watch.Channel Config) (now : Instant)
    (actions : List (Action τ)) (last : State τ)
    (meets : Meets (step peer) (fun state action => failsOnlyWhenTold state action = true)
      (initial channel now) actions)
    (reached : run (step peer) (initial channel now) actions = some last) : Answering last := by
  have paired : Paired last := by
    refine invariant_of_meets (step peer) _ Paired ?_ (initial channel now) last actions
      (paired_initial channel now) meets reached
    intro state action next holds condition taken
    have effect : Effect peer state action next := step_effect peer state next action taken
    exact ⟨holds.sessions_step condition effect, holds.inserting_step condition effect⟩
  exact fun _ _ => paired.sessions

/-- The condition is not too strong: a failed receive on the socket of a session
in the table leaves that session without anyone to read its replies. -/
theorem failure_mutes (peer : EndpointId) (state : State τ) (id : UInt32) (session : Session)
    (present : state.sessions.lookup id = some session) (reply : Reply)
    (found : state.replies[session.reply]? = some reply) (waiting : reply.stage = .receiving)
    (isOpen : state.link = .established) (selecting : state.pump = .selecting) :
    ∃ last, run (step peer) state [.recvError session.reply] = some last ∧ ¬ Answering last := by
  refine ⟨state.advance session.reply reply .ended, ?_, ?_⟩
  · simp [run, step, replyStep, found, waiting]
  · intro answering
    obtain ⟨task, present', _, _, _, alive⟩ := answering isOpen (Or.inl selecting) id session present
    obtain rfl : { reply with stage := .ended } = task :=
      Option.some.inj ((Slots.get_set_self _ _ _ _ found).symm.trans present')
    exact alive rfl

/-- A session answers once and is idle for over a minute; the reaper drops it and
its task ends, and the same id opens a new session. -/
def answeredAndReaped : List (Action Unit) :=
  .subscribe :: openSession 1 53 [7] ++
    [.receive 0 [70], .answer 0 true, .elapse udpIdle, .reap, .recvError 0] ++ openSession 1 53 [8]

/-- The new session has a reply task of its own, the second one that was
spawned. -/
theorem reopened_session_answers :
    ∃ last, run (step laptop) (initial (Watch.Channel.new (offering true)) 0) answeredAndReaped =
        some last ∧ (last.sessions.lookup 1).map Session.reply = some 1 ∧ Answering last := by
  refine ⟨_, rfl, by decide +kernel, ?_⟩
  exact sessions_answer laptop (Watch.Channel.new (offering true)) 0 answeredAndReaped _
    (by decide) rfl

/-- The local service is down when the first datagram arrives: the refusal ends
the task, the session stays, and the next datagram is sent on its socket. -/
def refusedOnce : List (Action Unit) :=
  .subscribe :: openSession 1 53 [7] ++ [.recvError 0] ++ useSession 1 53 [8]

/-- Both datagrams have gone out on the first socket, and nobody reads its replies
any more. -/
theorem refused_session_is_mute :
    ∃ last, run (step laptop) (initial (Watch.Channel.new (offering true)) 0) refusedOnce =
        some last ∧ last.sent.map Sent.sock = [0, 0] ∧ ¬ Answering last := by
  refine ⟨_, rfl, rfl, ?_⟩
  intro answering
  obtain ⟨reply, found, _, _, _, alive⟩ := answering rfl (Or.inl rfl) 1 _ rfl
  cases found
  exact alive rfl

end Rtun.Serve
