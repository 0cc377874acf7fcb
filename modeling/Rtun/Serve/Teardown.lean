import Rtun.Serve.Authorised

/-!
# What the end of a connection leaves behind

The table of sessions holds the handles by which their reply tasks are aborted, and
the reply tasks hold the table: only whoever empties the table ends them. The end of a
connection empties it once. Between spawning a reply task and inserting its session the
pump does not wait, so an abort that arrives there takes effect only afterwards, and an
insertion that comes after the table has been emptied is never undone.
-/

namespace Rtun.Serve

universe u
variable {τ : Type u} {peer : EndpointId}

open Run

/-- Once the connection has been torn down and its tasks have stopped, the table
is empty and every reply task has been told to abort or has ended. -/
def Released (state : State τ) : Prop :=
  state.link = .cleared → state.pump = .stopped → state.reaping = false →
    state.sessions = ∅ ∧ ∀ reply ∈ state.replies, reply.told = true ∨ reply.stage = .ended

/-- No session is inserted after the table has been emptied. -/
def insertsBeforeClear (state : State τ) (action : Action τ) : Bool :=
  match action with
  | .insert => decide (state.link ≠ .cleared)
  | _ => true

/-- The handle of a reply task can still be found: a session in the table has it,
or the pump is about to insert one that does. -/
def Reachable (state : State τ) (handle : Nat) : Prop :=
  (∃ id session, state.sessions.lookup id = some session ∧ session.reply = handle) ∨
    ∃ datagram sock, state.pump = .spawned datagram sock handle

/-- Every reply task is told to abort, has ended, or can still be aborted by
whoever drops its session; and the table stays empty once it has been emptied. -/
structure Accounted (state : State τ) : Prop where
  replies : ∀ (handle : Nat) (reply : Reply), state.replies[handle]? = some reply →
    reply.told = true ∨ reply.stage = .ended ∨ Reachable state handle
  emptied : state.link = .cleared → ∀ id, state.sessions.lookup id = none

/-- In the beginning there is nothing to release. -/
theorem accounted_initial (channel : Watch.Channel Config) (now : Instant) :
    Accounted (initial channel now : State τ) := by
  constructor <;> simp [initial]

/-- A touch keeps the task of every session. -/
theorem Sessions.touched_lookup (sessions : Sessions) (id other : UInt32) (now : Instant)
    (session : Session) (present : sessions.lookup other = some session) :
    ∃ after, (sessions.touched id now).lookup other = some after ∧ after.reply = session.reply := by
  cases found : sessions.lookup id with
  | none => exact ⟨session, by simpa [touched, touch, found] using present, rfl⟩
  | some known =>
    simp only [touched, touch, found, Table.lookup_insert_cases]
    by_cases same : other = id
    · subst same
      obtain rfl : known = session := Option.some.inj (found.symm.trans present)
      exact ⟨_, if_pos rfl, rfl⟩
    · exact ⟨session, by rw [if_neg same, present], rfl⟩

/-- A reply task stays told and stays ended. -/
theorem reply_kept {state next : State τ} {action : Action τ}
    (effect : Effect peer state action next) (handle : Nat) (before after : Reply)
    (known : state.replies[handle]? = some before) (found : next.replies[handle]? = some after) :
    (before.told = true → after.told = true) ∧ (before.stage = .ended → after.stage = .ended) := by
  have advanced (index : Nat) (old : Reply) (stage : Stage)
      (listed : state.replies[index]? = some old) (goesOn : old.stage = .ended → stage = .ended)
      (there : (state.replies.set index { old with stage })[handle]? = some after) :
      (before.told = true → after.told = true) ∧ (before.stage = .ended → after.stage = .ended) := by
    rcases (Slots.get_set_iff _ _ _ _ _ _ listed).mp there with ⟨rfl, rfl⟩ | ⟨_, other⟩
    · obtain rfl : old = before := Option.some.inj (listed.symm.trans known)
      exact ⟨id, goesOn⟩
    · obtain rfl : before = after := Option.some.inj (known.symm.trans other)
      exact ⟨id, id⟩
  have aborted (handles : List Nat) (there : (abortAll handles state.replies)[handle]? = some after) :
      (before.told = true → after.told = true) ∧ (before.stage = .ended → after.stage = .ended) := by
    rw [abortAll_get, known, Option.map_some, Option.some.injEq] at there
    subst there
    split
    · exact ⟨fun _ => rfl, id⟩
    · exact ⟨id, id⟩
  have same (there : state.replies[handle]? = some after) :
      (before.told = true → after.told = true) ∧ (before.stage = .ended → after.stage = .ended) := by
    obtain rfl : before = after := Option.some.inj (known.symm.trans there)
    exact ⟨id, id⟩
  cases effect with
  | quiet _ _ _ _ replies => exact same (replies ▸ found)
  | opened =>
    rcases (Slots.get_push_iff _ _ _ _).mp found with there | ⟨last, _⟩
    · exact same there
    · exact absurd (Slots.lt_length_of_get _ _ _ known) (by omega)
  | inserted => exact aborted _ found
  | dropped => exact aborted _ found
  | received index old payload listed waiting =>
    exact advanced index old _ listed (fun ended => by simp [waiting] at ended) found
  | failed index old listed => exact advanced index old _ listed (fun _ => rfl) found
  | answered index old payload accepted listed held =>
    exact advanced index old _ listed (fun ended => by simp [held] at ended) found
  | ended index old listed => exact advanced index old _ listed (fun _ => rfl) found
  | _ => exact same found

/-- A session that is in the table stays there, or its task is told to abort. -/
theorem session_kept {state next : State τ} {action : Action τ}
    (effect : Effect peer state action next) (id : UInt32) (session : Session) (reply : Reply)
    (present : state.sessions.lookup id = some session)
    (found : next.replies[session.reply]? = some reply) :
    reply.told = true ∨
      ∃ after, next.sessions.lookup id = some after ∧ after.reply = session.reply := by
  have aborted (handles : List Nat) (listed : session.reply ∈ handles)
      (there : (abortAll handles state.replies)[session.reply]? = some reply) :
      reply.told = true := by
    rw [abortAll_get, Option.map_eq_some_iff] at there
    obtain ⟨before, _, rfl⟩ := there
    rw [if_pos listed]
  cases effect with
  | quiet _ _ sessions => exact Or.inr ⟨session, sessions ▸ present, rfl⟩
  | found datagram =>
    exact Or.inr (Sessions.touched_lookup state.sessions datagram.id id state.now session present)
  | answered handle old =>
    exact Or.inr (Sessions.touched_lookup state.sessions old.id id state.now session present)
  | inserted datagram sock handle held =>
    by_cases same : id = datagram.id
    · subst same
      exact Or.inl (aborted _ (by simp [present]) found)
    · refine Or.inr ⟨session, ?_, rfl⟩
      rw [State.insert, Table.lookup_insert_cases, if_neg same]
      exact present
  | dropped _ keep =>
    cases kept : keep id session with
    | true => exact Or.inr ⟨session, by simp [State.retain, present, kept], rfl⟩
    | false =>
      have listed : session ∈ state.sessions.dropped keep :=
        (Table.mem_dropped _ _ _).mpr ⟨id, present, kept⟩
      exact Or.inl (aborted _ (List.mem_map_of_mem listed) found)
  | _ => exact Or.inr ⟨session, present, rfl⟩

/-- What the pump is about to insert is inserted by its next step, and by no
other. -/
theorem spawned_step {state next : State τ} {action : Action τ} {datagram : Admitted τ}
    {sock handle : Nat} (held : state.pump = .spawned datagram sock handle)
    (taken : step peer state action = some next) :
    next.pump = .spawned datagram sock handle ∨
      action = .insert ∧ ∃ session, next.sessions.lookup datagram.id = some session ∧
        session.reply = handle := by
  have byReply (index : Nat) (own : action.replyTask = some index) :
      next.pump = .spawned datagram sock handle := by
    obtain ⟨reply, _, stepped⟩ := reply_taken own taken
    exact (replyStep_frame stepped).1.trans held
  cases action with
  | insert =>
    simp only [step, pumpStep, held, Option.some.injEq] at taken
    subst taken
    refine Or.inr ⟨rfl, { sock, reply := handle, last := state.now, port := datagram.port }, ?_, rfl⟩
    simp [State.insert]
  | receive index payload => exact Or.inl (byReply index rfl)
  | recvError index => exact Or.inl (byReply index rfl)
  | answer index accepted => exact Or.inl (byReply index rfl)
  | stopReply index => exact Or.inl (byReply index rfl)
  | stopPump =>
    simp only [step, held, Option.ite_none_right_eq_some] at taken
    cases link : state.link <;> simp [Pump.canStop, link] at taken
  | publish | elapse =>
    cases taken
    exact Or.inl held
  | lose | reap | stopReaper | abortPumps | clear =>
    simp only [step, Option.ite_none_right_eq_some, Option.some.injEq] at taken
    obtain ⟨_, rfl⟩ := taken
    exact Or.inl held
  | send delivered => cases delivered <;> simp [step, pumpStep, held] at taken
  | «open» connected => cases connected <;> simp [step, pumpStep, held] at taken
  | _ => simp [step, pumpStep, held] at taken

/-- The table is emptied by one step only. -/
theorem link_step {state next : State τ} {action : Action τ}
    (taken : step peer state action = some next) (cleared : next.link = .cleared) :
    state.link = .cleared ∨ action = .clear := by
  have byReply (index : Nat) (own : action.replyTask = some index) : state.link = .cleared := by
    obtain ⟨reply, _, stepped⟩ := reply_taken own taken
    exact (replyStep_frame stepped).2.1.symm.trans cleared
  cases action with
  | clear => exact Or.inr rfl
  | receive index payload => exact Or.inl (byReply index rfl)
  | recvError index => exact Or.inl (byReply index rfl)
  | answer index accepted => exact Or.inl (byReply index rfl)
  | stopReply index => exact Or.inl (byReply index rfl)
  | publish | elapse =>
    cases taken
    exact Or.inl cleared
  | stopPump | reap | stopReaper =>
    simp only [step, Option.ite_none_right_eq_some, Option.some.injEq] at taken
    obtain ⟨_, rfl⟩ := taken
    exact Or.inl cleared
  | lose | abortPumps =>
    simp only [step, Option.ite_none_right_eq_some, Option.some.injEq] at taken
    obtain ⟨_, rfl⟩ := taken
    cases cleared
  | _ => exact Or.inl ((pumpStep_frame taken).2.1.symm.trans cleared)

/-- A task whose handle can be found stays so, or is told to abort. -/
theorem reachable_step {state next : State τ} {action : Action τ} {handle : Nat} {reply : Reply}
    (taken : step peer state action = some next) (reachable : Reachable state handle)
    (found : next.replies[handle]? = some reply) :
    reply.told = true ∨ Reachable next handle := by
  rcases reachable with ⟨id, session, present, rfl⟩ | ⟨datagram, sock, held⟩
  · rcases session_kept (step_effect peer state next action taken) id session reply present found with
      told | ⟨after, stays, same⟩
    · exact Or.inl told
    · exact Or.inr (Or.inl ⟨id, after, stays, same⟩)
  · rcases spawned_step held taken with stays | ⟨_, session, present, same⟩
    · exact Or.inr (Or.inr ⟨datagram, sock, stays⟩)
    · exact Or.inr (Or.inl ⟨datagram.id, session, present, same⟩)

/-- A task that was not there before is the one of the session about to be
inserted. -/
theorem reply_born {state next : State τ} {action : Action τ}
    (effect : Effect peer state action next) (handle : Nat) (after : Reply)
    (found : next.replies[handle]? = some after) :
    (∃ before, state.replies[handle]? = some before) ∨ Reachable next handle := by
  have aborted (handles : List Nat)
      (there : (abortAll handles state.replies)[handle]? = some after) :
      ∃ before, state.replies[handle]? = some before := by
    rw [abortAll_get, Option.map_eq_some_iff] at there
    obtain ⟨before, known, _⟩ := there
    exact ⟨before, known⟩
  cases effect with
  | opened datagram held =>
    rcases (Slots.get_push_iff _ _ _ _).mp found with known | ⟨rfl, _⟩
    · exact Or.inl ⟨after, known⟩
    · exact Or.inr (Or.inr ⟨datagram, _, rfl⟩)
  | quiet _ _ _ _ replies => exact Or.inl ⟨after, replies ▸ found⟩
  | inserted => exact Or.inl (aborted _ found)
  | dropped => exact Or.inl (aborted _ found)
  | received index old payload listed | failed index old listed
  | answered index old payload accepted listed | ended index old listed =>
    rcases (Slots.get_set_iff _ _ _ _ _ _ listed).mp found with ⟨rfl, _⟩ | ⟨_, other⟩
    · exact Or.inl ⟨old, listed⟩
    · exact Or.inl ⟨after, other⟩
  | _ => exact Or.inl ⟨after, found⟩

/-- The step lemma. An emptied table gets a session only by an insertion. -/
theorem Accounted.step {state next : State τ} {action : Action τ} (accounted : Accounted state)
    (condition : insertsBeforeClear state action = true)
    (taken : Serve.step peer state action = some next) : Accounted next := by
  have effect : Effect peer state action next := step_effect peer state next action taken
  constructor
  · intro handle after found
    rcases reply_born effect handle after found with ⟨before, known⟩ | reachable
    · obtain ⟨told, ended⟩ := reply_kept effect handle before after known found
      rcases accounted.replies handle before known with wasTold | hadEnded | reachable
      · exact Or.inl (told wasTold)
      · exact Or.inr (Or.inl (ended hadEnded))
      · rcases reachable_step taken reachable found with nowTold | reachable
        · exact Or.inl nowTold
        · exact Or.inr (Or.inr reachable)
    · exact Or.inr (Or.inr reachable)
  · intro cleared id
    rcases link_step taken cleared with before | rfl
    · apply Option.eq_none_iff_forall_ne_some.mpr
      intro session present
      rcases session_origin effect id session present with
        ⟨known, listed, _⟩ | ⟨datagram, sock, handle, held, _, _, sending, _⟩
      · simp [accounted.emptied before id] at listed
      · rcases spawned_step held taken with stays | ⟨rfl, _⟩
        · rw [sending] at stays
          cases stays
        · simp [insertsBeforeClear, before] at condition
    · simp only [Serve.step, Option.ite_none_right_eq_some, Option.some.injEq] at taken
      obtain ⟨_, rfl⟩ := taken
      cases found : state.sessions.lookup id <;> simp [State.retain, found]

/-- In every run in which no session is inserted after the table was emptied, the
end of the connection releases every session. -/
theorem teardown_releases (peer : EndpointId) (channel : Watch.Channel Config) (now : Instant)
    (actions : List (Action τ)) (last : State τ)
    (meets : Meets (step peer) (fun state action => insertsBeforeClear state action = true)
      (initial channel now) actions)
    (reached : run (step peer) (initial channel now) actions = some last) : Released last := by
  have accounted : Accounted last :=
    invariant_of_meets (step peer) _ Accounted
      (fun _ _ _ holds condition taken => holds.step condition taken)
      (initial channel now) last actions (accounted_initial channel now) meets reached
  intro cleared stopped _
  have nothing : ∀ id, last.sessions.lookup id = none := accounted.emptied cleared
  constructor
  · exact Table.eq_empty_of_lookup last.sessions nothing
  · intro reply member
    obtain ⟨handle, found⟩ := List.mem_iff_getElem?.mp member
    rcases accounted.replies handle reply found with
      told | ended | ⟨id, session, present, _⟩ | ⟨datagram, sock, held⟩
    · exact Or.inl told
    · exact Or.inr ended
    · simp [nothing id] at present
    · rw [stopped] at held
      cases held

/-- The condition is not too strong: an insertion into the emptied table stays
there when the reaper has stopped, and so does its reply task. -/
theorem late_insert_leaks (peer : EndpointId) (state : State τ) (datagram : Admitted τ)
    (sock handle : Nat) (held : state.pump = .spawned datagram sock handle)
    (cleared : state.link = .cleared) (stopped : state.reaping = false) :
    ∃ last, run (step peer) state [.insert, .stopPump] = some last ∧ ¬ Released last := by
  let session : Session := { sock, reply := handle, last := state.now, port := datagram.port }
  refine ⟨{ state.insert datagram.id session with pump := .stopped }, ?_, ?_⟩
  · simp [run, step, pumpStep, held, State.insert, Pump.canStop, cleared, session]
  · intro released
    have emptied := (released cleared rfl stopped).1
    have present : (state.sessions.insert datagram.id session).lookup datagram.id = some session :=
      AList.lookup_insert state.sessions
    simp only [State.insert] at emptied
    simp [emptied] at present

/-- The connection is lost after a session has answered, and everything stops. -/
def tornDown : List (Action Unit) :=
  .subscribe :: openSession 1 53 [7] ++
    [.receive 0 [70], .answer 0 true, .lose, .abortPumps, .clear, .stopPump, .stopReaper]

/-- The table is cleared after the last insertion, and the reply task of its
session is told to abort. -/
theorem torn_down_released :
    ∃ last, run (step laptop) (initial (Watch.Channel.new (offering true)) 0) tornDown = some last ∧
      last.link = .cleared ∧ last.replies.map Reply.told = [true] ∧ Released last := by
  refine ⟨_, rfl, rfl, by decide +kernel, ?_⟩
  exact teardown_releases laptop (Watch.Channel.new (offering true)) 0 tornDown _ (by decide) rfl

/-- The connection is torn down while the pump is between spawning a reply task
and inserting its session. -/
def insertedLate : List (Action Unit) :=
  [.subscribe, .read () (Framing.encodeDatagram 1 53 [7]), .check, .touch, .open true, .lose,
    .abortPumps, .clear, .insert, .stopPump, .stopReaper]

/-- The session is inserted after the table was cleared, and its reply task is
never told to abort. -/
theorem late_insert_survives :
    ∃ last, run (step laptop) (initial (Watch.Channel.new (offering true)) 0) insertedLate =
        some last ∧ last.replies.map Reply.told = [false] ∧ ¬ Released last := by
  refine ⟨_, rfl, by decide +kernel, ?_⟩
  intro released
  have aborted := (released rfl rfl rfl).2 _ List.mem_cons_self
  exact absurd aborted (by decide +kernel)

end Rtun.Serve
