import Rtun.Connect.Dialing

/-!
# Who reads a bound socket

A listener that is reported as listening is served by one forwarder, which is spawned
when the connection forms or the listeners change. Nobody looks after the forwarders in
between: one that returns on an error of its socket, or that panics, is not replaced, and
its listener is listening for nobody. Short of that every bound listener is served.
-/

namespace Rtun.Connect.Dialing

open Run

/-- The port maps of the forwarders that read a socket: those that have neither
ended nor been told to abort. -/
def readers (state : State) (proto : Proto) (sock : Nat) : List PortMap :=
  match proto with
  | .tcp =>
      ((state.acceptors.filter (fun acceptor => !acceptor.told)).filter
        (fun acceptor => !acceptor.ended && acceptor.sock == sock)).map Acceptor.map
  | .udp =>
      (state.inner.generations.filter (fun generation => !generation.told)).flatMap
        (fun generation => (generation.forwarders.filter
          (fun forwarder => !hasEnded forwarder && forwarder.sock == sock)).map Forwarder.map)

/-- A bound listener is reported as listening, and exactly one forwarder reads its
socket, which sends to its remote port. If all that was published has been seen,
that is the port of the configured binding. -/
structure ServedAt (state : State) (key : Proto × UInt16) (listener : Listener) : Prop where
  reported : state.inner.runtime.binds.lookup key = some .listening
  reader : readers state key.1 listener.sock =
    [{ localPort := key.2, remotePort := listener.remote }]
  current : state.inner.channel.hasChanged state.inner.receiver = false →
    ∃ binding ∈ state.inner.channel.value.activeBindings,
      binding.key = key ∧ listener.remote = binding.remotePort

/-- While the main loop waits with a connection held, what is bound is served. -/
def Served (state : State) : Prop :=
  state.phase = .held → state.inner.loop = .selecting →
    ∀ key listener, state.inner.listeners.bound.lookup key = some listener →
      ServedAt state key listener

/-- The datagram that the forwarder holds opens a session beyond the last id. -/
def overflows (checks : Bool) (generation : Generation) (handle : Nat) : Bool :=
  match generation.forwarders[handle]? with
  | none => false
  | some forwarder =>
      match forwarder.stage with
      | .received origin _ =>
          checks && generation.sessions.nextId == 0xffffffff &&
            (generation.sessions.byKey.lookup (origin.src, forwarder.map.remotePort)).isNone
      | _ => false

/-- The step of a task ends no forwarder that has not been told to abort. -/
def sparesForwarder (checks : Bool) (generations : List Generation) (action : Connect.Action) : Bool :=
  match action with
  | .recvError index _ =>
      match generations[index]? with
      | none => true
      | some generation => generation.told
  | .forward index handle _ =>
      match generations[index]? with
      | none => true
      | some generation => generation.told || !overflows checks generation handle
  | _ => true

/-- While the main loop waits with a connection held, no error of a socket and no
panic ends a forwarder that has not been told to abort. -/
def sparesReaders (checks : Bool) (state : State) (action : Action) : Bool :=
  if state.phase = .held ∧ state.inner.loop = .selecting then
    match action with
    | .acceptError index =>
        match state.acceptors[index]? with
        | none => true
        | some acceptor => acceptor.told
    | .task action => sparesForwarder checks state.inner.generations action
    | _ => true
  else true

/-- No current forwarder has ended while the main loop waits with a connection
held. -/
def Running (state : State) : Prop :=
  state.phase = .held → state.inner.loop = .selecting →
    (∀ generation ∈ state.inner.generations, generation.told = false →
      ∀ forwarder ∈ generation.forwarders, hasEnded forwarder = false) ∧
    ∀ acceptor ∈ state.acceptors, acceptor.told = false → acceptor.ended = false

/-- Of the tasks that were spawned for the listeners of a protocol, exactly one
reads each of their sockets if and only if none has ended. -/
theorem all_read_iff {α : Type} (place : α → Nat × PortMap) (ended : α → Bool) (tasks : List α)
    (listeners : Listeners) (runtime : Runtime) (inOrder : InOrder listeners runtime) (proto : Proto)
    (places : tasks.map place = listeners.bearing proto) :
    (∀ localPort listener, listeners.bound.lookup (proto, localPort) = some listener →
      (tasks.filter (fun task => !ended task && (place task).1 == listener.sock)).map
          (fun task => (place task).2) =
        [{ localPort, remotePort := listener.remote }]) ↔
      ∀ task ∈ tasks, ended task = false := by
  have distinct : (tasks.map (fun task => (place task).1)).Nodup := by
    have sockets := inOrder.distinct proto
    rw [← places, List.map_map] at sockets
    exact sockets
  constructor
  · intro read task member
    have listed : place task ∈ listeners.bearing proto := places ▸ List.mem_map_of_mem member
    have bound := (listeners.mem_bearing proto (place task).1 (place task).2).mp listed
    have one := read (place task).2.localPort _ bound
    obtain ⟨reader, found, _⟩ := List.mem_map.mp (one ▸ List.mem_singleton_self _)
    rw [List.mem_filter, Bool.and_eq_true, Bool.not_eq_true', beq_iff_eq] at found
    obtain ⟨isTask, running, same⟩ := found
    have self : reader = task := List.inj_on_of_nodup_map distinct isTask member same
    exact self ▸ running
  · intro running localPort listener bound
    have listed := (listeners.mem_bearing proto listener.sock
      { localPort, remotePort := listener.remote }).mpr bound
    obtain ⟨task, member, at'⟩ := List.mem_map.mp (places ▸ listed)
    have readsOnly : tasks.filter (fun other => !ended other && (place other).1 == listener.sock) =
        tasks.filter (fun other => (place other).1 == (place task).1) := by
      apply List.filter_congr
      intro other isTask
      rw [running other isTask, at']
      rfl
    rw [readsOnly, Slots.filter_mark (fun task => (place task).1) tasks distinct task member]
    simp [at']

/-- While the main loop waits with a connection held, what is bound is served
exactly if no current forwarder has ended. -/
theorem served_iff_running {state : State} (sound : Sound state) : Served state ↔ Running state := by
  unfold Served Running
  apply forall_congr'
  intro held
  apply forall_congr'
  intro selecting
  obtain ⟨generation, only, places⟩ := current_generation sound held selecting
  have inOrder := sound.configured.inOrder
  have forwarders := all_read_iff Forwarder.place hasEnded generation.forwarders _ _ inOrder .udp places
  have acceptors := all_read_iff Acceptor.place Acceptor.ended _ _ _ inOrder .tcp
    (sound.staffed.serving held selecting).2
  have isCurrent (other : Generation) (member : other ∈ state.inner.generations) :
      other.told = false ↔ other = generation := by
    rw [← List.mem_singleton (b := generation), ← only, List.mem_filter, Bool.not_eq_true']
    exact (and_iff_right member).symm
  have udp (sock : Nat) : readers state .udp sock = (generation.forwarders.filter
      (fun forwarder => !hasEnded forwarder && forwarder.sock == sock)).map Forwarder.map := by
    simp [readers, only]
  constructor
  · intro served
    constructor
    · intro other member untold
      rw [(isCurrent other member).mp untold]
      apply forwarders.mp
      intro localPort listener bound
      exact (udp listener.sock).symm.trans (served (.udp, localPort) listener bound).reader
    · intro acceptor member untold
      apply acceptors.mp _ acceptor (List.mem_filter.mpr ⟨member, by simp [untold]⟩)
      intro localPort listener bound
      exact (served (.tcp, localPort) listener bound).reader
  · rintro ⟨forwardersRun, acceptorsRun⟩ ⟨proto, localPort⟩ listener bound
    refine ⟨inOrder.reported _ listener bound, ?_,
      fun level => sound.configured.wanted level _ listener bound⟩
    cases proto with
    | udp =>
      have listed : generation ∈ state.inner.generations.filter (fun generation => !generation.told) := by
        rw [only]
        exact List.mem_singleton_self generation
      obtain ⟨member, untold⟩ := List.mem_filter.mp listed
      rw [udp]
      exact forwarders.mpr (forwardersRun generation member (by simpa using untold)) localPort
        listener bound
    | tcp =>
      apply acceptors.mpr _ localPort listener bound
      intro acceptor listed
      obtain ⟨member, untold⟩ := List.mem_filter.mp listed
      exact acceptorsRun acceptor member (by simpa using untold)

/-- Every table is keyed, whatever the tasks do. -/
theorem keyed_effect {checks : Bool} {state next : Connect.State} {action : Connect.Action}
    (keyed : ∀ generation ∈ state.generations, generation.sessions.Keyed)
    (effect : Effect checks state action next) :
    ∀ generation ∈ next.generations, generation.sessions.Keyed := by
  have replaced (index : Nat) (after : Generation) (still : after.sessions.Keyed)
      (generations : next.generations = state.generations.set index after) :
      ∀ generation ∈ next.generations, generation.sessions.Keyed := by
    intro generation member
    rw [generations] at member
    rcases List.mem_or_eq_of_mem_set member with before | isNew
    · exact keyed generation before
    · exact isNew ▸ still
  cases effect with
  | quiet _ _ generations => exact generations ▸ keyed
  | respawned _ _ _ generations =>
    intro generation member
    rw [generations] at member
    rcases List.mem_append.mp member with old | isNew
    · obtain ⟨before, listed, rfl⟩ := List.mem_map.mp old
      exact keyed before listed
    · rw [List.mem_singleton.mp isNew]
      exact keyed_empty
  | calmed _ _ index before after present calms generations =>
    have was := keyed before (List.mem_of_getElem? present)
    apply replaced index after _ generations
    rcases calms.sessions with same | reaped
    · exact same ▸ was
    · exact reaped ▸ was.reap state.now
  | received index _ generation _ _ _ _ present _ generations =>
    apply replaced index _ _ generations
    exact keyed generation (List.mem_of_getElem? present)
  | forwarded index _ _ generation _ _ _ _ _ _ present _ _ minted generations =>
    exact replaced index _ ((keyed generation (List.mem_of_getElem? present)).idFor minted) generations
  | got index generation _ _ _ present generations =>
    apply replaced index _ _ generations
    exact keyed generation (List.mem_of_getElem? present)
  | routed index generation _ _ _ _ _ _ _ _ _ present _ _ route generations =>
    exact replaced index _ ((keyed generation (List.mem_of_getElem? present)).replyRoute route)
      generations
  | handedOver index _ generation _ _ _ _ _ present _ generations =>
    apply replaced index _ _ generations
    exact keyed generation (List.mem_of_getElem? present)

/-- No forwarder of the generation has ended, and none has panicked. -/
structure Unharmed (generation : Generation) : Prop where
  poisoned : generation.poisoned = false
  running : ∀ forwarder ∈ generation.forwarders, hasEnded forwarder = false

/-- A generation that was just spawned has had no panic, and none of its tasks has
ended. -/
theorem unharmed_spawned (listeners : Listeners) : Unharmed (spawnForwarders listeners) := by
  refine ⟨rfl, ?_⟩
  intro forwarder member
  obtain ⟨_, _, rfl⟩ := List.mem_map.mp member
  rfl

/-- A forwarder that goes on does not harm its generation. -/
theorem Unharmed.stage {generation : Generation} (unharmed : Unharmed generation) (handle : Nat)
    (forwarder : Forwarder) (stage : Forwarding) (running : hasEnded { forwarder with stage } = false)
    (sessions : Sessions) (log : List Key) :
    Unharmed { generation with
      sessions, log, forwarders := generation.forwarders.set handle { forwarder with stage } } := by
  refine ⟨unharmed.poisoned, ?_⟩
  intro other member
  rcases List.mem_or_eq_of_mem_set member with before | isNew
  · exact unharmed.running other before
  · exact isNew ▸ running

/-- The step of a forwarder ends it neither by an error nor by a panic. -/
def sparesOwn (checks : Bool) (generation : Generation) (handle : Nat) (action : Connect.Action) :
    Bool :=
  match action with
  | .recvError _ _ => false
  | .forward _ _ _ => !overflows checks generation handle
  | _ => true

/-- What the step of a forwarder does to a generation that has not been told to
abort: either no harm, or it has ended. -/
theorem forwarderStep_harm {checks : Bool} {state next : Connect.State} {index handle : Nat}
    {generation : Generation} {forwarder : Forwarder} {action : Connect.Action}
    (listed : generation.forwarders[handle]? = some forwarder) (keyed : generation.sessions.Keyed)
    (unharmed : generation.told = false → Unharmed generation)
    (taken : forwarderStep checks state index generation handle forwarder action = some next) :
    ∃ after, next.generations = state.generations.set index after ∧
      after.told = generation.told ∧ (generation.told = false →
        if sparesOwn checks generation handle action then Unharmed after
        else ∃ other ∈ after.forwarders, hasEnded other = true) := by
  have ended : { forwarder with stage := .ended } ∈
      generation.forwarders.set handle { forwarder with stage := .ended } :=
    List.mem_of_getElem? (Slots.get_set_self _ handle forwarder _ listed)
  unfold forwarderStep at taken
  dsimp only at taken
  split at taken
  · cases taken
    exact ⟨_, rfl, rfl, fun untold => (unharmed untold).stage handle forwarder _ rfl _ _⟩
  · cases taken
    exact ⟨_, rfl, rfl, fun _ => ⟨_, ended, rfl⟩⟩
  · split at taken
    · rename_i told
      cases taken
      refine ⟨_, rfl, rfl, ?_⟩
      intro untold
      rw [told] at untold
      cases untold
    · cases taken
  · rename_i origin payload stage
    have limit : overflows checks generation handle = true ↔
        generation.sessions.idFor checks origin.src forwarder.map.remotePort forwarder.sock
          state.now = none := by
      rw [keyed.idFor_none_iff]
      simp [overflows, listed, stage, and_assoc]
    split at taken
    · rename_i poisoned
      cases taken
      refine ⟨_, rfl, rfl, ?_⟩
      intro untold
      have clean := (unharmed untold).poisoned
      rw [poisoned] at clean
      cases clean
    · split at taken
      · rename_i panicked
        cases taken
        refine ⟨_, rfl, rfl, ?_⟩
        intro _
        simp only [sparesOwn, limit.mpr panicked, Bool.not_true, Bool.false_eq_true, if_false]
        exact ⟨_, ended, rfl⟩
      · rename_i minted
        cases taken
        have within : overflows checks generation handle = false := by
          rw [← Bool.not_eq_true, limit, minted]
          simp
        refine ⟨_, rfl, rfl, ?_⟩
        intro untold
        simp only [sparesOwn, within, Bool.not_false, if_true]
        exact (unharmed untold).stage handle forwarder _ rfl _ _
  · cases taken

/-- No current generation is harmed, or a forwarder of one of them has ended. -/
def SparedOrEnded (spared : Bool) (generations : List Generation) : Prop :=
  if spared then ∀ generation ∈ generations, generation.told = false → Unharmed generation
  else ∃ generation ∈ generations, generation.told = false ∧
    ∃ forwarder ∈ generation.forwarders, hasEnded forwarder = true

/-- Overwriting one generation by an unharmed one, or by one that was told to
abort. -/
theorem unharmed_set (generations : List Generation) (index : Nat) (after : Generation)
    (unharmed : ∀ generation ∈ generations, generation.told = false → Unharmed generation)
    (still : after.told = false → Unharmed after) :
    ∀ generation ∈ generations.set index after, generation.told = false → Unharmed generation := by
  intro generation member
  rcases List.mem_or_eq_of_mem_set member with before | isNew
  · exact unharmed generation before
  · exact isNew ▸ still

/-- What the step of a forwarder does to the current generations. -/
theorem forwarder_harm {checks : Bool} {state next : Connect.State} {action : Connect.Action}
    {index handle : Nat} {generation : Generation} {forwarder : Forwarder}
    (keyed : ∀ generation ∈ state.generations, generation.sessions.Keyed)
    (unharmed : ∀ generation ∈ state.generations, generation.told = false → Unharmed generation)
    (present : state.generations[index]? = some generation)
    (listed : generation.forwarders[handle]? = some forwarder)
    (taken : forwarderStep checks state index generation handle forwarder action = some next) :
    SparedOrEnded (generation.told || sparesOwn checks generation handle action)
      next.generations := by
  have member := List.mem_of_getElem? present
  obtain ⟨after, generations, told, harm⟩ := forwarderStep_harm listed (keyed generation member)
    (unharmed generation member) taken
  rw [generations]
  cases wasTold : generation.told with
  | true =>
    apply unharmed_set _ index after unharmed
    intro untold
    rw [told, wasTold] at untold
    cases untold
  | false =>
    have done := harm wasTold
    cases own : sparesOwn checks generation handle action with
    | true =>
      rw [own, if_pos rfl] at done
      exact unharmed_set _ index after unharmed (fun _ => done)
    | false =>
      rw [own, if_neg Bool.false_ne_true] at done
      exact ⟨after, List.mem_of_getElem? (Slots.get_set_self _ index generation after present),
        told.trans wasTold, done⟩

/-- What the step of a task does to the current generations. -/
theorem task_harm {checks : Bool} {state next : Connect.State} {action : Connect.Action}
    (isTask : ofTasks action = true)
    (keyed : ∀ generation ∈ state.generations, generation.sessions.Keyed)
    (unharmed : ∀ generation ∈ state.generations, generation.told = false → Unharmed generation)
    (taken : Connect.step checks state action = some next) :
    SparedOrEnded (sparesForwarder checks state.generations action) next.generations := by
  have ofForwarder (index handle : Nat)
      (spares : ∀ generation, state.generations[index]? = some generation →
        sparesForwarder checks state.generations action =
          (generation.told || sparesOwn checks generation handle action))
      (own : action.forwarder = some (index, handle)) :
      SparedOrEnded (sparesForwarder checks state.generations action) next.generations := by
    obtain ⟨generation, forwarder, present, listed, stepped⟩ := forwarder_taken own taken
    rw [spares generation present]
    exact forwarder_harm keyed unharmed present listed stepped
  have ofGeneration (index : Nat) (spares : sparesForwarder checks state.generations action = true)
      (own : action.generation = some index) :
      SparedOrEnded (sparesForwarder checks state.generations action) next.generations := by
    obtain ⟨generation, present, stepped⟩ := generation_taken own taken
    obtain ⟨after, taskStep, forwarders, poisoned⟩ := generationStep_task present stepped
    rw [spares, taskStep.generations]
    apply unharmed_set _ index after unharmed
    intro untold
    have before := unharmed generation (List.mem_of_getElem? present)
      (taskStep.continues.told.symm.trans untold)
    exact ⟨poisoned.trans before.poisoned, by rw [forwarders]; exact before.running⟩
  cases action with
  | publish | reconcile | respawn => cases isTask
  | elapse nanos =>
    cases taken
    exact unharmed
  | receive index handle src payload =>
    exact ofForwarder index handle (fun generation _ => (Bool.or_true _).symm) rfl
  | recvError index handle =>
    exact ofForwarder index handle (fun generation present => by
      simp [sparesForwarder, sparesOwn, present]) rfl
  | forward index handle accepted =>
    exact ofForwarder index handle (fun generation present => by
      simp [sparesForwarder, sparesOwn, present]) rfl
  | stopForwarder index handle =>
    exact ofForwarder index handle (fun generation _ => (Bool.or_true _).symm) rfl
  | read index bytes via => exact ofGeneration index rfl rfl
  | route index => exact ofGeneration index rfl rfl
  | handOver index delivered => exact ofGeneration index rfl rfl
  | stopInbound index => exact ofGeneration index rfl rfl
  | reap index => exact ofGeneration index rfl rfl
  | stopReaper index => exact ofGeneration index rfl rfl

/-- The tables are keyed in every run. -/
theorem keyed_step {checks : Bool} {peer : EndpointId} {state next : State} {action : Action}
    (keyed : ∀ generation ∈ state.inner.generations, generation.sessions.Keyed)
    (moves : Moves checks peer state action next) :
    ∀ generation ∈ next.inner.generations, generation.sessions.Keyed := by
  have told : ∀ generation ∈ state.inner.generations.map
      (fun generation => { generation with told := true }), generation.sessions.Keyed := by
    intro generation member
    obtain ⟨before, listed, rfl⟩ := List.mem_map.mp member
    exact keyed before listed
  have spawned (generations : List Generation)
      (known : ∀ generation ∈ generations, generation.sessions.Keyed) :
      ∀ generation ∈ generations ++ [spawnForwarders state.inner.listeners],
        generation.sessions.Keyed := by
    intro generation member
    rcases List.mem_append.mp member with old | isNew
    · exact known generation old
    · rw [List.mem_singleton.mp isNew]
      exact keyed_empty
  cases moves with
  | published | bound | failed | reported | reconciled | linkLost | observed | retried | acceptFailed
  | acceptorStopped => exact keyed
  | connected => exact spawned _ keyed
  | respawned => exact spawned _ told
  | dropped => exact told
  | readFailed index generation present =>
    intro other member
    rcases List.mem_or_eq_of_mem_set member with before | isNew
    · exact keyed other before
    · rw [isNew]
      exact keyed generation (List.mem_of_getElem? present)
  | tasked action inner isTask taken => exact keyed_effect keyed (step_effect _ _ _ _ taken)

/-- What every run keeps whose steps spare the readers. -/
structure Healthy (state : State) : Prop where
  sound : Sound state
  keyed : ∀ generation ∈ state.inner.generations, generation.sessions.Keyed
  working : state.phase = .held → state.inner.loop = .selecting →
    (∀ generation ∈ state.inner.generations, generation.told = false → Unharmed generation) ∧
      ∀ acceptor ∈ state.acceptors, acceptor.told = false → acceptor.ended = false

/-- The invariant gives the property: on a connection that is held, every listener
has a task that takes its traffic. -/
theorem Healthy.served {state : State} (healthy : Healthy state) : Served state := by
  apply (served_iff_running healthy.sound).mpr
  intro held selecting
  obtain ⟨unharmed, accepting⟩ := healthy.working held selecting
  refine ⟨?_, accepting⟩
  intro generation member untold
  exact (unharmed generation member untold).running

/-- New forwarders next to those that were told do no harm. -/
theorem unharmed_spawn (generations : List Generation) (listeners : Listeners)
    (told : ∀ generation ∈ generations, generation.told = true) :
    ∀ generation ∈ generations ++ [spawnForwarders listeners], generation.told = false →
      Unharmed generation := by
  intro generation member untold
  rcases List.mem_append.mp member with old | isNew
  · rw [told generation old] at untold
    cases untold
  · rw [List.mem_singleton.mp isNew]
    exact unharmed_spawned listeners

/-- The acceptors that were spawned last have not ended, and the older ones were
told to. -/
theorem accepting_spawn (acceptors : List Acceptor) (listeners : Listeners)
    (told : ∀ acceptor ∈ acceptors, acceptor.told = true) :
    ∀ acceptor ∈ acceptors ++ spawnAcceptors listeners, acceptor.told = false →
      acceptor.ended = false := by
  intro acceptor member untold
  rcases List.mem_append.mp member with old | isNew
  · rw [told acceptor old] at untold
    cases untold
  · obtain ⟨_, _, rfl⟩ := List.mem_map.mp isNew
    rfl

/-- An acceptor that ends after it was told to is no loss. -/
theorem accepting_set (acceptors : List Acceptor) (index : Nat) (acceptor : Acceptor)
    (told : acceptor.told = true)
    (accepting : ∀ acceptor ∈ acceptors, acceptor.told = false → acceptor.ended = false) :
    ∀ other ∈ acceptors.set index { acceptor with ended := true }, other.told = false →
      other.ended = false := by
  intro other member untold
  rcases List.mem_or_eq_of_mem_set member with before | isNew
  · exact accepting other before untold
  · rw [isNew] at untold
    exact absurd (told.symm.trans untold) (by simp)

/-- The step lemma: the forwarders are kept healthy by a step that spares the
readers. -/
theorem healthy_step {checks : Bool} {peer : EndpointId} {state next : State} {action : Action}
    (healthy : Healthy state) (spares : sparesReaders checks state action = true)
    (taken : step checks peer state action = some next) : Healthy next := by
  have moves := step_moves taken
  refine ⟨sound_step healthy.sound taken, keyed_step healthy.keyed moves, ?_⟩
  have working := healthy.working
  intro held selecting
  cases moves with
  | published | reported | linkLost => exact working held selecting
  | bound bindOne starting =>
    simp only [State.boundInitially] at held
    split at held <;> cases held
  | connected selected dialing =>
    obtain ⟨toldForwarders, toldAcceptors⟩ := told_of_idle healthy.sound (by simp [dialing])
    exact ⟨unharmed_spawn _ _ toldForwarders, accepting_spawn _ _ toldAcceptors⟩
  | failed | retried => cases held
  | reconciled bindOne _ before => exact working held before
  | respawned =>
    refine ⟨unharmed_spawn _ _ ?_, accepting_spawn _ _ ?_⟩
    · intro generation member
      obtain ⟨_, _, rfl⟩ := List.mem_map.mp member
      rfl
    · intro acceptor member
      obtain ⟨_, _, rfl⟩ := List.mem_map.mp member
      rfl
  | dropped refused =>
    simp only [State.dropped] at held
    split at held <;> cases held
  | observed bindOne deadline waiting => exact absurd (waiting.symm.trans held) (by simp)
  | acceptFailed index acceptor present =>
    have told : acceptor.told = true := by
      have here : state.phase = .held ∧ state.inner.loop = .selecting := ⟨held, selecting⟩
      simpa only [sparesReaders, if_pos here, present] using spares
    obtain ⟨unharmed, accepting⟩ := working held selecting
    exact ⟨unharmed, accepting_set state.acceptors index acceptor told accepting⟩
  | acceptorStopped index acceptor _ told =>
    obtain ⟨unharmed, accepting⟩ := working held selecting
    exact ⟨unharmed, accepting_set state.acceptors index acceptor told accepting⟩
  | readFailed index generation present =>
    obtain ⟨unharmed, accepting⟩ := working held selecting
    refine ⟨?_, accepting⟩
    intro other member untold
    rcases List.mem_or_eq_of_mem_set member with before | isNew
    · exact unharmed other before untold
    · rw [isNew] at untold ⊢
      have was := unharmed generation (List.mem_of_getElem? present) untold
      exact ⟨was.poisoned, was.running⟩
  | tasked action inner isTask moved =>
    obtain ⟨_, _, loop, _, _⟩ := tasks_alone isTask moved
    have before : state.phase = .held ∧ state.inner.loop = .selecting :=
      ⟨held, loop.symm.trans selecting⟩
    obtain ⟨unharmed, accepting⟩ := working before.1 before.2
    have harm := task_harm isTask healthy.keyed unharmed moved
    simp only [sparesReaders, if_pos before] at spares
    rw [spares] at harm
    exact ⟨harm, accepting⟩

/-- A step that does not spare the readers leaves a bound listener without one. -/
theorem unserved_step {checks : Bool} {peer : EndpointId} {state next : State} {action : Action}
    (healthy : Healthy state) (taken : step checks peer state action = some next)
    (served : Served next) : sparesReaders checks state action = true := by
  have running := (served_iff_running (sound_step healthy.sound taken)).mp served
  have moves := step_moves taken
  by_cases here : state.phase = .held ∧ state.inner.loop = .selecting
  · simp only [sparesReaders, if_pos here]
    cases moves with
    | published | bound | connected | failed | reported | reconciled | respawned | linkLost
    | dropped | observed | retried | acceptorStopped | readFailed => rfl
    | acceptFailed index acceptor present =>
      simp only [present]
      by_contra untold
      rw [Bool.not_eq_true] at untold
      have listed : { acceptor with ended := true } ∈
          (state.endedAcceptor index acceptor).acceptors :=
        List.mem_of_getElem? (Slots.get_set_self _ index acceptor _ present)
      have alive := (running here.1 here.2).2 _ listed untold
      cases alive
    | tasked action inner isTask moved =>
      obtain ⟨_, _, loop, _, _⟩ := tasks_alone isTask moved
      have harm := task_harm isTask healthy.keyed (healthy.working here.1 here.2).1 moved
      by_contra lost
      have notSpared : sparesForwarder checks state.inner.generations action = false :=
        Bool.not_eq_true _ |>.mp lost
      rw [notSpared] at harm
      obtain ⟨generation, member, untold, forwarder, listed, ended⟩ := harm
      have alive := (running here.1 (loop.trans here.2)).1 generation member untold forwarder listed
      rw [ended] at alive
      cases alive
  · simp only [sparesReaders, if_neg here]

/-- Before the first reconciliation there is nothing to serve. -/
theorem healthy_initial (channel : Watch.Channel Config) (valid : channel.value.validate = .ok ()) :
    Healthy (initial channel) := by
  refine ⟨sound_initial channel valid, ?_, ?_⟩
  · intro generation member
    cases member
  · intro held
    cases held

/-- Over every run, across failed dials, lost links, edits and errors of local
sockets: what is bound is served in every state in which the main loop waits with
a connection held, if and only if no step in such a state ends a current forwarder
by an error of its socket or by a panic. -/
theorem listening_served_iff (checks : Bool) (peer : EndpointId) (channel : Watch.Channel Config)
    (valid : channel.value.validate = .ok ()) (actions : List Action) (last : State)
    (reached : run (step checks peer) (initial channel) actions = some last) :
    Always (step checks peer) Served (initial channel) actions ↔
      Meets (step checks peer) (fun state action => sparesReaders checks state action = true)
        (initial channel) actions :=
  always_iff_meets_of_invariant (step checks peer) Healthy Served _ (fun _ healthy => healthy.served)
    (fun _ _ _ healthy taken spares => healthy_step healthy spares taken)
    (fun _ _ _ healthy taken served => unserved_step healthy taken served)
    (initial channel) last actions (healthy_initial channel valid) reached

/-- A datagram is forwarded, the connection is lost, a forwarder that was told to
abort fails, and the next dial succeeds. -/
def redialed : List Action :=
  [.bindInitial (fun _ => none), .dialed none, .task (.receive 0 0 resolver [7]),
    .task (.forward 0 0 true), .linkDown, .lost false, .task (.recvError 0 0),
    .task (.elapse backoffStart), .retry, .dialed none]

/-- On both connections what is bound is served, although a forwarder of the first
one has failed in between. -/
theorem redialed_served :
    (run (step true office) (initial (Watch.Channel.new (binds [dnsBinding, webBinding])))
        redialed).isSome = true ∧
      Always (step true office) Served (initial (Watch.Channel.new (binds [dnsBinding, webBinding])))
        redialed := by
  have performed : (run (step true office)
      (initial (Watch.Channel.new (binds [dnsBinding, webBinding]))) redialed).isSome = true := by
    decide
  obtain ⟨last, reached⟩ := Option.isSome_iff_exists.mp performed
  exact ⟨performed, (listening_served_iff true office _ (by decide) redialed last reached).mpr
    (by decide)⟩

/-- Accepting fails once while the connection is held. -/
def acceptFails : List Action := [.bindInitial (fun _ => none), .dialed none, .acceptError 0]

/-- After one failed accept the port is still bound and nobody accepts on it,
while the connection is held and the UI shows it as bound. -/
theorem listening_for_nobody :
    ∃ last, run (step true office) (initial (Watch.Channel.new (binds [webBinding]))) acceptFails =
        some last ∧ last.phase = .held ∧ last.inner.loop = .selecting ∧
      last.inner.listeners.bound.lookup webBinding.key = some { sock := 0, remote := 80 } ∧
      last.inner.runtime.bindState webBinding = some .listening ∧
      readers last .tcp 0 = [] ∧ ¬ Served last := by
  refine ⟨_, rfl, rfl, rfl, rfl, rfl, rfl, ?_⟩
  intro served
  have reader := (served rfl rfl webBinding.key { sock := 0, remote := 80 } rfl).reader
  cases reader

end Rtun.Connect.Dialing
