import Rtun.Connect.Forwarders
import Rtun.Connect.Reconciliation
import Rtun.Run

/-!
# Edits while a connection is held

The main loop handles an edit in two steps: it reconciles the listeners, and if that has
changed any of them it respawns the forwarders of all. The tasks go on in between. An
edit that changes no listener disturbs nobody; one that changes any listener gives all
of them a new session table, and the sessions of the others are gone with the old one.
-/

namespace Rtun.Connect

open Run

/-- The action is a step of a task, or the passing of time: none of the main
loop's. -/
def ofTasks : Action → Bool
  | .publish _ | .reconcile _ | .respawn => false
  | _ => true

/-- The socket and the port map of a forwarder. -/
def Forwarder.place (forwarder : Forwarder) : Nat × PortMap := (forwarder.sock, forwarder.map)

/-- A generation goes on: it keeps its forwarders in their places, and is not
told. -/
structure Continues (before after : Generation) : Prop where
  told : after.told = before.told
  places : after.forwarders.map Forwarder.place = before.forwarders.map Forwarder.place

/-- What a step of a task changes: one generation, and neither the listeners nor
the main loop. -/
structure TaskStep (state next : State) (index : Nat) (before after : Generation) : Prop where
  present : state.generations[index]? = some before
  generations : next.generations = state.generations.set index after
  continues : Continues before after
  channel : next.channel = state.channel
  receiver : next.receiver = state.receiver
  loop : next.loop = state.loop
  listeners : next.listeners = state.listeners
  runtime : next.runtime = state.runtime

/-- A task puts its generation back, and may send or hand over a datagram. -/
theorem TaskStep.put {state : State} {index : Nat} {before after : Generation}
    (present : state.generations[index]? = some before) (continues : Continues before after)
    (outbox : List (Framing.Bytes × Origin)) (handed : List Handed) :
    TaskStep state
      { state with generations := state.generations.set index after, outbox, handed }
      index before after :=
  ⟨present, rfl, continues, rfl, rfl, rfl, rfl, rfl⟩

/-- Changing where one forwarder is keeps the generation going. -/
theorem continues_stage (generation : Generation) (handle : Nat) (forwarder : Forwarder)
    (listed : generation.forwarders[handle]? = some forwarder) (stage : Forwarding)
    (sessions : Sessions) (log : List Key) (poisoned : Bool) :
    Continues generation { generation with
      sessions, log, poisoned,
      forwarders := generation.forwarders.set handle { forwarder with stage } } := by
  refine ⟨rfl, ?_⟩
  have placed : (generation.forwarders.map Forwarder.place)[handle]? = some forwarder.place := by
    rw [List.getElem?_map, listed]
    rfl
  obtain ⟨inside, same⟩ := List.getElem?_eq_some_iff.mp placed
  have unmoved : Forwarder.place { forwarder with stage } = forwarder.place := rfl
  rw [List.map_set, unmoved, ← same]
  exact List.set_getElem_self inside

/-- A step of a forwarder is a step of a task. -/
theorem forwarderStep_task {checks : Bool} {state next : State} {index handle : Nat}
    {generation : Generation} {forwarder : Forwarder} {action : Action}
    (present : state.generations[index]? = some generation)
    (listed : generation.forwarders[handle]? = some forwarder)
    (taken : forwarderStep checks state index generation handle forwarder action = some next) :
    ∃ after, TaskStep state next index generation after := by
  have continues := continues_stage generation handle forwarder listed
  unfold forwarderStep at taken
  dsimp only at taken
  split at taken
  · cases taken
    exact ⟨_, .put present (continues _ _ _ _) _ _⟩
  · cases taken
    exact ⟨_, .put present (continues _ _ _ _) _ _⟩
  · split at taken
    · cases taken
      exact ⟨_, .put present (continues _ _ _ _) _ _⟩
    · cases taken
  · split at taken
    · cases taken
      exact ⟨_, .put present (continues _ _ _ _) _ _⟩
    · split at taken
      · cases taken
        exact ⟨_, .put present (continues _ _ _ _) _ _⟩
      · cases taken
        exact ⟨_, .put present (continues _ _ _ _) _ _⟩
  · cases taken

/-- A step of `pump_udp_in` or of a reaper is a step of a task, and leaves the
outgoing forwarders alone. -/
theorem generationStep_task {state next : State} {index : Nat} {generation : Generation}
    {action : Action} (present : state.generations[index]? = some generation)
    (taken : generationStep state index generation action = some next) :
    ∃ after, TaskStep state next index generation after ∧
      after.forwarders = generation.forwarders ∧ after.poisoned = generation.poisoned := by
  have put (after : Generation) (handed : List Handed) (continues : Continues generation after)
      (forwarders : after.forwarders = generation.forwarders)
      (poisoned : after.poisoned = generation.poisoned) :
      ∃ left, TaskStep state
          { state with generations := state.generations.set index after, handed }
          index generation left ∧
        left.forwarders = generation.forwarders ∧ left.poisoned = generation.poisoned :=
    ⟨after, .put present continues _ _, forwarders, poisoned⟩
  unfold generationStep at taken
  dsimp only at taken
  split at taken
  · cases taken
    exact put _ _ ⟨rfl, rfl⟩ rfl rfl
  · split at taken
    · cases taken
      exact put _ _ ⟨rfl, rfl⟩ rfl rfl
    · cases taken
  · split at taken
    · cases taken
      exact put _ _ ⟨rfl, rfl⟩ rfl rfl
    · cases taken
  · split at taken
    · cases taken
      exact put _ _ ⟨rfl, rfl⟩ rfl rfl
    · split at taken
      · cases taken
        exact put _ _ ⟨rfl, rfl⟩ rfl rfl
      · split at taken
        · cases taken
          exact put _ _ ⟨rfl, rfl⟩ rfl rfl
        · cases taken
          exact put _ _ ⟨rfl, rfl⟩ rfl rfl
  · cases taken
    exact put _ _ ⟨rfl, rfl⟩ rfl rfl
  · split at taken
    · cases taken
    · split at taken
      · cases taken
        exact put _ _ ⟨rfl, rfl⟩ rfl rfl
      · cases taken
        exact put _ _ ⟨rfl, rfl⟩ rfl rfl
  · split at taken
    · cases taken
      exact put _ _ ⟨rfl, rfl⟩ rfl rfl
    · cases taken
  · cases taken

/-- What a reconciliation leaves, with the latest configuration seen. -/
def State.reconciled (state : State) (bindOne : Binding → Option String) : State :=
  let done := reconcile bindOne state.channel.value.activeBindings state.listeners state.runtime
  { state with
    receiver := state.channel.subscribe, listeners := done.listeners, runtime := done.runtime,
    loop := if done.changed then .respawning else .selecting }

/-- What a respawn leaves: everyone is told, and a new generation is there. -/
def State.respawned (state : State) : State :=
  { state with
    generations := state.generations.map (fun generation => { generation with told := true }) ++
      [spawnForwarders state.listeners],
    loop := .selecting }

/-- The steps, by what they do to the main loop, the listeners and the
generations. -/
inductive Steps (state : State) : Action → State → Prop where
  | published (config : Config) :
      Steps state (.publish config) { state with channel := state.channel.sendReplace config }
  | elapsed (nanos : Nat) : Steps state (.elapse nanos) { state with now := state.now + nanos }
  | reconciled (bindOne : Binding → Option String) (selecting : state.loop = .selecting)
      (unseen : state.channel.hasChanged state.receiver = true) :
      Steps state (.reconcile bindOne) (state.reconciled bindOne)
  | respawned (respawning : state.loop = .respawning) : Steps state .respawn state.respawned
  | task (action : Action) (next : State) (index : Nat) (before after : Generation)
      (isTask : ofTasks action = true) (taskStep : TaskStep state next index before after) :
      Steps state action next

/-- Every step is one of these. -/
theorem step_steps {checks : Bool} {state next : State} {action : Action}
    (taken : step checks state action = some next) : Steps state action next := by
  have ofForwarder (index handle : Nat) (isTask : ofTasks action = true)
      (own : action.forwarder = some (index, handle)) : Steps state action next := by
    obtain ⟨generation, forwarder, present, listed, stepped⟩ := forwarder_taken own taken
    obtain ⟨after, taskStep⟩ := forwarderStep_task present listed stepped
    exact .task action next index generation after isTask taskStep
  have ofGeneration (index : Nat) (isTask : ofTasks action = true)
      (own : action.generation = some index) : Steps state action next := by
    obtain ⟨generation, present, stepped⟩ := generation_taken own taken
    obtain ⟨after, taskStep, _⟩ := generationStep_task present stepped
    exact .task action next index generation after isTask taskStep
  cases action with
  | publish config =>
    cases taken
    exact .published config
  | elapse nanos =>
    cases taken
    exact .elapsed nanos
  | reconcile bindOne =>
    simp only [step, Option.ite_none_right_eq_some, Option.some.injEq] at taken
    rw [← taken.2]
    exact .reconciled bindOne taken.1.1 taken.1.2
  | respawn =>
    simp only [step, Option.ite_none_right_eq_some, Option.some.injEq] at taken
    rw [← taken.2]
    exact .respawned taken.1
  | receive index handle src payload => exact ofForwarder index handle rfl rfl
  | recvError index handle => exact ofForwarder index handle rfl rfl
  | forward index handle accepted => exact ofForwarder index handle rfl rfl
  | stopForwarder index handle => exact ofForwarder index handle rfl rfl
  | read index bytes via => exact ofGeneration index rfl rfl
  | route index => exact ofGeneration index rfl rfl
  | handOver index delivered => exact ofGeneration index rfl rfl
  | stopInbound index => exact ofGeneration index rfl rfl
  | reap index => exact ofGeneration index rfl rfl
  | stopReaper index => exact ofGeneration index rfl rfl

/-- Steps of tasks leave the main loop and the listeners alone. -/
theorem tasks_frame {checks : Bool} (actions : List Action)
    (tasks : ∀ action ∈ actions, ofTasks action = true) (state last : State)
    (reached : run (step checks) state actions = some last) :
    last.channel = state.channel ∧ last.receiver = state.receiver ∧ last.loop = state.loop ∧
      last.listeners = state.listeners ∧ last.runtime = state.runtime := by
  induction actions generalizing state with
  | nil =>
    cases reached
    exact ⟨rfl, rfl, rfl, rfl, rfl⟩
  | cons action rest inductionHypothesis =>
    obtain ⟨next, taken, after⟩ := (run_cons_some _ state last action rest).mp reached
    have later := inductionHypothesis (fun other member => tasks other (List.mem_cons_of_mem _ member))
      next after
    have isTask := tasks action List.mem_cons_self
    have steps : Steps state action next := step_steps taken
    cases steps with
    | published | reconciled | respawned => cases isTask
    | elapsed => exact later
    | task _ _ index before after _ taskStep =>
      obtain ⟨channel, receiver, loop, listeners, runtime⟩ := later
      exact ⟨channel.trans taskStep.channel, receiver.trans taskStep.receiver,
        loop.trans taskStep.loop, listeners.trans taskStep.listeners,
        runtime.trans taskStep.runtime⟩

/-- The session under an id in the newest table, with its reply route, if it came
in on the listener of this binding. -/
def SessionOf (state : State) (binding : Binding) (id : UInt32) (sock : Nat) (src : SocketAddr) :
    Prop :=
  (∃ listener, state.listeners.bound.lookup binding.key = some listener ∧ listener.sock = sock) ∧
    ∃ generation after, state.generations.getLast? = some generation ∧
      generation.sessions.replyRoute id state.now = some ((sock, src), after)

/-- The listeners that are bound are wanted as they are, and nothing else can be
bound. -/
def keepsListeners (bindOne : Binding → Option String) (want : List Binding) (listeners : Listeners) :
    Bool :=
  listeners.bound.keys.all (fun key => (want.map Binding.key).contains key) &&
    want.all (fun binding => !alters bindOne (listeners.bound.lookup binding.key) binding)

/-- That is what it takes for a reconciliation to report no change. -/
theorem unchanged_iff (bindOne : Binding → Option String) (want : List Binding)
    (distinct : (want.map Binding.key).Nodup) (listeners : Listeners) (runtime : Runtime) :
    (reconcile bindOne want listeners runtime).changed = false ↔
      keepsListeners bindOne want listeners = true := by
  rw [← Bool.not_eq_true, reconcile_changed_cases bindOne want distinct, not_or]
  simp only [keepsListeners, Bool.and_eq_true, List.all_eq_true, not_exists, not_and,
    Bool.not_eq_true, Bool.not_eq_true', mem_staleKeys, AList.lookup_isSome, AList.mem_keys,
    not_not, List.contains_iff_mem]

/-- The rest of the handling of an edit: the respawn, if something has changed. -/
def finish (checks : Bool) (state : State) : Option State :=
  if state.loop = .respawning then step checks state .respawn else some state

/-- The active bindings of a valid configuration have distinct keys. -/
theorem distinct_active (config : Config) (valid : config.validate = .ok ()) :
    (config.activeBindings.map Binding.key).Nodup :=
  ((Config.validate_ok_iff config).mp valid).distinctBindings.sublist
    (List.filter_sublist.map Binding.key)

/-- After the steps of an edit, with those of the tasks in between, the main loop
is about to respawn exactly if the reconciliation has changed the listeners as
they were before. -/
theorem handled_loop {checks : Bool} {state almost : State} {config : Config}
    {bindOne : Binding → Option String} {first second : List Action}
    (tasks : ∀ action ∈ first ++ second, ofTasks action = true)
    (handled : run (step checks) state (.publish config :: first ++ .reconcile bindOne :: second) =
      some almost) :
    almost.loop = if (reconcile bindOne config.activeBindings state.listeners state.runtime).changed
      then .respawning else .selecting := by
  obtain ⟨middle, begun, rest⟩ := (run_append _ _ _ (.publish config :: first) _).mp handled
  obtain ⟨published, taken, untilThen⟩ := (run_cons_some _ _ _ _ _).mp begun
  obtain ⟨edited, reconciled, remaining⟩ := (run_cons_some _ _ _ _ _).mp rest
  cases taken
  obtain ⟨channel, _, _, listeners, runtime⟩ := tasks_frame first
    (fun action member => tasks action (List.mem_append_left _ member)) _ middle untilThen
  obtain ⟨_, _, loop, _, _⟩ := tasks_frame second
    (fun action member => tasks action (List.mem_append_right _ member)) edited almost remaining
  have steps : Steps middle (.reconcile bindOne) edited := step_steps reconciled
  cases steps with
  | reconciled =>
    rw [loop, State.reconciled, channel, listeners, runtime]
    rfl
  | task _ _ _ _ _ isTask => cases isTask

/-- The new table knows no session. -/
theorem respawned_forgets {checks : Bool} {state next : State}
    (taken : step checks state .respawn = some next) (binding : Binding) (id : UInt32) (sock : Nat)
    (src : SocketAddr) : ¬ SessionOf next binding id sock src := by
  have steps : Steps state .respawn next := step_steps taken
  cases steps with
  | respawned =>
    rintro ⟨_, generation, sessions, newest, route⟩
    have isNew : spawnForwarders state.listeners = generation := by
      simpa [State.respawned] using newest
    rw [← isNew] at route
    cases route
  | task _ _ _ _ _ isTask => cases isTask

/-- Handling an edit, with any steps of the tasks in between. The sessions of a
binding that live before and, not reaped meanwhile, until the respawn keep their
ids and reply routes if and only if the edit keeps all listeners as they are or
there are none. This is so for every binding, those that the edit leaves as they
were included. -/
theorem edit_undisturbing_iff (checks : Bool) (state almost after : State) (config : Config)
    (valid : config.validate = .ok ()) (bindOne : Binding → Option String)
    (first second : List Action) (tasks : ∀ action ∈ first ++ second, ofTasks action = true)
    (handled : run (step checks) state (.publish config :: first ++ .reconcile bindOne :: second) =
      some almost) (finished : finish checks almost = some after) (binding : Binding) :
    (∀ id sock src, SessionOf state binding id sock src → SessionOf almost binding id sock src →
        SessionOf after binding id sock src) ↔
      keepsListeners bindOne config.activeBindings state.listeners = true ∨
        ∀ id sock src, ¬ (SessionOf state binding id sock src ∧ SessionOf almost binding id sock src) := by
  have settled := handled_loop tasks handled
  have exactly := unchanged_iff bindOne config.activeBindings (distinct_active config valid)
    state.listeners state.runtime
  cases changed : (reconcile bindOne config.activeBindings state.listeners state.runtime).changed with
  | false =>
    have same : almost = after := by
      simp only [finish, settled, changed, Bool.false_eq_true, if_false, reduceCtorEq,
        Option.some.injEq] at finished
      exact finished
    refine iff_of_true ?_ (Or.inl (exactly.mp changed))
    intro id sock src _ lives
    exact same ▸ lives
  | true =>
    simp only [finish, settled, changed, if_true] at finished
    have notKept : ¬ keepsListeners bindOne config.activeBindings state.listeners = true := by
      rw [← exactly, changed]
      simp
    rw [or_iff_right notKept]
    constructor
    · rintro keeps id sock src ⟨before, untilThen⟩
      exact respawned_forgets finished binding id sock src (keeps id sock src before untilThen)
    · intro none id sock src before untilThen
      exact absurd ⟨before, untilThen⟩ (none id sock src)

def dnsBinding : Binding :=
  { proto := .udp, localPort := 5000, remotePort := 53, name := "dns", enabled := true }

def webBinding : Binding :=
  { proto := .tcp, localPort := 8080, remotePort := 80, name := "web", enabled := true }

def binds (bindings : List Binding) : Config :=
  { Config.default with connect := { bindings } }

/-- A connection that is held with one listener, for DNS. -/
def holdingDns : State :=
  let bound := reconcile (fun _ => none) [dnsBinding] Listeners.empty Runtime.empty
  initial (Watch.Channel.new (binds [dnsBinding])) { seen := 0 } bound.listeners bound.runtime 0

def resolver : SocketAddr := { ip := 0x7f000001, port := 40000 }

/-- A local process has asked, and its session is open. -/
def asked : List Action := [.receive 0 0 resolver [7], .forward 0 0 true]

/-- The binding is given another name while the reaper runs. -/
def renamed : List Action :=
  .publish (binds [{ dnsBinding with name := "resolver" }]) :: [.elapse 5] ++
    .reconcile (fun _ => none) :: [.reap 0]

/-- A name is no part of what is forwarded, so the forwarders stay and the session
with them. -/
theorem renaming_keeps_session :
    ∃ state almost after, run (step true) holdingDns asked = some state ∧
      run (step true) state renamed = some almost ∧ finish true almost = some after ∧
      SessionOf state dnsBinding 1 0 resolver ∧ SessionOf after dnsBinding 1 0 resolver := by
  obtain ⟨state, reached⟩ : ∃ state, run (step true) holdingDns asked = some state := ⟨_, rfl⟩
  obtain ⟨almost, handled⟩ : ∃ almost, run (step true) state renamed = some almost := by
    cases reached
    exact ⟨_, rfl⟩
  obtain ⟨after, finished⟩ : ∃ after, finish true almost = some after := by
    cases reached
    cases handled
    exact ⟨_, rfl⟩
  have before : SessionOf state dnsBinding 1 0 resolver := by
    cases reached
    exact ⟨⟨_, rfl, rfl⟩, _, _, rfl, rfl⟩
  have meanwhile : SessionOf almost dnsBinding 1 0 resolver := by
    cases reached
    cases handled
    exact ⟨⟨_, rfl, rfl⟩, _, _, rfl, rfl⟩
  have kept : keepsListeners (fun _ => none)
      (binds [{ dnsBinding with name := "resolver" }]).activeBindings state.listeners = true := by
    cases reached
    decide
  refine ⟨state, almost, after, reached, handled, finished, before, ?_⟩
  exact (edit_undisturbing_iff true state almost after (binds [{ dnsBinding with name := "resolver" }])
    rfl (fun _ => none) [.elapse 5] [.reap 0] (by decide) handled finished dnsBinding).mpr
    (Or.inl kept) 1 0 resolver before meanwhile

/-- A TCP binding is added. -/
def webAdded : List Action := [.publish (binds [dnsBinding, webBinding]), .reconcile (fun _ => none)]

/-- The set of listeners has changed, so all forwarders are spawned anew, those of
the untouched UDP binding too, with an empty table. -/
theorem adding_tcp_loses_session :
    ∃ state almost after, run (step true) holdingDns asked = some state ∧
      run (step true) state webAdded = some almost ∧ finish true almost = some after ∧
      SessionOf state dnsBinding 1 0 resolver ∧ SessionOf almost dnsBinding 1 0 resolver ∧
      ¬ SessionOf after dnsBinding 1 0 resolver := by
  refine ⟨_, _, _, rfl, rfl, rfl, ⟨⟨_, rfl, rfl⟩, _, _, rfl, rfl⟩, ⟨⟨_, rfl, rfl⟩, _, _, rfl, rfl⟩, ?_⟩
  rintro ⟨_, generation, sessions, newest, route⟩
  have isNew := Option.some.inj newest
  rw [← isNew] at route
  cases route

end Rtun.Connect
