import Rtun.Connect.Dialing

/-!
# Listeners that stay

Reconciling brings the bound set to the wanted set, keeps the sockets that are wanted
and reports exactly whether a target has changed. Over a whole run, connections form and
are lost and bindings come and go, but the socket of a binding that stays enabled is
never closed and never bound anew.
-/

namespace Rtun.Connect.Dialing

open Run

/-- If the step reconciles the listeners, it observes a configuration with the key
enabled. -/
def observesKey (key : Proto × UInt16) (state : State) (action : Action) : Prop :=
  action.bindOne.isSome = true → key ∈ state.inner.channel.value.activeBindings.map Binding.key

instance (key : Proto × UInt16) (state : State) (action : Action) :
    Decidable (observesKey key state action) :=
  inferInstanceAs (Decidable (_ → _))

/-- The key is bound to this socket. -/
def Holds (listeners : Listeners) (key : Proto × UInt16) (sock : Nat) : Prop :=
  ∃ listener, listeners.bound.lookup key = some listener ∧ listener.sock = sock

/-- A reconciliation keeps the sockets of the keys that are wanted. -/
theorem Holds.reconciled {listeners : Listeners} {key : Proto × UInt16} {sock : Nat}
    (holds : Holds listeners key sock) (bindOne : Binding → Option String) (want : List Binding)
    (distinct : (want.map Binding.key).Nodup) (wanted : key ∈ want.map Binding.key)
    (runtime : Runtime) : Holds (reconcile bindOne want listeners runtime).listeners key sock := by
  obtain ⟨listener, found, same⟩ := holds
  obtain ⟨binding, member, rfl⟩ := List.mem_map.mp wanted
  have settled := reconcile_settled bindOne want distinct listeners runtime
  exact ⟨_, settled.kept binding member listener found, same⟩

/-- The step lemma: a bound key that is observed to be wanted keeps its socket,
unless `run` returns. -/
theorem kept_step {checks : Bool} {peer : EndpointId} {state next : State} {action : Action}
    {key : Proto × UInt16} {sock : Nat} (sound : Sound state)
    (kept : state.phase = .exited ∨ Holds state.inner.listeners key sock)
    (observes : observesKey key state action)
    (taken : step checks peer state action = some next) :
    next.phase = .exited ∨ Holds next.inner.listeners key sock := by
  have distinct := distinct_active _ sound.configured.valid
  have moves := step_moves taken
  rcases kept with exited | holds
  · -- no step leads out of the last phase
    left
    cases moves with
    | published | reported | acceptFailed | acceptorStopped | readFailed | tasked => exact exited
    | bound _ phase | connected _ phase | failed phase | reconciled _ phase | respawned phase
    | linkLost phase | dropped _ phase | observed _ _ phase | retried _ phase =>
      rw [exited] at phase
      cases phase
  · cases moves with
    | published | connected | failed | reported | respawned | linkLost | retried | acceptFailed
    | acceptorStopped | readFailed => exact Or.inr holds
    | bound bindOne | reconciled bindOne | observed bindOne =>
      exact Or.inr (holds.reconciled bindOne _ distinct (observes rfl) _)
    | dropped refused =>
      cases refused with
      | false => exact Or.inr holds
      | true => exact Or.inl rfl
    | tasked action inner isTask moved =>
      obtain ⟨_, _, _, listeners, _⟩ := tasks_alone isTask moved
      exact Or.inr (by rw [listeners]; exact holds)

/-- One reconciliation settles the listeners exactly. Hence, over every run across
edits, outages and reconnects: a listener that is bound, and whose key is enabled
in every configuration observed from then on, keeps its socket in every state
until `run` returns. Sockets are given out once, so it is neither closed nor bound
anew. -/
theorem reconcile_settles_and_keeps :
    (∀ (bindOne : Binding → Option String) (want : List Binding), (want.map Binding.key).Nodup →
      ∀ (listeners : Listeners) (runtime : Runtime),
        Settled bindOne want listeners (reconcile bindOne want listeners runtime).listeners
          (reconcile bindOne want listeners runtime).changed) ∧
    ∀ (checks : Bool) (peer : EndpointId) (channel : Watch.Channel Config),
      channel.value.validate = .ok () → ∀ (before after : List Action) (state : State),
        run (step checks peer) (initial channel) before = some state →
        ∀ (key : Proto × UInt16) (listener : Listener),
          state.inner.listeners.bound.lookup key = some listener →
          Meets (step checks peer) (observesKey key) state after →
          Always (step checks peer) (fun later =>
            later.phase = .exited ∨ Holds later.inner.listeners key listener.sock) state after := by
  refine ⟨reconcile_settled, ?_⟩
  intro checks peer channel valid before after state reached key listener bound observed
  have sound : Sound state := sound_run valid reached
  exact always_of_meets (step checks peer)
    (fun state => Sound state ∧ (state.phase = .exited ∨ Holds state.inner.listeners key listener.sock))
    _ (observesKey key) (fun _ known => known.2)
    (fun state action next known observes taken =>
      ⟨sound_step known.1 taken, kept_step known.1 known.2 observes taken⟩)
    state after ⟨sound, Or.inr ⟨listener, bound, rfl⟩⟩ observed

/-- The DNS binding is bound, and the connection forms. -/
def dnsHeld : List Action := [.bindInitial (fun _ => none), .dialed none]

/-- The connection is lost, another binding is added and fails, and the dial is
repeated. -/
def outage : List Action :=
  [.linkDown, .lost false, .publish (binds [dnsBinding, webBinding]), .observe (fun _ => some "in use"),
    .task (.elapse backoffStart), .retry, .dialed none]

/-- The socket of the DNS binding is the same throughout, although the listeners
were reconciled while there was no connection. -/
theorem outage_keeps_dns :
    (reconcile (fun _ => none) [dnsBinding] Listeners.empty Runtime.empty).changed = true ∧
    ∃ state last, run (step true office) (initial (Watch.Channel.new (binds [dnsBinding]))) dnsHeld =
        some state ∧ run (step true office) state outage = some last ∧ last.phase = .held ∧
      Holds last.inner.listeners dnsBinding.key 0 := by
  obtain ⟨settles, keeps⟩ := reconcile_settles_and_keeps
  have settled := settles (fun _ => none) [dnsBinding] (by decide) Listeners.empty Runtime.empty
  obtain ⟨state, reached⟩ : ∃ state, run (step true office)
    (initial (Watch.Channel.new (binds [dnsBinding]))) dnsHeld = some state := ⟨_, rfl⟩
  obtain ⟨last, continued⟩ : ∃ last, run (step true office) state outage = some last := by
    cases reached
    exact ⟨_, rfl⟩
  have held : last.phase = .held := by
    cases reached
    cases continued
    rfl
  have bound : state.inner.listeners.bound.lookup dnsBinding.key = some { sock := 0, remote := 53 } := by
    cases reached
    rfl
  have observed : Meets (step true office) (observesKey dnsBinding.key) state outage := by
    cases reached
    decide
  refine ⟨settled.flag.mpr ⟨dnsBinding.key, by decide⟩, state, last, reached, continued, held, ?_⟩
  have always := keeps true office _ (by decide) dnsHeld outage state reached _ _ bound observed
  rcases last_of_always _ _ state last outage always continued with exited | kept
  · rw [held] at exited
    cases exited
  · exact kept

end Rtun.Connect.Dialing
