import Rtun.Connect.Reconciliation
import Rtun.Run

/-!
# What is reported about the listeners

The listeners and the states reported for them are kept in two tables. A report is
withdrawn when a listener is dropped, so the report of a key that was never bound is
not: it survives the binding that it was about. Apart from that the reports mirror the
listeners, over every sequence of reconciliations.
-/

namespace Rtun.Connect.Reports

open Run

/-- One reconciliation: what is wanted, and which binds fail with which error. -/
structure Call where
  want : List Binding
  bindOne : Binding → Option String

/-- What a sequence of reconciliations has led to, and the latest of them. -/
structure State where
  listeners : Listeners
  runtime : Runtime
  latest : Call

/-- What one call leaves. -/
def State.after (state : State) (call : Call) : State :=
  let done := reconcile call.bindOne call.want state.listeners state.runtime
  { listeners := done.listeners, runtime := done.runtime, latest := call }

/-- The keys of what is wanted are distinct, as validation makes them. -/
def step (state : State) (call : Call) : Option State :=
  if (call.want.map Binding.key).Nodup then some (state.after call) else none

/-- Before the first reconciliation: nothing is wanted. -/
def initial : State :=
  { listeners := Listeners.empty, runtime := Runtime.empty,
    latest := { want := [], bindOne := fun _ => none } }

/-- The report for the key of this binding, which need not be configured:
listening exactly if the key is bound, failed exactly if it is wanted and was not
bound, with the error of that bind, and absent exactly if it is not wanted. -/
structure MirroredAt (state : State) (binding : Binding) : Prop where
  listening : state.runtime.bindState binding = some .listening ↔
    (state.listeners.bound.lookup binding.key).isSome = true
  failed : ∀ error, state.runtime.bindState binding = some (.failed error) ↔
    state.listeners.bound.lookup binding.key = none ∧
      ∃ wanted ∈ state.latest.want, wanted.key = binding.key ∧
        state.latest.bindOne wanted = some error
  absent : state.runtime.bindState binding = none ↔
    binding.key ∉ state.latest.want.map Binding.key

/-- Every report mirrors the listeners. -/
def Mirrored (state : State) : Prop := ∀ binding, MirroredAt state binding

/-- What is reported as failed is still wanted. -/
def failedStayWanted (state : State) (call : Call) : Bool :=
  state.runtime.binds.entries.all (fun ⟨key, reported⟩ =>
    match reported with
    | .failed _ => (call.want.map Binding.key).contains key
    | .listening => true)

/-- The condition on a call: nothing that is dropped from the wanted bindings has
a failure reported of it. -/
theorem failedStayWanted_iff (state : State) (call : Call) :
    failedStayWanted state call = true ↔
      ∀ binding : Binding, binding.key ∉ call.want.map Binding.key → ∀ error,
        state.runtime.bindState binding ≠ some (.failed error) := by
  simp only [failedStayWanted, List.all_eq_true]
  constructor
  · intro stay binding unwanted error reported
    have listed := AList.mem_lookup_iff.mp (Option.mem_def.mpr reported)
    exact unwanted (List.contains_iff_mem.mp (stay _ listed))
  · rintro none ⟨key, reported⟩ listed
    cases reported with
    | listening => rfl
    | failed error =>
      apply List.contains_iff_mem.mpr
      by_contra unwanted
      let binding : Binding :=
        { proto := key.1, localPort := key.2, remotePort := 0, name := "", enabled := true }
      exact none binding unwanted error (AList.mem_lookup_iff.mpr listed)

/-- Under a wanted key the report mirrors the listener, whatever it did before
about a key that was not bound. -/
theorem mirroredAt_wanted (state : State) (call : Call) (distinct : (call.want.map Binding.key).Nodup)
    (mirrored : Mirrored state) (binding wanted : Binding) (member : wanted ∈ call.want)
    (same : wanted.key = binding.key) : MirroredAt (state.after call) binding := by
  obtain ⟨sock, _, settled⟩ := reconcile_wanted call.bindOne call.want distinct state.listeners
    state.runtime wanted member
  rw [same] at settled
  have listener : (state.after call).listeners.bound.lookup binding.key = _ :=
    congrArg Prod.fst settled
  have report : (state.after call).runtime.bindState binding = _ := congrArg Prod.snd settled
  have isWanted : binding.key ∈ call.want.map Binding.key := same ▸ List.mem_map_of_mem member
  have wantedAfter : (state.after call).latest.want = call.want := rfl
  cases found : state.listeners.bound.lookup binding.key with
  | some known =>
    have before : state.runtime.binds.lookup binding.key = some .listening :=
      (mirrored binding).listening.mpr (by rw [found]; rfl)
    simp only [settle, found, before] at listener report
    constructor <;> simp [listener, report, wantedAfter, isWanted]
  | none =>
    cases attempted : call.bindOne wanted with
    | none =>
      simp only [settle, found, attempted] at listener report
      constructor <;> simp [listener, report, wantedAfter, isWanted]
    | some error =>
      simp only [settle, found, attempted] at listener report
      refine ⟨by simp [listener, report], ?_, by simp [report, wantedAfter, isWanted]⟩
      intro other
      rw [report, listener]
      constructor
      · intro reported
        obtain rfl : error = other := BindState.failed.inj (Option.some.inj reported)
        exact ⟨rfl, wanted, member, same, attempted⟩
      · rintro ⟨_, found, listed, shared, failed⟩
        obtain rfl : found = wanted :=
          List.inj_on_of_nodup_map distinct listed member (shared.trans same.symm)
        obtain rfl : error = other := Option.some.inj (attempted.symm.trans failed)
        rfl

/-- Under a key that is not wanted the report is right exactly if it is absent. -/
theorem mirroredAt_unwanted (state : State) (call : Call) (binding : Binding)
    (unwanted : binding.key ∉ call.want.map Binding.key) :
    MirroredAt (state.after call) binding ↔
      (state.after call).runtime.bindState binding = none := by
  have listener : (state.after call).listeners.bound.lookup binding.key = none :=
    reconcile_gone call.bindOne call.want state.listeners state.runtime binding.key unwanted
  constructor
  · intro right
    exact right.absent.mpr unwanted
  · intro absent
    refine ⟨by simp [absent, listener], ?_, iff_of_true absent unwanted⟩
    intro error
    rw [absent]
    constructor
    · intro impossible
      cases impossible
    · rintro ⟨_, wanted, member, same, _⟩
      exact absurd (same ▸ List.mem_map_of_mem member) unwanted

/-- It is absent exactly if it was no failure: the report of a listener is
withdrawn. -/
theorem absent_after_iff (state : State) (call : Call) (mirrored : Mirrored state)
    (binding : Binding) (unwanted : binding.key ∉ call.want.map Binding.key) :
    (state.after call).runtime.bindState binding = none ↔
      ∀ error, state.runtime.bindState binding ≠ some (.failed error) := by
  have settled : (state.after call).runtime.bindState binding =
      if (state.listeners.bound.lookup binding.key).isSome then none
      else state.runtime.bindState binding :=
    congrArg Prod.snd (reconcile_unwanted call.bindOne call.want state.listeners state.runtime
      binding.key unwanted)
  simp only [settled, ← (mirrored binding).listening]
  cases before : state.runtime.bindState binding with
  | none => simp
  | some reported => cases reported <;> simp

/-- The step lemma: the reports mirror the listeners after a reconciliation
exactly if what was reported as failed is still wanted. -/
theorem mirrored_step (state : State) (call : Call) (next : State) (mirrored : Mirrored state)
    (taken : step state call = some next) :
    Mirrored next ↔ failedStayWanted state call = true := by
  simp only [step, Option.ite_none_right_eq_some, Option.some.injEq] at taken
  obtain ⟨distinct, rfl⟩ := taken
  rw [failedStayWanted_iff]
  constructor
  · intro right binding unwanted
    exact (absent_after_iff state call mirrored binding unwanted).mp
      ((mirroredAt_unwanted state call binding unwanted).mp (right binding))
  · intro stay binding
    by_cases isWanted : binding.key ∈ call.want.map Binding.key
    · obtain ⟨wanted, member, same⟩ := List.mem_map.mp isWanted
      exact mirroredAt_wanted state call distinct mirrored binding wanted member same
    · exact (mirroredAt_unwanted state call binding isWanted).mpr
        ((absent_after_iff state call mirrored binding isWanted).mpr (stay binding isWanted))

/-- Before the first call nothing is bound, and nothing reported. -/
theorem mirrored_initial : Mirrored initial := by
  intro binding
  constructor <;> simp [initial, Listeners.empty, Runtime.empty, Runtime.bindState]

/-- Over every sequence of reconciliations, the reports mirror the listeners after
each of them if and only if nothing that is reported as failed ceases to be
wanted. -/
theorem reports_mirror_iff (calls : List Call) (last : State)
    (reached : run step initial calls = some last) :
    Always step Mirrored initial calls ↔
      Meets step (fun state call => failedStayWanted state call = true) initial calls :=
  always_iff_meets step Mirrored _ mirrored_step initial last calls mirrored_initial reached

def dns : Binding :=
  { proto := .udp, localPort := 5000, remotePort := 53, name := "dns", enabled := true }

def inUse (_ : Binding) : Option String := some "address in use"

/-- The port is in use at first, free at the second try, and given up at last. -/
def retriedAndParked : List Call :=
  [{ want := [dns], bindOne := inUse }, { want := [dns], bindOne := fun _ => none },
    { want := [], bindOne := fun _ => none }]

/-- A bind that fails, is tried again and succeeds, and a binding that is parked
afterwards: the reports follow all of it. -/
theorem retried_and_parked_mirrored :
    (run step initial retriedAndParked).isSome = true ∧
      Always step Mirrored initial retriedAndParked := by
  have performed : (run step initial retriedAndParked).isSome = true := by decide
  obtain ⟨last, reached⟩ := Option.isSome_iff_exists.mp performed
  exact ⟨performed, (reports_mirror_iff retriedAndParked last reached).mpr (by decide)⟩

/-- The port is in use, and the binding is disabled. -/
def parkedUnbound : List Call :=
  [{ want := [dns], bindOne := inUse }, { want := [], bindOne := fun _ => none }]

/-- A binding that could not be bound is parked, and its failure is shown ever
after: only keys that were bound are cleared. -/
theorem parked_failure_stays :
    ∃ last, run step initial parkedUnbound = some last ∧ last.latest.want = [] ∧
      last.runtime.bindState dns = some (.failed "address in use") ∧ ¬ Mirrored last := by
  refine ⟨_, rfl, rfl, rfl, ?_⟩
  intro mirrored
  have absent := (mirrored dns).absent.mpr List.not_mem_nil
  cases absent

end Rtun.Connect.Reports
