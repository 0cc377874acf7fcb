import Rtun.Connect.Listeners
import Rtun.KeyedFold

/-!
# What reconciling achieves

The loops of a reconciliation change one key at a time, so its effect can be said key
by key: what is not wanted is gone, a listener that is wanted keeps its socket and is
pointed at the wanted port, and what is not bound becomes what its bind makes of it.
-/

namespace Rtun.Connect

open KeyedFold

/-- The listener under a key and the state reported for it. -/
def Reconciling.under (state : Reconciling) (key : Proto × UInt16) :
    Option Listener × Option BindState :=
  (state.listeners.bound.lookup key, state.runtime.binds.lookup key)

/-- What one wanted binding makes of what is under its key. A new socket has this
handle. -/
def settle (bindOne : Binding → Option String) (sock : Nat)
    (found : Option Listener × Option BindState) (binding : Binding) :
    Option Listener × Option BindState :=
  match found.1 with
  | some listener => (some { listener with remote := binding.remotePort }, found.2)
  | none =>
      match bindOne binding with
      | none => (some { sock, remote := binding.remotePort }, some .listening)
      | some error => (none, some (.failed error))

/-- One wanted binding changes the map from keys to remote ports. -/
def alters (bindOne : Binding → Option String) (found : Option Listener) (binding : Binding) : Bool :=
  match found with
  | some listener => decide (listener.remote ≠ binding.remotePort)
  | none => (bindOne binding).isNone

/-- Dropping a stale listener looks at and changes what is under its own key, and
nothing else. -/
theorem dropStale_local : Local dropStale id Reconciling.under := by
  intro state key other differs
  have apart : other ≠ key := differs
  simp [Reconciling.under, dropStale, Runtime.clearBind, AList.lookup_erase_ne apart]

/-- Under a stale key nothing is left, neither a listener nor a report: the first
loop clears the one along with the other. -/
theorem dropStale_own (state : Reconciling) (key : Proto × UInt16) :
    (dropStale state key).under key = (none, none) := by
  simp [Reconciling.under, dropStale, Runtime.clearBind]

/-- Reconciling a binding looks at and changes what is under the key of the
binding, and nothing else. So the loop over the bindings can be read key by
key. -/
theorem reconcileOne_local (bindOne : Binding → Option String) :
    Local (reconcileOne bindOne) Binding.key Reconciling.under := by
  intro state binding other differs
  have reported (binds : BindState) :
      ((state.runtime.setBind binding.proto binding.localPort binds).binds.lookup other) =
        state.runtime.binds.lookup other := AList.lookup_insert_ne differs
  unfold reconcileOne
  split
  · split
    · simp [Reconciling.under, AList.lookup_insert_ne differs]
    · rfl
  · split
    · simp [Reconciling.under, AList.lookup_insert_ne differs, reported]
    · simp [Reconciling.under, reported]

/-- What it does there is `settle`: keep or retarget a listener, or bind a new
one. -/
theorem reconcileOne_own (bindOne : Binding → Option String) (state : Reconciling)
    (binding : Binding) :
    (reconcileOne bindOne state binding).under binding.key =
      settle bindOne state.listeners.sockets (state.under binding.key) binding := by
  have reported (binds : BindState) :
      (state.runtime.setBind binding.proto binding.localPort binds).binds.lookup binding.key =
        some binds := AList.lookup_insert state.runtime.binds
  cases found : state.listeners.bound.lookup binding.key with
  | some listener =>
    by_cases same : listener.remote = binding.remotePort
    · simp [reconcileOne, settle, Reconciling.under, found, ← same]
    · simp [reconcileOne, settle, Reconciling.under, found, same]
  | none =>
    cases bound : bindOne binding with
    | none => simp [reconcileOne, settle, Reconciling.under, found, bound, reported]
    | some error => simp [reconcileOne, settle, Reconciling.under, found, bound, reported]

/-- The flag is raised exactly by a binding that changes the map: one that is
newly bound, or bound to another remote port. A bind that fails does not raise
it. -/
theorem reconcileOne_changed (bindOne : Binding → Option String) (state : Reconciling)
    (binding : Binding) :
    (reconcileOne bindOne state binding).changed = true ↔
      state.changed = true ∨ alters bindOne (state.listeners.bound.lookup binding.key) binding = true := by
  cases found : state.listeners.bound.lookup binding.key with
  | some listener =>
    by_cases same : listener.remote = binding.remotePort <;>
      simp [reconcileOne, alters, found, same]
  | none => cases bound : bindOne binding <;> simp [reconcileOne, alters, found, bound]

/-- Handles are given out in order, and never twice: a new listener has a handle
that no older one has had. -/
theorem reconcileOne_sockets (bindOne : Binding → Option String) (state : Reconciling)
    (binding : Binding) :
    state.listeners.sockets ≤ (reconcileOne bindOne state binding).listeners.sockets := by
  unfold reconcileOne
  split
  · split <;> simp
  · split <;> simp

/-- The keys that are bound but not wanted. -/
def staleKeys (want : List Binding) (listeners : Listeners) : List (Proto × UInt16) :=
  listeners.bound.keys.filter (fun key => !(want.map Binding.key).contains key)

/-- A key is stale if it is bound and no wanted binding has it. Whether its
binding was disabled or deleted makes no difference. -/
theorem mem_staleKeys (want : List Binding) (listeners : Listeners) (key : Proto × UInt16) :
    key ∈ staleKeys want listeners ↔
      (listeners.bound.lookup key).isSome = true ∧ key ∉ want.map Binding.key := by
  simp [staleKeys, AList.lookup_isSome, AList.mem_keys]

/-- The state between the two loops. -/
def withoutStale (want : List Binding) (listeners : Listeners) (runtime : Runtime) : Reconciling :=
  (staleKeys want listeners).foldl dropStale { listeners, runtime, changed := false }

/-- `reconcile` is two loops in a row: over the stale keys, and then over the
wanted bindings. -/
theorem reconcile_eq (bindOne : Binding → Option String) (want : List Binding)
    (listeners : Listeners) (runtime : Runtime) :
    reconcile bindOne want listeners runtime =
      want.foldl (reconcileOne bindOne) (withoutStale want listeners runtime) := rfl

/-- The first loop clears exactly the stale keys. Under every other key the
listener and the report are as they were. -/
theorem withoutStale_under (want : List Binding) (listeners : Listeners) (runtime : Runtime)
    (key : Proto × UInt16) :
    (withoutStale want listeners runtime).under key =
      if key ∈ staleKeys want listeners then (none, none)
      else (listeners.bound.lookup key, runtime.binds.lookup key) := by
  by_cases stale : key ∈ staleKeys want listeners
  · have distinct : ((staleKeys want listeners).map id).Nodup := by
      rw [List.map_id]
      exact (AList.keys_nodup listeners.bound).filter _
    obtain ⟨first, _, _, last⟩ := view_of_mem dropStale id Reconciling.under dropStale_local
      (staleKeys want listeners) distinct { listeners, runtime, changed := false } key stale
    rw [if_pos stale]
    exact last.trans (dropStale_own _ key)
  · have absent : key ∉ (staleKeys want listeners).map id := by rwa [List.map_id]
    rw [if_neg stale]
    exact view_of_absent dropStale id Reconciling.under dropStale_local _ _ key absent

/-- Dropping listeners gives out no socket, so the sockets are counted on from
where they were. -/
theorem withoutStale_sockets (want : List Binding) (listeners : Listeners) (runtime : Runtime) :
    (withoutStale want listeners runtime).listeners.sockets = listeners.sockets := by
  unfold withoutStale
  apply List.foldlRecOn (motive := fun state : Reconciling =>
    state.listeners.sockets = listeners.sockets)
  · rfl
  · intro state same key _
    exact same

/-- The first loop raises the flag exactly when there is a stale key, so that the
forwarders of a binding that is gone are replaced. -/
theorem withoutStale_changed (want : List Binding) (listeners : Listeners) (runtime : Runtime) :
    (withoutStale want listeners runtime).changed = true ↔ ∃ key, key ∈ staleKeys want listeners := by
  unfold withoutStale
  cases staleKeys want listeners with
  | nil => simp
  | cons key rest =>
    have raised : (rest.foldl dropStale
        (dropStale { listeners, runtime, changed := false } key)).changed = true :=
      List.foldlRecOn (motive := fun state : Reconciling => state.changed = true) rest dropStale rfl
        (fun _ _ _ _ => rfl)
    simp only [List.foldl_cons, raised, true_iff]
    exact ⟨key, List.mem_cons_self⟩

/-- A key that is not wanted has no listener afterwards. Its report is withdrawn
if it had one, and stays as it was otherwise. -/
theorem reconcile_unwanted (bindOne : Binding → Option String) (want : List Binding)
    (listeners : Listeners) (runtime : Runtime) (key : Proto × UInt16)
    (unwanted : key ∉ want.map Binding.key) :
    (reconcile bindOne want listeners runtime).under key =
      (none, if (listeners.bound.lookup key).isSome then none else runtime.binds.lookup key) := by
  rw [reconcile_eq, view_of_absent _ Binding.key Reconciling.under (reconcileOne_local bindOne) want
    _ key unwanted, withoutStale_under]
  have stale : key ∈ staleKeys want listeners ↔ (listeners.bound.lookup key).isSome = true := by
    rw [mem_staleKeys]
    exact and_iff_left unwanted
  by_cases bound : (listeners.bound.lookup key).isSome = true
  · rw [if_pos (stale.mpr bound), if_pos bound]
  · rw [if_neg (fun member => bound (stale.mp member)), if_neg bound]
    rw [Bool.not_eq_true, Option.isSome_eq_false_iff, Option.isNone_iff_eq_none] at bound
    rw [bound]

/-- No listener is left under a key that is not wanted: the second loop binds only
what is wanted, so what the first has cleared stays so. -/
theorem reconcile_gone (bindOne : Binding → Option String) (want : List Binding)
    (listeners : Listeners) (runtime : Runtime) (key : Proto × UInt16)
    (unwanted : key ∉ want.map Binding.key) :
    (reconcile bindOne want listeners runtime).listeners.bound.lookup key = none :=
  congrArg Prod.fst (reconcile_unwanted bindOne want listeners runtime key unwanted)

/-- The first loop leaves the listener of a wanted binding alone. It keeps its
socket through the edit, and the clients keep theirs. -/
theorem withoutStale_wanted (want : List Binding) (listeners : Listeners) (runtime : Runtime)
    (binding : Binding) (wanted : binding ∈ want) :
    (withoutStale want listeners runtime).under binding.key =
      (listeners.bound.lookup binding.key, runtime.binds.lookup binding.key) := by
  have kept : binding.key ∉ staleKeys want listeners := by
    rw [mem_staleKeys]
    rintro ⟨_, unwanted⟩
    exact unwanted (List.mem_map_of_mem wanted)
  rw [withoutStale_under, if_neg kept]

/-- Under the key of a wanted binding is what the binding makes of what was
there. -/
theorem reconcile_wanted (bindOne : Binding → Option String) (want : List Binding)
    (distinct : (want.map Binding.key).Nodup) (listeners : Listeners) (runtime : Runtime)
    (binding : Binding) (wanted : binding ∈ want) :
    ∃ sock, listeners.sockets ≤ sock ∧
      (reconcile bindOne want listeners runtime).under binding.key =
        settle bindOne sock
          (listeners.bound.lookup binding.key, runtime.binds.lookup binding.key) binding := by
  obtain ⟨first, _, before, last⟩ := view_of_mem (reconcileOne bindOne) Binding.key
    Reconciling.under (reconcileOne_local bindOne) want distinct
    (withoutStale want listeners runtime) binding wanted
  refine ⟨(first.foldl (reconcileOne bindOne)
    (withoutStale want listeners runtime)).listeners.sockets, ?_, ?_⟩
  · apply List.foldlRecOn (motive := fun state : Reconciling =>
      listeners.sockets ≤ state.listeners.sockets)
    · exact Nat.le_of_eq (withoutStale_sockets want listeners runtime).symm
    · intro state handed item _
      exact Nat.le_trans handed (reconcileOne_sockets bindOne state item)
  · rw [reconcile_eq, last, reconcileOne_own, before, withoutStale_wanted _ _ _ binding wanted]

/-- The second loop raises the flag exactly when some binding changes the map. The
keys are distinct, so no binding sees what the loop has done for another. -/
theorem foldl_changed (bindOne : Binding → Option String) (want : List Binding)
    (distinct : (want.map Binding.key).Nodup) (state : Reconciling) :
    (want.foldl (reconcileOne bindOne) state).changed = true ↔
      state.changed = true ∨
        ∃ binding ∈ want, alters bindOne (state.listeners.bound.lookup binding.key) binding = true := by
  induction want generalizing state with
  | nil => simp
  | cons binding rest inductionHypothesis =>
    obtain ⟨differs, others⟩ := List.nodup_cons.mp distinct
    have same (other : Binding) (member : other ∈ rest) :
        (reconcileOne bindOne state binding).listeners.bound.lookup other.key =
          state.listeners.bound.lookup other.key := by
      have apart : other.key ≠ binding.key := by
        intro shared
        exact differs (shared ▸ List.mem_map_of_mem member)
      exact congrArg Prod.fst (reconcileOne_local bindOne state binding other.key apart)
    rw [List.foldl_cons, inductionHypothesis others, reconcileOne_changed, or_assoc]
    simp only [List.exists_mem_cons_iff]
    apply or_congr_right
    apply or_congr_right
    constructor
    · rintro ⟨other, member, changes⟩
      exact ⟨other, member, same other member ▸ changes⟩
    · rintro ⟨other, member, changes⟩
      exact ⟨other, member, (same other member).symm ▸ changes⟩

/-- The flag is raised exactly by a stale key or by a binding that changes the
map. -/
theorem reconcile_changed_cases (bindOne : Binding → Option String) (want : List Binding)
    (distinct : (want.map Binding.key).Nodup) (listeners : Listeners) (runtime : Runtime) :
    (reconcile bindOne want listeners runtime).changed = true ↔
      (∃ key, key ∈ staleKeys want listeners) ∨
        ∃ binding ∈ want, alters bindOne (listeners.bound.lookup binding.key) binding = true := by
  rw [reconcile_eq, foldl_changed bindOne want distinct, withoutStale_changed]
  have same (binding : Binding) (wanted : binding ∈ want) :
      (withoutStale want listeners runtime).listeners.bound.lookup binding.key =
        listeners.bound.lookup binding.key :=
    congrArg Prod.fst (withoutStale_wanted want listeners runtime binding wanted)
  apply or_congr_right
  constructor
  · rintro ⟨binding, wanted, altered⟩
    exact ⟨binding, wanted, same binding wanted ▸ altered⟩
  · rintro ⟨binding, wanted, altered⟩
    exact ⟨binding, wanted, (same binding wanted).symm ▸ altered⟩

/-- The remote port that a bound key is forwarded to. -/
def Listeners.target (listeners : Listeners) (key : Proto × UInt16) : Option UInt16 :=
  (listeners.bound.lookup key).map Listener.remote

/-- A binding changes the map exactly when its key has another target
afterwards. -/
theorem alters_iff (bindOne : Binding → Option String) (sock : Nat)
    (found : Option Listener × Option BindState) (binding : Binding) :
    alters bindOne found.1 binding = true ↔
      (settle bindOne sock found binding).1.map Listener.remote ≠ found.1.map Listener.remote := by
  obtain ⟨listener, report⟩ := found
  cases listener with
  | some listener =>
    simp only [alters, settle, Option.map_some, ne_eq, Option.some.injEq, decide_eq_true_iff]
    exact not_congr eq_comm
  | none => cases bound : bindOne binding <;> simp [alters, settle, bound]

/-- The flag is raised exactly when some key has another target afterwards. So the
forwarders are replaced when there is a reason to, and only then. -/
theorem reconcile_changed_iff (bindOne : Binding → Option String) (want : List Binding)
    (distinct : (want.map Binding.key).Nodup) (listeners : Listeners) (runtime : Runtime) :
    (reconcile bindOne want listeners runtime).changed = true ↔
      ∃ key, (reconcile bindOne want listeners runtime).listeners.target key ≠
        listeners.target key := by
  have changes (binding : Binding) (wanted : binding ∈ want) :
      alters bindOne (listeners.bound.lookup binding.key) binding = true ↔
        (reconcile bindOne want listeners runtime).listeners.target binding.key ≠
          listeners.target binding.key := by
    obtain ⟨sock, _, settled⟩ := reconcile_wanted bindOne want distinct listeners runtime binding wanted
    rw [alters_iff bindOne sock (_, runtime.binds.lookup binding.key), ← settled]
    exact Iff.rfl
  rw [reconcile_changed_cases bindOne want distinct]
  constructor
  · rintro (⟨key, stale⟩ | ⟨binding, wanted, altered⟩)
    · obtain ⟨bound, unwanted⟩ := (mem_staleKeys want listeners key).mp stale
      obtain ⟨listener, found⟩ := Option.isSome_iff_exists.mp bound
      refine ⟨key, ?_⟩
      rw [Listeners.target, Listeners.target,
        reconcile_gone bindOne want listeners runtime key unwanted, found]
      simp
    · exact ⟨binding.key, (changes binding wanted).mp altered⟩
  · rintro ⟨key, differs⟩
    by_cases wantedKey : key ∈ want.map Binding.key
    · obtain ⟨binding, wanted, rfl⟩ := List.mem_map.mp wantedKey
      exact Or.inr ⟨binding, wanted, (changes binding wanted).mpr differs⟩
    · have gone := reconcile_gone bindOne want listeners runtime key wantedKey
      refine Or.inl ⟨key, (mem_staleKeys want listeners key).mpr ⟨?_, wantedKey⟩⟩
      cases found : listeners.bound.lookup key with
      | some listener => rfl
      | none => simp [Listeners.target, gone, found] at differs

/-- A binding that does not raise the flag leaves the listeners alone. It may
still change a report, as a bind that fails does. -/
theorem reconcileOne_unchanged (bindOne : Binding → Option String) (state : Reconciling)
    (binding : Binding) (unchanged : (reconcileOne bindOne state binding).changed = false) :
    state.changed = false ∧ (reconcileOne bindOne state binding).listeners = state.listeners := by
  unfold reconcileOne at unchanged ⊢
  split at unchanged
  · split at unchanged
    · cases unchanged
    · rename_i same
      exact ⟨unchanged, by simp only [if_neg same]⟩
  · split at unchanged
    · cases unchanged
    · exact ⟨unchanged, rfl⟩

/-- Without the flag the listeners are exactly as they were: not only their
targets but their sockets too. -/
theorem reconcile_unchanged (bindOne : Binding → Option String) (want : List Binding)
    (listeners : Listeners) (runtime : Runtime)
    (unchanged : (reconcile bindOne want listeners runtime).changed = false) :
    (reconcile bindOne want listeners runtime).listeners = listeners := by
  have folded (rest : List Binding) (state : Reconciling)
      (unchanged : (rest.foldl (reconcileOne bindOne) state).changed = false) :
      state.changed = false ∧ (rest.foldl (reconcileOne bindOne) state).listeners = state.listeners := by
    induction rest generalizing state with
    | nil => exact ⟨unchanged, rfl⟩
    | cons binding rest inductionHypothesis =>
      obtain ⟨still, same⟩ := inductionHypothesis (reconcileOne bindOne state binding) unchanged
      obtain ⟨before, alone⟩ := reconcileOne_unchanged bindOne state binding still
      exact ⟨before, same.trans alone⟩
  rw [reconcile_eq] at unchanged ⊢
  obtain ⟨noStale, same⟩ := folded want _ unchanged
  have none : staleKeys want listeners = [] := by
    apply List.eq_nil_iff_forall_not_mem.mpr
    intro key stale
    have raised := (withoutStale_changed want listeners runtime).mpr ⟨key, stale⟩
    simp [noStale] at raised
  rw [same, withoutStale, none]
  rfl

/-- The listeners and their reports are in order: sockets are those given out, no
two keys share one, and every bound key is reported as listening. -/
structure InOrder (listeners : Listeners) (runtime : Runtime) : Prop where
  given : ∀ key listener, listeners.bound.lookup key = some listener →
    listener.sock < listeners.sockets
  apart : ∀ key other listener found, listeners.bound.lookup key = some listener →
    listeners.bound.lookup other = some found → listener.sock = found.sock → key = other
  reported : ∀ key listener, listeners.bound.lookup key = some listener →
    runtime.binds.lookup key = some .listening

/-- No two sockets of a protocol are the same, so the forwarders that are spawned
for the listeners never share one. -/
theorem InOrder.distinct {listeners : Listeners} {runtime : Runtime}
    (inOrder : InOrder listeners runtime) (proto : Proto) :
    ((listeners.bearing proto).map Prod.fst).Nodup := by
  rw [List.Nodup, List.pairwise_map, Listeners.bearing, List.pairwise_filterMap]
  apply listeners.bound.nodupKeys.nodup.imp_of_mem
  rintro ⟨⟨found, localPort⟩, listener⟩ ⟨⟨found', localPort'⟩, listener'⟩ listed listed' apart
    ⟨sock, map⟩ shown ⟨sock', map'⟩ shown' same
  simp only [Option.ite_none_right_eq_some, Option.some.injEq, Prod.mk.injEq] at shown shown'
  have sameSock : listener.sock = listener'.sock := by
    rw [shown.2.1, shown'.2.1]
    exact same
  have sameKey := inOrder.apart _ _ _ _ (AList.mem_lookup_iff.mpr listed)
    (AList.mem_lookup_iff.mpr listed') sameSock
  rw [sameKey] at listed
  have sameEntry := listeners.bound.nodupKeys.eq_of_mk_mem listed listed'
  subst sameEntry
  exact apart (by rw [sameKey])

/-- Nothing is out of order where nothing is bound. This is how a run begins,
whatever the reports of peers say. -/
theorem inOrder_nothing (sockets : Nat) (runtime : Runtime) :
    InOrder { bound := ∅, sockets } runtime := by
  constructor <;> simp

/-- Only the reports matter to the order, not the peers: connections come and go
without a word to the listeners. -/
theorem InOrder.binds {listeners : Listeners} {runtime other : Runtime}
    (inOrder : InOrder listeners runtime) (same : other.binds = runtime.binds) :
    InOrder listeners other :=
  ⟨inOrder.given, inOrder.apart, by rw [same]; exact inOrder.reported⟩

/-- Dropping a listener clears its report with it, so what is still bound is still
reported as listening. -/
theorem dropStale_inOrder (state : Reconciling) (key : Proto × UInt16)
    (inOrder : InOrder state.listeners state.runtime) :
    InOrder (dropStale state key).listeners (dropStale state key).runtime := by
  have kept (other : Proto × UInt16) (listener : Listener)
      (found : (state.listeners.bound.erase key).lookup other = some listener) :
      other ≠ key ∧ state.listeners.bound.lookup other = some listener := by
    rwa [Table.lookup_erase_cases, Option.ite_none_left_eq_some] at found
  constructor
  · intro other listener found
    exact inOrder.given other listener (kept other listener found).2
  · intro one other listener known found found' same
    exact inOrder.apart one other listener known (kept one listener found).2
      (kept other known found').2 same
  · intro other listener found
    obtain ⟨differs, before⟩ := kept other listener found
    have unmoved : (dropStale state key).runtime.binds.lookup other =
        state.runtime.binds.lookup other := AList.lookup_erase_ne differs
    rw [unmoved]
    exact inOrder.reported other listener before

/-- Pointing a bound socket elsewhere keeps the order: the socket is the same, and
so is what is reported of it. -/
theorem InOrder.retarget {listeners : Listeners} {runtime : Runtime}
    (inOrder : InOrder listeners runtime) (key : Proto × UInt16) (listener : Listener)
    (bound : listeners.bound.lookup key = some listener) (remote : UInt16) :
    InOrder { listeners with bound := listeners.bound.insert key { listener with remote } } runtime := by
  have before (other : Proto × UInt16) (known : Listener)
      (found : (listeners.bound.insert key { listener with remote }).lookup other = some known) :
      ∃ same, listeners.bound.lookup other = some same ∧ same.sock = known.sock := by
    rw [Table.lookup_insert_cases] at found
    split at found
    · rename_i isKey
      cases found
      exact ⟨listener, isKey ▸ bound, rfl⟩
    · exact ⟨known, found, rfl⟩
  constructor
  · intro other known found
    obtain ⟨same, was, sock⟩ := before other known found
    exact sock ▸ inOrder.given other same was
  · intro one other known found listed listed' shared
    obtain ⟨first, was, sock⟩ := before one known listed
    obtain ⟨second, was', sock'⟩ := before other found listed'
    exact inOrder.apart one other first second was was' ((sock.trans shared).trans sock'.symm)
  · intro other known found
    obtain ⟨same, was, _⟩ := before other known found
    exact inOrder.reported other same was

/-- A new socket keeps the order: its handle is the next one, which no listener
has, and it is reported as bound. -/
theorem InOrder.bind {listeners : Listeners} {runtime : Runtime} (inOrder : InOrder listeners runtime)
    (key : Proto × UInt16) (remote : UInt16) :
    InOrder { bound := listeners.bound.insert key { sock := listeners.sockets, remote },
              sockets := listeners.sockets + 1 }
      (runtime.setBind key.1 key.2 .listening) := by
  have before (other : Proto × UInt16) (known : Listener)
      (found : (listeners.bound.insert key { sock := listeners.sockets, remote }).lookup other =
        some known) :
      (other = key ∧ known.sock = listeners.sockets) ∨
        (other ≠ key ∧ listeners.bound.lookup other = some known) := by
    rw [Table.lookup_insert_cases] at found
    split at found
    · rename_i isKey
      cases found
      exact Or.inl ⟨isKey, rfl⟩
    · rename_i differs
      exact Or.inr ⟨differs, found⟩
  constructor
  · intro other known found
    rcases before other known found with ⟨_, isNew⟩ | ⟨_, was⟩
    · exact isNew ▸ Nat.lt_succ_self _
    · exact Nat.lt_succ_of_lt (inOrder.given other known was)
  · intro one other known found listed listed' shared
    rcases before one known listed with ⟨isKey, isNew⟩ | ⟨_, was⟩ <;>
      rcases before other found listed' with ⟨isKey', isNew'⟩ | ⟨_, was'⟩
    · exact isKey.trans isKey'.symm
    · have given := inOrder.given other found was'
      omega
    · have given := inOrder.given one known was
      omega
    · exact inOrder.apart one other known found was was' shared
  · intro other known found
    rw [Runtime.setBind, Table.lookup_insert_cases]
    rcases before other known found with ⟨isKey, _⟩ | ⟨differs, was⟩
    · exact if_pos isKey
    · rw [if_neg differs]
      exact inOrder.reported other known was

/-- A failure that is reported for a key that is not bound keeps the order, since
the order speaks of the keys that are. -/
theorem InOrder.fail {listeners : Listeners} {runtime : Runtime} (inOrder : InOrder listeners runtime)
    (key : Proto × UInt16) (unbound : listeners.bound.lookup key = none) (error : String) :
    InOrder listeners (runtime.setBind key.1 key.2 (.failed error)) := by
  refine ⟨inOrder.given, inOrder.apart, ?_⟩
  intro other known found
  have differs : other ≠ key := by
    intro same
    rw [same, unbound] at found
    cases found
  rw [Runtime.setBind, Table.lookup_insert_cases, if_neg differs]
  exact inOrder.reported other known found

/-- So it is after a binding was reconciled: a socket that is newly bound is the
next one, and is reported. -/
theorem reconcileOne_inOrder (bindOne : Binding → Option String) (state : Reconciling)
    (binding : Binding) (inOrder : InOrder state.listeners state.runtime) :
    InOrder (reconcileOne bindOne state binding).listeners
      (reconcileOne bindOne state binding).runtime := by
  unfold reconcileOne
  split
  · rename_i listener bound
    split
    · exact inOrder.retarget binding.key listener bound binding.remotePort
    · exact inOrder
  · rename_i unbound
    split
    · exact inOrder.bind binding.key binding.remotePort
    · exact inOrder.fail binding.key unbound _

/-- A reconciliation keeps the listeners and their reports in order, through both
of its loops. The runs of `connect` have this as their step. -/
theorem reconcile_inOrder (bindOne : Binding → Option String) (want : List Binding)
    (listeners : Listeners) (runtime : Runtime) (inOrder : InOrder listeners runtime) :
    InOrder (reconcile bindOne want listeners runtime).listeners
      (reconcile bindOne want listeners runtime).runtime := by
  rw [reconcile_eq]
  apply List.foldlRecOn (motive := fun state : Reconciling => InOrder state.listeners state.runtime)
  · apply List.foldlRecOn (motive := fun state : Reconciling => InOrder state.listeners state.runtime)
    · exact inOrder
    · intro state before key _
      exact dropStale_inOrder state key before
  · intro state before binding _
    exact reconcileOne_inOrder bindOne state binding before

/-- What one reconciliation brings about. Every bound key is wanted and forwarded
to the wanted port; what was bound and is wanted keeps its socket; what is wanted
and not bound is what could not be bound; and the flag tells whether any target
has changed. -/
structure Settled (bindOne : Binding → Option String) (want : List Binding)
    (before after : Listeners) (changed : Bool) : Prop where
  wanted : ∀ key listener, after.bound.lookup key = some listener →
    ∃ binding ∈ want, binding.key = key ∧ listener.remote = binding.remotePort
  kept : ∀ binding ∈ want, ∀ listener, before.bound.lookup binding.key = some listener →
    after.bound.lookup binding.key = some { listener with remote := binding.remotePort }
  unbound : ∀ binding ∈ want, after.bound.lookup binding.key = none ↔
    before.bound.lookup binding.key = none ∧ (bindOne binding).isSome = true
  flag : changed = true ↔ ∃ key, after.target key ≠ before.target key

/-- The specification of one reconciliation, read off key by key: what is wanted
has what `settle` makes of it, and everything else is gone. -/
theorem reconcile_settled (bindOne : Binding → Option String) (want : List Binding)
    (distinct : (want.map Binding.key).Nodup) (listeners : Listeners) (runtime : Runtime) :
    Settled bindOne want listeners (reconcile bindOne want listeners runtime).listeners
      (reconcile bindOne want listeners runtime).changed := by
  have listenerOf (binding : Binding) (wanted : binding ∈ want) :
      ∃ sock, (reconcile bindOne want listeners runtime).listeners.bound.lookup binding.key =
        (settle bindOne sock (listeners.bound.lookup binding.key,
          runtime.binds.lookup binding.key) binding).1 := by
    obtain ⟨sock, _, settled⟩ := reconcile_wanted bindOne want distinct listeners runtime binding wanted
    exact ⟨sock, congrArg Prod.fst settled⟩
  constructor
  · intro key listener bound
    by_cases wantedKey : key ∈ want.map Binding.key
    · obtain ⟨binding, wanted, rfl⟩ := List.mem_map.mp wantedKey
      refine ⟨binding, wanted, rfl, ?_⟩
      obtain ⟨sock, settled⟩ := listenerOf binding wanted
      rw [settled] at bound
      cases found : listeners.bound.lookup binding.key with
      | some known =>
        obtain rfl := Option.some.inj ((by simpa [settle, found] using bound) :
          some { known with remote := binding.remotePort } = some listener)
        rfl
      | none =>
        cases attempted : bindOne binding with
        | none =>
          obtain rfl := Option.some.inj ((by simpa [settle, found, attempted] using bound) :
            some { sock, remote := binding.remotePort : Listener } = some listener)
          rfl
        | some error => simp [settle, found, attempted] at bound
    · rw [reconcile_gone bindOne want listeners runtime key wantedKey] at bound
      cases bound
  · intro binding wanted listener found
    obtain ⟨sock, settled⟩ := listenerOf binding wanted
    simpa [settle, found] using settled
  · intro binding wanted
    obtain ⟨sock, settled⟩ := listenerOf binding wanted
    rw [settled]
    cases found : listeners.bound.lookup binding.key with
    | some listener => simp [settle]
    | none => cases attempted : bindOne binding <;> simp [settle, attempted]
  · exact reconcile_changed_iff bindOne want distinct listeners runtime

end Rtun.Connect
