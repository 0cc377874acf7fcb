import Rtun.Runtime

/-!
# Reconciling the local listeners

The connecting side keeps a local socket for every enabled binding, keyed by protocol
and local port. Reconciling drops what is gone, points a socket at a remote port that
changed, binds what is new, and reports each of these to the runtime facts. Sockets
are handles that are given out once. Whether a bind succeeds is decided outside.
-/

namespace Rtun.Connect

/-- A bound local socket and the remote port it is forwarded to. -/
structure Listener where
  sock : Nat
  remote : UInt16
deriving DecidableEq

/-- The listeners that are bound, and how many sockets have been bound so far. -/
structure Listeners where
  bound : Table (Proto × UInt16) Listener
  sockets : Nat

def Listeners.empty : Listeners := { bound := ∅, sockets := 0 }

/-- The state of a reconciliation: the listeners, the runtime facts, and whether
the set has changed. -/
structure Reconciling where
  listeners : Listeners
  runtime : Runtime
  changed : Bool

/-- Drop a listener that is not wanted any more. -/
def dropStale (state : Reconciling) (key : Proto × UInt16) : Reconciling :=
  { listeners := { state.listeners with bound := state.listeners.bound.erase key },
    runtime := state.runtime.clearBind key.1 key.2, changed := true }

/-- Bring one wanted binding about: retarget its listener, or bind it. -/
def reconcileOne (bindOne : Binding → Option String) (state : Reconciling) (binding : Binding) :
    Reconciling :=
  match state.listeners.bound.lookup binding.key with
  | some listener =>
      if listener.remote ≠ binding.remotePort then
        { state with
          listeners := { state.listeners with
            bound := state.listeners.bound.insert binding.key
              { listener with remote := binding.remotePort } },
          changed := true }
      else state
  | none =>
      match bindOne binding with
      | none =>
          { listeners := {
              bound := state.listeners.bound.insert binding.key
                { sock := state.listeners.sockets, remote := binding.remotePort },
              sockets := state.listeners.sockets + 1 },
            runtime := state.runtime.setBind binding.proto binding.localPort .listening,
            changed := true }
      | some error =>
          { state with
            runtime := state.runtime.setBind binding.proto binding.localPort (.failed error) }

/-- Bind what is newly configured, drop what is gone, and retarget what
changed. -/
def reconcile (bindOne : Binding → Option String) (want : List Binding) (listeners : Listeners)
    (runtime : Runtime) : Reconciling :=
  let stale := listeners.bound.keys.filter (fun key => !(want.map Binding.key).contains key)
  let state := stale.foldl dropStale { listeners, runtime, changed := false }
  want.foldl (reconcileOne bindOne) state

/-- The UDP sockets and the port maps they carry. -/
def Listeners.udp (listeners : Listeners) : List (Nat × PortMap) :=
  listeners.bound.entries.filterMap (fun ⟨(proto, localPort), listener⟩ =>
    match proto with
    | .udp => some (listener.sock, { localPort, remotePort := listener.remote })
    | .tcp => none)

/-- The sockets of one protocol and the port maps they carry. -/
def Listeners.bearing (listeners : Listeners) (wanted : Proto) : List (Nat × PortMap) :=
  listeners.bound.entries.filterMap (fun ⟨(proto, localPort), listener⟩ =>
    if proto = wanted then some (listener.sock, { localPort, remotePort := listener.remote })
    else none)

/-- The TCP sockets and the port maps they carry. -/
def Listeners.tcp (listeners : Listeners) : List (Nat × PortMap) := listeners.bearing .tcp

/-- The UDP listeners are those that bear on UDP, in the order of the map. -/
theorem Listeners.udp_eq (listeners : Listeners) : listeners.udp = listeners.bearing .udp := by
  apply List.filterMap_congr
  rintro ⟨⟨proto, localPort⟩, listener⟩ _
  cases proto <;> rfl

/-- A socket is among those of a protocol exactly if it is bound, with its port
map. -/
theorem Listeners.mem_bearing (listeners : Listeners) (proto : Proto) (sock : Nat) (map : PortMap) :
    (sock, map) ∈ listeners.bearing proto ↔
      listeners.bound.lookup (proto, map.localPort) = some { sock, remote := map.remotePort } := by
  rw [← Option.mem_def, AList.mem_lookup_iff, Listeners.bearing, List.mem_filterMap]
  constructor
  · rintro ⟨⟨⟨found, localPort⟩, listener⟩, listed, taken⟩
    simp only [Option.ite_none_right_eq_some, Option.some.injEq, Prod.mk.injEq] at taken
    obtain ⟨rfl, rfl, rfl⟩ := taken
    exact listed
  · intro listed
    exact ⟨_, listed, by simp⟩

/-- The remote port of the binding that a UDP socket listens for, if it still
does. -/
def Listeners.remoteOf (listeners : Listeners) (sock : Nat) (localPort : UInt16) : Option UInt16 :=
  ((listeners.bound.lookup (.udp, localPort)).filter (fun listener => listener.sock == sock)).map
    Listener.remote

end Rtun.Connect
