import Rtun.Config

/-!
# Who may reach what

The allowlist queries of a configuration: whether a peer is admitted, which ports
it may reach on a protocol, and which listeners are wanted. Lookup of a peer takes
the first entry with its id; a disabled entry is refused like an absent one.

`Config.reaches` is the check that the data plane makes on every stream and
datagram. `Config.reaches_iff` says what it means in terms of the entries.
-/

namespace Rtun

universe u

/-- `Vec::dedup`: drop each element that equals the one before it. -/
def dedup {α : Type u} [DecidableEq α] : List α → List α
  | [] => []
  | [value] => [value]
  | first :: second :: rest =>
      if first = second then dedup (second :: rest) else first :: dedup (second :: rest)

/-- Dropping repetitions loses no element and invents none. -/
@[simp] theorem mem_dedup {α : Type u} [DecidableEq α] (values : List α) (value : α) :
    value ∈ dedup values ↔ value ∈ values := by
  induction values using dedup.induct with
  | case1 => simp [dedup]
  | case2 only => simp [dedup]
  | case3 second rest inductionHypothesis =>
    rw [dedup, if_pos rfl, inductionHypothesis]
    simp
  | case4 first second rest differs inductionHypothesis =>
    rw [dedup, if_neg differs, List.mem_cons, inductionHypothesis, ← List.mem_cons]

/-- Every port this peer may reach, given the shared set: the enabled offers of
the protocol, sorted and without repetitions. -/
def Peer.granted (peer : Peer) (shared : List Offer) (proto : Proto) : List UInt16 :=
  let ports := ((shared ++ peer.offers).filter
    (fun offer => offer.enabled && offer.proto == proto)).map Offer.port
  dedup (ports.insertionSort (· ≤ ·))

namespace Config

def peer (config : Config) (id : EndpointId) : Option Peer :=
  config.serve.peers.find? (fun peer => peer.id == id)

/-- The admitted-peer test: being listed is not enough. -/
def admits (config : Config) (id : EndpointId) : Bool :=
  (config.peer id).any Peer.enabled

/-- Ports the peer may reach; nothing at all when it is unknown or disabled. -/
def granted (config : Config) (id : EndpointId) (proto : Proto) : Option (List UInt16) :=
  ((config.peer id).filter Peer.enabled).map (fun peer => peer.granted config.serve.shared proto)

/-- The check made on a stream or datagram that names a port:
`granted(..).unwrap_or_default().contains(&port)`. -/
def reaches (config : Config) (id : EndpointId) (proto : Proto) (port : UInt16) : Bool :=
  ((config.granted id proto).getD []).contains port

/-- Listeners the connecting side should have bound. -/
def activeBindings (config : Config) : List Binding :=
  config.connect.bindings.filter Binding.enabled

end Config

/-- A port is granted exactly when an enabled offer of that protocol, shared or
the peer's own, names it. Sorting and dropping repetitions do not matter. -/
theorem Peer.mem_granted (peer : Peer) (shared : List Offer) (proto : Proto) (port : UInt16) :
    port ∈ peer.granted shared proto ↔
      ∃ offer ∈ shared ++ peer.offers,
        offer.enabled = true ∧ offer.proto = proto ∧ offer.port = port := by
  simp only [Peer.granted, mem_dedup, List.mem_insertionSort, List.mem_map, List.mem_filter,
    Bool.and_eq_true, beq_iff_eq]
  constructor
  · rintro ⟨offer, ⟨member, enabled, sameProto⟩, samePort⟩
    exact ⟨offer, member, enabled, sameProto, samePort⟩
  · rintro ⟨offer, member, enabled, sameProto, samePort⟩
    exact ⟨offer, ⟨member, enabled, sameProto⟩, samePort⟩

/-- A peer is admitted exactly when its first entry is enabled. -/
theorem Config.admits_iff (config : Config) (id : EndpointId) :
    config.admits id = true ↔ ∃ peer, config.peer id = some peer ∧ peer.enabled = true := by
  cases found : config.peer id <;> simp [Config.admits, found]

/-- A port is reached exactly when the peer is admitted and an enabled offer of
the protocol, shared or its own, names the port. -/
theorem Config.reaches_iff (config : Config) (id : EndpointId) (proto : Proto) (port : UInt16) :
    config.reaches id proto port = true ↔
      ∃ peer, config.peer id = some peer ∧ peer.enabled = true ∧
        ∃ offer ∈ config.serve.shared ++ peer.offers,
          offer.enabled = true ∧ offer.proto = proto ∧ offer.port = port := by
  cases found : config.peer id with
  | none => simp [Config.reaches, Config.granted, found]
  | some peer =>
    cases enabled : peer.enabled with
    | false => simp [Config.reaches, Config.granted, found, Option.filter, enabled]
    | true =>
      have checked : config.reaches id proto port = true ↔
          port ∈ peer.granted config.serve.shared proto := by
        simp [Config.reaches, Config.granted, found, Option.filter, enabled]
      rw [checked, Peer.mem_granted]
      constructor
      · intro offered
        exact ⟨peer, rfl, enabled, offered⟩
      · rintro ⟨other, same, _, offered⟩
        obtain rfl : peer = other := Option.some.inj same
        exact offered

/-- A port is reached exactly when it is one of the ports that are granted. -/
theorem Config.reaches_iff_granted (config : Config) (id : EndpointId) (proto : Proto)
    (port : UInt16) : config.reaches id proto port = true ↔
      ∃ ports, config.granted id proto = some ports ∧ port ∈ ports := by
  cases found : config.granted id proto <;> simp [Config.reaches, found]

/-- Whoever reaches some port is admitted. -/
theorem Config.admits_of_reaches (config : Config) (id : EndpointId) (proto : Proto) (port : UInt16)
    (reached : config.reaches id proto port = true) : config.admits id = true := by
  obtain ⟨peer, found, enabled, _⟩ := (config.reaches_iff id proto port).mp reached
  exact (config.admits_iff id).mpr ⟨peer, found, enabled⟩

/-- A peer of the sample configurations. -/
def laptop : EndpointId := { key := 1 }

def udpOffer (port : UInt16) (enabled : Bool) : Offer := { proto := .udp, port, name := "", enabled }

/-- The peer is enabled and may reach two UDP services: DNS as given, NTP
always. -/
def offering (dns : Bool) : Config :=
  { Config.default with
    serve := { shared := [udpOffer 53 dns, udpOffer 123 true],
               peers := [{ id := laptop, name := "laptop", enabled := true, offers := [] }] } }

example : (offering false).granted laptop .udp = some [123] := by decide

end Rtun
