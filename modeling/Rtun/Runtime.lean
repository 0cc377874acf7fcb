import Rtun.Config
import Rtun.Table

/-!
# Runtime facts that the admin surface reports

The peers that are connected, each with the moment it connected and the path last
reported for it, and the state of each local listener. None of this is persisted.
Moments are readings of a monotonic clock in nanoseconds, given by the caller.
-/

namespace Rtun

/-- A reading of the monotonic clock, in nanoseconds. -/
abbrev Instant := Nat

def nanosPerSec : Nat := 1000000000

/-- A UDP session is released after this much silence in both directions. -/
def udpIdle : Nat := 60 * nanosPerSec

/-- The table is swept at this interval, so that a session lives up to a tick past
`udpIdle`. -/
def udpReapInterval : Nat := 5 * nanosPerSec

/-- `Instant::elapsed` in whole seconds. -/
def elapsedSecs (since now : Instant) : Nat := (now - since) / nanosPerSec

/-- Which role is running. -/
inductive Role where
  | serve
  | connect
deriving DecidableEq

def Role.asStr : Role → String
  | .serve => "serve"
  | .connect => "connect"

/-- Why a local listener is not carrying traffic, or that it is. -/
inductive BindState where
  | listening
  | failed (error : String)
deriving DecidableEq

/-- The path last reported for a connected peer; the empty path is none yet. -/
structure PathInfo where
  path : String
  addr : Option String
  rttMs : Option Nat
deriving DecidableEq

def PathInfo.default : PathInfo := { path := "", addr := none, rttMs := none }

/-- One connected peer as the admin surface shows it. -/
structure PeerLive where
  id : String
  short : String
  path : String
  addr : Option String
  rttMs : Option Nat
  sinceSecs : Nat
deriving DecidableEq

structure Runtime where
  peers : Table EndpointId (Instant × PathInfo)
  binds : Table (Proto × UInt16) BindState

namespace Runtime

def empty : Runtime := { peers := ∅, binds := ∅ }

/-- `entry(id).or_insert_with(..)`: an entry that exists is left as it is. -/
def peerConnected (runtime : Runtime) (id : EndpointId) (now : Instant) : Runtime :=
  match runtime.peers.lookup id with
  | some _ => runtime
  | none => { runtime with peers := runtime.peers.insert id (now, PathInfo.default) }

def peerDisconnected (runtime : Runtime) (id : EndpointId) : Runtime :=
  { runtime with peers := runtime.peers.erase id }

/-- A report for a peer that is not in the table is dropped. -/
def peerPath (runtime : Runtime) (id : EndpointId) (path : String) (addr : Option String)
    (rttMs : Option Nat) : Runtime :=
  match runtime.peers.lookup id with
  | none => runtime
  | some (since, _) =>
      { runtime with peers := runtime.peers.insert id (since, { path, addr, rttMs }) }

/-- The connected peers in the order of their keys. -/
def livePeers (runtime : Runtime) (now : Instant) : List PeerLive :=
  let entries := runtime.peers.entries.insertionSort (fun left right => left.1.key ≤ right.1.key)
  entries.map (fun ⟨id, since, info⟩ =>
    { id := id.text, short := id.fmtShort,
      path := if info.path = "" then "pending" else info.path,
      addr := info.addr, rttMs := info.rttMs, sinceSecs := elapsedSecs since now })

def setBind (runtime : Runtime) (proto : Proto) (localPort : UInt16) (state : BindState) : Runtime :=
  { runtime with binds := runtime.binds.insert (proto, localPort) state }

def clearBind (runtime : Runtime) (proto : Proto) (localPort : UInt16) : Runtime :=
  { runtime with binds := runtime.binds.erase (proto, localPort) }

def bindState (runtime : Runtime) (binding : Binding) : Option BindState :=
  runtime.binds.lookup (binding.proto, binding.localPort)

end Runtime

/-- The text of an id determines it: a digit determines four bits of the key, and
the digits cover all of them. -/
theorem EndpointId.text_inj (left right : EndpointId) : left.text = right.text ↔ left = right := by
  constructor
  · intro same
    have digits := String.ofList_injective same
    have determined : ∀ first second : BitVec 4,
        first.toNat.digitChar = second.toNat.digitChar → first = second := by decide
    have nibbles : ∀ index < 64, left.nibble index = right.nibble index := by
      intro index inside
      apply determined
      exact List.map_inj_left.mp digits index (List.mem_range.mpr inside)
    have bits : left.key = right.key := by
      apply BitVec.eq_of_getLsbD_eq
      intro bit inside
      have nibble := congrArg (fun digit => digit.getLsbD (bit % 4))
        (nibbles (63 - bit / 4) (by omega))
      have place : 252 - 4 * (63 - bit / 4) + bit % 4 = bit := by omega
      simpa [EndpointId.nibble, place, Nat.mod_lt] using nibble
    cases left
    cases right
    simpa using bits
  · rintro rfl
    rfl

namespace Runtime

/-- The admin surface lists a peer exactly when the table has an entry for it. -/
theorem listed_iff (runtime : Runtime) (now : Instant) (peer : EndpointId) :
    (∃ live ∈ runtime.livePeers now, live.id = peer.text) ↔
      (runtime.peers.lookup peer).isSome = true := by
  rw [AList.lookup_isSome, AList.mem_keys]
  simp only [livePeers, List.mem_map, List.mem_insertionSort, AList.keys, List.keys]
  constructor
  · rintro ⟨_, ⟨entry, member, rfl⟩, same⟩
    exact ⟨entry, member, (EndpointId.text_inj entry.1 peer).mp same⟩
  · rintro ⟨entry, member, rfl⟩
    exact ⟨_, ⟨entry, member, rfl⟩, rfl⟩

/-- An entry is that of a connected peer, as it was last reported. -/
theorem mem_livePeers_iff (runtime : Runtime) (now : Instant) (live : PeerLive) :
    live ∈ runtime.livePeers now ↔
      ∃ peer since info, runtime.peers.lookup peer = some (since, info) ∧
        live = { id := peer.text, short := peer.fmtShort,
                 path := if info.path = "" then "pending" else info.path, addr := info.addr,
                 rttMs := info.rttMs, sinceSecs := elapsedSecs since now } := by
  simp only [livePeers, List.mem_map, List.mem_insertionSort]
  constructor
  · rintro ⟨⟨peer, since, info⟩, member, rfl⟩
    exact ⟨peer, since, info, AList.mem_lookup_iff.mpr member, rfl⟩
  · rintro ⟨peer, since, info, found, rfl⟩
    exact ⟨⟨peer, since, info⟩, AList.mem_lookup_iff.mp found, rfl⟩

/-- A peer that connects is listed from then on, whether or not it was before. -/
theorem peerConnected_listed (runtime : Runtime) (id peer : EndpointId) (now : Instant) :
    ((runtime.peerConnected id now).peers.lookup peer).isSome = true ↔
      peer = id ∨ (runtime.peers.lookup peer).isSome = true := by
  unfold peerConnected
  split
  · rename_i known found
    constructor
    · exact Or.inr
    · rintro (rfl | listed)
      · simp [found]
      · exact listed
  · rw [Table.lookup_insert_cases]
    by_cases same : peer = id <;> simp [same]

/-- A peer that disconnects is not listed any more, and the others stay. -/
theorem peerDisconnected_listed (runtime : Runtime) (id peer : EndpointId) :
    ((runtime.peerDisconnected id).peers.lookup peer).isSome = true ↔
      peer ≠ id ∧ (runtime.peers.lookup peer).isSome = true := by
  rw [peerDisconnected, Table.lookup_erase_cases]
  by_cases same : peer = id <;> simp [same]

/-- A path report lists nobody and removes nobody. -/
theorem peerPath_listed (runtime : Runtime) (id peer : EndpointId) (path : String)
    (addr : Option String) (rttMs : Option Nat) :
    ((runtime.peerPath id path addr rttMs).peers.lookup peer).isSome = true ↔
      (runtime.peers.lookup peer).isSome = true := by
  unfold peerPath
  split
  · exact Iff.rfl
  · rename_i since info found
    rw [Table.lookup_insert_cases]
    by_cases same : peer = id
    · subst same
      simp [found]
    · simp [same]

/-- The path info in the entry of a peer, if it has one. -/
def infoOf (runtime : Runtime) (peer : EndpointId) : Option PathInfo :=
  (runtime.peers.lookup peer).map Prod.snd

/-- Listing a peer leaves an entry as it is, and is the only way to get one. -/
theorem infoOf_peerConnected (runtime : Runtime) (id peer : EndpointId) (now : Instant) :
    (runtime.peerConnected id now).infoOf peer =
      if peer = id then some ((runtime.infoOf id).getD PathInfo.default)
      else runtime.infoOf peer := by
  unfold infoOf peerConnected
  cases found : runtime.peers.lookup id with
  | none =>
    dsimp only
    rw [Table.lookup_insert_cases]
    split <;> rfl
  | some entry =>
    by_cases same : peer = id
    · subst same
      simp [found]
    · simp [same]

/-- A peer that disconnects is forgotten, whichever of its connections has ended,
and nothing is forgotten of the others. -/
theorem infoOf_peerDisconnected (runtime : Runtime) (id peer : EndpointId) :
    (runtime.peerDisconnected id).infoOf peer = if peer = id then none else runtime.infoOf peer := by
  unfold infoOf peerDisconnected
  rw [Table.lookup_erase_cases]
  split <;> rfl

/-- A report replaces the path info of an entry. -/
theorem infoOf_peerPath (runtime : Runtime) (id peer : EndpointId) (path : String)
    (addr : Option String) (rttMs : Option Nat) :
    (runtime.peerPath id path addr rttMs).infoOf peer =
      if peer = id then (runtime.infoOf id).map (fun _ => { path, addr, rttMs })
      else runtime.infoOf peer := by
  unfold infoOf peerPath
  cases found : runtime.peers.lookup id with
  | none =>
    by_cases same : peer = id
    · subst same
      simp [found]
    · simp [same]
  | some entry =>
    dsimp only
    rw [Table.lookup_insert_cases]
    split <;> rfl

/-- A peer with an entry is shown, with the path and the address of the entry. -/
theorem shown_of_infoOf {runtime : Runtime} {peer : EndpointId} {info : PathInfo}
    (entry : runtime.infoOf peer = some info) (now : Instant) :
    (∃ live ∈ runtime.livePeers now, live.id = peer.text) ∧
      ∀ live ∈ runtime.livePeers now, live.id = peer.text →
        live.path = (if info.path = "" then "pending" else info.path) ∧ live.addr = info.addr := by
  obtain ⟨⟨since, _⟩, found, rfl⟩ := Option.map_eq_some_iff.mp entry
  constructor
  · exact (listed_iff runtime now peer).mpr (by rw [found]; rfl)
  · intro live member isPeer
    obtain ⟨other, since', info', found', rfl⟩ := (mem_livePeers_iff runtime now live).mp member
    obtain rfl := (EndpointId.text_inj other peer).mp isPeer
    rw [found] at found'
    cases found'
    exact ⟨rfl, rfl⟩

end Runtime

end Rtun
