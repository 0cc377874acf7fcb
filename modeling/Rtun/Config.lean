import Mathlib.Data.List.Sort
import Rtun.Failure

/-!
# The configuration of both roles

The data types of the persisted configuration, its validation, the queries that
the data plane asks of it and the seeding of missing entries from command-line
flags. Order of entries is kept, since lookup takes the first match.

`Config.WellFormed` says what validation is for, independently of the loops that
check it; `Config.validate_ok_iff` relates the two.
-/

namespace Rtun

universe u v

/-- The identity of a machine: its public key. -/
structure EndpointId where
  key : BitVec 256
deriving DecidableEq

/-- Four bits of the key, counted from its most significant end. -/
def EndpointId.nibble (id : EndpointId) (index : Nat) : BitVec 4 :=
  id.key.extractLsb' (252 - 4 * index) 4

/-- The 64 hexadecimal digits of the key. -/
def EndpointId.text (id : EndpointId) : String :=
  String.ofList ((List.range 64).map (fun index => (id.nibble index).toNat.digitChar))

/-- The first five bytes of the key, as log lines and messages show it. -/
def EndpointId.fmtShort (id : EndpointId) : String := String.ofList (id.text.toList.take 10)

/-- Bound on the length of a name. -/
def nameMax : Nat := 64

inductive Proto where
  | tcp
  | udp
deriving DecidableEq

def Proto.asStr : Proto → String
  | .tcp => "tcp"
  | .udp => "udp"

/-- One offered local port on the serving side. -/
structure Offer where
  proto : Proto
  port : UInt16
  name : String
  enabled : Bool
deriving DecidableEq

/-- One allowlisted peer, plus the ports granted to that peer alone. -/
structure Peer where
  id : EndpointId
  name : String
  enabled : Bool
  offers : List Offer
deriving DecidableEq

/-- One local listener on the connecting side and the port it is forwarded to. -/
structure Binding where
  proto : Proto
  localPort : UInt16
  remotePort : UInt16
  name : String
  enabled : Bool
deriving DecidableEq

structure ServeConfig where
  shared : List Offer
  peers : List Peer
deriving DecidableEq

structure ConnectConfig where
  bindings : List Binding
deriving DecidableEq

/-- The whole file: the sections of both roles. -/
structure Config where
  serve : ServeConfig
  connect : ConnectConfig
deriving DecidableEq

/-- A local port and the remote port it is mapped to. -/
structure PortMap where
  localPort : UInt16
  remotePort : UInt16
deriving DecidableEq

/-- The configuration of a machine that has no file yet. -/
def Config.default : Config := { serve := { shared := [], peers := [] }, connect := { bindings := [] } }

/-- What makes two offers in one list the same grant. -/
def Offer.key (offer : Offer) : Proto × UInt16 := (offer.proto, offer.port)

/-- What makes two bindings the same local listener. -/
def Binding.key (binding : Binding) : Proto × UInt16 := (binding.proto, binding.localPort)

/-- The same key as messages name it. -/
def keyText (key : Proto × UInt16) : String := key.1.asStr ++ "/" ++ toString key.2.toNat

/-- `char::is_control`: the Unicode category of control characters. -/
def isControl (char : Char) : Bool :=
  char.toNat < 0x20 || (0x7f ≤ char.toNat && char.toNat ≤ 0x9f)

/-- A name that validation accepts. -/
def NameOk (name : String) : Prop :=
  name.toList.length ≤ nameMax ∧ ∀ char ∈ name.toList, isControl char = false

def checkName (name : String) : Fallible Unit :=
  if name.toList.length > nameMax then
    .error (.message ("name is longer than " ++ toString nameMax ++ " characters"))
  else if name.toList.any isControl then
    .error (.message "name must not contain control characters")
  else .ok ()

def checkPort (port : UInt16) (which : String) : Fallible Unit :=
  if port = 0 then .error (.message (which ++ " port must be 1-65535")) else .ok ()

/-- The loop over a list that must not repeat a key: check the element, then
record its key in the ordered set of those seen, failing on a second insertion. -/
def checkDistinct {α : Type u} {κ : Type v} [DecidableEq κ] (check : α → Fallible Unit) (key : α → κ)
    (repeated : α → String) : List κ → List α → Fallible Unit
  | _, [] => .ok ()
  | seen, element :: rest => do
      check element
      if key element ∈ seen then .error (.message (repeated element))
      else checkDistinct check key repeated (key element :: seen) rest

def Offer.validate (offer : Offer) : Fallible Unit := do
  checkPort offer.port "offered"
  checkName offer.name

def Binding.validate (binding : Binding) : Fallible Unit := do
  checkPort binding.localPort "local"
  checkPort binding.remotePort "remote"
  checkName binding.name

def dedupeOffers (offers : List Offer) : Fallible Unit :=
  checkDistinct (fun _ => .ok ()) Offer.key
    (fun offer => keyText offer.key ++ " is listed twice") [] offers

def Peer.validate (peer : Peer) : Fallible Unit := do
  checkName peer.name
  forM peer.offers Offer.validate
  Fallible.withContext (dedupeOffers peer.offers) ("peer " ++ peer.id.fmtShort)

def Config.validate (config : Config) : Fallible Unit := do
  forM config.serve.shared Offer.validate
  Fallible.withContext (dedupeOffers config.serve.shared) "shared offers"
  checkDistinct Peer.validate Peer.id
    (fun peer => "peer " ++ peer.id.fmtShort ++ " is listed twice") [] config.serve.peers
  checkDistinct Binding.validate Binding.key
    (fun binding => "local " ++ keyText binding.key ++ " is bound twice") [] config.connect.bindings

/-- An offer with a usable port and an acceptable name. -/
def Offer.WellFormed (offer : Offer) : Prop := offer.port ≠ 0 ∧ NameOk offer.name

/-- A binding with two usable ports and an acceptable name. -/
def Binding.WellFormed (binding : Binding) : Prop :=
  binding.localPort ≠ 0 ∧ binding.remotePort ≠ 0 ∧ NameOk binding.name

/-- A list of offers without a repeated key, each of them well formed. -/
def OffersWellFormed (offers : List Offer) : Prop :=
  (∀ offer ∈ offers, offer.WellFormed) ∧ (offers.map Offer.key).Nodup

/-- A peer with an acceptable name and a well-formed list of its own offers. -/
def Peer.WellFormed (peer : Peer) : Prop := NameOk peer.name ∧ OffersWellFormed peer.offers

/-- What a configuration must be for the roles to run on it: distinct peers,
distinct grants in each list, distinct local listeners, no port 0, and names that
are short labels without control characters. -/
structure Config.WellFormed (config : Config) : Prop where
  shared : OffersWellFormed config.serve.shared
  peers : ∀ peer ∈ config.serve.peers, peer.WellFormed
  distinctPeers : (config.serve.peers.map Peer.id).Nodup
  bindings : ∀ binding ∈ config.connect.bindings, binding.WellFormed
  distinctBindings : (config.connect.bindings.map Binding.key).Nodup

/-- The name check accepts exactly the acceptable names. -/
theorem checkName_ok_iff (name : String) : checkName name = .ok () ↔ NameOk name := by
  by_cases long : name.toList.length > nameMax
  · have notOk : ¬ NameOk name := fun acceptable => absurd acceptable.1 (Nat.not_le_of_gt long)
    simp only [checkName, if_pos long, notOk, reduceCtorEq]
  · by_cases control : name.toList.any isControl = true
    · have notOk : ¬ NameOk name := by
        intro acceptable
        obtain ⟨char, member, isOne⟩ := List.any_eq_true.mp control
        simp [acceptable.2 char member] at isOne
      simp only [checkName, if_neg long, if_pos control, notOk, reduceCtorEq]
    · have clean : ∀ char ∈ name.toList, isControl char = false := by
        simpa only [List.any_eq_true, not_exists, not_and, Bool.not_eq_true] using control
      simp only [checkName, if_neg long, if_neg control, true_iff]
      exact ⟨Nat.le_of_not_gt long, clean⟩

/-- The port check refuses port 0 and nothing else. -/
theorem checkPort_ok_iff (port : UInt16) (which : String) :
    checkPort port which = .ok () ↔ port ≠ 0 := by
  by_cases zero : port = 0 <;> simp [checkPort, zero]

/-- The loop accepts exactly a list whose elements pass the check and whose keys
are distinct from each other and from those seen before.

Induct over the list with the seen keys as the growing state: recording the key
of the first element is what makes the rest avoid it. -/
theorem checkDistinct_ok_iff {α : Type u} {κ : Type v} [DecidableEq κ] (check : α → Fallible Unit)
    (key : α → κ) (repeated : α → String) (seen : List κ) (elements : List α) :
    checkDistinct check key repeated seen elements = .ok () ↔
      (∀ element ∈ elements, check element = .ok ()) ∧ (elements.map key).Nodup ∧
        ∀ element ∈ elements, key element ∉ seen := by
  induction elements generalizing seen with
  | nil => simp [checkDistinct]
  | cons element rest inductionHypothesis =>
    by_cases known : key element ∈ seen
    · have refused : checkDistinct check key repeated seen (element :: rest) ≠ .ok () := by
        simp [checkDistinct, Fallible.check_bind_ok_iff, known]
      simp only [refused, false_iff, not_and]
      intro _ _ fresh
      exact fresh element List.mem_cons_self known
    · have accepted : checkDistinct check key repeated seen (element :: rest) = .ok () ↔
          check element = .ok () ∧
            checkDistinct check key repeated (key element :: seen) rest = .ok () := by
        simp only [checkDistinct, if_neg known, Fallible.check_bind_ok_iff]
      rw [accepted, inductionHypothesis]
      simp only [List.forall_mem_cons, List.map_cons, List.nodup_cons, List.mem_map, not_exists,
        not_and]
      constructor
      · rintro ⟨checked, others, distinct, fresh⟩
        refine ⟨⟨checked, others⟩, ⟨?_, distinct⟩, known, ?_⟩
        · intro other member same
          exact fresh other member (same ▸ List.mem_cons_self)
        · intro other member alreadySeen
          exact fresh other member (List.mem_cons_of_mem (key element) alreadySeen)
      · rintro ⟨⟨checked, others⟩, ⟨differs, distinct⟩, _, fresh⟩
        refine ⟨checked, others, distinct, ?_⟩
        intro other member alreadySeen
        rcases List.mem_cons.mp alreadySeen with same | earlier
        · exact differs other member same
        · exact fresh other member earlier

/-- Validation accepts exactly the offers that are well formed. -/
theorem Offer.validate_ok_iff (offer : Offer) : offer.validate = .ok () ↔ offer.WellFormed := by
  simp only [Offer.validate, Fallible.check_bind_ok_iff, checkPort_ok_iff, checkName_ok_iff,
    Offer.WellFormed]

/-- The same for bindings: both ports and the name are checked. -/
theorem Binding.validate_ok_iff (binding : Binding) :
    binding.validate = .ok () ↔ binding.WellFormed := by
  simp only [Binding.validate, Fallible.check_bind_ok_iff, checkPort_ok_iff, checkName_ok_iff,
    Binding.WellFormed]

/-- The duplicate check alone: no element check is made in its loop. -/
theorem dedupeOffers_ok_iff (offers : List Offer) :
    dedupeOffers offers = .ok () ↔ (offers.map Offer.key).Nodup := by
  simp [dedupeOffers, checkDistinct_ok_iff]

/-- And for peers, whose own offers are checked one by one and then for
duplicates. -/
theorem Peer.validate_ok_iff (peer : Peer) : peer.validate = .ok () ↔ peer.WellFormed := by
  simp only [Peer.validate, Fallible.check_bind_ok_iff, checkName_ok_iff, Fallible.forM_ok_iff,
    Offer.validate_ok_iff, Fallible.withContext_ok_iff, dedupeOffers_ok_iff, Peer.WellFormed,
    OffersWellFormed]

/-- Validation accepts exactly the well-formed configurations. Each loop is
settled by its own law; the parts are then the fields of the specification. -/
theorem Config.validate_ok_iff (config : Config) :
    config.validate = .ok () ↔ config.WellFormed := by
  simp only [Config.validate, Fallible.check_bind_ok_iff, Fallible.forM_ok_iff,
    Offer.validate_ok_iff, Fallible.withContext_ok_iff, dedupeOffers_ok_iff, checkDistinct_ok_iff,
    Peer.validate_ok_iff, Binding.validate_ok_iff, List.not_mem_nil, not_false_eq_true,
    implies_true, and_true]
  constructor
  · rintro ⟨offers, distinctOffers, ⟨peers, distinctPeers⟩, bindings, distinctBindings⟩
    exact ⟨⟨offers, distinctOffers⟩, peers, distinctPeers, bindings, distinctBindings⟩
  · rintro ⟨⟨offers, distinctOffers⟩, peers, distinctPeers, bindings, distinctBindings⟩
    exact ⟨offers, distinctOffers, ⟨peers, distinctPeers⟩, bindings, distinctBindings⟩

/-- The configuration of a first run is well formed. -/
theorem Config.default_wellFormed : Config.default.WellFormed :=
  (Config.validate_ok_iff Config.default).mp rfl

end Rtun
