import Rtun.Grants

/-!
# Seeding the configuration from command-line flags

Flags add what is missing and change nothing that is there. Each loop tests
membership against the list it is growing, so a repeated flag adds one entry.
-/

namespace Rtun

/-- The loop of the flag seeders: an entry is added for a flag unless the list, as
it has grown so far, already has one. The flag of the pair says whether anything
was added. -/
def seedMissing {α β : Type} (present : List α → β → Bool) (entry : β → α) :
    List α × Bool → List β → List α × Bool
  | state, [] => state
  | state, flag :: rest =>
      if present state.1 flag then seedMissing present entry state rest
      else seedMissing present entry (state.1 ++ [entry flag], true) rest

/-- Seed the ports of one protocol into the shared offers. -/
def seedOffers (proto : Proto) (state : List Offer × Bool) (ports : List UInt16) :
    List Offer × Bool :=
  seedMissing (fun offers port => offers.any (fun offer => offer.proto == proto && offer.port == port))
    (fun port => { proto, port, name := "", enabled := true }) state ports

/-- Seed the allowlisted ids into the peers. -/
def seedPeers (state : List Peer × Bool) (allow : List EndpointId) : List Peer × Bool :=
  seedMissing (fun peers id => (peers.find? (fun peer => peer.id == id)).isSome)
    (fun id => { id, name := "", enabled := true, offers := [] }) state allow

/-- Seed the port maps of one protocol into the bindings. -/
def seedMaps (proto : Proto) (state : List Binding × Bool) (maps : List PortMap) :
    List Binding × Bool :=
  seedMissing (fun bindings map =>
      bindings.any (fun binding => binding.proto == proto && binding.localPort == map.localPort))
    (fun map => { proto, localPort := map.localPort, remotePort := map.remotePort, name := "",
                  enabled := true }) state maps

namespace Config

/-- Add what the flags of the serving role name and the file lacks. -/
def seedFromFlags (config : Config) (allow : List EndpointId) (tcp udp : List UInt16) :
    Config × Bool :=
  let offers := seedOffers .udp (seedOffers .tcp (config.serve.shared, false) tcp) udp
  let peers := seedPeers (config.serve.peers, offers.2) allow
  ({ config with serve := { shared := offers.1, peers := peers.1 } }, peers.2)

/-- Add what the flags of the connecting role name and the file lacks. -/
def seedBindings (config : Config) (tcp udp : List PortMap) : Config × Bool :=
  let bindings := seedMaps .udp (seedMaps .tcp (config.connect.bindings, false) tcp) udp
  ({ config with connect := { bindings := bindings.1 } }, bindings.2)

end Config

/-- When the seeding loop reports no change, it has added nothing. The report is
what decides whether the file is saved. -/
theorem seedMissing_unchanged {α β : Type} (present : List α → β → Bool) (entry : β → α)
    (entries : List α) (before : Bool) (flags : List β)
    (unchanged : (seedMissing present entry (entries, before) flags).2 = false) :
    before = false ∧ (seedMissing present entry (entries, before) flags).1 = entries := by
  have changedStays (state : List α × Bool) (rest : List β) (already : state.2 = true) :
      (seedMissing present entry state rest).2 = true := by
    induction rest generalizing state with
    | nil => exact already
    | cons flag rest inductionHypothesis =>
      by_cases known : present state.1 flag = true
      · simpa only [seedMissing, if_pos known] using inductionHypothesis state already
      · simpa only [seedMissing, if_neg known] using inductionHypothesis _ rfl
  induction flags with
  | nil => exact ⟨unchanged, rfl⟩
  | cons flag rest inductionHypothesis =>
    by_cases known : present entries flag = true
    · simp only [seedMissing, if_pos known] at unchanged ⊢
      exact inductionHypothesis unchanged
    · simp only [seedMissing, if_neg known] at unchanged
      simp [changedStays (entries ++ [entry flag], true) rest rfl] at unchanged

/-- What the loop adds to a list: entries for flags, under keys that are new and
distinct, so that every flag has one. -/
structure Adds {α β κ : Type} (key : α → κ) (entry : β → α) (before : List α) (flags : List β)
    (added : List α) : Prop where
  origin : ∀ element ∈ added, ∃ flag ∈ flags, entry flag = element
  distinct : (added.map key).Nodup
  fresh : ∀ element ∈ added, key element ∉ before.map key
  covered : ∀ flag ∈ flags, key (entry flag) ∈ (before ++ added).map key

section Loop

variable {α β κ : Type} {key : α → κ} {present : List α → β → Bool} {entry : β → α}
  (byKey : ∀ elements flag, present elements flag = true ↔ key (entry flag) ∈ elements.map key)

include byKey

/-- The loop adds to the list, and reports exactly whether it did.

Induct over the flags with the list as the growing state: an entry that is added for one
flag is among those that the next are tested against. -/
theorem seedMissing_adds (before : List α) (changed : Bool) (flags : List β) :
    ∃ added, seedMissing present entry (before, changed) flags =
        (before ++ added, changed || !added.isEmpty) ∧ Adds key entry before flags added := by
  induction flags generalizing before changed with
  | nil => exact ⟨[], by simp [seedMissing], by constructor <;> simp⟩
  | cons flag rest inductionHypothesis =>
    by_cases known : present before flag = true
    · obtain ⟨added, result, adds⟩ := inductionHypothesis before changed
      refine ⟨added, by simpa only [seedMissing, if_pos known] using result, ?_⟩
      refine ⟨?_, adds.distinct, adds.fresh, ?_⟩
      · intro element member
        obtain ⟨other, listed, isEntry⟩ := adds.origin element member
        exact ⟨other, List.mem_cons_of_mem flag listed, isEntry⟩
      · rw [List.forall_mem_cons]
        refine ⟨?_, adds.covered⟩
        rw [List.map_append, List.mem_append]
        exact Or.inl ((byKey before flag).mp known)
    · obtain ⟨added, result, adds⟩ := inductionHypothesis (before ++ [entry flag]) true
      refine ⟨entry flag :: added, by simpa [seedMissing, known] using result, ?_⟩
      refine ⟨?_, ?_, ?_, ?_⟩
      · rw [List.forall_mem_cons]
        refine ⟨⟨flag, List.mem_cons_self, rfl⟩, ?_⟩
        intro element member
        obtain ⟨other, listed, isEntry⟩ := adds.origin element member
        exact ⟨other, List.mem_cons_of_mem flag listed, isEntry⟩
      · rw [List.map_cons, List.nodup_cons]
        refine ⟨?_, adds.distinct⟩
        intro repeated
        obtain ⟨element, member, same⟩ := List.mem_map.mp repeated
        apply adds.fresh element member
        simp [same]
      · rw [List.forall_mem_cons]
        refine ⟨mt (byKey before flag).mpr known, ?_⟩
        intro element member listed
        apply adds.fresh element member
        rw [List.map_append, List.mem_append]
        exact Or.inl listed
      · rw [List.forall_mem_cons]
        refine ⟨by simp, ?_⟩
        simpa using adds.covered

/-- Flags that all have an entry add nothing, and nothing is reported. A restart
with the same flags is such a case. -/
theorem seedMissing_of_covered (elements : List α) (changed : Bool) (flags : List β)
    (covered : ∀ flag ∈ flags, key (entry flag) ∈ elements.map key) :
    seedMissing present entry (elements, changed) flags = (elements, changed) := by
  induction flags with
  | nil => rfl
  | cons flag rest inductionHypothesis =>
    rw [List.forall_mem_cons] at covered
    rw [seedMissing, if_pos ((byKey elements flag).mpr covered.1)]
    exact inductionHypothesis covered.2

end Loop

section Added

variable {α β κ : Type} {key : α → κ} {entry : β → α} {before added : List α} {flags : List β}

/-- A flag has exactly one entry in the end, if there was at most one before.
Giving a flag twice does not add a second one. -/
theorem Adds.once [DecidableEq κ] (adds : Adds key entry before flags added) (flag : β)
    (flagged : flag ∈ flags)
    (atMostOne : before.countP (fun element => decide (key element = key (entry flag))) ≤ 1) :
    (before ++ added).countP (fun element => decide (key element = key (entry flag))) = 1 := by
  have counts (elements : List α) :
      elements.countP (fun element => decide (key element = key (entry flag))) =
        (elements.map key).count (key (entry flag)) := by
    rw [List.count, List.countP_map]
    rfl
  rw [counts] at atMostOne ⊢
  rw [List.map_append, List.count_append]
  by_cases old : key (entry flag) ∈ before.map key
  · have isOne : (before.map key).count (key (entry flag)) = 1 :=
      Nat.le_antisymm atMostOne (List.count_pos_iff.mpr old)
    have notAdded : key (entry flag) ∉ added.map key := by
      intro again
      obtain ⟨element, member, same⟩ := List.mem_map.mp again
      exact adds.fresh element member (same ▸ old)
    rw [isOne, List.count_eq_zero_of_not_mem notAdded]
  · have isAdded : key (entry flag) ∈ added.map key := by
      have covered := adds.covered flag flagged
      rw [List.map_append, List.mem_append] at covered
      exact covered.resolve_left old
    rw [List.count_eq_zero_of_not_mem old, List.count_eq_one_of_mem adds.distinct isAdded]

/-- Distinct keys stay distinct, since the loop looks for an entry with the key
before it adds one. -/
theorem Adds.nodup (adds : Adds key entry before flags added) (distinct : (before.map key).Nodup) :
    ((before ++ added).map key).Nodup := by
  rw [List.map_append, List.nodup_append]
  refine ⟨distinct, adds.distinct, ?_⟩
  rintro old listed other inAdded rfl
  obtain ⟨element, member, same⟩ := List.mem_map.mp inAdded
  exact adds.fresh element member (same ▸ listed)

end Added

/-- Two loops one after the other are one loop over both lists of flags: the
second starts with what the first has left and reported. -/
theorem seedMissing_append {α β : Type} (present : List α → β → Bool) (entry : β → α)
    (state : List α × Bool) (first second : List β) :
    seedMissing present entry state (first ++ second) =
      seedMissing present entry (seedMissing present entry state first) second := by
  induction first generalizing state with
  | nil => rfl
  | cons flag rest inductionHypothesis =>
    simp only [List.cons_append, seedMissing]
    split <;> exact inductionHypothesis _

/-- A loop over flags of one kind is a loop over flags of a wider kind. The ports
of a protocol become flags that carry the protocol. -/
theorem seedMissing_map {α β γ : Type} (present : List α → β → Bool) (entry : β → α) (tag : γ → β)
    (state : List α × Bool) (flags : List γ) :
    seedMissing (fun elements flag => present elements (tag flag)) (fun flag => entry (tag flag))
        state flags = seedMissing present entry state (flags.map tag) := by
  induction flags generalizing state with
  | nil => rfl
  | cons flag rest inductionHypothesis =>
    simp only [List.map_cons, seedMissing]
    split <;> exact inductionHypothesis _

/-- The flags of both protocols, each with its protocol, in the order of the
loops. -/
def flagged {α : Type} (tcp udp : List α) : List (Proto × α) :=
  tcp.map (Prod.mk .tcp) ++ udp.map (Prod.mk .udp)

/-- The flags of a role, in the order in which they are taken: those of TCP
first. -/
theorem mem_flagged {α : Type} (tcp udp : List α) (flag : Proto × α) :
    flag ∈ flagged tcp udp ↔ (flag.1 = .tcp ∧ flag.2 ∈ tcp) ∨ (flag.1 = .udp ∧ flag.2 ∈ udp) := by
  obtain ⟨proto, value⟩ := flag
  cases proto <;> simp [flagged]

/-- The entries that the flags stand for. -/
def offerFor (flag : Proto × UInt16) : Offer :=
  { proto := flag.1, port := flag.2, name := "", enabled := true }

def peerFor (id : EndpointId) : Peer := { id, name := "", enabled := true, offers := [] }

def bindingFor (flag : Proto × PortMap) : Binding :=
  { proto := flag.1, localPort := flag.2.localPort, remotePort := flag.2.remotePort, name := "",
    enabled := true }

/-- The test of the loop over the offers, over the peers, and over the
bindings. -/
def offerPresent (offers : List Offer) (flag : Proto × UInt16) : Bool :=
  offers.any (fun offer => offer.proto == flag.1 && offer.port == flag.2)

def peerPresent (peers : List Peer) (id : EndpointId) : Bool :=
  (peers.find? (fun peer => peer.id == id)).isSome

def bindingPresent (bindings : List Binding) (flag : Proto × PortMap) : Bool :=
  bindings.any (fun binding => binding.proto == flag.1 && binding.localPort == flag.2.localPort)

/-- A port that is flagged is offered already if some shared offer has its key,
whatever its name and whether it is enabled. -/
theorem offerPresent_iff (offers : List Offer) (flag : Proto × UInt16) :
    offerPresent offers flag = true ↔ (offerFor flag).key ∈ offers.map Offer.key := by
  simp [offerPresent, offerFor, Offer.key, Prod.ext_iff]

/-- A peer that is flagged is listed already if some peer has its id, whether it
is enabled or not. -/
theorem peerPresent_iff (peers : List Peer) (id : EndpointId) :
    peerPresent peers id = true ↔ (peerFor id).id ∈ peers.map Peer.id := by
  simp [peerPresent, peerFor]

/-- A port map that is flagged is bound already if some binding has its protocol
and its local port. The remote port is not compared. -/
theorem bindingPresent_iff (bindings : List Binding) (flag : Proto × PortMap) :
    bindingPresent bindings flag = true ↔ (bindingFor flag).key ∈ bindings.map Binding.key := by
  simp [bindingPresent, bindingFor, Binding.key]

/-- The two loops over the ports are one loop over the flags of both protocols,
TCP before UDP as the program has them. -/
theorem seedOffers_eq (offers : List Offer) (tcp udp : List UInt16) :
    seedOffers .udp (seedOffers .tcp (offers, false) tcp) udp =
      seedMissing offerPresent offerFor (offers, false) (flagged tcp udp) := by
  rw [flagged, seedMissing_append, ← seedMissing_map, ← seedMissing_map]
  rfl

/-- The two loops over the port maps, of TCP and of UDP, are one loop over all
flags. -/
theorem seedMaps_eq (bindings : List Binding) (tcp udp : List PortMap) :
    seedMaps .udp (seedMaps .tcp (bindings, false) tcp) udp =
      seedMissing bindingPresent bindingFor (bindings, false) (flagged tcp udp) := by
  rw [flagged, seedMissing_append, ← seedMissing_map, ← seedMissing_map]
  rfl

namespace Config

/-- What the flags of the serving role add: offers and peers at the end of their
lists, and nothing in any other place. -/
theorem seedFromFlags_adds (config : Config) (allow : List EndpointId) (tcp udp : List UInt16) :
    ∃ offers peers, config.seedFromFlags allow tcp udp =
        ({ config with serve := { shared := config.serve.shared ++ offers,
                                  peers := config.serve.peers ++ peers } },
          !offers.isEmpty || !peers.isEmpty) ∧
      Adds Offer.key offerFor config.serve.shared (flagged tcp udp) offers ∧
      Adds Peer.id peerFor config.serve.peers allow peers := by
  obtain ⟨offers, seededOffers, addsOffers⟩ :=
    seedMissing_adds offerPresent_iff config.serve.shared false (flagged tcp udp)
  obtain ⟨peers, seededPeers, addsPeers⟩ :=
    seedMissing_adds peerPresent_iff config.serve.peers (!offers.isEmpty) allow
  rw [← seedOffers_eq] at seededOffers
  have seededPeers' : seedPeers (config.serve.peers, !offers.isEmpty) allow =
      (config.serve.peers ++ peers, !offers.isEmpty || !peers.isEmpty) := seededPeers
  refine ⟨offers, peers, ?_, addsOffers, addsPeers⟩
  simp only [seedFromFlags, seededOffers, Bool.false_or, seededPeers']

/-- What the flags of the connecting role add: bindings at the end of their list,
and nothing in any other place. -/
theorem seedBindings_adds (config : Config) (tcp udp : List PortMap) :
    ∃ bindings, config.seedBindings tcp udp =
        ({ config with connect := { bindings := config.connect.bindings ++ bindings } },
          !bindings.isEmpty) ∧
      Adds Binding.key bindingFor config.connect.bindings (flagged tcp udp) bindings := by
  obtain ⟨bindings, seeded, adds⟩ :=
    seedMissing_adds bindingPresent_iff config.connect.bindings false (flagged tcp udp)
  rw [← seedMaps_eq] at seeded
  refine ⟨bindings, ?_, adds⟩
  simp only [seedBindings, seeded, Bool.false_or]

/-- Flags that all have an entry change nothing, so the configuration is not saved
again. -/
theorem seedFromFlags_of_covered (config : Config) (allow : List EndpointId) (tcp udp : List UInt16)
    (offers : ∀ flag ∈ flagged tcp udp, flag ∈ config.serve.shared.map Offer.key)
    (peers : ∀ id ∈ allow, id ∈ config.serve.peers.map Peer.id) :
    config.seedFromFlags allow tcp udp = (config, false) := by
  have sameOffers := seedMissing_of_covered offerPresent_iff config.serve.shared false _ offers
  have samePeers : seedPeers (config.serve.peers, false) allow = (config.serve.peers, false) :=
    seedMissing_of_covered peerPresent_iff config.serve.peers false _ peers
  rw [← seedOffers_eq] at sameOffers
  simp only [seedFromFlags, sameOffers, samePeers]

/-- Port maps whose local ports are all bound change nothing, so the file is not
rewritten. -/
theorem seedBindings_of_covered (config : Config) (tcp udp : List PortMap)
    (bindings : ∀ flag ∈ flagged tcp udp,
      (flag.1, flag.2.localPort) ∈ config.connect.bindings.map Binding.key) :
    config.seedBindings tcp udp = (config, false) := by
  have same := seedMissing_of_covered bindingPresent_iff config.connect.bindings false _ bindings
  rw [← seedMaps_eq] at same
  simp only [seedBindings, same]

end Config

/-- What is seeded has no name, and the empty name is allowed. -/
theorem nameOk_empty : NameOk "" := ⟨by decide, by simp⟩

/-- Entries for flags without port 0 keep a valid configuration valid: what is
added has a port, no name and a key of its own. -/
theorem Config.WellFormed.seedFromFlags {config : Config} (valid : config.WellFormed)
    (allow : List EndpointId) (tcp udp : List UInt16) (noTcp : 0 ∉ tcp) (noUdp : 0 ∉ udp) :
    (config.seedFromFlags allow tcp udp).1.WellFormed := by
  obtain ⟨offers, peers, seeded, addsOffers, addsPeers⟩ := config.seedFromFlags_adds allow tcp udp
  rw [seeded]
  refine ⟨⟨?_, addsOffers.nodup valid.shared.2⟩, ?_, addsPeers.nodup valid.distinctPeers,
    valid.bindings, valid.distinctBindings⟩
  · rw [List.forall_mem_append]
    refine ⟨valid.shared.1, ?_⟩
    intro offer member
    obtain ⟨flag, isFlag, rfl⟩ := addsOffers.origin offer member
    refine ⟨?_, nameOk_empty⟩
    intro (zero : flag.2 = 0)
    rcases (mem_flagged tcp udp flag).mp isFlag with ⟨_, isTcp⟩ | ⟨_, isUdp⟩
    · exact noTcp (zero ▸ isTcp)
    · exact noUdp (zero ▸ isUdp)
  · rw [List.forall_mem_append]
    refine ⟨valid.peers, ?_⟩
    intro peer member
    obtain ⟨id, _, rfl⟩ := addsPeers.origin peer member
    exact ⟨nameOk_empty, by simp [peerFor], by simp [peerFor]⟩

/-- A valid configuration stays valid when port maps are seeded, if none of their
ports is 0. Two maps of one local port make one binding. -/
theorem Config.WellFormed.seedBindings {config : Config} (valid : config.WellFormed)
    (tcp udp : List PortMap)
    (noZero : ∀ map ∈ tcp ++ udp, map.localPort ≠ 0 ∧ map.remotePort ≠ 0) :
    (config.seedBindings tcp udp).1.WellFormed := by
  obtain ⟨bindings, seeded, adds⟩ := config.seedBindings_adds tcp udp
  rw [seeded]
  refine ⟨valid.shared, valid.peers, valid.distinctPeers, ?_, adds.nodup valid.distinctBindings⟩
  rw [List.forall_mem_append]
  refine ⟨valid.bindings, ?_⟩
  intro binding member
  obtain ⟨flag, isFlag, rfl⟩ := adds.origin binding member
  have isMap : flag.2 ∈ tcp ++ udp := by
    rw [List.mem_append]
    exact ((mem_flagged tcp udp flag).mp isFlag).imp And.right And.right
  exact ⟨(noZero _ isMap).1, (noZero _ isMap).2, nameOk_empty⟩

/-- Fewer flags of either kind are fewer flags. This is how a start with some of
the flags of an earlier one is covered by it. -/
theorem flagged_subset {α : Type} {tcp udp tcp' udp' : List α} (someTcp : tcp' ⊆ tcp)
    (someUdp : udp' ⊆ udp) : flagged tcp' udp' ⊆ flagged tcp udp := by
  intro flag isFlag
  rw [mem_flagged] at isFlag ⊢
  exact isFlag.imp (And.imp_right (@someTcp _)) (And.imp_right (@someUdp _))

/-- A configuration with longer lists is another one. -/
theorem Config.appended_serve_iff (config : Config) (offers : List Offer) (peers : List Peer) :
    ({ config with serve := { shared := config.serve.shared ++ offers,
                              peers := config.serve.peers ++ peers } } : Config) = config ↔
      offers = [] ∧ peers = [] := by
  constructor
  · intro same
    exact ⟨List.append_right_eq_self.mp (congrArg (fun config => config.serve.shared) same),
      List.append_right_eq_self.mp (congrArg (fun config => config.serve.peers) same)⟩
  · rintro ⟨rfl, rfl⟩
    simp

/-- Appending bindings leaves the configuration as it is exactly if there are none
to append. -/
theorem Config.appended_connect_iff (config : Config) (bindings : List Binding) :
    ({ config with connect := { bindings := config.connect.bindings ++ bindings } } : Config) =
        config ↔ bindings = [] := by
  constructor
  · intro same
    exact List.append_right_eq_self.mp (congrArg (fun config => config.connect.bindings) same)
  · rintro rfl
    simp

/-- Flag seeding is additive, idempotent and never clobbers. Every old list is a
prefix of the new one; a flag has exactly one entry if there was at most one; the
report says whether the configuration has changed; the same flags, or some of
them, in any order, change nothing any more; and without port 0 among the flags a
valid configuration stays valid. -/
theorem seeding_only_adds (config : Config) :
    (∀ (allow : List EndpointId) (tcp udp : List UInt16),
      let seeded := config.seedFromFlags allow tcp udp
      (config.serve.shared <+: seeded.1.serve.shared ∧ config.serve.peers <+: seeded.1.serve.peers ∧
        seeded.1.connect = config.connect) ∧
      (∀ key ∈ flagged tcp udp,
        config.serve.shared.countP (fun offer => decide (offer.key = key)) ≤ 1 →
        seeded.1.serve.shared.countP (fun offer => decide (offer.key = key)) = 1) ∧
      (∀ id ∈ allow, config.serve.peers.countP (fun peer => decide (peer.id = id)) ≤ 1 →
        seeded.1.serve.peers.countP (fun peer => decide (peer.id = id)) = 1) ∧
      (seeded.2 = true ↔ seeded.1 ≠ config) ∧
      (∀ allow' tcp' udp', allow' ⊆ allow → tcp' ⊆ tcp → udp' ⊆ udp →
        seeded.1.seedFromFlags allow' tcp' udp' = (seeded.1, false)) ∧
      (config.validate = .ok () → 0 ∉ tcp → 0 ∉ udp → seeded.1.validate = .ok ())) ∧
    ∀ tcp udp : List PortMap,
      let seeded := config.seedBindings tcp udp
      (config.connect.bindings <+: seeded.1.connect.bindings ∧ seeded.1.serve = config.serve) ∧
      (∀ flag ∈ flagged tcp udp,
        config.connect.bindings.countP
          (fun binding => decide (binding.key = (flag.1, flag.2.localPort))) ≤ 1 →
        seeded.1.connect.bindings.countP
          (fun binding => decide (binding.key = (flag.1, flag.2.localPort))) = 1) ∧
      (seeded.2 = true ↔ seeded.1 ≠ config) ∧
      (∀ tcp' udp', tcp' ⊆ tcp → udp' ⊆ udp →
        seeded.1.seedBindings tcp' udp' = (seeded.1, false)) ∧
      (config.validate = .ok () → (∀ map ∈ tcp ++ udp, map.localPort ≠ 0 ∧ map.remotePort ≠ 0) →
        seeded.1.validate = .ok ()) := by
  constructor
  · intro allow tcp udp seeded
    obtain ⟨offers, peers, result, addsOffers, addsPeers⟩ := config.seedFromFlags_adds allow tcp udp
    have isResult : seeded = _ := result
    refine ⟨?_, ?_, ?_, ?_, ?_, ?_⟩
    · rw [isResult]
      exact ⟨List.prefix_append _ _, List.prefix_append _ _, rfl⟩
    · intro key isFlag atMostOne
      rw [isResult]
      exact addsOffers.once key isFlag atMostOne
    · intro id isFlag atMostOne
      rw [isResult]
      exact addsPeers.once id isFlag atMostOne
    · rw [isResult, ne_eq, Config.appended_serve_iff]
      cases offers <;> cases peers <;> simp
    · intro allow' tcp' udp' someAllow someTcp someUdp
      apply Config.seedFromFlags_of_covered
      · intro flag isFlag
        rw [isResult]
        exact addsOffers.covered flag (flagged_subset someTcp someUdp isFlag)
      · intro id isFlag
        rw [isResult]
        exact addsPeers.covered id (someAllow isFlag)
    · intro valid noTcp noUdp
      exact (Config.validate_ok_iff _).mpr
        (((Config.validate_ok_iff _).mp valid).seedFromFlags allow tcp udp noTcp noUdp)
  · intro tcp udp seeded
    obtain ⟨bindings, result, adds⟩ := config.seedBindings_adds tcp udp
    have isResult : seeded = _ := result
    refine ⟨?_, ?_, ?_, ?_, ?_⟩
    · rw [isResult]
      exact ⟨List.prefix_append _ _, rfl⟩
    · intro flag isFlag atMostOne
      rw [isResult]
      exact adds.once flag isFlag atMostOne
    · rw [isResult, ne_eq, Config.appended_connect_iff]
      cases bindings <;> simp
    · intro tcp' udp' someTcp someUdp
      apply Config.seedBindings_of_covered
      intro flag isFlag
      rw [isResult]
      exact adds.covered flag (flagged_subset someTcp someUdp isFlag)
    · intro valid noZero
      exact (Config.validate_ok_iff _).mpr
        (((Config.validate_ok_iff _).mp valid).seedBindings tcp udp noZero)

end Rtun
