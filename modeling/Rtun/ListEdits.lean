import Rtun.MapOperations

/-!
# Edits of the lists of a configuration

An edit of the shared offers, of the peers, of the offers of one peer, or of the bindings
implements the operation that it stands for, and that operation is possible exactly when
the edit is possible and leaves a valid configuration.
-/

namespace Rtun

open KeyedList

section Places

variable (config : Config)

/-- An edit of the shared offers implements its operation. -/
theorem implements_shared (edit : KeyedList.Edit Offer (Proto × UInt16)) (patch : Entry → Entry)
    (keeps : edit.KeepsKey Offer.key) (possible : edit.Possible Offer.key config.serve.shared)
    (patches : Patches Offer.entry patch edit) :
    Implements (operationOf Offer.key sharedKey Offer.entry patch edit) config
      { config with serve := { config.serve with
          shared := edit.run Offer.key config.serve.shared } } := by
  have reads := config.reads_shared
  constructor
  · refine reads.apply_eq sharedKey_ownsNothing edit keeps possible patches
      (Config.entry_shared _) ?_
    intro other apart
    induction other using Config.entry_cases with
    | shared key => exact absurd rfl (apart key)
    | peer id | own id key | binding key => rfl
  · simp only [Config.entries, List.filter_append]
    congr 2
    exact reads.others edit patch keeps

/-- An edit of the bindings implements its operation. -/
theorem implements_bindings (edit : KeyedList.Edit Binding (Proto × UInt16))
    (patch : Entry → Entry) (keeps : edit.KeepsKey Binding.key)
    (possible : edit.Possible Binding.key config.connect.bindings)
    (patches : Patches Binding.entry patch edit) :
    Implements (operationOf Binding.key bindingKey Binding.entry patch edit) config
      { config with connect := { bindings := edit.run Binding.key config.connect.bindings } } := by
  have reads := config.reads_bindings
  constructor
  · refine reads.apply_eq bindingKey_ownsNothing edit keeps possible patches
      (Config.entry_binding _) ?_
    intro other apart
    induction other using Config.entry_cases with
    | binding key => exact absurd rfl (apart key)
    | shared key | peer id | own id key => rfl
  · simp only [Config.entries, List.filter_append]
    congr 1
    exact reads.others edit patch keeps

/-- Changing the peers with an id, as far as a test of their entries goes. -/
theorem filter_alter_peers (id : EndpointId) (change : Peer → Peer) (test : EntryKey × Entry → Bool)
    (peers : List Peer)
    (same : ∀ peer ∈ peers, peer.id = id → (change peer).entries.filter test = peer.entries.filter test) :
    ((alter Peer.id id change peers).flatMap Peer.entries).filter test =
      (peers.flatMap Peer.entries).filter test := by
  simp only [alter, List.filter_flatMap, List.flatMap_map]
  refine List.flatMap_congr (fun peer member => ?_)
  split
  · rename_i named
    exact same peer member named
  · rfl

/-- Removing the peers with an id, when none of their entries passes the test. -/
theorem filter_remove_peers (id : EndpointId) (test : EntryKey × Entry → Bool) (peers : List Peer)
    (none : ∀ peer : Peer, peer.id = id → peer.entries.filter test = []) :
    ((remove Peer.id id peers).flatMap Peer.entries).filter test =
      (peers.flatMap Peer.entries).filter test := by
  induction peers with
  | nil => rfl
  | cons peer rest inductionHypothesis =>
    by_cases same : peer.id = id
    · simpa [remove, same, none peer same] using inductionHypothesis
    · simpa [remove, same] using inductionHypothesis

/-- An edit of the offers of one peer implements its operation. -/
theorem implements_own (distinct : (config.serve.peers.map Peer.id).Nodup) (id : EndpointId)
    (owner : Peer) (listed : lookup Peer.id id config.serve.peers = some owner)
    (edit : KeyedList.Edit Offer (Proto × UInt16)) (patch : Entry → Entry)
    (keeps : edit.KeepsKey Offer.key) (possible : edit.Possible Offer.key owner.offers)
    (patches : Patches Offer.entry patch edit) :
    Implements (operationOf Offer.key (ownKey id) Offer.entry patch edit) config
      { config with serve := { config.serve with
          peers := alter Peer.id id
            (fun peer => { peer with offers := edit.run Offer.key owner.offers })
            config.serve.peers } } := by
  have reads := config.reads_own id owner listed
  let change : Peer → Peer := fun peer => { peer with offers := edit.run Offer.key owner.offers }
  have atId : lookup Peer.id id (alter Peer.id id change config.serve.peers) = some (change owner) := by
    rw [lookup_alter Peer.id id change (fun _ => rfl), listed]
    rfl
  have elsewhere (other : EndpointId) (differs : other ≠ id) :
      lookup Peer.id other (alter Peer.id id change config.serve.peers) =
        lookup Peer.id other config.serve.peers :=
    KeyedList.Edit.lookup_run_other (.alter id change) config.serve.peers (fun _ => rfl) other differs
  constructor
  · refine reads.apply_eq (ownKey_ownsNothing id) edit keeps possible patches ?_ ?_
    · intro key
      rw [Config.entry_own]
      exact congrArg (fun found => Option.bind found _) atId
    · intro other apart
      induction other using Config.entry_cases with
      | shared key | binding key => rfl
      | peer other =>
        rw [Config.entry_peer, Config.entry_peer]
        by_cases same : other = id
        · rw [same, listed]
          exact (congrArg (Option.map Peer.entry) atId).trans rfl
        · exact congrArg (Option.map Peer.entry) (elsewhere other same)
      | own other key =>
        have differs : other ≠ id := by
          rintro rfl
          exact apart key rfl
        rw [Config.entry_own, Config.entry_own]
        exact congrArg (fun found => Option.bind found _) (elsewhere other differs)
  · simp only [Config.entries, List.filter_append]
    congr 2
    refine filter_alter_peers id _ _ config.serve.peers (fun peer member named => ?_)
    have isOwner : owner = peer := Option.some.inj
      (listed.symm.trans ((lookup_some_iff Peer.id _ distinct id peer).mpr ⟨member, named⟩))
    subst isOwner
    have offers := reads.others edit patch keeps
    simp only [Peer.entries, List.filter_cons, offerEntries, named]
    rw [offers]
    rfl

/-- What the edited peer owns afterwards: nothing if it is new or gone, and what
it owned before if it was changed. -/
theorem own_of_edited (edit : KeyedList.Edit Peer EndpointId) (patch : Entry → Entry)
    (keeps : edit.KeepsKey Peer.id) (possible : edit.Possible Peer.id config.serve.peers)
    (ownsNothing : ∀ peer, edit = .add peer → peer.offers = [])
    (keepsOffers : ∀ id change, edit = .alter id change → ∀ peer, (change peer).offers = peer.offers)
    (id : EndpointId) (same : id = edit.named Peer.id) (key : Proto × UInt16) :
    ({ config with serve := { config.serve with
        peers := edit.run Peer.id config.serve.peers } } : Config).entry (ownKey id key) =
      (operationOf Peer.id EntryKey.peer Peer.entry patch edit).apply config.entry (ownKey id key) := by
  have run := KeyedList.Edit.lookup_run edit config.serve.peers keeps possible
  rw [← same] at run
  rw [Config.entry_own]
  refine (congrArg (fun found => Option.bind found _) run).trans ?_
  cases edit with
  | add peer =>
    have absent : lookup Peer.id id config.serve.peers = none := same ▸ possible
    rw [Operation.apply_other _ _ _ rfl, Config.entry_own, absent]
    simp [KeyedList.Edit.result, ownsNothing peer rfl, lookup]
  | alter named change =>
    rw [Operation.apply_other _ _ _ rfl, Config.entry_own]
    cases lookup Peer.id id config.serve.peers with
    | none => rfl
    | some peer => simp [KeyedList.Edit.result, keepsOffers named change rfl]
  | remove named =>
    have isNamed : named = id := same.symm
    simp [KeyedList.Edit.result, operationOf, Operation.apply, EntryKey.covers, EntryKey.owner,
      ownKey, isNamed]

/-- An edit of the peers implements its operation. A new peer owns nothing; a
change leaves what a peer owns; and what a peer owns is removed with it. -/
theorem implements_peers (edit : KeyedList.Edit Peer EndpointId) (patch : Entry → Entry)
    (keeps : edit.KeepsKey Peer.id) (possible : edit.Possible Peer.id config.serve.peers)
    (patches : Patches Peer.entry patch edit)
    (ownsNothing : ∀ peer, edit = .add peer → peer.offers = [])
    (keepsOffers : ∀ id change, edit = .alter id change → ∀ peer, (change peer).offers = peer.offers) :
    Implements (operationOf Peer.id EntryKey.peer Peer.entry patch edit) config
      { config with serve := { config.serve with
          peers := edit.run Peer.id config.serve.peers } } := by
  have reads := config.reads_peers
  constructor
  · funext other
    induction other using Config.entry_cases with
    | shared key | binding key =>
      rw [Operation.apply_other]
      · rfl
      · rw [operationOf_touches] <;> simp [sharedKey, bindingKey, EntryKey.owner]
    | peer id => exact (reads.run edit keeps possible patches id).symm
    | own id key =>
      by_cases same : id = edit.named Peer.id
      · exact own_of_edited config edit patch keeps possible ownsNothing keepsOffers id same key
      · have untouched : (operationOf Peer.id EntryKey.peer Peer.entry patch edit).touches
            (ownKey id key) = false := by
          cases edit <;> simp_all [operationOf, Operation.touches, EntryKey.covers, ownKey,
            EntryKey.owner, KeyedList.Edit.named]
        rw [Operation.apply_other _ _ _ untouched, Config.entry_own, Config.entry_own]
        exact congrArg (fun found => Option.bind found _)
          (KeyedList.Edit.lookup_run_other edit config.serve.peers keeps id same)
  · simp only [Config.entries, List.filter_append]
    congr 2
    cases edit with
    | add peer =>
      have nothing : peer.offers = [] := ownsNothing peer rfl
      simp [KeyedList.Edit.run, Peer.entries, offerEntries, nothing, operationOf, Operation.touches]
    | alter named change =>
      refine filter_alter_peers named change _ config.serve.peers (fun peer _ isNamed => ?_)
      have sameId : (change peer).id = named := (keeps peer).trans isNamed
      simp [Peer.entries, sameId, isNamed, keepsOffers named change rfl, operationOf,
        Operation.touches]
    | remove named =>
      refine filter_remove_peers named _ config.serve.peers (fun peer isNamed => ?_)
      simp [Peer.entries, offerEntries, isNamed, operationOf, Operation.touches, EntryKey.covers,
        EntryKey.owner, ownKey]

/-- The operation on the shared offers is possible exactly when the edit is, and
leaves a valid configuration. -/
theorem possible_shared_iff (valid : config.WellFormed)
    (edit : KeyedList.Edit Offer (Proto × UInt16)) (patch : Entry → Entry)
    (keeps : edit.KeepsKey Offer.key) (patches : Patches Offer.entry patch edit) :
    (operationOf Offer.key sharedKey Offer.entry patch edit).Possible config.entry ↔
      edit.Possible Offer.key config.serve.shared ∧
        ({ config with serve := { config.serve with
            shared := edit.run Offer.key config.serve.shared } } : Config).WellFormed := by
  rw [config.reads_shared.possible_iff_good edit keeps patches (by simp [sharedKey, EntryKey.owner])
    Offer.WellFormed (fun _ => Iff.rfl) valid.shared.2 valid.shared.1]
  refine and_congr_right (fun possible => ⟨fun good => ?_, fun after => after.shared.1⟩)
  have distinct := KeyedList.Edit.nodup_run edit _ keeps possible valid.shared.2
  exact { valid with shared := ⟨good, distinct⟩ }

/-- The same for bindings, of which the remote port and the name are validated
after an alteration, too. -/
theorem possible_bindings_iff (valid : config.WellFormed)
    (edit : KeyedList.Edit Binding (Proto × UInt16)) (patch : Entry → Entry)
    (keeps : edit.KeepsKey Binding.key) (patches : Patches Binding.entry patch edit) :
    (operationOf Binding.key bindingKey Binding.entry patch edit).Possible config.entry ↔
      edit.Possible Binding.key config.connect.bindings ∧
        ({ config with connect :=
            { bindings := edit.run Binding.key config.connect.bindings } } : Config).WellFormed := by
  rw [config.reads_bindings.possible_iff_good edit keeps patches
    (by simp [bindingKey, EntryKey.owner]) Binding.WellFormed (fun _ => Iff.rfl)
    valid.distinctBindings valid.bindings]
  refine and_congr_right (fun possible => ⟨fun good => ?_, fun after => after.bindings⟩)
  have distinct := KeyedList.Edit.nodup_run edit _ keeps possible valid.distinctBindings
  exact { valid with bindings := good, distinctBindings := distinct }

/-- The same for an operation on the peers, which leaves the offers of each as
they are. -/
theorem possible_peers_iff (valid : config.WellFormed) (edit : KeyedList.Edit Peer EndpointId)
    (patch : Entry → Entry) (keeps : edit.KeepsKey Peer.id) (patches : Patches Peer.entry patch edit)
    (ownsNothing : ∀ peer, edit = .add peer → peer.offers = [])
    (keepsOffers : ∀ id change, edit = .alter id change → ∀ peer, (change peer).offers = peer.offers) :
    (operationOf Peer.id EntryKey.peer Peer.entry patch edit).Possible config.entry ↔
      edit.Possible Peer.id config.serve.peers ∧
        ({ config with serve := { config.serve with
            peers := edit.run Peer.id config.serve.peers } } : Config).WellFormed := by
  rw [config.reads_peers.possible_iff_good edit keeps patches (by simp [EntryKey.owner])
    (fun peer => NameOk peer.name) (fun _ => Iff.rfl) valid.distinctPeers
    (fun peer member => (valid.peers peer member).1)]
  have offersKept : ∀ peer ∈ edit.run Peer.id config.serve.peers, OffersWellFormed peer.offers := by
    rw [KeyedList.Edit.forall_run_iff edit _ (fun peer => OffersWellFormed peer.offers)
      valid.distinctPeers (fun peer member => (valid.peers peer member).2)]
    intro peer left
    cases edit with
    | add added =>
      cases left
      rw [ownsNothing peer rfl]
      exact ⟨by simp, by simp⟩
    | alter id change =>
      obtain ⟨before, found, rfl⟩ := Option.map_eq_some_iff.mp left
      rw [keepsOffers id change rfl]
      exact (valid.peers before (List.mem_of_find?_eq_some found)).2
    | remove id => cases left
  refine and_congr_right (fun possible => ⟨fun good => ?_, fun after peer member => ?_⟩)
  · have distinct := KeyedList.Edit.nodup_run edit _ keeps possible valid.distinctPeers
    exact { valid with
      peers := fun peer member => ⟨good peer member, offersKept peer member⟩
      distinctPeers := distinct }
  · exact (after.peers peer member).1

/-- And for an operation on the offers of a peer that is listed. -/
theorem possible_own_iff (valid : config.WellFormed) (id : EndpointId) (owner : Peer)
    (listed : lookup Peer.id id config.serve.peers = some owner)
    (edit : KeyedList.Edit Offer (Proto × UInt16)) (patch : Entry → Entry)
    (keeps : edit.KeepsKey Offer.key) (patches : Patches Offer.entry patch edit) :
    (operationOf Offer.key (ownKey id) Offer.entry patch edit).Possible config.entry ↔
      edit.Possible Offer.key owner.offers ∧
        ({ config with serve := { config.serve with
            peers := alter Peer.id id
              (fun peer => { peer with offers := edit.run Offer.key owner.offers })
              config.serve.peers } } : Config).WellFormed := by
  have ownerValid : owner.WellFormed := valid.peers owner (List.mem_of_find?_eq_some listed)
  have ownerListed : (config.entry (.peer id)).isSome = true := by
    rw [config.entry_peer, listed]
    rfl
  rw [(config.reads_own id owner listed).possible_iff_good edit keeps patches
    (by simp [ownKey, EntryKey.owner, ownerListed]) Offer.WellFormed (fun _ => Iff.rfl)
    ownerValid.2.2 ownerValid.2.1]
  have peersValid := forall_alter_iff Peer.id id
    (fun peer => { peer with offers := edit.run Offer.key owner.offers }) Peer.WellFormed
    config.serve.peers valid.distinctPeers valid.peers
  have samePeers := keys_alter Peer.id id
    (fun peer => { peer with offers := edit.run Offer.key owner.offers }) (fun _ => rfl)
    config.serve.peers
  refine and_congr_right (fun possible => ⟨fun good => ?_, fun after => ?_⟩)
  · have distinct := KeyedList.Edit.nodup_run edit _ keeps possible ownerValid.2.2
    refine { valid with peers := peersValid.mpr ?_, distinctPeers := samePeers ▸ valid.distinctPeers }
    intro peer found
    obtain rfl : owner = peer := Option.some.inj (listed.symm.trans found)
    exact ⟨ownerValid.1, good, distinct⟩
  · exact (peersValid.mp after.peers owner listed).2.1

end Places

end Rtun
