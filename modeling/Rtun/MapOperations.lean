import Rtun.Entries
import Rtun.KeyedList

/-!
# Operations on the map of entries

A configuration is a finite map from entry keys to contents, and also the list of its
entries in the order of the file. An operation inserts, alters or removes one entry of
the map; removing a peer removes the offers that it owns. What an edit of one list of a
configuration does to the map and to the order of the entries is proved list by list.
-/

namespace Rtun

open KeyedList

/-- What an offer says besides its key. -/
def Offer.entry (offer : Offer) : Entry := .offer offer.name offer.enabled

def Peer.entry (peer : Peer) : Entry := .peer peer.name peer.enabled

def Binding.entry (binding : Binding) : Entry :=
  .binding binding.remotePort binding.name binding.enabled

/-- The keys of the entries, from the keys within one list. -/
def sharedKey (key : Proto × UInt16) : EntryKey := .shared key.1 key.2

def ownKey (id : EndpointId) (key : Proto × UInt16) : EntryKey := .offer id key.1 key.2

def bindingKey (key : Proto × UInt16) : EntryKey := .binding key.1 key.2

/-- The entries of a list of offers, in its order. -/
def offerEntries (named : Proto × UInt16 → EntryKey) (offers : List Offer) : List (EntryKey × Entry) :=
  offers.map (fun offer => (named offer.key, offer.entry))

/-- The entry of a peer, and those of the offers that it owns. -/
def Peer.entries (peer : Peer) : List (EntryKey × Entry) :=
  (.peer peer.id, peer.entry) :: offerEntries (ownKey peer.id) peer.offers

/-- All entries, in the order of the file. -/
def Config.entries (config : Config) : List (EntryKey × Entry) :=
  offerEntries sharedKey config.serve.shared ++ config.serve.peers.flatMap Peer.entries ++
    config.connect.bindings.map (fun binding => (bindingKey binding.key, binding.entry))

/-- The entry that another one belongs to. -/
def EntryKey.owner : EntryKey → Option EntryKey
  | .offer id _ _ => some (.peer id)
  | .shared _ _ | .peer _ | .binding _ _ => none

/-- The entry itself, or one that belongs to it. -/
def EntryKey.covers (key other : EntryKey) : Bool := other == key || other.owner == some key

/-- The ports and the name of an entry are valid. -/
def ValidEntry : EntryKey → Entry → Prop
  | .shared _ port, .offer name _ | .offer _ _ port, .offer name _ => port ≠ 0 ∧ NameOk name
  | .peer _, .peer name _ => NameOk name
  | .binding _ localPort, .binding remotePort name _ =>
      localPort ≠ 0 ∧ remotePort ≠ 0 ∧ NameOk name
  | _, _ => False

/-- An operation on the map of entries. -/
inductive Operation where
  | insert (key : EntryKey) (entry : Entry)
  | alter (key : EntryKey) (patch : Entry → Entry)
  | remove (key : EntryKey)

namespace Operation

/-- Where the operation may leave something else than it found. -/
def touches : Operation → EntryKey → Bool
  | .insert key _, other | .alter key _, other => other == key
  | .remove key, other => key.covers other

/-- An entry is inserted under a new key, next to what it belongs to; it is
altered or removed where it is; and what is left under the key is valid. -/
def Possible (map : EntryKey → Option Entry) : Operation → Prop
  | .insert key entry =>
      map key = none ∧ (∀ owner, key.owner = some owner → (map owner).isSome = true) ∧
        ValidEntry key entry
  | .alter key patch => ∃ entry, map key = some entry ∧ ValidEntry key (patch entry)
  | .remove key => (map key).isSome = true

def apply (map : EntryKey → Option Entry) : Operation → EntryKey → Option Entry
  | .insert key entry, other => if other = key then some entry else map other
  | .alter key patch, other => if other = key then (map other).map patch else map other
  | .remove key, other => if key.covers other = true then none else map other

end Operation

/-- What an operation does to a configuration: to the map of its entries, and to
the order of those that it does not touch. -/
structure Implements (operation : Operation) (before after : Config) : Prop where
  map : after.entry = operation.apply before.entry
  others : after.entries.filter (fun entry => !operation.touches entry.1) =
    before.entries.filter (fun entry => !operation.touches entry.1)

/-- The operation on entries that an edit of a list stands for. -/
def operationOf {α : Type} {κ : Type} (key : α → κ) (named : κ → EntryKey) (entry : α → Entry)
    (patch : Entry → Entry) : KeyedList.Edit α κ → Operation
  | .add element => .insert (named (key element)) (entry element)
  | .alter inList _ => .alter (named inList) patch
  | .remove inList => .remove (named inList)

/-- A change of an element changes its entry as the patch says. -/
def Patches {α : Type} {κ : Type} (entry : α → Entry) (patch : Entry → Entry) :
    KeyedList.Edit α κ → Prop
  | .alter _ change => ∀ element, entry (change element) = patch (entry element)
  | .add _ | .remove _ => True

/-- What the operation does not touch it leaves. This is the frame of all nine
requests at once. -/
theorem Operation.apply_other (operation : Operation) (map : EntryKey → Option Entry) (other : EntryKey)
    (apart : operation.touches other = false) : operation.apply map other = map other := by
  cases operation <;> simp_all [Operation.touches, Operation.apply]

/-- A list is read by the map under the keys of the list. -/
structure Reads {α : Type} {κ : Type} [DecidableEq κ] (key : α → κ) (named : κ → EntryKey)
    (entry : α → Entry) (elements : List α) (map : EntryKey → Option Entry) : Prop where
  injective : ∀ first second, named first = named second → first = second
  unowned : ∀ first second, (named first).owner ≠ some (named second)
  found : ∀ inList, map (named inList) = (lookup key inList elements).map entry

/-- No entry belongs to one of these keys. -/
def OwnsNothing {κ : Type} (named : κ → EntryKey) : Prop :=
  ∀ inList other, EntryKey.owner other ≠ some (named inList)

/-- An operation touches the entry that it names, and those that belong to it.
Where the entries of the list own nothing, it is the named one alone. -/
theorem operationOf_touches {α : Type} {κ : Type} {key : α → κ} {named : κ → EntryKey}
    {entry : α → Entry} {patch : Entry → Entry} (edit : KeyedList.Edit α κ) (other : EntryKey)
    (unowned : other.owner ≠ some (named (edit.named key))) :
    (operationOf key named entry patch edit).touches other = (other == named (edit.named key)) := by
  cases edit with
  | add element | alter inList change => rfl
  | remove inList =>
    have belongs : (other.owner == some (named inList)) = false := beq_eq_false_iff_ne.mpr unowned
    simp [operationOf, Operation.touches, EntryKey.covers, KeyedList.Edit.named, belongs]

section Lists

variable {α : Type} {κ : Type} [DecidableEq κ] {key : α → κ} {named : κ → EntryKey}
  {entry : α → Entry} {patch : Entry → Entry} {elements : List α} {map : EntryKey → Option Entry}

/-- There it leaves the result of the edit: the new element, the patched one or
none, as the operation says. -/
theorem Reads.apply_named (reads : Reads key named entry elements map) (edit : KeyedList.Edit α κ)
    (patches : Patches entry patch edit) :
    (operationOf key named entry patch edit).apply map (named (edit.named key)) =
      (edit.result (lookup key (edit.named key) elements)).map entry := by
  cases edit with
  | add element => simp [operationOf, Operation.apply, KeyedList.Edit.named, KeyedList.Edit.result]
  | alter inList change =>
    have commutes : patch ∘ entry = entry ∘ change := funext (fun element => (patches element).symm)
    simp [operationOf, Operation.apply, KeyedList.Edit.named, KeyedList.Edit.result, reads.found,
      commutes]
  | remove inList =>
    simp [operationOf, Operation.apply, KeyedList.Edit.named, KeyedList.Edit.result, EntryKey.covers]

/-- The map reads the edited list as the operation says, under every key of this
kind. With it an edit of a list is an operation on the map. -/
theorem Reads.run (reads : Reads key named entry elements map) (edit : KeyedList.Edit α κ)
    (keeps : edit.KeepsKey key) (possible : edit.Possible key elements)
    (patches : Patches entry patch edit) (inList : κ) :
    (operationOf key named entry patch edit).apply map (named inList) =
      (lookup key inList (edit.run key elements)).map entry := by
  by_cases same : inList = edit.named key
  · rw [same, reads.apply_named edit patches, KeyedList.Edit.lookup_run edit elements keeps possible]
  · have differs : named inList ≠ named (edit.named key) :=
      fun equal => same (reads.injective _ _ equal)
    have apart : (operationOf key named entry patch edit).touches (named inList) = false := by
      rw [operationOf_touches edit _ (reads.unowned _ _)]
      exact beq_eq_false_iff_ne.mpr differs
    rw [Operation.apply_other _ map (named inList) apart, reads.found,
      KeyedList.Edit.lookup_run_other edit elements keeps inList same]

/-- The order of the entries that the operation does not touch: the edited list
has them where they were, one after the other. -/
theorem Reads.others (reads : Reads key named entry elements map) (edit : KeyedList.Edit α κ)
    (patch : Entry → Entry) (keeps : edit.KeepsKey key) :
    ((edit.run key elements).map (fun element => (named (key element), entry element))).filter
        (fun found => !(operationOf key named entry patch edit).touches found.1) =
      (elements.map (fun element => (named (key element), entry element))).filter
        (fun found => !(operationOf key named entry patch edit).touches found.1) := by
  have untouched (list : List α) :
      (list.map (fun element => (named (key element), entry element))).filter
          (fun found => !(operationOf key named entry patch edit).touches found.1) =
        (KeyedList.remove key (edit.named key) list).map
          (fun element => (named (key element), entry element)) := by
    rw [List.filter_map, KeyedList.remove]
    congr 1
    refine List.filter_congr (fun element _ => ?_)
    rw [Function.comp_apply, operationOf_touches edit _ (reads.unowned _ _)]
    by_cases same : key element = edit.named key
    · simp [same]
    · have differs : named (key element) ≠ named (edit.named key) :=
        fun equal => same (reads.injective _ _ equal)
      simp [same, differs]
  rw [untouched, untouched, KeyedList.Edit.remove_run edit elements keeps]

/-- The operation is possible when the edit is, and leaves a valid entry. The one
is what the handler tests, and the other what `validate` asks of this entry. -/
theorem Reads.possible_iff (reads : Reads key named entry elements map) (edit : KeyedList.Edit α κ)
    (patches : Patches entry patch edit)
    (owned : ∀ owner, (named (edit.named key)).owner = some owner → (map owner).isSome = true) :
    (operationOf key named entry patch edit).Possible map ↔
      edit.Possible key elements ∧
        ∀ element, edit.result (lookup key (edit.named key) elements) = some element →
          ValidEntry (named (edit.named key)) (entry element) := by
  cases edit with
  | add element =>
    simp only [operationOf, Operation.Possible, reads.found, Option.map_eq_none_iff,
      KeyedList.Edit.Possible, KeyedList.Edit.named, KeyedList.Edit.result, Option.some.injEq,
      forall_eq']
    exact and_congr_right (fun _ => and_iff_right owned)
  | alter inList change =>
    cases found : lookup key inList elements with
    | none => simp [operationOf, Operation.Possible, reads.found, found, KeyedList.Edit.Possible]
    | some element =>
      simp [operationOf, Operation.Possible, reads.found, found, KeyedList.Edit.Possible,
        KeyedList.Edit.named, KeyedList.Edit.result, patches element]
  | remove inList =>
    simp [operationOf, Operation.Possible, reads.found, KeyedList.Edit.Possible,
      KeyedList.Edit.result]

/-- It is possible exactly when the edit is, and leaves a list of good
elements. -/
theorem Reads.possible_iff_good (reads : Reads key named entry elements map)
    (edit : KeyedList.Edit α κ) (keeps : edit.KeepsKey key) (patches : Patches entry patch edit)
    (owned : ∀ owner, (named (edit.named key)).owner = some owner → (map owner).isSome = true)
    (good : α → Prop) (valid : ∀ element, good element ↔ ValidEntry (named (key element)) (entry element))
    (distinct : (elements.map key).Nodup) (all : ∀ element ∈ elements, good element) :
    (operationOf key named entry patch edit).Possible map ↔
      edit.Possible key elements ∧ ∀ element ∈ edit.run key elements, good element := by
  rw [reads.possible_iff edit patches owned,
    KeyedList.Edit.forall_run_iff edit elements good distinct all]
  refine and_congr_right (fun _ => forall_congr' (fun element => imp_congr_right (fun left => ?_)))
  rw [valid, KeyedList.Edit.key_of_result edit elements keeps distinct element left]

end Lists

/-- Looking an offer up by protocol and port is a lookup by its key, so what is
known of keyed lists applies to offers. -/
theorem offerEntry_eq (offers : List Offer) (key : Proto × UInt16) :
    offerEntry offers key.1 key.2 = (lookup Offer.key key offers).map Offer.entry := by
  have sameTest : (fun offer : Offer => offer.proto == key.1 && offer.port == key.2) =
      fun offer => decide (offer.key = key) := by
    funext offer
    simp [Offer.key, Prod.ext_iff, Bool.beq_eq_decide_eq]
  rw [offerEntry, sameTest]
  rfl

namespace Config

variable (config : Config)

/-- The entry under the key of a shared offer is that offer, as the first of its
key in the list. -/
theorem entry_shared (key : Proto × UInt16) :
    config.entry (sharedKey key) = (lookup Offer.key key config.serve.shared).map Offer.entry :=
  offerEntry_eq config.serve.shared key

/-- The entry under an id is the first peer of the list with that id, and in a
valid configuration the only one. -/
theorem entry_peer (id : EndpointId) :
    config.entry (.peer id) = (lookup Peer.id id config.serve.peers).map Peer.entry := rfl

/-- The entry under the key of an own offer is found in two lookups, of the peer
and then in its own list. -/
theorem entry_own (id : EndpointId) (key : Proto × UInt16) :
    config.entry (ownKey id key) =
      (lookup Peer.id id config.serve.peers).bind
        (fun peer => (lookup Offer.key key peer.offers).map Offer.entry) :=
  congrArg ((lookup Peer.id id config.serve.peers).bind ·)
    (funext (fun peer => offerEntry_eq peer.offers key))

/-- The entry under the key of a binding is the first binding with that protocol
and local port. -/
theorem entry_binding (key : Proto × UInt16) :
    config.entry (bindingKey key) =
      (lookup Binding.key key config.connect.bindings).map Binding.entry := by
  have sameTest : (fun binding : Binding =>
      binding.proto == key.1 && binding.localPort == key.2) =
        fun binding => decide (binding.key = key) := by
    funext binding
    simp [Binding.key, Prod.ext_iff, Bool.beq_eq_decide_eq]
  rw [bindingKey, entry, sameTest]
  rfl

/-- A key is one of these: a shared offer, a peer, an own offer of a peer or a
binding. Whatever holds of the four kinds holds of every key. -/
theorem entry_cases {motive : EntryKey → Prop} (shared : ∀ key, motive (sharedKey key))
    (peer : ∀ id, motive (.peer id)) (own : ∀ id key, motive (ownKey id key))
    (binding : ∀ key, motive (bindingKey key)) (other : EntryKey) : motive other := by
  cases other with
  | shared proto port => exact shared (proto, port)
  | peer id => exact peer id
  | offer id proto port => exact own id (proto, port)
  | binding proto localPort => exact binding (proto, localPort)

/-- The map of entries reads the list of peers: one entry for each id. The own
offers of a peer are entries of their own, so its entry is its name and its
flag. -/
theorem reads_peers : Reads Peer.id EntryKey.peer Peer.entry config.serve.peers config.entry where
  injective first second same := EntryKey.peer.inj same
  unowned first second := by simp [EntryKey.owner]
  found := config.entry_peer

/-- It reads the list of shared offers as well, under keys of their own: the key
of a shared offer is never that of a peer's. -/
theorem reads_shared :
    Reads Offer.key sharedKey Offer.entry config.serve.shared config.entry where
  injective first second same := by
    simpa only [sharedKey, EntryKey.shared.injEq, ← Prod.ext_iff] using same
  unowned first second := by simp [EntryKey.owner, sharedKey]
  found := config.entry_shared

/-- And it reads the own offers of each listed peer, under keys that name the
peer. -/
theorem reads_own (id : EndpointId) (owner : Peer)
    (found : lookup Peer.id id config.serve.peers = some owner) :
    Reads Offer.key (ownKey id) Offer.entry owner.offers config.entry where
  injective first second same := by
    simpa only [ownKey, EntryKey.offer.injEq, true_and, ← Prod.ext_iff] using same
  unowned first second := by simp [EntryKey.owner, ownKey]
  found inList := by rw [config.entry_own, found]; rfl

/-- And the bindings. So the four kinds of entries never meet under one key, and
an edit of one list leaves the other three alone. -/
theorem reads_bindings :
    Reads Binding.key bindingKey Binding.entry config.connect.bindings config.entry where
  injective first second same := by
    simpa only [bindingKey, EntryKey.binding.injEq, ← Prod.ext_iff] using same
  unowned first second := by simp [EntryKey.owner, bindingKey]
  found := config.entry_binding

end Config

/-- Only peers own entries. Removing a shared offer takes no other entry away with
it. -/
theorem sharedKey_ownsNothing : OwnsNothing sharedKey := by
  intro key other
  cases other <;> simp [EntryKey.owner, sharedKey]

/-- Nothing is listed below an offer, so removing one removes nothing else; the
peer that has it stays. -/
theorem ownKey_ownsNothing (id : EndpointId) : OwnsNothing (ownKey id) := by
  intro key other
  cases other <;> simp [EntryKey.owner, ownKey]

/-- Nothing is listed below a binding either. Only a peer owns entries, its own
offers. -/
theorem bindingKey_ownsNothing : OwnsNothing bindingKey := by
  intro key other
  cases other <;> simp [EntryKey.owner, bindingKey]

/-- What an operation on such a list makes of the map: under the keys of the list
it reads the edited list, and everything else stays. -/
theorem Reads.apply_eq {α : Type} {κ : Type} [DecidableEq κ] {key : α → κ} {named : κ → EntryKey}
    {entry : α → Entry} {patch : Entry → Entry} {elements : List α}
    {map after : EntryKey → Option Entry} (reads : Reads key named entry elements map)
    (ownsNothing : OwnsNothing named) (edit : KeyedList.Edit α κ) (keeps : edit.KeepsKey key)
    (possible : edit.Possible key elements) (patches : Patches entry patch edit)
    (own : ∀ inList, after (named inList) = (lookup key inList (edit.run key elements)).map entry)
    (others : ∀ other, (∀ inList, other ≠ named inList) → after other = map other) :
    after = (operationOf key named entry patch edit).apply map := by
  funext other
  by_cases inside : ∃ inList, other = named inList
  · obtain ⟨inList, rfl⟩ := inside
    rw [own inList, reads.run edit keeps possible patches]
  · have apart : ∀ inList, other ≠ named inList := by simpa using inside
    have untouched : (operationOf key named entry patch edit).touches other = false := by
      rw [operationOf_touches edit _ (ownsNothing _ other)]
      exact beq_eq_false_iff_ne.mpr (apart _)
    rw [others other apart, Operation.apply_other _ map other untouched]

/-- Putting one entry in front of what has been read of a configuration from its
end, and of the offers whose peer has not been met yet. -/
def restoreEntry (found : EntryKey × Entry) (state : List Offer × Config) : List Offer × Config :=
  match found with
  | (.shared proto port, .offer name enabled) =>
      (state.1, { state.2 with serve := { state.2.serve with
        shared := { proto, port, name, enabled } :: state.2.serve.shared } })
  | (.peer id, .peer name enabled) =>
      ([], { state.2 with serve := { state.2.serve with
        peers := { id, name, enabled, offers := state.1 } :: state.2.serve.peers } })
  | (.offer _ proto port, .offer name enabled) => ({ proto, port, name, enabled } :: state.1, state.2)
  | (.binding proto localPort, .binding remotePort name enabled) =>
      (state.1, { state.2 with connect :=
        { bindings := { proto, localPort, remotePort, name, enabled } :: state.2.connect.bindings } })
  | _ => state

/-- The entries and their order determine the configuration.

Read them from the end: the offers of a peer come before it then, and wait for it. -/
theorem Config.restore_entries (config : Config) :
    config.entries.foldr restoreEntry ([], Config.default) = ([], config) := by
  have bindings (list : List Binding) (state : List Offer × Config) :
      (list.map (fun binding => (bindingKey binding.key, binding.entry))).foldr restoreEntry state =
        (state.1, { state.2 with connect := { bindings := list ++ state.2.connect.bindings } }) := by
    induction list with
    | nil => rfl
    | cons binding rest inductionHypothesis =>
      rw [List.map_cons, List.foldr_cons, inductionHypothesis]
      rfl
  have shared (list : List Offer) (state : List Offer × Config) :
      (offerEntries sharedKey list).foldr restoreEntry state = (state.1, { state.2 with
        serve := { state.2.serve with shared := list ++ state.2.serve.shared } }) := by
    induction list with
    | nil => rfl
    | cons offer rest inductionHypothesis =>
      rw [offerEntries, List.map_cons, List.foldr_cons, ← offerEntries, inductionHypothesis]
      rfl
  have own (id : EndpointId) (list : List Offer) (state : List Offer × Config) :
      (offerEntries (ownKey id) list).foldr restoreEntry state = (list ++ state.1, state.2) := by
    induction list with
    | nil => rfl
    | cons offer rest inductionHypothesis =>
      rw [offerEntries, List.map_cons, List.foldr_cons, ← offerEntries, inductionHypothesis]
      rfl
  have peers (list : List Peer) (state : List Offer × Config) (nothingWaits : state.1 = []) :
      (list.flatMap Peer.entries).foldr restoreEntry state = ([], { state.2 with
        serve := { state.2.serve with peers := list ++ state.2.serve.peers } }) := by
    induction list with
    | nil =>
      obtain ⟨waiting, known⟩ := state
      cases nothingWaits
      rfl
    | cons peer rest inductionHypothesis =>
      rw [List.flatMap_cons, List.foldr_append, inductionHypothesis, Peer.entries, List.foldr_cons,
        own]
      simp [restoreEntry, Peer.entry]
  rw [Config.entries, List.foldr_append, List.foldr_append, bindings, peers _ _ rfl, shared]
  simp [Config.default]

/-- The entries in their order determine the configuration: its lists can be read
off from them, kind by kind. So what is proved about entries is proved about
configurations. -/
theorem Config.entries_injective : Function.Injective Config.entries := by
  intro left right same
  have restored := left.restore_entries
  rw [same, right.restore_entries] at restored
  exact (Prod.mk.inj restored).2.symm

/-- In a well-formed configuration the map reads every entry of the list: with
distinct keys none of them is hidden behind another. -/
theorem Config.entry_of_mem (config : Config) (valid : config.WellFormed) (key : EntryKey)
    (entry : Entry) (member : (key, entry) ∈ config.entries) : config.entry key = some entry := by
  have inList {α : Type} {κ : Type} [DecidableEq κ] {ofList : α → κ} {named : κ → EntryKey}
      {content : α → Entry} {elements : List α}
      (reads : Reads ofList named content elements config.entry)
      (distinct : (elements.map ofList).Nodup)
      (listed : (key, entry) ∈ elements.map (fun element => (named (ofList element), content element))) :
      config.entry key = some entry := by
    obtain ⟨element, inElements, isEntry⟩ := List.mem_map.mp listed
    cases isEntry
    rw [reads.found, (lookup_some_iff ofList elements distinct _ element).mpr ⟨inElements, rfl⟩]
    rfl
  simp only [Config.entries, List.mem_append, List.mem_flatMap] at member
  rcases member with (shared | ⟨peer, listed, own⟩) | binding
  · exact inList config.reads_shared valid.shared.2 shared
  · have found : lookup Peer.id peer.id config.serve.peers = some peer :=
      (lookup_some_iff Peer.id _ valid.distinctPeers _ peer).mpr ⟨listed, rfl⟩
    rcases List.mem_cons.mp own with isPeer | isOffer
    · cases isPeer
      rw [config.entry_peer, found]
      rfl
    · exact inList (config.reads_own peer.id peer found) (valid.peers peer listed).2.2 isOffer
  · exact inList config.reads_bindings valid.distinctBindings binding

/-- What belongs to an entry that is not there is not there either: without the
peer there is no list of its own offers. -/
theorem Config.entry_of_owner (config : Config) (key owner : EntryKey) (belongs : key.owner = some owner)
    (absent : config.entry owner = none) : config.entry key = none := by
  induction key using Config.entry_cases with
  | shared key | peer id | binding key => cases belongs
  | own id key =>
    cases belongs
    rw [config.entry_peer, Option.map_eq_none_iff] at absent
    rw [config.entry_own, absent]
    rfl

/-- Removing what was inserted leaves the configuration that was there before, in
its order too, since the new entry had come last in its list. -/
theorem restored_of_implements {before after restored : Config} (valid : before.WellFormed)
    (validAfter : after.WellFormed) (validRestored : restored.WellFormed) (key : EntryKey)
    (entry : Entry) (absent : before.entry key = none)
    (inserted : Implements (.insert key entry) before after)
    (removed : Implements (.remove key) after restored) : restored = before := by
  apply Config.entries_injective
  have nothingElse : ∀ found ∈ after.entries, key.covers found.1 = (found.1 == key) := by
    rintro ⟨other, content⟩ member
    have read := after.entry_of_mem validAfter other content member
    by_cases same : other = key
    · simp [EntryKey.covers, same]
    · have apart : other.owner ≠ some key := by
        intro belongs
        rw [inserted.map, Operation.apply, if_neg same,
          before.entry_of_owner other key belongs absent] at read
        cases read
      simp [EntryKey.covers, same, apart]
  have keptBefore : before.entries.filter (fun found => !(found.1 == key)) = before.entries := by
    apply List.filter_eq_self.mpr
    rintro ⟨other, content⟩ member
    have read := before.entry_of_mem valid other content member
    have differs : other ≠ key := by
      rintro rfl
      rw [absent] at read
      cases read
    simpa using differs
  have keptRestored : restored.entries.filter (fun found => !key.covers found.1) =
      restored.entries := by
    apply List.filter_eq_self.mpr
    rintro ⟨other, content⟩ member
    have read := restored.entry_of_mem validRestored other content member
    rw [removed.map, Operation.apply] at read
    split at read
    · cases read
    · rename_i uncovered
      simpa using uncovered
  calc restored.entries
      = restored.entries.filter (fun found => !key.covers found.1) := keptRestored.symm
    _ = after.entries.filter (fun found => !key.covers found.1) := removed.others
    _ = after.entries.filter (fun found => !(found.1 == key)) :=
        List.filter_congr (fun found member => by rw [nothingElse found member])
    _ = before.entries.filter (fun found => !(found.1 == key)) := inserted.others
    _ = before.entries := keptBefore

end Rtun
