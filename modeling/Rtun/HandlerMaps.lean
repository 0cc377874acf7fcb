import Rtun.Access
import Rtun.ListEdits

/-!
# The admin handlers implement keyed maps

Each of the nine handlers edits one list of the configuration: it adds at the end, changes
the first match, or removes all matches. On a well-formed configuration every list has
distinct keys, and then each handler does what the operation that its body names does to
the map of entries: it succeeds exactly when the operation is possible.
-/

namespace Rtun

open KeyedList

section Lists

variable {α : Type} {κ : Type} [DecidableEq κ] (key : α → κ) (named : κ) (test : α → Bool)
  (isTest : ∀ element, test element = true ↔ key element = named)

include isTest

/-- Changing the first match is changing the element with the key, since the keys
are distinct: there is no second match that the loop would have to leave. -/
theorem updateFirst_eq (change : α → α) (elements : List α) (distinct : (elements.map key).Nodup) :
    updateFirst test change elements =
      if (lookup key named elements).isSome then some (alter key named change elements) else none := by
  induction elements with
  | nil => rfl
  | cons element rest inductionHypothesis =>
    obtain ⟨differs, others⟩ := List.nodup_cons.mp distinct
    by_cases same : key element = named
    · have absent : lookup key named rest = none := by
        rw [lookup_none_iff]
        rintro other member rfl
        exact differs (same ▸ List.mem_map_of_mem member)
      have rest' : rest.map (fun other => if key other = named then change other else other) = rest :=
        alter_of_absent key named change rest absent
      simp [updateFirst, (isTest element).mpr same, lookup, alter, same, rest']
    · have fails : test element = false := by simpa [same] using (isTest element).not
      have found : lookup key named (element :: rest) = lookup key named rest := by
        simp [lookup, same]
      simp only [updateFirst, fails, Bool.false_eq_true, if_false, inductionHypothesis others, found]
      split
      · simp [alter, same]
      · rfl

/-- Removing the matches is removing the element with the key. The handlers answer
with a failure where nothing was removed, and so does the edit of the map. -/
theorem removeAll_eq (elements : List α) :
    removeAll test elements =
      if (lookup key named elements).isSome then some (remove key named elements) else none := by
  have kept : elements.filter (fun element => !test element) = remove key named elements := by
    refine List.filter_congr (fun element _ => ?_)
    by_cases same : key element = named
    · simp [same, (isTest element).mpr same]
    · have fails : test element = false := by simpa [same] using (isTest element).not
      simp [same, fails]
  have unchanged : (remove key named elements).length = elements.length ↔
      lookup key named elements = none := by
    rw [lookup_none_iff, remove, List.length_filter_eq_length_iff]
    simp
  simp only [removeAll, kept, unchanged]
  cases lookup key named elements <;> simp

end Lists

/-- A patch of an entry: the fields that are given replace those that are
there. -/
def Entry.patch (remotePort : Option UInt16) (name : Option String) (enabled : Option Bool) :
    Entry → Entry
  | .offer oldName oldEnabled => .offer (name.getD oldName) (enabled.getD oldEnabled)
  | .peer oldName oldEnabled => .peer (name.getD oldName) (enabled.getD oldEnabled)
  | .binding oldRemote oldName oldEnabled =>
      .binding (remotePort.getD oldRemote) (name.getD oldName) (enabled.getD oldEnabled)

/-- The entry that an offer request names: a shared offer, or one of the peer it
is scoped to. -/
def offerKey (layers : Layers) (peer : Option String) (proto : Proto) (port : UInt16) :
    Option EntryKey :=
  match peer with
  | none => some (.shared proto port)
  | some text => (parseId layers text).toOption.map (fun id => .offer id proto port)

/-- The operation that a request names; nothing when it names a peer by a text
that is no id. -/
def Mutation.operation (layers : Layers) : Mutation → Option Operation
  | .addPeer body =>
      (parseId layers body.id).toOption.map (fun id => .insert (.peer id) (.peer body.name true))
  | .patchPeer body =>
      (parseId layers body.id).toOption.map
        (fun id => .alter (.peer id) (Entry.patch none body.name body.enabled))
  | .delPeer body => (parseId layers body.id).toOption.map (fun id => .remove (.peer id))
  | .addOffer body =>
      (offerKey layers body.peer body.proto body.port).map
        (fun key => .insert key (.offer body.name true))
  | .patchOffer body =>
      (offerKey layers body.peer body.proto body.port).map
        (fun key => .alter key (Entry.patch none body.name body.enabled))
  | .delOffer body => (offerKey layers body.peer body.proto body.port).map .remove
  | .addBinding body =>
      some (.insert (.binding body.proto body.localPort) (.binding body.remotePort body.name true))
  | .patchBinding body =>
      some (.alter (.binding body.proto body.localPort)
        (Entry.patch body.remotePort body.name body.enabled))
  | .delBinding body => some (.remove (.binding body.proto body.localPort))

/-- A handler's edit of a list fails or runs the edit of the keyed list. -/
def Realises {α : Type} {κ : Type} [DecidableEq κ] (key : α → κ)
    (onList : List α → Fallible (List α)) (edit : KeyedList.Edit α κ) (elements : List α) : Prop :=
  ∀ after, onList elements = .ok after ↔
    edit.Possible key elements ∧ after = edit.run key elements

/-- A closure carries out an operation on a configuration. -/
structure Carries (closure : Edit Unit) (operation : Operation) (before : Config) : Prop where
  possible_iff : operation.Possible before.entry ↔
    ∃ after, closure before = .ok ((), after) ∧ after.WellFormed
  implements : ∀ after, closure before = .ok ((), after) → Implements operation before after

/-- A closure that has one configuration to offer, when an edit is possible. What
is left to show is when that is, and that the map of the one is the edited map of
the other. -/
theorem Carries.of_next {closure : Edit Unit} {operation : Operation} {before : Config}
    (next : Config) (possible : Prop)
    (closes : ∀ after, closure before = .ok ((), after) ↔ possible ∧ after = next)
    (exact' : operation.Possible before.entry ↔ possible ∧ next.WellFormed)
    (effect : possible → Implements operation before next) : Carries closure operation before := by
  constructor
  · rw [exact']
    constructor
    · rintro ⟨isPossible, valid⟩
      exact ⟨next, (closes next).mpr ⟨isPossible, rfl⟩, valid⟩
    · rintro ⟨after, closed, valid⟩
      obtain ⟨isPossible, rfl⟩ := (closes after).mp closed
      exact ⟨isPossible, valid⟩
  · intro after closed
    obtain ⟨isPossible, rfl⟩ := (closes after).mp closed
    exact effect isPossible

section Closures

variable {before : Config} (valid : before.WellFormed) (patch : Entry → Entry)

include valid

/-- An edit of the list of peers carries out its operation: what an addition lists
owns nothing yet, and an alteration keeps what the peer owns. -/
theorem carries_peers (onList : List Peer → Fallible (List Peer)) (edit : KeyedList.Edit Peer EndpointId)
    (keeps : edit.KeepsKey Peer.id) (patches : Patches Peer.entry patch edit)
    (ownsNothing : ∀ peer, edit = .add peer → peer.offers = [])
    (keepsOffers : ∀ id change, edit = .alter id change → ∀ peer, (change peer).offers = peer.offers)
    (realises : Realises Peer.id onList edit before.serve.peers) :
    Carries (editPeers onList) (operationOf Peer.id EntryKey.peer Peer.entry patch edit) before := by
  refine .of_next _ (edit.Possible Peer.id before.serve.peers) ?_
    (possible_peers_iff before valid edit patch keeps patches ownsNothing keepsOffers)
    (fun possible =>
      implements_peers before edit patch keeps possible patches ownsNothing keepsOffers)
  intro after
  simp only [editPeers, Fallible.bind_ok_iff, realises _, pure, Except.pure, Except.ok.injEq,
    Prod.mk.injEq, true_and, and_assoc, exists_and_left, exists_eq_left, eq_comm (a := after)]

/-- So does an edit of the bindings, which own nothing: removing one of them
touches no other entry of the map. -/
theorem carries_bindings (onList : List Binding → Fallible (List Binding))
    (edit : KeyedList.Edit Binding (Proto × UInt16)) (keeps : edit.KeepsKey Binding.key)
    (patches : Patches Binding.entry patch edit)
    (realises : Realises Binding.key onList edit before.connect.bindings) :
    Carries (editBindings onList)
      (operationOf Binding.key bindingKey Binding.entry patch edit) before := by
  refine .of_next _ (edit.Possible Binding.key before.connect.bindings) ?_
    (possible_bindings_iff before valid edit patch keeps patches)
    (fun possible => implements_bindings before edit patch keeps possible patches)
  intro after
  simp only [editBindings, Fallible.bind_ok_iff, realises _, pure, Except.pure, Except.ok.injEq,
    Prod.mk.injEq, true_and, and_assoc, exists_and_left, exists_eq_left, eq_comm (a := after)]

/-- And one of the shared offers. The request names no peer, so there is none to
be found before the list is edited. -/
theorem carries_shared (layers : Layers) (onList : List Offer → Fallible (List Offer))
    (edit : KeyedList.Edit Offer (Proto × UInt16)) (keeps : edit.KeepsKey Offer.key)
    (patches : Patches Offer.entry patch edit)
    (realises : Realises Offer.key onList edit before.serve.shared) :
    Carries (editOffersOf layers none onList)
      (operationOf Offer.key sharedKey Offer.entry patch edit) before := by
  refine .of_next _ (edit.Possible Offer.key before.serve.shared) ?_
    (possible_shared_iff before valid edit patch keeps patches)
    (fun possible => implements_shared before edit patch keeps possible patches)
  intro after
  simp only [editOffersOf, Fallible.bind_ok_iff, realises _, pure, Except.pure, Except.ok.injEq,
    Prod.mk.injEq, true_and, and_assoc, exists_and_left, exists_eq_left, eq_comm (a := after)]

/-- Without the peer there is no list to edit, and no operation on its offers is
possible. -/
theorem carries_own (layers : Layers) (text : String) (id : EndpointId)
    (parsed : parseId layers text = .ok id) (onList : List Offer → Fallible (List Offer))
    (edit : KeyedList.Edit Offer (Proto × UInt16)) (keeps : edit.KeepsKey Offer.key)
    (patches : Patches Offer.entry patch edit)
    (realises : ∀ owner ∈ before.serve.peers, Realises Offer.key onList edit owner.offers) :
    Carries (editOffersOf layers (some text) onList)
      (operationOf Offer.key (ownKey id) Offer.entry patch edit) before := by
  cases listed : lookup Peer.id id before.serve.peers with
  | none =>
    have unknown : before.peer id = none := listed
    have fails (after : Config) : editOffersOf layers (some text) onList before ≠ .ok ((), after) := by
      simp [editOffersOf, Fallible.bind_ok_iff, parsed, unknown]
    have impossible :
        ¬ (operationOf Offer.key (ownKey id) Offer.entry patch edit).Possible before.entry := by
      have noPeer : before.entry (.peer id) = none := by rw [before.entry_peer, listed]; rfl
      have noOffer (key : Proto × UInt16) : before.entry (ownKey id key) = none := by
        rw [before.entry_own, listed]
        rfl
      cases edit with
      | add offer =>
        rintro ⟨_, owned, _⟩
        simpa [noPeer] using owned (.peer id) rfl
      | alter key change =>
        rintro ⟨entry, found, _⟩
        rw [noOffer] at found
        cases found
      | remove key => simp [operationOf, Operation.Possible, noOffer]
    exact ⟨by simp [impossible, fails], fun after closed => absurd closed (fails after)⟩
  | some owner =>
    have known : before.peer id = some owner := listed
    have member : owner ∈ before.serve.peers := List.mem_of_find?_eq_some listed
    refine .of_next _ (edit.Possible Offer.key owner.offers) ?_
      (possible_own_iff before valid id owner listed edit patch keeps patches)
      (fun possible =>
        implements_own before valid.distinctPeers id owner listed edit patch keeps possible patches)
    intro after
    have updated (offers : List Offer) :
        updateFirst (fun peer : Peer => peer.id == id) (fun peer => { peer with offers })
            before.serve.peers =
          some (alter Peer.id id (fun peer => { peer with offers }) before.serve.peers) := by
      rw [updateFirst_eq Peer.id id _ (fun peer => beq_iff_eq) _ _ valid.distinctPeers, listed]
      rfl
    simp only [editOffersOf, Fallible.bind_ok_iff, parsed, known, realises owner member _, updated,
      Option.getD_some, pure, Except.pure, Except.ok.injEq, Prod.mk.injEq, true_and, and_assoc,
      exists_and_left, exists_eq_left, exists_eq_left', eq_comm (a := after)]

end Closures

section Realised

variable {α : Type} {κ : Type} [DecidableEq κ] (key : α → κ) (test : α → Bool) (failure : Failure)
  (elements : List α)

/-- An element is added at the end unless one with its key is there. The handlers
test for it first, and their test compares the key. -/
theorem realises_add (element : α) (isTest : ∀ other, test other = true ↔ key other = key element) :
    Realises key
      (fun elements => if elements.any test then .error failure else .ok (elements ++ [element]))
      (.add element) elements := by
  have known : elements.any test = true ↔ lookup key (key element) elements ≠ none := by
    simp [lookup, isTest]
  intro after
  by_cases present : elements.any test = true
  · simp [present, KeyedList.Edit.Possible, known.mp present]
  · have absent : lookup key (key element) elements = none := by
      simpa [present] using known
    simp [present, KeyedList.Edit.Possible, KeyedList.Edit.run, absent, eq_comm]

/-- The first match is changed, if there is one. The change keeps the key, so the
element is found under it afterwards as well. -/
theorem realises_alter (named : κ) (isTest : ∀ element, test element = true ↔ key element = named)
    (distinct : (elements.map key).Nodup) (change : α → α) (onList : List α → Fallible (List α))
    (attempts : onList elements = (updateFirst test change elements).elim (.error failure) .ok) :
    Realises key onList (.alter named change) elements := by
  intro after
  rw [attempts, updateFirst_eq key named test isTest change elements distinct]
  by_cases present : (lookup key named elements).isSome = true
  · simp [present, KeyedList.Edit.Possible, KeyedList.Edit.run, eq_comm]
  · simp [present, KeyedList.Edit.Possible]

/-- All matches are removed, if there are any. With distinct keys that is one
element, and the others keep their order. -/
theorem realises_remove (named : κ) (isTest : ∀ element, test element = true ↔ key element = named)
    (onList : List α → Fallible (List α))
    (attempts : onList elements = (removeAll test elements).elim (.error failure) .ok) :
    Realises key onList (.remove named) elements := by
  intro after
  rw [attempts, removeAll_eq key named test isTest elements]
  by_cases present : (lookup key named elements).isSome = true
  · simp [present, KeyedList.Edit.Possible, KeyedList.Edit.run, eq_comm]
  · simp [present, KeyedList.Edit.Possible]

end Realised

/-- The comparison that the handlers make of offers is one of their keys: protocol
and port, and neither the name nor whether the offer is enabled. -/
theorem isOffer_iff (proto : Proto) (port : UInt16) (offer : Offer) :
    (offer.proto == proto && offer.port == port) = true ↔ offer.key = (proto, port) := by
  simp [Offer.key]

/-- The one that they make of bindings looks at the protocol and the local port,
which are the key. -/
theorem isBinding_iff (proto : Proto) (localPort : UInt16) (binding : Binding) :
    (binding.proto == proto && binding.localPort == localPort) = true ↔
      binding.key = (proto, localPort) := by
  simp [Binding.key]

/-- Only what the closure does to this configuration matters. The handlers are
stated for all configurations, and compared with the operation on one of them. -/
theorem Carries.congr {closure other : Edit Unit} {operation : Operation} {before : Config}
    (carries : Carries other operation before) (same : closure before = other before) :
    Carries closure operation before :=
  ⟨same ▸ carries.possible_iff, same ▸ carries.implements⟩

/-- A request that names a peer by an id. Where its text is no id there is no
operation, and the handler fails before it reaches the closure. -/
theorem parsed_of_map {layers : Layers} {text : String} {build : EndpointId → Operation}
    {operation : Operation} (names : (parseId layers text).toOption.map build = some operation) :
    ∃ id, parseId layers text = .ok id ∧ build id = operation := by
  obtain ⟨id, parsed, built⟩ := Option.map_eq_some_iff.mp names
  refine ⟨id, ?_, built⟩
  cases attempt : parseId layers text with
  | error failure => simp [attempt, Except.toOption] at parsed
  | ok other => simpa [attempt, Except.toOption] using parsed

section Requests

variable (layers : Layers) {before : Config} (valid : before.WellFormed)

include valid

/-- An offer request that edits the named entry of its list carries out its
operation. -/
theorem carries_offers (peer : Option String) (proto : Proto) (port : UInt16) (named : EntryKey)
    (isNamed : offerKey layers peer proto port = some named)
    (onList : List Offer → Fallible (List Offer)) (edit : KeyedList.Edit Offer (Proto × UInt16))
    (keeps : edit.KeepsKey Offer.key) (about : edit.named Offer.key = (proto, port))
    (patch : Entry → Entry) (patches : Patches Offer.entry patch edit)
    (realises : ∀ offers : List Offer, (offers.map Offer.key).Nodup →
      Realises Offer.key onList edit offers) :
    Carries (editOffersOf layers peer onList)
      (operationOf Offer.key (fun _ => named) Offer.entry patch edit) before := by
  have sameOperation (ofKey : Proto × UInt16 → EntryKey) (isNamed' : ofKey (proto, port) = named) :
      operationOf Offer.key (fun _ => named) Offer.entry patch edit =
        operationOf Offer.key ofKey Offer.entry patch edit := by
    cases edit <;> cases about <;> cases isNamed' <;> rfl
  cases peer with
  | none =>
    cases isNamed
    rw [sameOperation sharedKey rfl]
    exact carries_shared valid patch layers onList edit keeps patches (realises _ valid.shared.2)
  | some text =>
    cases parsed : parseId layers text with
    | error failure => simp [offerKey, parsed, Except.toOption] at isNamed
    | ok id =>
      have ofPeer : ownKey id (proto, port) = named := by
        simpa [offerKey, parsed, Except.toOption, ownKey] using isNamed
      rw [sameOperation (ownKey id) ofPeer]
      exact carries_own valid patch layers text id parsed onList edit keeps patches
        (fun owner member => realises _ (valid.peers owner member).2.2)

/-- The handler of a request gives a closure that carries out the operation that
it names. -/
def HandlerCarries (layers : Layers) (before : Config) (request : Mutation) : Prop :=
  ∀ operation, request.operation layers = some operation →
    ∃ closure, request.handled layers = .ok closure ∧ Carries closure operation before

/-- A peer is added with no offers of its own, unless its id is listed. The
handler asks the configuration for the peer, which is the same as asking the list
for its id. -/
theorem addPeer_carries (body : PeerAdd) : HandlerCarries layers before (.addPeer body) := by
  intro operation names
  obtain ⟨id, parsed, rfl⟩ := parsed_of_map names
  refine ⟨_, by simp only [Mutation.handled, addPeer, parsed]; rfl, ?_⟩
  refine (carries_peers valid (fun entry => entry) _
    (.add { id, name := body.name, enabled := true, offers := [] }) trivial trivial
    (fun peer same => by cases same; rfl) (fun _ _ same => by cases same)
    (realises_add Peer.id _ (.message ("peer " ++ id.fmtShort ++ " is already on the list")) _ _
      (fun peer => beq_iff_eq))).congr ?_
  have listed : (before.peer id).isSome = before.serve.peers.any (fun peer => peer.id == id) := by
    rw [Config.peer, List.isSome_find?]
  simp only [listed, editPeers]
  split <;> rfl

/-- A peer is patched in place: what the request leaves out stays as it is.
Its own offers stay too, since the patch is about its name and whether it is
enabled. -/
theorem patchPeer_carries (body : PeerPatch) : HandlerCarries layers before (.patchPeer body) := by
  intro operation names
  obtain ⟨id, parsed, rfl⟩ := parsed_of_map names
  refine ⟨_, by simp only [Mutation.handled, patchPeer, parsed]; rfl, ?_⟩
  refine carries_peers valid (Entry.patch none body.name body.enabled) _
    (.alter id (fun peer => { peer with
      name := body.name.getD peer.name, enabled := body.enabled.getD peer.enabled }))
    (fun _ => rfl) (fun _ => rfl) (fun _ same => by cases same)
    (fun _ _ same => by cases same; exact fun _ => rfl) ?_
  refine realises_alter Peer.id _ (notOnTheList id) _ id (fun peer => beq_iff_eq)
    valid.distinctPeers _ _ ?_
  split <;> simp [*]

/-- A peer is removed together with its own offers, which are entries of the map
that belong to it. -/
theorem delPeer_carries (body : IdRef) : HandlerCarries layers before (.delPeer body) := by
  intro operation names
  obtain ⟨id, parsed, rfl⟩ := parsed_of_map names
  refine ⟨_, by simp only [Mutation.handled, delPeer, parsed]; rfl, ?_⟩
  refine carries_peers valid (fun entry => entry) _ (.remove id) trivial trivial
    (fun _ same => by cases same) (fun _ _ same => by cases same) ?_
  refine realises_remove Peer.id _ (notOnTheList id) _ id (fun peer => beq_iff_eq) _ ?_
  split <;> simp [*]

/-- An offer is added to the list that the request names, enabled. Without a
peer it is the shared list, and with one it is the peer's own, if the peer is
listed. -/
theorem addOffer_carries (body : OfferAdd) : HandlerCarries layers before (.addOffer body) := by
  intro operation names
  obtain ⟨named, isNamed, rfl⟩ := Option.map_eq_some_iff.mp names
  exact ⟨_, rfl, carries_offers layers valid body.peer body.proto body.port named isNamed _
    (.add { proto := body.proto, port := body.port, name := body.name, enabled := true })
    trivial rfl (fun entry => entry) trivial
    (fun offers _ => realises_add Offer.key _ _ offers _ (isOffer_iff body.proto body.port))⟩

/-- An offer is patched in place, in whichever list it is. Its protocol and its
port say which offer is meant, so they are not patched. -/
theorem patchOffer_carries (body : OfferPatch) : HandlerCarries layers before (.patchOffer body) := by
  intro operation names
  obtain ⟨named, isNamed, rfl⟩ := Option.map_eq_some_iff.mp names
  refine ⟨_, rfl, carries_offers layers valid body.peer body.proto body.port named isNamed _
    (.alter (body.proto, body.port) (fun offer => { offer with
      name := body.name.getD offer.name, enabled := body.enabled.getD offer.enabled }))
    (fun _ => rfl) rfl (Entry.patch none body.name body.enabled) (fun _ => rfl) ?_⟩
  intro offers distinct
  refine realises_alter Offer.key _ (notOffered (body.proto, body.port)) offers _
    (isOffer_iff body.proto body.port) distinct _ _ ?_
  split <;> simp [*]

/-- An offer is removed from the list that the request names. The same offer in
another list stays, and a peer may reach the port by it. -/
theorem delOffer_carries (body : OfferRef) : HandlerCarries layers before (.delOffer body) := by
  intro operation names
  obtain ⟨named, isNamed, rfl⟩ := Option.map_eq_some_iff.mp names
  refine ⟨_, rfl, carries_offers layers valid body.peer body.proto body.port named isNamed _
    (.remove (body.proto, body.port)) trivial rfl (fun entry => entry) trivial ?_⟩
  intro offers _
  refine realises_remove Offer.key _ (notOffered (body.proto, body.port)) offers _
    (isOffer_iff body.proto body.port) _ ?_
  split <;> simp [*]

/-- A binding is added under its protocol and local port, enabled. A binding under
the same key is never replaced; the request fails instead. -/
theorem addBinding_carries (body : BindingAdd) : HandlerCarries layers before (.addBinding body) := by
  intro operation names
  cases names
  exact ⟨_, rfl, carries_bindings valid (fun entry => entry) _
    (.add { proto := body.proto, localPort := body.localPort, remotePort := body.remotePort,
            name := body.name, enabled := true })
    trivial trivial
    (realises_add Binding.key _ _ _ _ (isBinding_iff body.proto body.localPort))⟩

/-- A binding is patched in place; its protocol and local port name it and
stay. -/
theorem patchBinding_carries (body : BindingPatch) :
    HandlerCarries layers before (.patchBinding body) := by
  intro operation names
  cases names
  refine ⟨_, rfl, carries_bindings valid
    (Entry.patch body.remotePort body.name body.enabled) _
    (.alter (body.proto, body.localPort) (fun binding => { binding with
      remotePort := body.remotePort.getD binding.remotePort
      name := body.name.getD binding.name
      enabled := body.enabled.getD binding.enabled }))
    (fun _ => rfl) (fun _ => rfl) ?_⟩
  refine realises_alter Binding.key _ (notBound (body.proto, body.localPort)) _ _
    (isBinding_iff body.proto body.localPort) valid.distinctBindings _ _ ?_
  split <;> simp [*]

/-- A binding is removed by its protocol and local port. This is the key of the
map, so there is at most one that is meant. -/
theorem delBinding_carries (body : BindingRef) : HandlerCarries layers before (.delBinding body) := by
  intro operation names
  cases names
  refine ⟨_, rfl, carries_bindings valid (fun entry => entry) _
    (.remove (body.proto, body.localPort)) trivial trivial ?_⟩
  refine realises_remove Binding.key _ (notBound (body.proto, body.localPort)) _ _
    (isBinding_iff body.proto body.localPort) _ ?_
  split <;> simp [*]

/-- Every handler gives a closure that carries out the operation its request
names. -/
theorem handler_carries (request : Mutation) : HandlerCarries layers before request := by
  cases request with
  | addPeer body => exact addPeer_carries layers valid body
  | patchPeer body => exact patchPeer_carries layers valid body
  | delPeer body => exact delPeer_carries layers valid body
  | addOffer body => exact addOffer_carries layers valid body
  | patchOffer body => exact patchOffer_carries layers valid body
  | delOffer body => exact delOffer_carries layers valid body
  | addBinding body => exact addBinding_carries layers valid body
  | patchBinding body => exact patchBinding_carries layers valid body
  | delBinding body => exact delBinding_carries layers valid body

end Requests

/-- A request names an operation when the text of its peer is an id. Requests that
name no peer always do, so the nine handlers have the nine operations on keyed
maps. -/
theorem operation_of_parses (layers : Layers) (request : Mutation)
    (parses : ∀ text, request.peerText = some text → ∃ id, parseId layers text = .ok id) :
    ∃ operation, request.operation layers = some operation := by
  have named (text : String) (isText : request.peerText = some text) :
      ∃ id, (parseId layers text).toOption = some id := by
    obtain ⟨id, parsed⟩ := parses text isText
    exact ⟨id, by rw [parsed]; rfl⟩
  have offer (peer : Option String) (proto : Proto) (port : UInt16)
      (isText : request.peerText = peer) : ∃ key, offerKey layers peer proto port = some key := by
    cases peer with
    | none => exact ⟨_, rfl⟩
    | some text =>
      obtain ⟨id, parsed⟩ := named text isText
      exact ⟨_, by rw [offerKey, parsed]; rfl⟩
  cases request with
  | addPeer body | patchPeer body | delPeer body =>
    obtain ⟨id, parsed⟩ := named body.id rfl
    exact ⟨_, by rw [Mutation.operation, parsed]; rfl⟩
  | addOffer body | patchOffer body | delOffer body =>
    obtain ⟨key, isKey⟩ := offer body.peer body.proto body.port rfl
    exact ⟨_, by rw [Mutation.operation, isKey]; rfl⟩
  | addBinding body | patchBinding body | delBinding body => exact ⟨_, rfl⟩

/-- If the request gets as far as saving a configuration, the save succeeds. -/
def Mutation.Saves (layers : Layers) (request : Mutation) (shared : Shared) (outcomes : Outcomes)
    (disk : Disk) : Prop :=
  ∀ closure next, request.handled layers = .ok closure → closure shared.config = .ok ((), next) →
    next.validate = .ok () →
    (save layers.toml shared.path next outcomes (.start disk)).1 = .ok ()

/-- A call of `mutate` whose save succeeds publishes exactly what its closure
gives. -/
theorem Shared.mutate_ok_iff (shared : Shared) (toml : Toml) (edit : Edit Unit) (outcomes : Outcomes)
    (disk : Disk) (saves : ∀ next, edit shared.config = .ok ((), next) → next.validate = .ok () →
      (save toml shared.path next outcomes (.start disk)).1 = .ok ()) :
    (shared.mutate toml edit outcomes disk).result = .ok () ↔
      ∃ next, edit shared.config = .ok ((), next) ∧ next.validate = .ok () := by
  constructor
  · intro success
    exact ⟨_, shared.mutate_published toml edit outcomes disk success⟩
  · rintro ⟨next, edited, valid⟩
    have saved := saves next edited valid
    unfold Shared.mutate
    cases written : save toml shared.path next outcomes (.start disk) with
    | mk result fs =>
      rw [written] at saved
      cases saved
      simp [edited, valid, written]

/-- A request whose save succeeds is answered with success exactly when its
closure gives a valid configuration, which is then the running one. -/
theorem submit_ok_iff (layers : Layers) (shared : Shared) (request : Mutation) (closure : Edit Unit)
    (handled : request.handled layers = .ok closure) (outcomes : Outcomes) (disk : Disk)
    (saves : request.Saves layers shared outcomes disk) :
    (submit layers shared (request.handled layers) outcomes disk).response.status = 200 ↔
      ∃ next, closure shared.config = .ok ((), next) ∧ next.WellFormed := by
  have mutated := shared.mutate_ok_iff layers.toml closure outcomes disk
    (fun next => saves closure next handled)
  simp only [Config.validate_ok_iff] at mutated
  rw [← mutated, handled]
  cases done : (shared.mutate layers.toml closure outcomes disk).result <;>
    simp [submit, done, err, ok, jsonResponse]

/-- A request that was answered with success has carried its operation out: the
closure has run, the result was valid, and it is the configuration that is held
now. -/
theorem submit_implements {layers : Layers} {shared : Shared} {request : Mutation}
    {closure : Edit Unit} {operation : Operation} {outcomes : Outcomes} {disk : Disk}
    (handled : request.handled layers = .ok closure)
    (carries : Carries closure operation shared.config)
    (answered :
      (submit layers shared (request.handled layers) outcomes disk).response.status = 200) :
    Implements operation shared.config
        (submit layers shared (request.handled layers) outcomes disk).shared.config ∧
      (submit layers shared (request.handled layers) outcomes disk).shared.config.WellFormed := by
  obtain ⟨edit, same, edited, validAfter⟩ :=
    submit_performed layers shared request outcomes disk answered
  obtain rfl : closure = edit := Except.ok.inj (handled.symm.trans same)
  exact ⟨carries.implements _ edited, (Config.validate_ok_iff _).mp validAfter⟩

/-- The admin handlers implement keyed maps. On a running configuration that is
valid, a request whose peer parses as an id names an operation on the map of
entries. If saving succeeds, the request is answered with success exactly when the
operation is possible, and then the new map is that of the operation, and all
untouched entries are in their old order; and removing what a request has added
restores the configuration. -/
theorem handlers_implement_maps (layers : Layers) (shared : Shared) (request : Mutation)
    (outcomes : Outcomes) (disk : Disk) (valid : shared.config.validate = .ok ())
    (parses : ∀ text, request.peerText = some text → ∃ id, parseId layers text = .ok id)
    (saves : request.Saves layers shared outcomes disk) :
    let before := shared.config
    let done := submit layers shared (request.handled layers) outcomes disk
    ∃ operation, request.operation layers = some operation ∧
      (done.response.status = 200 ↔ operation.Possible before.entry) ∧
      (done.response.status = 200 →
        done.shared.config.entry = operation.apply before.entry ∧
        done.shared.config.entries.filter (fun entry => !operation.touches entry.1) =
          before.entries.filter (fun entry => !operation.touches entry.1)) ∧
      ∀ key entry, operation = .insert key entry → done.response.status = 200 →
        ∀ (deletion : Mutation) outcomes' disk', deletion.operation layers = some (.remove key) →
          deletion.Saves layers done.shared outcomes' disk' →
          let undone := submit layers done.shared (deletion.handled layers) outcomes' disk'
          undone.response.status = 200 ∧ undone.shared.config = before := by
  intro before done
  have wellFormed : before.WellFormed := (Config.validate_ok_iff _).mp valid
  obtain ⟨operation, names⟩ := operation_of_parses layers request parses
  obtain ⟨closure, handled, carries⟩ := handler_carries layers wellFormed request operation names
  have success : done.response.status = 200 ↔ operation.Possible before.entry :=
    (submit_ok_iff layers shared request closure handled outcomes disk saves).trans
      carries.possible_iff.symm
  refine ⟨operation, names, success, ?_, ?_⟩
  · intro answered
    have implements := (submit_implements handled carries answered).1
    exact ⟨implements.map, implements.others⟩
  · rintro key entry rfl answered deletion outcomes' disk' names' saves' undone
    obtain ⟨inserted, validAfter⟩ := submit_implements handled carries answered
    obtain ⟨closure', handled', carries'⟩ :=
      handler_carries layers validAfter deletion (.remove key) names'
    have present : (Operation.remove key).Possible done.shared.config.entry := by
      rw [inserted.map]
      simp [Operation.Possible, Operation.apply]
    have answered' : undone.response.status = 200 :=
      (submit_ok_iff layers done.shared deletion closure' handled' outcomes' disk' saves').mpr
        (carries'.possible_iff.mp present)
    obtain ⟨removed, validUndone⟩ := submit_implements handled' carries' answered'
    exact ⟨answered', restored_of_implements wellFormed validAfter validUndone key entry
      (success.mp answered).1 inserted removed⟩

/-- SSH is offered to everyone next to what there is: the map has one entry more,
and the others are kept with their order. -/
theorem ssh_offer_inserts :
    let shared := Shared.new household (configPath "/var/lib/rtun") .serve 0
    let done := submit householdLayers shared (offerSsh.handled householdLayers) .success
      { file := .missing, tmp := none }
    done.response.status = 200 ∧
      done.shared.config.entry =
        (Operation.insert (.shared .tcp 22) (.offer "ssh" true)).apply household.entry ∧
      done.shared.config.entries.filter (fun entry => entry.1 != .shared .tcp 22) =
        household.entries := by
  intro shared done
  have answered : done.response.status = 200 := by decide +kernel
  have saves : offerSsh.Saves householdLayers shared .success { file := .missing, tmp := none } := by
    intro closure next handled closed _
    cases handled
    cases closed
    decide +kernel
  obtain ⟨operation, names, _, effect, _⟩ := handlers_implement_maps householdLayers shared offerSsh
    .success { file := .missing, tmp := none } (by decide +kernel) (fun text isText => by cases isText)
    saves
  cases names
  obtain ⟨inserted, others⟩ := effect answered
  exact ⟨answered, inserted, others.trans (by decide +kernel)⟩

end Rtun
