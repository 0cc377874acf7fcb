import Rtun.Route

/-!
# What an edit of the configuration changes

Access is the union of two lists of offers, the shared one and the peer's own, behind
three switches, and the peer is looked up by first match. The nine mutating requests
edit these lists in place. What each of them can change is summed up once, by peer and by
offer; that an edit changes no other access than the one it names is read off from it.
-/

namespace Rtun

/-- `Config::granted` is a list that contains the port. -/
def Config.Reach (config : Config) (id : EndpointId) (proto : Proto) (port : UInt16) : Prop :=
  ∃ ports, config.granted id proto = some ports ∧ port ∈ ports

/-- An enabled entry of the list is for this protocol and port. -/
def Grants (offers : List Offer) (proto : Proto) (port : UInt16) : Prop :=
  ∃ offer ∈ offers, offer.enabled = true ∧ offer.proto = proto ∧ offer.port = port

/-- A peer's own list, as lookup by its id finds it, has such an entry. -/
def GrantsOwn (config : Config) (id : EndpointId) (proto : Proto) (port : UInt16) : Prop :=
  ∃ peer, config.peer id = some peer ∧ Grants peer.offers proto port

/-- A mutating request with its parsed body. -/
inductive Mutation where
  | addPeer (body : PeerAdd)
  | patchPeer (body : PeerPatch)
  | delPeer (body : IdRef)
  | addOffer (body : OfferAdd)
  | patchOffer (body : OfferPatch)
  | delOffer (body : OfferRef)
  | addBinding (body : BindingAdd)
  | patchBinding (body : BindingPatch)
  | delBinding (body : BindingRef)

namespace Mutation

/-- The handler of the request. -/
def handled (layers : Layers) : Mutation → Fallible (Edit Unit)
  | .addPeer body => Rtun.addPeer layers body
  | .patchPeer body => Rtun.patchPeer layers body
  | .delPeer body => Rtun.delPeer layers body
  | .addOffer body => Rtun.addOffer layers body
  | .patchOffer body => Rtun.patchOffer layers body
  | .delOffer body => Rtun.delOffer layers body
  | .addBinding body => Rtun.addBinding body
  | .patchBinding body => Rtun.patchBinding body
  | .delBinding body => Rtun.delBinding body

/-- The peer that the request names, as its text. -/
def peerText : Mutation → Option String
  | .addPeer body => some body.id
  | .patchPeer body => some body.id
  | .delPeer body => some body.id
  | .addOffer body => body.peer
  | .patchOffer body => body.peer
  | .delOffer body => body.peer
  | .addBinding _ | .patchBinding _ | .delBinding _ => none

/-- The offer that the request edits: whose list, if not the shared one, and the
entry. -/
def offer : Mutation → Option (Option String × Proto × UInt16)
  | .addOffer body => some (body.peer, body.proto, body.port)
  | .patchOffer body => some (body.peer, body.proto, body.port)
  | .delOffer body => some (body.peer, body.proto, body.port)
  | _ => none

/-- The request is scoped to this peer. -/
def ScopedTo (layers : Layers) (request : Mutation) (id : EndpointId) : Prop :=
  ∃ text, request.peerText = some text ∧ parseId layers text = .ok id

/-- The request edits a binding. -/
def onBindings : Mutation → Bool
  | .addBinding _ | .patchBinding _ | .delBinding _ => true
  | _ => false

/-- The request was performed: its closure gave this configuration, which is
valid. -/
def Performed (layers : Layers) (request : Mutation) (before after : Config) : Prop :=
  ∃ edit, request.handled layers = .ok edit ∧ edit before = .ok ((), after) ∧
    after.validate = .ok ()

end Mutation

/-- The requests are those that the endpoints hand to the mutating handlers. So
what is shown of all requests is shown of everything that the API can do to a
configuration. -/
theorem endpoint_mutation (layers : Layers) (method : Method) (path : String) (body : Body)
    (handled : Fallible (Edit Unit)) (reached : endpoint layers method path body = .mutate handled) :
    ∃ request : Mutation, handled = request.handled layers := by
  have parsed {β : Type} (fromSlice : List UInt8 → Except String β)
      (handler : β → Fallible (Edit Unit)) (name : β → Mutation)
      (same : ∀ value, handler value = (name value).handled layers)
      (given : withBody body fromSlice handler = .mutate handled) :
      ∃ request : Mutation, handled = request.handled layers := by
    unfold withBody at given
    split at given
    · cases given
    · split at given
      · cases given
      · split at given
        · cases given
        · obtain rfl := Routed.mutate.inj given
          exact ⟨name _, same _⟩
  unfold endpoint at reached
  split at reached
  · cases reached
  · exact parsed _ _ .addPeer (fun _ => rfl) reached
  · exact parsed _ _ .patchPeer (fun _ => rfl) reached
  · exact parsed _ _ .delPeer (fun _ => rfl) reached
  · exact parsed _ _ .addOffer (fun _ => rfl) reached
  · exact parsed _ _ .patchOffer (fun _ => rfl) reached
  · exact parsed _ _ .delOffer (fun _ => rfl) reached
  · exact parsed _ _ .addBinding (fun _ => rfl) reached
  · exact parsed _ _ .patchBinding (fun _ => rfl) reached
  · exact parsed _ _ .delBinding (fun _ => rfl) reached
  · cases reached

/-- A call of `mutate` that succeeds publishes what its closure gave, once it is
valid. -/
theorem Shared.mutate_published (shared : Shared) (toml : Toml) (edit : Edit Unit)
    (outcomes : Outcomes) (disk : Disk)
    (success : (shared.mutate toml edit outcomes disk).result = .ok ()) :
    edit shared.config = .ok ((), (shared.mutate toml edit outcomes disk).shared.config) ∧
      (shared.mutate toml edit outcomes disk).shared.config.validate = .ok () := by
  unfold Shared.mutate at success ⊢
  cases edited : edit shared.config with
  | error failure => simp [edited] at success
  | ok pair =>
    obtain ⟨out, next⟩ := pair
    cases valid : next.validate with
    | error failure => simp [edited, valid] at success
    | ok =>
      cases saved : save toml shared.path next outcomes (.start disk) with
      | mk result fs =>
        cases result with
        | error failure => simp [edited, valid, saved] at success
        | ok =>
          simp only [valid, saved]
          exact ⟨rfl, valid⟩

/-- A request that is answered with success was performed on the running
configuration. -/
theorem submit_performed (layers : Layers) (shared : Shared) (request : Mutation)
    (outcomes : Outcomes) (disk : Disk)
    (success : (submit layers shared (request.handled layers) outcomes disk).response.status = 200) :
    request.Performed layers shared.config
      (submit layers shared (request.handled layers) outcomes disk).shared.config := by
  unfold submit at success ⊢
  cases handled : request.handled layers with
  | error failure => simp [handled, err, jsonResponse] at success
  | ok edit =>
    cases done : (shared.mutate layers.toml edit outcomes disk).result with
    | error failure => simp [handled, done, err, jsonResponse] at success
    | ok =>
      simp only [done]
      obtain ⟨edited, valid⟩ := shared.mutate_published layers.toml edit outcomes disk done
      exact ⟨edit, handled, edited, valid⟩

/-- Changing the first match splits the list there. What stands before the match
fails the test, and what stands after it is not looked at. -/
theorem updateFirst_some {α : Type} (test : α → Bool) (change : α → α) (elements after : List α)
    (updated : updateFirst test change elements = some after) :
    ∃ first found rest, elements = first ++ found :: rest ∧ test found = true ∧
      after = first ++ change found :: rest := by
  induction elements generalizing after with
  | nil => cases updated
  | cons element others inductionHypothesis =>
    simp only [updateFirst] at updated
    split at updated
    · rename_i passes
      cases updated
      exact ⟨[], element, others, rfl, passes, rfl⟩
    · obtain ⟨tail, found, rfl⟩ := Option.map_eq_some_iff.mp updated
      obtain ⟨first, match', rest, rfl, passes, rfl⟩ := inductionHypothesis tail found
      exact ⟨element :: first, match', rest, rfl, passes, rfl⟩

/-- A change of the first match is not seen by a search that neither it nor its
replacement passes. -/
theorem find_updateFirst {α : Type} (test other : α → Bool) (change : α → α)
    (elements after : List α) (updated : updateFirst test change elements = some after)
    (apart : ∀ element, test element = true →
      other element = false ∧ other (change element) = false) :
    after.find? other = elements.find? other := by
  obtain ⟨first, found, rest, rfl, passes, rfl⟩ := updateFirst_some test change elements after updated
  obtain ⟨before, afterwards⟩ := apart found passes
  simp [List.find?_append, before, afterwards]

/-- The search that found the first match finds its replacement, as long as the
change keeps what the search asks for. -/
theorem find_updateFirst_own {α : Type} (test : α → Bool) (change : α → α) (elements : List α)
    (kept : ∀ element, test element = true → test (change element) = true) :
    ((updateFirst test change elements).getD elements).find? test =
      (elements.find? test).map change := by
  induction elements with
  | nil => rfl
  | cons element rest inductionHypothesis =>
    cases passes : test element with
    | true => simp [updateFirst, passes, kept element passes]
    | false =>
      cases updated : updateFirst test change rest with
      | none => simpa [updateFirst, passes, updated] using inductionHypothesis
      | some after => simpa [updateFirst, passes, updated] using inductionHypothesis

/-- What is removed is not seen by a search that none of it passes, so removing
one entry leaves the lookup of every other. -/
theorem find_removeAll {α : Type} (test other : α → Bool) (elements after : List α)
    (removed : removeAll test elements = some after)
    (apart : ∀ element, test element = true → other element = false) :
    after.find? other = elements.find? other := by
  simp only [removeAll, Option.ite_none_left_eq_some, Option.some.injEq] at removed
  obtain ⟨_, rfl⟩ := removed
  rw [List.find?_filter]
  congr 1
  funext element
  cases passes : test element with
  | true => simp [apart element passes]
  | false => simp

/-- The edit changes no other entry than this one, as far as grants go. -/
def EditsOnly (key : Proto × UInt16) (edit : List Offer → Fallible (List Offer)) : Prop :=
  ∀ offers after, edit offers = .ok after → ∀ proto port, (proto, port) ≠ key →
    (Grants after proto port ↔ Grants offers proto port)

/-- Two lists together grant what either of them does: a peer has the shared
offers and its own, and a port is open to it if one of the lists opens it. -/
theorem grants_append (first second : List Offer) (proto : Proto) (port : UInt16) :
    Grants (first ++ second) proto port ↔ Grants first proto port ∨ Grants second proto port := by
  simp only [Grants, List.mem_append, or_and_right, exists_or]

/-- A list grants what its first offer does, if that is enabled, and what the
others do. -/
theorem grants_cons (offer : Offer) (rest : List Offer) (proto : Proto) (port : UInt16) :
    Grants (offer :: rest) proto port ↔
      (offer.enabled = true ∧ offer.proto = proto ∧ offer.port = port) ∨ Grants rest proto port := by
  simp only [Grants, List.mem_cons, or_and_right, exists_or, exists_eq_left]

/-- The entry that an offer request is about. -/
def Offer.isEntry (proto : Proto) (port : UInt16) (offer : Offer) : Bool :=
  offer.proto == proto && offer.port == port

/-- An entry grants nothing but its own protocol and port. Whatever is done to it
changes no access to any other. -/
theorem not_granted_of_isEntry (offer : Offer) (proto proto' : Proto) (port port' : UInt16)
    (entry : offer.isEntry proto' port' = true) (apart : (proto, port) ≠ (proto', port')) :
    ¬ (offer.enabled = true ∧ offer.proto = proto ∧ offer.port = port) := by
  rintro ⟨_, rfl, rfl⟩
  simp only [Offer.isEntry, Bool.and_eq_true, beq_iff_eq] at entry
  exact apart (Prod.ext entry.1 entry.2)

/-- Adding an entry changes what the list grants at its own protocol and port, and
nowhere else, and only if none with its key was there. -/
theorem editsOnly_add (proto : Proto) (port : UInt16) (name : String) (failure : Failure) :
    EditsOnly (proto, port) (fun offers =>
      if offers.any (Offer.isEntry proto port) then .error failure
      else .ok (offers ++ [{ proto, port, name, enabled := true }])) := by
  intro offers after edited proto' port' apart
  dsimp only at edited
  split at edited
  · cases edited
  · cases edited
    have other : ¬ Grants [{ proto, port, name, enabled := true }] proto' port' := by
      rintro ⟨_, member, _, rfl, rfl⟩
      obtain rfl := List.mem_singleton.mp member
      exact apart rfl
    rw [grants_append]
    exact or_iff_left other

/-- Changing an entry, but for its protocol and port: only whether it is enabled
matters for what the list grants. -/
theorem editsOnly_patch (proto : Proto) (port : UInt16) (name : Option String)
    (enabled : Option Bool) (failure : Failure) :
    EditsOnly (proto, port) (fun offers =>
      match updateFirst (Offer.isEntry proto port)
          (fun offer => { offer with name := name.getD offer.name,
                                     enabled := enabled.getD offer.enabled }) offers with
      | none => .error failure
      | some offers => .ok offers) := by
  intro offers after edited proto' port' apart
  dsimp only at edited
  split at edited
  · cases edited
  · rename_i changed updated
    cases edited
    obtain ⟨first, found, rest, rfl, entry, rfl⟩ := updateFirst_some _ _ _ _ updated
    have before := not_granted_of_isEntry found proto' proto port' port entry apart
    have afterwards := not_granted_of_isEntry { found with
      name := name.getD found.name, enabled := enabled.getD found.enabled }
      proto' proto port' port entry apart
    rw [grants_append, grants_append, grants_cons, grants_cons, or_iff_right before,
      or_iff_right afterwards]

/-- Removing an entry takes away what the list grants at its own protocol and
port, and leaves all the rest. -/
theorem editsOnly_remove (proto : Proto) (port : UInt16) (failure : Failure) :
    EditsOnly (proto, port) (fun offers =>
      match removeAll (Offer.isEntry proto port) offers with
      | none => .error failure
      | some offers => .ok offers) := by
  intro offers after edited proto' port' apart
  dsimp only at edited
  split at edited
  · cases edited
  · rename_i kept removed
    cases edited
    simp only [removeAll, Option.ite_none_left_eq_some, Option.some.injEq] at removed
    obtain ⟨_, rfl⟩ := removed
    constructor
    · rintro ⟨offer, member, granted⟩
      exact ⟨offer, (List.mem_filter.mp member).1, granted⟩
    · rintro ⟨offer, member, granted⟩
      refine ⟨offer, List.mem_filter.mpr ⟨member, ?_⟩, granted⟩
      rw [Bool.not_eq_true']
      apply Bool.eq_false_iff.mpr
      intro entry
      exact not_granted_of_isEntry offer proto' proto port' port entry apart granted

/-- Every offer request edits one list, and there only the entry that it names.
The three requests differ in the edit and in nothing else. -/
theorem offer_handled (layers : Layers) (request : Mutation) (peer : Option String) (proto : Proto)
    (port : UInt16) (named : request.offer = some (peer, proto, port)) :
    ∃ edit, EditsOnly (proto, port) edit ∧
      request.handled layers = .ok (editOffersOf layers peer edit) := by
  cases request <;> simp only [Mutation.offer, reduceCtorEq, Option.some.injEq, Prod.mk.injEq] at named
  · obtain ⟨rfl, rfl, rfl⟩ := named
    exact ⟨_, editsOnly_add _ _ _ _, rfl⟩
  · obtain ⟨rfl, rfl, rfl⟩ := named
    exact ⟨_, editsOnly_patch _ _ _ _ _, rfl⟩
  · obtain ⟨rfl, rfl, rfl⟩ := named
    exact ⟨_, editsOnly_remove _ _ _, rfl⟩

/-- What a request can change, by peer and by offer. -/
inductive Change (layers : Layers) (request : Mutation) (before after : Config) : Prop where
  | peers (id : EndpointId) (names : request.ScopedTo layers id) (noOffer : request.offer = none)
      (shared : after.serve.shared = before.serve.shared)
      (others : ∀ other, other ≠ id → after.peer other = before.peer other) :
      Change layers request before after
  | sharedOffers (proto : Proto) (port : UInt16) (named : request.offer = some (none, proto, port))
      (peers : ∀ id, after.peer id = before.peer id)
      (only : ∀ proto' port', (proto', port') ≠ (proto, port) →
        (Grants after.serve.shared proto' port' ↔ Grants before.serve.shared proto' port')) :
      Change layers request before after
  | ownOffers (text : String) (proto : Proto) (port : UInt16) (id : EndpointId) (owner : Peer)
      (offers : List Offer) (named : request.offer = some (some text, proto, port))
      (parsed : parseId layers text = .ok id)
      (shared : after.serve.shared = before.serve.shared)
      (others : ∀ other, other ≠ id → after.peer other = before.peer other)
      (found : before.peer id = some owner) (edited : after.peer id = some { owner with offers })
      (only : ∀ proto' port', (proto', port') ≠ (proto, port) →
        (Grants offers proto' port' ↔ Grants owner.offers proto' port')) :
      Change layers request before after
  | bindings (edits : request.onBindings = true) (serve : after.serve = before.serve) :
      Change layers request before after

/-- A closure that edits the peers leaves everything else as it was; the shared
offers in particular, which all peers have in common. -/
theorem editPeers_ok (edit : List Peer → Fallible (List Peer)) (before after : Config)
    (edited : editPeers edit before = .ok ((), after)) :
    edit before.serve.peers = .ok after.serve.peers ∧
      after.serve.shared = before.serve.shared := by
  obtain ⟨peers, given, rest⟩ := (Fallible.bind_ok_iff _ _ _).mp edited
  obtain rfl := (Prod.mk.inj (Except.ok.inj rest)).2
  exact ⟨given, rfl⟩

/-- A closure that edits the bindings leaves the serving side as it was, and with
it everything on which access depends. -/
theorem editBindings_ok (edit : List Binding → Fallible (List Binding)) (before after : Config)
    (edited : editBindings edit before = .ok ((), after)) : after.serve = before.serve := by
  obtain ⟨bindings, _, rest⟩ := (Fallible.bind_ok_iff _ _ _).mp edited
  obtain rfl := (Prod.mk.inj (Except.ok.inj rest)).2
  rfl

/-- A closure that edits a list of offers: the shared one, or that of the peer
which lookup by the parsed id finds. Lookup of any other peer finds what it found
before. -/
theorem editOffersOf_ok (layers : Layers) (peer : Option String)
    (edit : List Offer → Fallible (List Offer)) (before after : Config)
    (edited : editOffersOf layers peer edit before = .ok ((), after)) :
    (peer = none ∧ edit before.serve.shared = .ok after.serve.shared ∧
        after.serve.peers = before.serve.peers) ∨
      ∃ text id owner offers, peer = some text ∧ parseId layers text = .ok id ∧
        before.peer id = some owner ∧ edit owner.offers = .ok offers ∧
        after.serve.shared = before.serve.shared ∧ after.peer id = some { owner with offers } ∧
        ∀ other, other ≠ id → after.peer other = before.peer other := by
  cases peer with
  | none =>
    obtain ⟨shared, given, rest⟩ := (Fallible.bind_ok_iff _ _ _).mp edited
    obtain rfl := (Prod.mk.inj (Except.ok.inj rest)).2
    exact Or.inl ⟨rfl, given, rfl⟩
  | some text =>
    obtain ⟨id, parsed, looked⟩ := (Fallible.bind_ok_iff _ _ _).mp edited
    cases found : before.peer id with
    | none => simp [found] at looked
    | some owner =>
      simp only [found] at looked
      obtain ⟨offers, given, rest⟩ := (Fallible.bind_ok_iff _ _ _).mp looked
      obtain rfl := (Prod.mk.inj (Except.ok.inj rest)).2
      refine Or.inr ⟨text, id, owner, offers, rfl, parsed, found, given, rfl, ?_, ?_⟩
      · have own := find_updateFirst_own (fun peer : Peer => peer.id == id)
          (fun peer => { peer with offers }) before.serve.peers (fun _ same => same)
        exact own.trans (congrArg (Option.map _) found)
      · intro other differs
        cases updated : updateFirst (fun peer : Peer => peer.id == id)
            (fun peer => { peer with offers }) before.serve.peers with
        | none => simp [Config.peer]
        | some peers =>
          have same := find_updateFirst _ (fun peer : Peer => peer.id == other) _ _ _ updated
            (fun peer named => by
              obtain rfl : peer.id = id := by simpa using named
              simp [Ne.symm differs])
          simpa [Config.peer, updated] using same

/-- A request on a peer changes the lookup of no other peer. It is the common part
of adding, patching and removing one. -/
theorem peers_change (layers : Layers) (request : Mutation) (before after : Config)
    (id : EndpointId) (names : request.ScopedTo layers id) (noOffer : request.offer = none)
    (edit : List Peer → Fallible (List Peer))
    (local' : ∀ peers edited, edit peers = .ok edited → ∀ other, other ≠ id →
      edited.find? (fun peer => peer.id == other) = peers.find? (fun peer => peer.id == other))
    (edited : editPeers edit before = .ok ((), after)) : Change layers request before after := by
  obtain ⟨given, shared⟩ := editPeers_ok edit before after edited
  exact .peers id names noOffer shared (local' _ _ given)

/-- A request on an offer changes what its list grants at the protocol and port of
the offer: the shared list, or the own list of the peer that it names. -/
theorem offers_change (layers : Layers) (request : Mutation) (before after : Config)
    (performed : request.Performed layers before after) (peer : Option String) (proto : Proto)
    (port : UInt16) (named : request.offer = some (peer, proto, port)) :
    Change layers request before after := by
  obtain ⟨edit, handled, edited, _⟩ := performed
  obtain ⟨change, editsOnly, handles⟩ := offer_handled layers request peer proto port named
  obtain rfl : editOffersOf layers peer change = edit := Except.ok.inj (handles.symm.trans handled)
  rcases editOffersOf_ok layers peer change before after edited with
    ⟨rfl, given, peers⟩ | ⟨text, id, owner, offers, rfl, parsed, found, given, shared, own, others⟩
  · exact .sharedOffers proto port named (fun id => by rw [Config.peer, peers]; rfl)
      (editsOnly _ _ given)
  · exact .ownOffers text proto port id owner offers named parsed shared others found own
      (editsOnly _ _ given)

/-- Every request that is performed makes one of these changes. It is proved by
cases on the nine requests, and the only place where they are taken apart. -/
theorem performed_change (layers : Layers) (request : Mutation) (before after : Config)
    (performed : request.Performed layers before after) : Change layers request before after := by
  have onOffers := offers_change layers request before after performed
  obtain ⟨edit, handled, edited, _⟩ := performed
  cases request with
  | addPeer body =>
    obtain ⟨id, parsed, rest⟩ := (Fallible.bind_ok_iff _ _ _).mp handled
    cases rest
    dsimp only at edited
    split at edited
    · cases edited
    · refine peers_change layers _ before after id ⟨body.id, rfl, parsed⟩ rfl _ ?_ edited
      intro peers edited added other differs
      cases added
      simp [List.find?_append, Ne.symm differs]
  | patchPeer body =>
    obtain ⟨id, parsed, rest⟩ := (Fallible.bind_ok_iff _ _ _).mp handled
    cases rest
    refine peers_change layers _ before after id ⟨body.id, rfl, parsed⟩ rfl _ ?_ edited
    intro peers edited patched other differs
    split at patched
    · cases patched
    · rename_i updated
      cases patched
      apply find_updateFirst _ _ _ _ _ updated
      intro peer named
      obtain rfl : peer.id = id := by simpa using named
      simp [Ne.symm differs]
  | delPeer body =>
    obtain ⟨id, parsed, rest⟩ := (Fallible.bind_ok_iff _ _ _).mp handled
    cases rest
    refine peers_change layers _ before after id ⟨body.id, rfl, parsed⟩ rfl _ ?_ edited
    intro peers edited deleted other differs
    split at deleted
    · cases deleted
    · rename_i removed
      cases deleted
      apply find_removeAll _ _ _ _ removed
      intro peer named
      obtain rfl : peer.id = id := by simpa using named
      simp [Ne.symm differs]
  | addOffer body => exact onOffers body.peer body.proto body.port rfl
  | patchOffer body => exact onOffers body.peer body.proto body.port rfl
  | delOffer body => exact onOffers body.peer body.proto body.port rfl
  | addBinding body =>
    cases handled
    exact .bindings rfl (editBindings_ok _ before after edited)
  | patchBinding body =>
    cases handled
    exact .bindings rfl (editBindings_ok _ before after edited)
  | delBinding body =>
    cases handled
    exact .bindings rfl (editBindings_ok _ before after edited)

/-- Reach, by the peer that lookup finds: it is enabled, and one of the two lists
grants. -/
theorem Config.reach_iff (config : Config) (id : EndpointId) (proto : Proto) (port : UInt16) :
    config.Reach id proto port ↔ ∃ peer, config.peer id = some peer ∧ peer.enabled = true ∧
      (Grants config.serve.shared proto port ∨ Grants peer.offers proto port) := by
  have either (peer : Peer) : (∃ offer ∈ config.serve.shared ++ peer.offers,
      offer.enabled = true ∧ offer.proto = proto ∧ offer.port = port) ↔
        Grants config.serve.shared proto port ∨ Grants peer.offers proto port :=
    grants_append config.serve.shared peer.offers proto port
  rw [Config.Reach, ← Config.reaches_iff_granted, Config.reaches_iff]
  simp only [either]

/-- In a valid configuration lookup by id finds the peer that is listed under
it. -/
theorem Config.peer_some_iff (config : Config) (valid : config.WellFormed) (id : EndpointId)
    (peer : Peer) : config.peer id = some peer ↔ peer ∈ config.serve.peers ∧ peer.id = id := by
  constructor
  · intro found
    exact ⟨List.mem_of_find?_eq_some found, by simpa using List.find?_some found⟩
  · rintro ⟨member, rfl⟩
    cases found : config.peer peer.id with
    | none => simpa using List.find?_eq_none.mp found peer member
    | some other =>
      have same : other.id = peer.id := by simpa using List.find?_some found
      have listed : other ∈ config.serve.peers := List.mem_of_find?_eq_some found
      rw [List.inj_on_of_nodup_map valid.distinctPeers listed member same]

/-- In a valid configuration: the peer is listed and enabled, and an enabled entry
exists in the shared list or in the peer's own. -/
theorem Config.reach_iff_listed (config : Config) (valid : config.WellFormed) (id : EndpointId)
    (proto : Proto) (port : UInt16) :
    config.Reach id proto port ↔
      ∃ peer ∈ config.serve.peers, peer.id = id ∧ peer.enabled = true ∧
        ((∃ offer ∈ config.serve.shared, offer.enabled = true ∧ offer.proto = proto ∧
            offer.port = port) ∨
          ∃ offer ∈ peer.offers, offer.enabled = true ∧ offer.proto = proto ∧
            offer.port = port) := by
  simp only [Config.reach_iff, config.peer_some_iff valid, Grants, and_assoc]

/-- What is looked up and shared decides reach: two configurations in which both
are the same let the peer reach the same ports. -/
theorem Config.reach_congr (before after : Config) (id : EndpointId) (proto : Proto) (port : UInt16)
    (peer : after.peer id = before.peer id)
    (shared : Grants after.serve.shared proto port ↔ Grants before.serve.shared proto port) :
    after.Reach id proto port ↔ before.Reach id proto port := by
  simp only [Config.reach_iff, peer, shared]

/-- Whether a peer is admitted is a matter of its own entry alone, and neither of
what is shared nor of the other peers. -/
theorem Config.admits_congr (before after : Config) (id : EndpointId)
    (peer : after.peer id = before.peer id) : after.admits id = before.admits id := by
  rw [Config.admits, Config.admits, peer]

/-- A request is scoped to one peer at most, and an offer request to the peer that
it names. -/
theorem Mutation.ScopedTo.unique {layers : Layers} {request : Mutation} {id other : EndpointId}
    (scopedTo : request.ScopedTo layers id) (text : String) (names : request.peerText = some text)
    (parsed : parseId layers text = .ok other) : other = id := by
  obtain ⟨text', names', parsed'⟩ := scopedTo
  obtain rfl : text = text' := Option.some.inj (names.symm.trans names')
  exact Except.ok.inj (parsed.symm.trans parsed')

/-- A request on an offer names the peer whose list it is, or none for the shared
one. -/
theorem Mutation.peerText_of_offer (request : Mutation) (peer : Option String)
    (key : Proto × UInt16) (named : request.offer = some (peer, key)) : request.peerText = peer := by
  cases request <;> simp_all [Mutation.offer, Mutation.peerText]

/-- A request on bindings names neither an offer nor a peer, so none of the
clauses about those has anything to say of it. -/
theorem Mutation.not_offer_of_bindings (request : Mutation) (edits : request.onBindings = true) :
    request.offer = none ∧ request.peerText = none := by
  cases request <;> simp_all [Mutation.onBindings, Mutation.offer, Mutation.peerText]

section Changes

variable {layers : Layers} {request : Mutation} {before after : Config}

/-- A request scoped to one peer changes neither reach nor admission of
another. -/
theorem Change.other_peer (change : Change layers request before after) (id : EndpointId)
    (scopedTo : request.ScopedTo layers id) (other : EndpointId) (differs : other ≠ id) :
    (∀ proto port, after.Reach other proto port ↔ before.Reach other proto port) ∧
      after.admits other = before.admits other := by
  have unchanged (shared : after.serve.shared = before.serve.shared)
      (same : after.peer other = before.peer other) :
      (∀ proto port, after.Reach other proto port ↔ before.Reach other proto port) ∧
        after.admits other = before.admits other := by
    refine ⟨?_, Config.admits_congr before after other same⟩
    intro proto port
    exact Config.reach_congr before after other proto port same (by rw [shared])
  cases change with
  | peers named names _ shared others =>
    obtain ⟨text, isText, parsed⟩ := names
    obtain rfl : named = id := scopedTo.unique text isText parsed
    exact unchanged shared (others other differs)
  | sharedOffers proto port named =>
    obtain ⟨text, names, _⟩ := scopedTo
    rw [request.peerText_of_offer none (proto, port) named] at names
    cases names
  | ownOffers text proto port named _ _ isOffer parsed shared others =>
    obtain rfl : named = id :=
      scopedTo.unique text (request.peerText_of_offer (some text) (proto, port) isOffer) parsed
    exact unchanged shared (others other differs)
  | bindings edits =>
    obtain ⟨text, names, _⟩ := scopedTo
    rw [(request.not_offer_of_bindings edits).2] at names
    cases names

/-- An edit of one offer changes reach of no other protocol and port, for any
peer. -/
theorem Change.other_offer (change : Change layers request before after) (peer : Option String)
    (key : Proto × UInt16) (named : request.offer = some (peer, key)) (id : EndpointId)
    (proto : Proto) (port : UInt16) (differs : (proto, port) ≠ key) :
    after.Reach id proto port ↔ before.Reach id proto port := by
  cases change with
  | peers _ _ noOffer =>
    rw [noOffer] at named
    cases named
  | sharedOffers proto' port' isOffer peers only =>
    obtain ⟨_, rfl⟩ := Prod.mk.inj (Option.some.inj (isOffer.symm.trans named))
    exact Config.reach_congr before after id proto port (peers id) (only proto port differs)
  | ownOffers text proto' port' owned owner offers isOffer _ shared others found edited only =>
    obtain ⟨_, rfl⟩ := Prod.mk.inj (Option.some.inj (isOffer.symm.trans named))
    by_cases same : id = owned
    · subst same
      simp only [Config.reach_iff, found, edited, shared, Option.some.injEq, exists_eq_left',
        only proto port differs]
    · exact Config.reach_congr before after id proto port (others id same) (by rw [shared])
  | bindings edits =>
    rw [(request.not_offer_of_bindings edits).1] at named
    cases named

/-- An edit of a peer's own offer takes away nothing that the shared list still
grants. -/
theorem Change.shared_remains (change : Change layers request before after) (text : String)
    (key : Proto × UInt16) (named : request.offer = some (some text, key)) (id : EndpointId)
    (proto : Proto) (port : UInt16) (reached : before.Reach id proto port)
    (granted : Grants after.serve.shared proto port) : after.Reach id proto port := by
  obtain ⟨peer, found, enabled, _⟩ := (Config.reach_iff _ _ _ _).mp reached
  apply (Config.reach_iff _ _ _ _).mpr
  cases change with
  | peers _ _ noOffer =>
    rw [noOffer] at named
    cases named
  | sharedOffers proto' port' isOffer =>
    have impossible := (Prod.mk.inj (Option.some.inj (isOffer.symm.trans named))).1
    cases impossible
  | ownOffers _ _ _ owned owner offers _ _ _ others listed edited =>
    by_cases same : id = owned
    · subst same
      obtain rfl : owner = peer := Option.some.inj (listed.symm.trans found)
      exact ⟨_, edited, enabled, Or.inl granted⟩
    · exact ⟨peer, (others id same).trans found, enabled, Or.inl granted⟩
  | bindings edits =>
    rw [(request.not_offer_of_bindings edits).1] at named
    cases named

/-- An edit of a shared offer takes away nothing that a peer's own list grants.
The two lists are searched one after the other, and the peer keeps what either
has. -/
theorem Change.own_remains (change : Change layers request before after) (key : Proto × UInt16)
    (named : request.offer = some (none, key)) (id : EndpointId) (proto : Proto) (port : UInt16)
    (reached : before.Reach id proto port) (granted : GrantsOwn before id proto port) :
    after.Reach id proto port := by
  obtain ⟨peer, found, enabled, _⟩ := (Config.reach_iff _ _ _ _).mp reached
  obtain ⟨same, looked, own⟩ := granted
  obtain rfl : peer = same := Option.some.inj (found.symm.trans looked)
  apply (Config.reach_iff _ _ _ _).mpr
  cases change with
  | peers _ _ noOffer =>
    rw [noOffer] at named
    cases named
  | sharedOffers _ _ _ peers => exact ⟨peer, (peers id).trans found, enabled, Or.inr own⟩
  | ownOffers _ _ _ _ _ _ isOffer =>
    have impossible := (Prod.mk.inj (Option.some.inj (isOffer.symm.trans named))).1
    cases impossible
  | bindings edits =>
    rw [(request.not_offer_of_bindings edits).1] at named
    cases named

/-- A request on bindings changes no access at all: neither what a peer can reach
nor whether it is admitted. -/
theorem Change.on_bindings (change : Change layers request before after)
    (edits : request.onBindings = true) (id : EndpointId) :
    (∀ proto port, after.Reach id proto port ↔ before.Reach id proto port) ∧
      after.admits id = before.admits id := by
  obtain ⟨notOffer, notPeer⟩ := request.not_offer_of_bindings edits
  cases change with
  | peers _ names =>
    obtain ⟨text, isText, _⟩ := names
    rw [notPeer] at isText
    cases isText
  | sharedOffers _ _ named =>
    rw [notOffer] at named
    cases named
  | ownOffers _ _ _ _ _ _ named =>
    rw [notOffer] at named
    cases named
  | bindings _ serve =>
    have same : after.peer id = before.peer id := by rw [Config.peer, serve]; rfl
    refine ⟨?_, Config.admits_congr before after id same⟩
    intro proto port
    exact Config.reach_congr before after id proto port same (by rw [serve])

end Changes

/-- Edits change exactly the access that they name. For a running configuration
that is valid and a request that is answered with success, reach before and after
is what the entries say, and differs for nobody and for nothing that the request
does not name. -/
theorem edits_change_named_access (layers : Layers) (shared : Shared) (request : Mutation)
    (outcomes : Outcomes) (disk : Disk) (valid : shared.config.validate = .ok ())
    (success : (submit layers shared (request.handled layers) outcomes disk).response.status = 200) :
    let before := shared.config
    let after := (submit layers shared (request.handled layers) outcomes disk).shared.config
    (∀ config, config = before ∨ config = after → ∀ id proto port, config.Reach id proto port ↔
      ∃ peer ∈ config.serve.peers, peer.id = id ∧ peer.enabled = true ∧
        ((∃ offer ∈ config.serve.shared, offer.enabled = true ∧ offer.proto = proto ∧
            offer.port = port) ∨
          ∃ offer ∈ peer.offers, offer.enabled = true ∧ offer.proto = proto ∧
            offer.port = port)) ∧
    (∀ id, request.ScopedTo layers id → ∀ other, other ≠ id →
      (∀ proto port, after.Reach other proto port ↔ before.Reach other proto port) ∧
        after.admits other = before.admits other) ∧
    (∀ peer key, request.offer = some (peer, key) → ∀ id proto port, (proto, port) ≠ key →
      (after.Reach id proto port ↔ before.Reach id proto port)) ∧
    (∀ text key, request.offer = some (some text, key) → ∀ id proto port,
      before.Reach id proto port → Grants after.serve.shared proto port →
        after.Reach id proto port) ∧
    (∀ key, request.offer = some (none, key) → ∀ id proto port,
      before.Reach id proto port → GrantsOwn before id proto port → after.Reach id proto port) ∧
    (request.onBindings = true → ∀ id,
      (∀ proto port, after.Reach id proto port ↔ before.Reach id proto port) ∧
        after.admits id = before.admits id) := by
  intro before after
  have performed : request.Performed layers before after :=
    submit_performed layers shared request outcomes disk success
  have change : Change layers request before after :=
    performed_change layers request before after performed
  obtain ⟨_, _, _, validAfter⟩ := performed
  refine ⟨?_, change.other_peer, change.other_offer, change.shared_remains, change.own_remains,
    change.on_bindings⟩
  rintro config (rfl | rfl) id proto port
  · exact Config.reach_iff_listed _ ((Config.validate_ok_iff _).mp valid) id proto port
  · exact Config.reach_iff_listed _ ((Config.validate_ok_iff _).mp validAfter) id proto port

/-- SSH is offered to everyone. -/
def offerSsh : Mutation := .addOffer { peer := none, proto := .tcp, port := 22, name := "ssh" }

/-- Two peers are listed and reach a web server, and one of them DNS as well. -/
def household : Config :=
  { serve :=
      { shared := [{ proto := .tcp, port := 80, name := "web", enabled := true }],
        peers :=
          [{ id := laptop, name := "laptop", enabled := true,
             offers := [{ proto := .udp, port := 53, name := "dns", enabled := true }] },
            { id := { key := 2 }, name := "phone", enabled := true, offers := [] }] },
    connect := { bindings := [] } }

/-- The same with SSH for everyone. -/
def householdSsh : Config :=
  { household with
    serve :=
      { household.serve with
        shared := household.serve.shared ++
          [{ proto := .tcp, port := 22, name := "ssh", enabled := true }] } }

/-- Its document. -/
def householdText : String :=
  "[[serve.shared]]\nproto = \"tcp\"\nport = 80\nname = \"web\"\nenabled = true\n\n" ++
    "[[serve.shared]]\nproto = \"tcp\"\nport = 22\nname = \"ssh\"\nenabled = true\n\n" ++
    "[[serve.peers]]\nid = \"" ++ laptop.text ++ "\"\nname = \"laptop\"\nenabled = true\n\n" ++
    "[[serve.peers.offers]]\nproto = \"udp\"\nport = 53\nname = \"dns\"\nenabled = true\n\n" ++
    "[[serve.peers]]\nid = \"" ++ ({ key := 2 } : EndpointId).text ++
    "\"\nname = \"phone\"\nenabled = true\n\n[connect]\nbindings = []\n"

/-- Layers that know this one configuration and its document. -/
def householdLayers : Layers :=
  { sampleLayers with
    toml :=
      { toStringPretty := fun config =>
          if config = householdSsh then .ok householdText else .error (.message "unsupported value")
        fromStr := fun document =>
          if document = fileHeader ++ householdText then .ok householdSsh
          else .error (.message "TOML parse error") } }

/-- SSH is added to what everyone reaches, and both peers still reach what they
did before. -/
theorem ssh_offer_changes_ssh_only :
    let shared := Shared.new household (configPath "/var/lib/rtun") .serve 0
    let done := submit householdLayers shared (offerSsh.handled householdLayers) .success
      { file := .missing, tmp := none }
    done.shared.config = householdSsh ∧
      (∀ id proto port, (proto, port) ≠ (.tcp, 22) →
        (done.shared.config.Reach id proto port ↔ household.Reach id proto port)) ∧
      done.shared.config.Reach laptop .udp 53 ∧ done.shared.config.Reach { key := 2 } .tcp 80 := by
  intro shared done
  have changed : done.shared.config = householdSsh := by decide +kernel
  have named := (edits_change_named_access householdLayers shared offerSsh .success
    { file := .missing, tmp := none } (by decide +kernel) (by decide +kernel)).2.2.1
  have others (id : EndpointId) (proto : Proto) (port : UInt16) (differs : (proto, port) ≠ (.tcp, 22)) :
      done.shared.config.Reach id proto port ↔ household.Reach id proto port :=
    named none (.tcp, 22) rfl id proto port differs
  exact ⟨changed, others, (others laptop .udp 53 (by decide)).mpr ⟨_, rfl, by decide⟩,
    (others { key := 2 } .tcp 80 (by decide)).mpr ⟨_, rfl, by decide⟩⟩

end Rtun
