import Rtun.HandlerMaps
import Rtun.Run

/-!
# Making a configuration through the admin surface

What the state view shows determines the configuration, and the nine requests are enough to
make any other out of it. `clearing` lists the requests that remove everything, and
`building` those that add the entries of a configuration one after the other: an entry is
added enabled, and then parked if it has to be. Every request on the way is answered with
success, since each configuration passed through is part of one of the two.
-/

namespace Rtun

open KeyedList Run

/-- One request as it changes the configuration, if it is performed. -/
def perform (layers : Layers) (config : Config) (request : Mutation) : Option Config :=
  match request.handled layers with
  | .error _ => none
  | .ok closure =>
    match closure config with
    | .error _ => none
    | .ok ((), next) =>
      match next.validate with
      | .error _ => none
      | .ok () => some next

/-- A request is performed exactly if its handler gives a closure that edits
the configuration into a valid one, which is what an answer with success
stands for. -/
theorem perform_some_iff (layers : Layers) (config next : Config) (request : Mutation) :
    perform layers config request = some next ↔ request.Performed layers config next := by
  unfold perform Mutation.Performed
  cases request.handled layers with
  | error failure => simp
  | ok closure =>
    cases edited : closure config with
    | error failure => simp [edited]
    | ok result =>
      obtain ⟨⟨⟩, other⟩ := result
      simp only [Except.ok.injEq, exists_eq_left', edited, Prod.mk.injEq, true_and]
      cases valid : other.validate with
      | error failure =>
        simp only [reduceCtorEq, false_iff, not_and]
        rintro rfl
        simp [valid]
      | ok =>
        constructor
        · rintro ⟨⟩
          exact ⟨rfl, valid⟩
        · rintro ⟨rfl, _⟩
          rfl

/-- The requests that add an offer, to the shared ones or to those of a peer. -/
def offerRequests (peer : Option String) (offer : Offer) : List Mutation :=
  .addOffer { peer, proto := offer.proto, port := offer.port, name := offer.name } ::
    if offer.enabled then []
    else [.patchOffer { peer, proto := offer.proto, port := offer.port, name := none,
                        enabled := some false }]

/-- The requests that add a peer and what is offered to it alone. -/
def peerRequests (peer : Peer) : List Mutation :=
  (.addPeer { id := peer.id.text, name := peer.name } ::
    if peer.enabled then []
    else [.patchPeer { id := peer.id.text, name := none, enabled := some false }]) ++
  peer.offers.flatMap (offerRequests (some peer.id.text))

def bindingRequests (binding : Binding) : List Mutation :=
  .addBinding { proto := binding.proto, localPort := binding.localPort,
                remotePort := binding.remotePort, name := binding.name } ::
    if binding.enabled then []
    else [.patchBinding { proto := binding.proto, localPort := binding.localPort, remotePort := none,
                          name := none, enabled := some false }]

/-- The requests that make a configuration from the empty one. -/
def building (target : Config) : List Mutation :=
  target.serve.shared.flatMap (offerRequests none) ++ target.serve.peers.flatMap peerRequests ++
    target.connect.bindings.flatMap bindingRequests

/-- The requests that make the empty configuration. -/
def clearing (config : Config) : List Mutation :=
  config.connect.bindings.map (fun binding =>
      .delBinding { proto := binding.proto, localPort := binding.localPort }) ++
    config.serve.peers.map (fun peer => .delPeer { id := peer.id.text }) ++
    config.serve.shared.map (fun offer =>
      .delOffer { peer := none, proto := offer.proto, port := offer.port })

/-- A request runs an edit on the list that the configurations have in a place. -/
def RunsEdit {α : Type} {κ : Type} [DecidableEq κ] (layers : Layers) (key : α → κ)
    (place : List α → Config) (request : Mutation) (edit : KeyedList.Edit α κ) : Prop :=
  ∀ elements, (elements.map key).Nodup → edit.Possible key elements →
    ∃ closure, request.handled layers = .ok closure ∧
      closure (place elements) = .ok ((), place (edit.run key elements))

section Places

variable {α : Type} {κ : Type} [DecidableEq κ] {layers : Layers} {key : α → κ}
  {place : List α → Config}

/-- A request that runs an edit performs it, wherever the list is, if what it
gives is valid. -/
theorem RunsEdit.performs {request : Mutation} {edit : KeyedList.Edit α κ}
    (runs : RunsEdit layers key place request edit) (elements : List α)
    (distinct : (elements.map key).Nodup) (possible : edit.Possible key elements)
    (valid : (place (edit.run key elements)).WellFormed) :
    perform layers (place elements) request = some (place (edit.run key elements)) := by
  obtain ⟨closure, handled, closed⟩ := runs elements distinct possible
  exact (perform_some_iff _ _ _ _).mpr ⟨closure, handled, closed, (Config.validate_ok_iff _).mpr valid⟩

/-- An element is made by adding it, and by changing it unless it is as it should
be. -/
theorem element_made (element added : α) {add change : Mutation} {asAdded : Bool} {alters : α → α}
    (adds : RunsEdit layers key place add (.add added))
    (changes : RunsEdit layers key place change (.alter (key element) alters))
    (same : asAdded = true → added = element) (altered : asAdded = false → alters added = element)
    (sameKey : key added = key element) (front : List α)
    (distinct : ((front ++ [element]).map key).Nodup)
    (validAdded : (place (front ++ [added])).WellFormed)
    (valid : (place (front ++ [element])).WellFormed) :
    run (perform layers) (place front) (add :: if asAdded then [] else [change]) =
      some (place (front ++ [element])) := by
  have distinctFront : (front.map key).Nodup :=
    distinct.sublist ((List.sublist_append_left front [element]).map key)
  have absent : lookup key (key added) front = none :=
    sameKey ▸ (nodup_append_iff key front element distinctFront).mp distinct
  have distinctAdded : ((front ++ [added]).map key).Nodup :=
    (nodup_append_iff key front added distinctFront).mpr absent
  have first := adds.performs front distinctFront absent validAdded
  rw [run_cons_some]
  refine ⟨_, first, ?_⟩
  cases asAdded with
  | true =>
    obtain rfl := same rfl
    rfl
  | false =>
    have whole : (KeyedList.Edit.alter (key element) alters).run key (front ++ [added]) =
        front ++ [element] := by
      rw [KeyedList.Edit.run, ← sameKey, alter_append key front added alters absent,
        altered rfl]
    have listed : (lookup key (key element) (front ++ [added])).isSome = true := by
      rw [← sameKey, lookup_append_self key front added absent]
      rfl
    have second := changes.performs (front ++ [added]) distinctAdded listed (whole ▸ valid)
    rw [whole] at second
    exact (run_cons_some _ _ _ _ _).mpr ⟨_, second, rfl⟩

/-- The first element is removed by its key. The rest of the list keeps its order,
since the keys are distinct and nothing else matches. -/
theorem element_unmade {remove : Mutation} {element : α}
    (removes : RunsEdit layers key place remove (.remove (key element))) (rest : List α)
    (distinct : ((element :: rest).map key).Nodup) (valid : (place rest).WellFormed) :
    perform layers (place (element :: rest)) remove = some (place rest) := by
  have others : (KeyedList.Edit.remove (key element)).run key (element :: rest) = rest :=
    remove_cons key element rest distinct
  have listed : (lookup key (key element) (element :: rest)).isSome = true := by
    simp [lookup]
  have removed := removes.performs (element :: rest) distinct listed
    (by rw [others]; exact valid)
  rwa [others] at removed

/-- Editing the list in a place: what the edit makes of the list is put in its
place. -/
def Places (closing : (List α → Fallible (List α)) → Edit Unit) (place : List α → Config) : Prop :=
  ∀ onList elements after, onList elements = .ok after →
    closing onList (place elements) = .ok ((), place after)

/-- A handler that applies its closure to the list in a place runs the edit that
the closure realises. This is how every one of the nine handlers is written. -/
theorem Places.runs {closing : (List α → Fallible (List α)) → Edit Unit}
    (places : Places closing place) {request : Mutation} {onList : List α → Fallible (List α)}
    {edit : KeyedList.Edit α κ} (handled : request.handled layers = .ok (closing onList))
    (realises : ∀ elements, (elements.map key).Nodup → Realises key onList edit elements) :
    RunsEdit layers key place request edit := by
  intro elements distinct possible
  exact ⟨_, handled, places _ _ _ ((realises elements distinct _).mpr ⟨possible, rfl⟩)⟩

end Places

/-- The configuration with these lists. -/
def withLists (shared : List Offer) (peers : List Peer) (bindings : List Binding) : Config :=
  { serve := { shared, peers }, connect := { bindings } }

/-- Editing the peers leaves the other two lists of the configuration alone, and
the edit succeeds exactly if it does on the list of peers. -/
theorem places_peers (shared : List Offer) (bindings : List Binding) :
    Places editPeers (fun peers => withLists shared peers bindings) := by
  intro onList elements after edited
  simp only [editPeers, withLists, edited]
  rfl

/-- So does editing the bindings. The edit never fails on its own account: unlike
the edits of offers there is no peer to be found first. -/
theorem places_bindings (shared : List Offer) (peers : List Peer) :
    Places editBindings (fun bindings => withLists shared peers bindings) := by
  intro onList elements after edited
  simp only [editBindings, withLists, edited]
  rfl

/-- Without a peer in the request, an edit of offers is one of the shared list:
`edit_offers_of` looks no peer up and parses no id. -/
theorem places_shared (layers : Layers) (peers : List Peer) (bindings : List Binding) :
    Places (editOffersOf layers none) (fun shared => withLists shared peers bindings) := by
  intro onList elements after edited
  simp only [editOffersOf, withLists, edited]
  rfl

section Requests

variable {layers : Layers}

/-- The own offers of the peer that was added last. Its id is parsed from the
request, and the ids are distinct, so that it is this peer whose offers are edited
and no other. -/
theorem places_own (shared : List Offer) (front : List Peer) (peer : Peer)
    (bindings : List Binding) (parses : parseId layers peer.id.text = .ok peer.id)
    (distinct : ((front ++ [peer]).map Peer.id).Nodup) :
    Places (editOffersOf layers (some peer.id.text))
      (fun offers => withLists shared (front ++ [{ peer with offers }]) bindings) := by
  intro onList elements after edited
  have absent : lookup Peer.id peer.id front = none :=
    (nodup_append_iff Peer.id front peer
      (distinct.sublist ((List.sublist_append_left front [peer]).map Peer.id))).mp distinct
  have distinctNow : ((front ++ [{ peer with offers := elements }]).map Peer.id).Nodup := by
    simpa using distinct
  have found : lookup Peer.id peer.id (front ++ [{ peer with offers := elements }]) =
      some { peer with offers := elements } :=
    lookup_append_self Peer.id front { peer with offers := elements } absent
  have listed : (withLists shared (front ++ [{ peer with offers := elements }]) bindings).peer
      peer.id = some { peer with offers := elements } := found
  have updated : updateFirst (fun other : Peer => other.id == peer.id)
      (fun other => { other with offers := after }) (front ++ [{ peer with offers := elements }]) =
      some (front ++ [{ peer with offers := after }]) := by
    rw [updateFirst_eq Peer.id peer.id _ (fun other => beq_iff_eq) _ _ distinctNow, found]
    exact congrArg some (alter_append Peer.id front { peer with offers := elements }
      (fun other => { other with offers := after }) absent)
  simp only [editOffersOf, parses, Fallible.bind_ok_iff]
  refine ⟨peer.id, rfl, ?_⟩
  rw [listed]
  refine (Fallible.bind_ok_iff _ _ _).mpr ⟨after, edited, ?_⟩
  rw [withLists, updated]
  rfl

/-- Adding an offer adds it enabled, whatever it is to become: the request has no
such field. -/
theorem runs_addOffer {peer : Option String} {place : List Offer → Config}
    (places : Places (editOffersOf layers peer) place) (offer : Offer) :
    RunsEdit layers Offer.key place
      (.addOffer { peer, proto := offer.proto, port := offer.port, name := offer.name })
      (.add { offer with enabled := true }) :=
  places.runs rfl (fun elements _ =>
    realises_add Offer.key _ _ elements { offer with enabled := true }
      (isOffer_iff offer.proto offer.port))

/-- Parking is a patch that names nothing but the flag, so the name of the offer
stays. -/
theorem runs_parkOffer {peer : Option String} {place : List Offer → Config}
    (places : Places (editOffersOf layers peer) place) (offer : Offer) :
    RunsEdit layers Offer.key place
      (.patchOffer { peer, proto := offer.proto, port := offer.port, name := none,
                     enabled := some false })
      (.alter offer.key (fun other => { other with enabled := false })) := by
  refine places.runs rfl (fun elements distinct => ?_)
  refine realises_alter Offer.key _ (notOffered offer.key) elements _
    (isOffer_iff offer.proto offer.port) distinct _ _ ?_
  split <;> simp_all [Offer.key]

/-- Removing an offer needs its key alone: the request names the protocol and the
port, whatever the name of the offer and whether it is enabled. -/
theorem runs_delOffer {place : List Offer → Config}
    (places : Places (editOffersOf layers none) place) (offer : Offer) :
    RunsEdit layers Offer.key place
      (.delOffer { peer := none, proto := offer.proto, port := offer.port })
      (.remove offer.key) := by
  refine places.runs rfl (fun elements _ => ?_)
  refine realises_remove Offer.key _ (notOffered offer.key) elements _
    (isOffer_iff offer.proto offer.port) _ ?_
  split <;> simp_all [Offer.key]

/-- Adding a binding adds it enabled, as for offers. A binding that the target has
disabled is therefore added first and parked by a second request. -/
theorem runs_addBinding (shared : List Offer) (peers : List Peer) (binding : Binding) :
    RunsEdit layers Binding.key (fun bindings => withLists shared peers bindings)
      (.addBinding { proto := binding.proto, localPort := binding.localPort,
                     remotePort := binding.remotePort, name := binding.name })
      (.add { binding with enabled := true }) :=
  (places_bindings shared peers).runs rfl (fun elements _ =>
    realises_add Binding.key _ _ elements { binding with enabled := true }
      (isBinding_iff binding.proto binding.localPort))

/-- Parking a binding leaves its remote port and its name as they were: the
request carries neither, and what a patch does not carry is kept. -/
theorem runs_parkBinding (shared : List Offer) (peers : List Peer) (binding : Binding) :
    RunsEdit layers Binding.key (fun bindings => withLists shared peers bindings)
      (.patchBinding { proto := binding.proto, localPort := binding.localPort, remotePort := none,
                       name := none, enabled := some false })
      (.alter binding.key (fun other => { other with enabled := false })) := by
  refine (places_bindings shared peers).runs rfl (fun elements distinct => ?_)
  refine realises_alter Binding.key _ (notBound binding.key) elements _
    (isBinding_iff binding.proto binding.localPort) distinct _ _ ?_
  split <;> simp_all [Binding.key]

/-- A binding is removed by its protocol and its local port, which is its key: its
remote port may have been patched in the meantime. -/
theorem runs_delBinding (shared : List Offer) (peers : List Peer) (binding : Binding) :
    RunsEdit layers Binding.key (fun bindings => withLists shared peers bindings)
      (.delBinding { proto := binding.proto, localPort := binding.localPort })
      (.remove binding.key) := by
  refine (places_bindings shared peers).runs rfl (fun elements _ => ?_)
  refine realises_remove Binding.key _ (notBound binding.key) elements _
    (isBinding_iff binding.proto binding.localPort) _ ?_
  split <;> simp_all [Binding.key]

/-- Adding a peer lists it enabled and with no offers of its own; those are added
afterwards, one by one. -/
theorem runs_addPeer (shared : List Offer) (bindings : List Binding) (peer : Peer)
    (parses : parseId layers peer.id.text = .ok peer.id) :
    RunsEdit layers Peer.id (fun peers => withLists shared peers bindings)
      (.addPeer { id := peer.id.text, name := peer.name })
      (.add { peer with enabled := true, offers := [] }) := by
  intro elements _ absent
  refine ⟨_, by simp only [Mutation.handled, addPeer, parses]; rfl, ?_⟩
  have unlisted : ((withLists shared elements bindings).peer peer.id).isSome = false :=
    congrArg Option.isSome absent
  rw [if_neg (by rw [unlisted]; decide)]
  exact places_peers shared bindings _ elements _ rfl

/-- Parking a peer keeps its name and its own offers. That is why the offers of a
disabled peer can be made before it is parked. -/
theorem runs_parkPeer (shared : List Offer) (bindings : List Binding) (peer : Peer)
    (parses : parseId layers peer.id.text = .ok peer.id) :
    RunsEdit layers Peer.id (fun peers => withLists shared peers bindings)
      (.patchPeer { id := peer.id.text, name := none, enabled := some false })
      (.alter peer.id (fun other => { other with enabled := false })) := by
  refine (places_peers shared bindings).runs (by simp only [Mutation.handled, patchPeer, parses]; rfl)
    (fun elements distinct => ?_)
  refine realises_alter Peer.id _ (notOnTheList peer.id) elements _ (fun other => beq_iff_eq)
    distinct _ _ ?_
  split <;> simp_all

/-- Removing a peer removes its own offers with it, so that nothing has to be
removed from them first. -/
theorem runs_delPeer (shared : List Offer) (bindings : List Binding) (peer : Peer)
    (parses : parseId layers peer.id.text = .ok peer.id) :
    RunsEdit layers Peer.id (fun peers => withLists shared peers bindings)
      (.delPeer { id := peer.id.text }) (.remove peer.id) := by
  refine (places_peers shared bindings).runs (by simp only [Mutation.handled, delPeer, parses]; rfl)
    (fun elements _ => ?_)
  refine realises_remove Peer.id _ (notOnTheList peer.id) elements _ (fun other => beq_iff_eq) _ ?_
  split <;> simp_all

end Requests

section Validity

/-- A part of a list of valid offers is one again. Everything that `building`
passes through is a part of what it ends with, and this is why it is valid. -/
theorem OffersWellFormed.fewer {offers others : List Offer} (valid : OffersWellFormed others)
    (part : offers.Sublist others) : OffersWellFormed offers :=
  ⟨fun offer member => valid.1 offer (part.subset member), valid.2.sublist (part.map Offer.key)⟩

/-- A configuration that has fewer entries than a valid one is valid. The
configurations on the way are such parts of those at its two ends, so that no
request fails for validity. -/
theorem Config.WellFormed.fewer {shared shared' : List Offer} {peers peers' : List Peer}
    {bindings bindings' : List Binding} (valid : (withLists shared peers bindings).WellFormed)
    (fewerShared : shared'.Sublist shared) (fewerPeers : peers'.Sublist peers)
    (fewerBindings : bindings'.Sublist bindings) :
    (withLists shared' peers' bindings').WellFormed where
  shared := valid.shared.fewer fewerShared
  peers := fun peer member => valid.peers peer (fewerPeers.subset member)
  distinctPeers := valid.distinctPeers.sublist (fewerPeers.map Peer.id)
  bindings := fun binding member => valid.bindings binding (fewerBindings.subset member)
  distinctBindings := valid.distinctBindings.sublist (fewerBindings.map Binding.key)

/-- Whether an offer is enabled does not matter for validity: `validate` reads the
port and the key only. So the offer may be added enabled and parked afterwards. -/
theorem OffersWellFormed.last {front : List Offer} {offer : Offer}
    (valid : OffersWellFormed (front ++ [offer])) (enabled : Bool) :
    OffersWellFormed (front ++ [{ offer with enabled }]) := by
  refine ⟨?_, by simpa [Offer.key] using valid.2⟩
  simpa [Offer.WellFormed, or_imp, forall_and] using valid.1

/-- Nor does it matter whether the last binding is enabled, which is added enabled
and then parked if it has to be. -/
theorem Config.WellFormed.lastBinding {shared : List Offer} {peers : List Peer}
    {front : List Binding} {binding : Binding}
    (valid : (withLists shared peers (front ++ [binding])).WellFormed) (enabled : Bool) :
    (withLists shared peers (front ++ [{ binding with enabled }])).WellFormed := by
  refine ⟨valid.shared, valid.peers, valid.distinctPeers, ?_, ?_⟩
  · simpa [withLists, Binding.WellFormed, or_imp, forall_and] using valid.bindings
  · simpa [withLists, Binding.key] using valid.distinctBindings

/-- Nor does it for a peer, and its own offers can be any that are valid: the peer
stands in the list before the last of its offers has been added. -/
theorem Config.WellFormed.lastPeer {shared : List Offer} {front : List Peer} {peer : Peer}
    {bindings : List Binding} (valid : (withLists shared (front ++ [peer]) bindings).WellFormed)
    (enabled : Bool) {offers : List Offer} (own : OffersWellFormed offers) :
    (withLists shared (front ++ [{ peer with enabled, offers }]) bindings).WellFormed := by
  refine ⟨valid.shared, ?_, ?_, valid.bindings, valid.distinctBindings⟩
  · intro other member
    rcases List.mem_append.mp member with before | isLast
    · exact valid.peers other (List.mem_append_left _ before)
    · rw [List.mem_singleton.mp isLast]
      exact ⟨(valid.peers peer (List.mem_append_right _ List.mem_cons_self)).1, own⟩
  · simpa [withLists] using valid.distinctPeers

end Validity

section Phases

variable {layers : Layers}

/-- The offers of a list are made one after the other, wherever the list is: the
same requests build the shared list and, with the peer named, the own list of a
peer. -/
theorem offers_made {peer : Option String} {place : List Offer → Config}
    (places : Places (editOffersOf layers peer) place)
    (valid : ∀ offers, OffersWellFormed offers → (place offers).WellFormed) (offers : List Offer)
    (good : OffersWellFormed offers) :
    run (perform layers) (place []) (offers.flatMap (offerRequests peer)) = some (place offers) := by
  refine run_flatMap (perform layers) place OffersWellFormed (offerRequests peer) ?_
    (fun front rest whole => whole.fewer (List.sublist_append_left front rest)) [] offers good
  intro front offer whole
  exact element_made offer { offer with enabled := true } (runs_addOffer places offer)
    (runs_parkOffer places offer) (fun isOn => by rw [← isOn]) (fun isOff => by rw [← isOff]) rfl
    front whole.2
    (valid _ (whole.last true)) (valid _ whole)

/-- The bindings are made one after the other, in their order, next to any peers
and offers. -/
theorem bindings_made (shared : List Offer) (peers : List Peer) (bindings : List Binding)
    (valid : (withLists shared peers bindings).WellFormed) :
    run (perform layers) (withLists shared peers []) (bindings.flatMap bindingRequests) =
      some (withLists shared peers bindings) := by
  refine run_flatMap (perform layers) (fun bindings => withLists shared peers bindings)
    (fun bindings => (withLists shared peers bindings).WellFormed) bindingRequests ?_
    (fun front rest whole => whole.fewer (.refl _) (.refl _) (List.sublist_append_left front rest))
    [] bindings valid
  intro front binding whole
  exact element_made binding { binding with enabled := true } (runs_addBinding shared peers binding)
    (runs_parkBinding shared peers binding) (fun isOn => by rw [← isOn]) (fun isOff => by rw [← isOff])
    rfl front whole.distinctBindings
    (whole.lastBinding true) whole

/-- So are the peers: each is listed, parked if it has to be, and then given its
own offers, before the next one is listed. -/
theorem peers_made (shared : List Offer) (peers : List Peer)
    (valid : (withLists shared peers []).WellFormed)
    (parse : ∀ peer ∈ peers, parseId layers peer.id.text = .ok peer.id) :
    run (perform layers) (withLists shared [] []) (peers.flatMap peerRequests) =
      some (withLists shared peers []) := by
  refine run_flatMap (perform layers) (fun peers => withLists shared peers [])
    (fun peers => (withLists shared peers []).WellFormed ∧
      ∀ peer ∈ peers, parseId layers peer.id.text = .ok peer.id) peerRequests ?_ ?_ [] peers
    ⟨valid, parse⟩
  · intro front peer ⟨whole, parse⟩
    have parses := parse peer (List.mem_append_right _ List.mem_cons_self)
    have nothing : OffersWellFormed [] := ⟨by simp, List.nodup_nil⟩
    have listed : run (perform layers) (withLists shared front [])
        (.addPeer { id := peer.id.text, name := peer.name } ::
          if peer.enabled then []
          else [.patchPeer { id := peer.id.text, name := none, enabled := some false }]) =
        some (withLists shared (front ++ [{ peer with offers := [] }]) []) :=
      element_made { peer with offers := [] } { peer with enabled := true, offers := [] }
        (runs_addPeer shared [] peer parses) (runs_parkPeer shared [] peer parses)
        (fun isOn => by rw [← isOn]) (fun isOff => by rw [← isOff]) rfl front
        (by simpa [withLists] using whole.distinctPeers) (whole.lastPeer true nothing)
        (whole.lastPeer peer.enabled nothing)
    have own := offers_made (places_own shared front peer [] parses whole.distinctPeers)
      (fun offers good => whole.lastPeer peer.enabled good) peer.offers
      (whole.peers peer (List.mem_append_right _ List.mem_cons_self)).2
    exact (run_append _ _ _ _ _).mpr ⟨_, listed, own⟩
  · rintro front rest ⟨whole, parse⟩
    exact ⟨whole.fewer (.refl _) (List.sublist_append_left front rest) (.refl _),
      fun peer member => parse peer (List.mem_append_left rest member)⟩

/-- The requests of `building` make the configuration: its shared offers first,
then its peers, then its bindings. -/
theorem building_builds (target : Config) (valid : target.WellFormed)
    (parse : ∀ peer ∈ target.serve.peers, parseId layers peer.id.text = .ok peer.id) :
    run (perform layers) Config.default (building target) = some target := by
  have noPeers : (withLists target.serve.shared [] []).WellFormed :=
    Config.WellFormed.fewer valid (.refl _) (List.nil_sublist _) (List.nil_sublist _)
  have noBindings : (withLists target.serve.shared target.serve.peers []).WellFormed :=
    Config.WellFormed.fewer valid (.refl _) (.refl _) (List.nil_sublist _)
  have offered := offers_made (places_shared layers [] [])
    (fun offers good => ⟨good, noPeers.peers, noPeers.distinctPeers, noPeers.bindings,
      noPeers.distinctBindings⟩) target.serve.shared valid.shared
  refine (run_append _ _ _ _ _).mpr ⟨withLists target.serve.shared target.serve.peers [], ?_, ?_⟩
  · exact (run_append _ _ _ _ _).mpr ⟨_, offered, peers_made _ _ noBindings parse⟩
  · exact bindings_made _ _ target.connect.bindings valid

/-- The requests of `clearing` remove what is there: bindings, peers and shared
offers. -/
theorem clearing_clears (config : Config) (valid : config.WellFormed)
    (parse : ∀ peer ∈ config.serve.peers, parseId layers peer.id.text = .ok peer.id) :
    run (perform layers) config (clearing config) = some Config.default := by
  have noBindings : (withLists config.serve.shared config.serve.peers []).WellFormed :=
    Config.WellFormed.fewer valid (.refl _) (.refl _) (List.nil_sublist _)
  have noPeers : (withLists config.serve.shared [] []).WellFormed :=
    Config.WellFormed.fewer valid (.refl _) (List.nil_sublist _) (List.nil_sublist _)
  refine (run_append _ _ _ _ _).mpr ⟨withLists config.serve.shared [] [], ?_, ?_⟩
  · refine (run_append _ _ _ _ _).mpr
      ⟨withLists config.serve.shared config.serve.peers [], ?_, ?_⟩
    · refine run_map (perform layers) (withLists config.serve.shared config.serve.peers)
        (fun bindings => (withLists config.serve.shared config.serve.peers bindings).WellFormed) _
        ?_ (fun binding rest whole => whole.fewer (.refl _) (.refl _) (List.sublist_cons_self _ _))
        config.connect.bindings valid
      intro binding rest whole
      exact element_unmade (runs_delBinding _ _ binding) rest whole.distinctBindings
        (whole.fewer (.refl _) (.refl _) (List.sublist_cons_self _ _))
    · refine run_map (perform layers) (fun peers => withLists config.serve.shared peers [])
        (fun peers => (withLists config.serve.shared peers []).WellFormed ∧
          ∀ peer ∈ peers, parseId layers peer.id.text = .ok peer.id) _ ?_
        (fun peer rest whole =>
          ⟨whole.1.fewer (.refl _) (List.sublist_cons_self _ _) (.refl _),
            fun other member => whole.2 other (List.mem_cons_of_mem peer member)⟩)
        config.serve.peers ⟨noBindings, parse⟩
      intro peer rest ⟨whole, parse⟩
      exact element_unmade (runs_delPeer _ _ peer (parse peer List.mem_cons_self)) rest
        whole.distinctPeers
        (whole.fewer (.refl _) (List.sublist_cons_self _ _) (.refl _))
  · refine run_map (perform layers) (fun shared => withLists shared [] [])
      (fun shared => (withLists shared [] []).WellFormed) _ ?_
      (fun offer rest whole => whole.fewer (List.sublist_cons_self _ _) (.refl _) (.refl _))
      config.serve.shared noPeers
    intro offer rest whole
    exact element_unmade (runs_delOffer (places_shared layers [] []) offer) rest whole.shared.2
      (whole.fewer (List.sublist_cons_self _ _) (.refl _) (.refl _))

end Phases

section View

/-- The name of a protocol tells which one it is, so that two bindings of
different protocols on one port are listed under different keys. -/
theorem Proto.asStr_injective {left right : Proto} (same : left.asStr = right.asStr) : left = right := by
  cases left <;> cases right <;> first | rfl | exact absurd same (by decide)

/-- A port is shown as a number, which tells which port it is: with the name of
the protocol it makes the key of an offer. -/
theorem port_injective {left right : UInt16} (same : left.toNat = right.toNat) : left = right :=
  UInt16.toNat_inj.mp same

/-- Lists that are shown alike are alike, if what is shown of an element
determines it. -/
theorem eq_of_map_eq {α β : Type} {shows other : α → β} {first second : List α}
    (shown : first.map shows = second.map other)
    (determines : ∀ left right, shows left = other right → left = right) : first = second := by
  induction first generalizing second with
  | nil => exact (List.map_eq_nil_iff.mp shown.symm).symm
  | cons left rest inductionHypothesis =>
    cases second with
    | nil => cases shown
    | cons right others =>
      obtain ⟨same, sameRest⟩ := List.cons.inj shown
      rw [determines left right same, inductionHypothesis sameRest]

/-- An empty name is left out, which a name that is not empty cannot be taken
for. -/
theorem offerJson_injective {left right : Offer} (same : offerJson left = offerJson right) :
    left = right := by
  obtain ⟨proto, port, name, enabled⟩ := left
  obtain ⟨proto', port', name', enabled'⟩ := right
  by_cases noName : name = "" <;> by_cases noName' : name' = "" <;>
    simp [offerJson, noName, noName'] at same
  · rw [Proto.asStr_injective same.1, port_injective same.2.1, noName, noName', same.2.2]
  · rw [Proto.asStr_injective same.1, port_injective same.2.1, same.2.2.1, same.2.2.2]

/-- What is shown of a peer determines it: its id, its name and flag, and its own
offers in their order. -/
theorem peerJson_injective {left right : Peer} (same : peerJson left = peerJson right) :
    left = right := by
  obtain ⟨id, name, enabled, offers⟩ := left
  obtain ⟨id', name', enabled', offers'⟩ := right
  simp only [peerJson, Json.obj.injEq, List.cons.injEq, Prod.mk.injEq, Json.str.injEq, Json.bool.injEq,
    Json.arr.injEq, true_and, and_true, EndpointId.text_inj] at same
  obtain ⟨rfl, _, rfl, rfl, sameOffers⟩ := same
  rw [eq_of_map_eq sameOffers fun _ _ => offerJson_injective]

/-- What is shown of a bind state tells whether there is one and, if it failed,
with which error. -/
theorem bindStateJson_injective {left right : Option BindState}
    (same : optionJson bindStateJson left = optionJson bindStateJson right) : left = right := by
  rcases left with _ | _ | error <;> rcases right with _ | _ | other <;>
    simp_all [optionJson, bindStateJson]

/-- What is shown of a binding determines it, and what is reported of it at this
moment. -/
theorem bindingJson_injective {runtime other : Runtime} {left right : Binding}
    (same : bindingJson runtime left = bindingJson other right) :
    left = right ∧ runtime.bindState left = other.bindState right := by
  obtain ⟨proto, localPort, remotePort, name, enabled⟩ := left
  obtain ⟨proto', localPort', remotePort', name', enabled'⟩ := right
  simp only [bindingJson, Json.obj.injEq, List.cons.injEq, Prod.mk.injEq, Json.str.injEq,
    Json.bool.injEq, Json.num.injEq, true_and, and_true] at same
  obtain ⟨sameProto, sameLocal, sameRemote, rfl, rfl, reported⟩ := same
  refine ⟨?_, bindStateJson_injective reported⟩
  rw [Proto.asStr_injective sameProto, port_injective sameLocal, port_injective sameRemote]

/-- The state view determines the configuration, and what is reported of each
binding. -/
theorem view_determines {admin other : Admin} {now later : Instant}
    (same : getState admin now = getState other later) :
    admin.shared.config = other.shared.config ∧
      ∀ binding ∈ admin.shared.config.connect.bindings,
        admin.shared.runtime.bindState binding = other.shared.runtime.bindState binding := by
  simp only [getState, jsonResponse, Response.mk.injEq, Payload.json.injEq, Json.obj.injEq,
    List.cons.injEq, Prod.mk.injEq, Json.arr.injEq, true_and, and_true] at same
  obtain ⟨_, _, _, _, shared, peers, bindings, _⟩ := same
  have sameBindings := eq_of_map_eq bindings fun _ _ shown => (bindingJson_injective shown).1
  constructor
  · calc admin.shared.config
        = withLists admin.shared.config.serve.shared admin.shared.config.serve.peers
            admin.shared.config.connect.bindings := rfl
      _ = withLists other.shared.config.serve.shared other.shared.config.serve.peers
            other.shared.config.connect.bindings := by
          rw [eq_of_map_eq shared fun _ _ => offerJson_injective,
            eq_of_map_eq peers fun _ _ => peerJson_injective, sameBindings]
      _ = other.shared.config := rfl
  · intro binding member
    rw [← sameBindings] at bindings
    exact (bindingJson_injective (List.map_inj_left.mp bindings binding member)).2

end View

section Answers

/-- One request that is answered with success, with what it leaves. -/
def answered (layers : Layers) (state : Shared × Disk) (request : Mutation) : Option (Shared × Disk) :=
  let done := submit layers state.1 (request.handled layers) .success state.2
  if done.response.status = 200 then some (done.shared, done.fs.disk) else none

/-- The text layer can print the configuration. -/
def Printable (layers : Layers) (config : Config) : Prop :=
  ∃ body, fileBody layers.toml config = .ok body

/-- A request that can be performed is answered with success, if what it gives can
be written. -/
theorem answered_of_perform {layers : Layers} (shared : Shared) (dir : String)
    (inDir : shared.path.parent = some dir) (disk : Disk) (request : Mutation) (next : Config)
    (printable : Printable layers next)
    (performed : perform layers shared.config request = some next) :
    ∃ left, answered layers (shared, disk) request =
      some ({ shared with tx := shared.tx.sendReplace next }, left) := by
  obtain ⟨closure, handled, closed, valid⟩ := (perform_some_iff _ _ _ _).mp performed
  obtain ⟨body, serialised⟩ := printable
  have saved : (save layers.toml shared.path next .success (.start disk)).1 = .ok () :=
    (save_success_iff layers.toml shared.path next (.start disk) dir body inDir serialised).mpr valid
  cases written : save layers.toml shared.path next .success (.start disk) with
  | mk result fs =>
    rw [written] at saved
    cases saved
    refine ⟨fs.disk, ?_⟩
    simp [answered, handled, submit, Shared.mutate, closed, valid, written, ok, jsonResponse]

/-- So are the requests of a run, one after the other, if every configuration on
the way can be written. -/
theorem run_answered {layers : Layers} (shared : Shared) (dir : String)
    (inDir : shared.path.parent = some dir) (disk : Disk) (requests : List Mutation)
    (target : Config)
    (printable : Always (perform layers) (Printable layers) shared.config requests)
    (performed : run (perform layers) shared.config requests = some target) :
    ∃ last left, run (answered layers) (shared, disk) requests = some (last, left) ∧
      last.config = target := by
  induction requests generalizing shared disk with
  | nil => exact ⟨shared, disk, rfl, Option.some.inj performed⟩
  | cons request rest inductionHypothesis =>
    obtain ⟨next, taken, after⟩ := (run_cons_some _ _ _ _ _).mp performed
    have onwards : Always (perform layers) (Printable layers) next rest := by
      simpa only [Always, taken] using printable.2
    obtain ⟨left, answer⟩ :=
      answered_of_perform shared dir inDir disk request next (first_of_always _ _ _ _ onwards) taken
    obtain ⟨last, lastDisk, reached, isTarget⟩ :=
      inductionHypothesis { shared with tx := shared.tx.sendReplace next } inDir left onwards after
    exact ⟨last, lastDisk, (run_cons_some _ _ _ _ _).mpr ⟨_, answer, reached⟩, isTarget⟩

/-- An id is parsed from its text, since there is nothing to trim: the text of an
id has no space around it, and `parse_id` trims what the form has sent. -/
theorem parseId_text (layers : Layers) (id : EndpointId)
    (parses : layers.parseEndpointId id.text = .ok id) : parseId layers id.text = .ok id := by
  have visible : ∀ char ∈ id.text.toList, Text.isWhitespace char = false := by
    have digits : ∀ nibble : BitVec 4, Text.isWhitespace nibble.toNat.digitChar = false := by decide
    intro char member
    simp only [EndpointId.text, String.toList_ofList, List.mem_map] at member
    obtain ⟨index, _, rfl⟩ := member
    exact digits _
  have same : String.ofList (Text.trim id.text.toList) = id.text := by
    rw [Text.trim_of_visible _ visible, String.ofList_toList]
  simp only [parseId, same, parses]

/-- What one admin surface shows can be made on another. Two that show the same
have the same configuration and report the same of each binding; and from any
valid configuration the requests of `clearing` and `building` are all answered
with success, and make any other valid one, if the text layer can print the
configurations on the way. -/
theorem configuration_can_be_copied (layers : Layers) (admin source : Admin) (dir : String)
    (inDir : admin.shared.path.parent = some dir) (disk : Disk)
    (valid : admin.shared.config.validate = .ok ()) (validSource : source.shared.config.validate = .ok ())
    (printable : Always (perform layers) (Printable layers) admin.shared.config
      (clearing admin.shared.config ++ building source.shared.config))
    (prints : ∀ peer ∈ admin.shared.config.serve.peers ++ source.shared.config.serve.peers,
      layers.parseEndpointId peer.id.text = .ok peer.id) :
    (∀ now later, getState admin now = getState source later →
      admin.shared.config = source.shared.config ∧
        ∀ binding ∈ admin.shared.config.connect.bindings,
          admin.shared.runtime.bindState binding = source.shared.runtime.bindState binding) ∧
    ∃ last left, run (answered layers) (admin.shared, disk)
        (clearing admin.shared.config ++ building source.shared.config) = some (last, left) ∧
      last.config = source.shared.config := by
  refine ⟨fun now later same => view_determines same, ?_⟩
  refine run_answered admin.shared dir inDir disk _ _ printable ((run_append _ _ _ _ _).mpr
    ⟨Config.default, ?_, ?_⟩)
  · exact clearing_clears _ ((Config.validate_ok_iff _).mp valid) fun peer member =>
      parseId_text layers peer.id (prints peer (List.mem_append_left _ member))
  · exact building_builds _ ((Config.validate_ok_iff _).mp validSource) fun peer member =>
      parseId_text layers peer.id (prints peer (List.mem_append_right _ member))

/-- A peer that is parked and has an offer of its own, and a binding. -/
def parkedLaptop : Config :=
  withLists [] [{ id := laptop, name := "laptop", enabled := false,
                  offers := [{ proto := .tcp, port := 22, name := "ssh", enabled := true }] }]
    [{ proto := .udp, localPort := 5353, remotePort := 53, name := "", enabled := true }]

/-- The peer as it is added, and then parked. -/
def addedLaptop (enabled : Bool) : Config :=
  withLists [] [{ id := laptop, name := "laptop", enabled, offers := [] }] []

/-- Everything but the binding. -/
def grantedLaptop : Config := withLists [] parkedLaptop.serve.peers []

/-- The configurations that are passed through on the way from `sshOffered` to
`parkedLaptop`, each with its document. -/
def laptopDocuments : List (Config × String) :=
  let head := "[serve]\nshared = []\n"
  let peer (enabled : String) := "\n[[serve.peers]]\nid = \"" ++ laptop.text ++
    "\"\nname = \"laptop\"\nenabled = " ++ enabled ++ "\n"
  let ssh := "\n[[serve.peers.offers]]\nproto = \"tcp\"\nport = 22\nname = \"ssh\"\nenabled = true\n"
  let nothing := "\n[connect]\nbindings = []\n"
  let dns := "\n[[connect.bindings]]\nproto = \"udp\"\nlocal = 5353\nremote = 53\nenabled = true\n"
  [(sshOffered, sshText), (Config.default, head ++ "peers = []\n" ++ nothing),
    (addedLaptop true, head ++ peer "true" ++ nothing),
    (addedLaptop false, head ++ peer "false" ++ nothing),
    (grantedLaptop, head ++ peer "false" ++ ssh ++ nothing),
    (parkedLaptop, head ++ peer "false" ++ ssh ++ dns)]

/-- Layers that know these documents and the one peer. -/
def laptopLayers : Layers :=
  { sampleLayers with
    toml :=
      { toStringPretty := fun config =>
          match laptopDocuments.find? (fun known => known.1 = config) with
          | some known => .ok known.2
          | none => .error (.message "unsupported value")
        fromStr := fun document =>
          match laptopDocuments.find? (fun known => fileHeader ++ known.2 = document) with
          | some known => .ok known.1
          | none => .error (.message "TOML parse error") }
    parseEndpointId := fun text =>
      if text = laptop.text then .ok laptop else .error "expected 64 hexadecimal digits" }

/-- What is known can be printed. The text layer of the example has a document for
each configuration on the way, and this is all that the requests ask of it. -/
theorem laptopLayers_prints (config : Config) (known : config ∈ laptopDocuments.map Prod.fst) :
    Printable laptopLayers config := by
  obtain ⟨document, listed, rfl⟩ := List.mem_map.mp known
  obtain ⟨found, isFirst⟩ : ∃ found,
      laptopDocuments.find? (fun known => known.1 = document.1) = some found :=
    Option.isSome_iff_exists.mp (List.find?_isSome.mpr ⟨document, listed, by simp⟩)
  exact ⟨fileHeader ++ found.2, by
    simp [fileBody, laptopLayers, isFirst, pure, Except.pure, bind, Except.bind]⟩

/-- The offer is taken back, and the peer is added, parked, granted the port and
bound to. -/
theorem parked_laptop_copied :
    ∃ last left, run (answered laptopLayers)
        (Shared.new sshOffered (configPath "/var/lib/rtun") .serve 0, { file := .missing, tmp := none })
        [.delOffer { peer := none, proto := .tcp, port := 22 },
          .addPeer { id := laptop.text, name := "laptop" },
          .patchPeer { id := laptop.text, name := none, enabled := some false },
          .addOffer { peer := some laptop.text, proto := .tcp, port := 22, name := "ssh" },
          .addBinding { proto := .udp, localPort := 5353, remotePort := 53, name := "" }] =
          some (last, left) ∧
      last.config = parkedLaptop := by
  have parses : ∀ peer ∈ sshOffered.serve.peers ++ parkedLaptop.serve.peers,
      laptopLayers.parseEndpointId peer.id.text = .ok peer.id := by
    intro peer member
    obtain rfl := List.mem_singleton.mp member
    simp [laptopLayers]
  have taken : perform laptopLayers sshOffered (.delOffer { peer := none, proto := .tcp, port := 22 }) =
      some Config.default := by decide +kernel
  have added : perform laptopLayers Config.default
      (.addPeer { id := laptop.text, name := "laptop" }) = some (addedLaptop true) := by decide +kernel
  have parked : perform laptopLayers (addedLaptop true)
      (.patchPeer { id := laptop.text, name := none, enabled := some false }) =
        some (addedLaptop false) := by decide +kernel
  have granted : perform laptopLayers (addedLaptop false)
      (.addOffer { peer := some laptop.text, proto := .tcp, port := 22, name := "ssh" }) =
        some grantedLaptop := by decide +kernel
  have bound : perform laptopLayers grantedLaptop
      (.addBinding { proto := .udp, localPort := 5353, remotePort := 53, name := "" }) =
        some parkedLaptop := by decide +kernel
  have printable : Always (perform laptopLayers) (Printable laptopLayers) sshOffered
      (clearing sshOffered ++ building parkedLaptop) := by
    show Always (perform laptopLayers) (Printable laptopLayers) sshOffered [_, _, _, _, _]
    simp only [Always, taken, added, parked, granted, bound]
    refine ⟨?_, ?_, ?_, ?_, ?_, ?_⟩ <;> exact laptopLayers_prints _ (by simp [laptopDocuments])
  exact (configuration_can_be_copied laptopLayers
    { shared := Shared.new sshOffered (configPath "/var/lib/rtun") .serve 0, token := "", id := "" }
    { shared := Shared.new parkedLaptop (configPath "/var/lib/rtun") .serve 0, token := "", id := "" }
    "/var/lib/rtun" rfl { file := .missing, tmp := none } rfl rfl printable parses).2

end Answers

end Rtun
