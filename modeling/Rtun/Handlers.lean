import Rtun.Http
import Rtun.Shared

/-!
# The admin handlers

The nine mutating handlers and the state view of the admin surface. A handler
parses what its body names and hands `Shared::mutate` a closure; a closure works
on a copy, so one that fails leaves nothing behind. Lists are edited as the source
edits them: the first match is changed, all matches are removed, and an entry is
added at the end.

The JSON layer and the text form of an endpoint id are given.
-/

namespace Rtun

/-- A JSON document as the responses build it. -/
inductive Json where
  | null
  | bool (value : Bool)
  | num (value : Nat)
  | str (value : String)
  | arr (values : List Json)
  | obj (fields : List (String × Json))

/-- The body of a response: the embedded page or a JSON document. -/
inductive Payload where
  | page
  | json (value : Json)

structure Response where
  status : Nat
  headers : List (String × String)
  body : Payload

def jsonResponse (status : Nat) (body : Json) : Response :=
  { status, headers := [("content-type", "application/json"), ("cache-control", "no-store"),
      ("x-content-type-options", "nosniff")],
    body := .json body }

/-- `{"error": message}` with the given status. -/
def err (status : Nat) (message : String) : Response :=
  jsonResponse status (.obj [("error", .str message)])

def ok : Response := jsonResponse 200 (.obj [("ok", .bool true)])

structure PeerAdd where
  id : String
  name : String

structure PeerPatch where
  id : String
  name : Option String
  enabled : Option Bool

structure IdRef where
  id : String

/-- No peer means the shared set; a peer scopes the offer to that peer. -/
structure OfferRef where
  peer : Option String
  proto : Proto
  port : UInt16

structure OfferAdd where
  peer : Option String
  proto : Proto
  port : UInt16
  name : String

structure OfferPatch where
  peer : Option String
  proto : Proto
  port : UInt16
  name : Option String
  enabled : Option Bool

structure BindingAdd where
  proto : Proto
  localPort : UInt16
  remotePort : UInt16
  name : String

structure BindingPatch where
  proto : Proto
  localPort : UInt16
  remotePort : Option UInt16
  name : Option String
  enabled : Option Bool

structure BindingRef where
  proto : Proto
  localPort : UInt16

/-- The layers below the handlers: the body decoders, the parser of endpoint ids
and the text layer of the configuration file. -/
structure Layers where
  toml : Toml
  parseEndpointId : String → Except String EndpointId
  peerAdd : List UInt8 → Except String PeerAdd
  peerPatch : List UInt8 → Except String PeerPatch
  idRef : List UInt8 → Except String IdRef
  offerAdd : List UInt8 → Except String OfferAdd
  offerPatch : List UInt8 → Except String OfferPatch
  offerRef : List UInt8 → Except String OfferRef
  bindingAdd : List UInt8 → Except String BindingAdd
  bindingPatch : List UInt8 → Except String BindingPatch
  bindingRef : List UInt8 → Except String BindingRef

/-- A mistyped key produces a message about the key. -/
def parseId (layers : Layers) (text : String) : Fallible EndpointId :=
  let trimmed := String.ofList (Text.trim text.toList)
  match layers.parseEndpointId trimmed with
  | .ok id => .ok id
  | .error reason =>
      .error (.message ("\x60" ++ trimmed ++ "\x60 is not a valid endpoint id: " ++ reason))

/-- `iter_mut().find(..)` and a change of what it finds: nothing when no element
passes. -/
def updateFirst {α : Type} (test : α → Bool) (change : α → α) : List α → Option (List α)
  | [] => none
  | element :: rest =>
      if test element then some (change element :: rest)
      else (updateFirst test change rest).map (element :: ·)

/-- `retain` followed by the comparison of lengths: nothing when all are kept. -/
def removeAll {α : Type} (test : α → Bool) (elements : List α) : Option (List α) :=
  let kept := elements.filter (fun element => !test element)
  if kept.length = elements.length then none else some kept

def notOnTheList (id : EndpointId) : Failure :=
  .message ("peer " ++ id.fmtShort ++ " is not on the list")

def notOffered (key : Proto × UInt16) : Failure := .message (keyText key ++ " is not offered")

def notBound (key : Proto × UInt16) : Failure :=
  .message ("local " ++ keyText key ++ " is not bound")

/-- A closure that edits the peers. -/
def editPeers (edit : List Peer → Fallible (List Peer)) : Edit Unit := fun config => do
  let peers ← edit config.serve.peers
  pure ((), { config with serve := { config.serve with peers } })

/-- A closure that edits the bindings. -/
def editBindings (edit : List Binding → Fallible (List Binding)) : Edit Unit := fun config => do
  let bindings ← edit config.connect.bindings
  pure ((), { config with connect := { bindings } })

def addPeer (layers : Layers) (body : PeerAdd) : Fallible (Edit Unit) := do
  let id ← parseId layers body.id
  pure (fun config =>
    if (config.peer id).isSome then
      .error (.message ("peer " ++ id.fmtShort ++ " is already on the list"))
    else
      editPeers (fun peers =>
        .ok (peers ++ [{ id, name := body.name, enabled := true, offers := [] }])) config)

def patchPeer (layers : Layers) (body : PeerPatch) : Fallible (Edit Unit) := do
  let id ← parseId layers body.id
  pure (editPeers (fun peers =>
    match updateFirst (fun peer => peer.id == id)
        (fun peer => { peer with name := body.name.getD peer.name,
                                 enabled := body.enabled.getD peer.enabled }) peers with
    | none => .error (notOnTheList id)
    | some peers => .ok peers))

def delPeer (layers : Layers) (body : IdRef) : Fallible (Edit Unit) := do
  let id ← parseId layers body.id
  pure (editPeers (fun peers =>
    match removeAll (fun peer => peer.id == id) peers with
    | none => .error (notOnTheList id)
    | some peers => .ok peers))

/-- Edit the shared list, or one peer's list: `offers_of` hands out the list by
mutable reference, and what is done to it is done in place. -/
def editOffersOf (layers : Layers) (peer : Option String)
    (edit : List Offer → Fallible (List Offer)) : Edit Unit := fun config =>
  match peer with
  | none => do
      let shared ← edit config.serve.shared
      pure ((), { config with serve := { config.serve with shared } })
  | some text => do
      let id ← parseId layers text
      match config.peer id with
      | none => .error (notOnTheList id)
      | some owner =>
          let offers ← edit owner.offers
          let peers := (updateFirst (fun peer => peer.id == id)
            (fun peer => { peer with offers }) config.serve.peers).getD config.serve.peers
          pure ((), { config with serve := { config.serve with peers } })

def addOffer (layers : Layers) (body : OfferAdd) : Fallible (Edit Unit) :=
  .ok (editOffersOf layers body.peer (fun offers =>
    if offers.any (fun offer => offer.proto == body.proto && offer.port == body.port) then
      .error (.message (keyText (body.proto, body.port) ++ " is already offered"))
    else
      .ok (offers ++ [{ proto := body.proto, port := body.port, name := body.name, enabled := true }])))

def patchOffer (layers : Layers) (body : OfferPatch) : Fallible (Edit Unit) :=
  .ok (editOffersOf layers body.peer (fun offers =>
    match updateFirst (fun offer => offer.proto == body.proto && offer.port == body.port)
        (fun offer => { offer with name := body.name.getD offer.name,
                                   enabled := body.enabled.getD offer.enabled }) offers with
    | none => .error (notOffered (body.proto, body.port))
    | some offers => .ok offers))

def delOffer (layers : Layers) (body : OfferRef) : Fallible (Edit Unit) :=
  .ok (editOffersOf layers body.peer (fun offers =>
    match removeAll (fun offer => offer.proto == body.proto && offer.port == body.port) offers with
    | none => .error (notOffered (body.proto, body.port))
    | some offers => .ok offers))

def addBinding (body : BindingAdd) : Fallible (Edit Unit) :=
  .ok (editBindings (fun bindings =>
    if bindings.any (fun binding =>
        binding.proto == body.proto && binding.localPort == body.localPort) then
      .error (.message ("local " ++ keyText (body.proto, body.localPort) ++ " is already bound"))
    else
      .ok (bindings ++ [{ proto := body.proto, localPort := body.localPort,
                          remotePort := body.remotePort, name := body.name, enabled := true }])))

def patchBinding (body : BindingPatch) : Fallible (Edit Unit) :=
  .ok (editBindings (fun bindings =>
    match updateFirst (fun binding =>
          binding.proto == body.proto && binding.localPort == body.localPort)
        (fun binding => { binding with remotePort := body.remotePort.getD binding.remotePort,
                                       name := body.name.getD binding.name,
                                       enabled := body.enabled.getD binding.enabled }) bindings with
    | none => .error (notBound (body.proto, body.localPort))
    | some bindings => .ok bindings))

def delBinding (body : BindingRef) : Fallible (Edit Unit) :=
  .ok (editBindings (fun bindings =>
    match removeAll (fun binding =>
        binding.proto == body.proto && binding.localPort == body.localPort) bindings with
    | none => .error (notBound (body.proto, body.localPort))
    | some bindings => .ok bindings))

/-- An offer as it is serialised: an empty name is left out. -/
def offerJson (offer : Offer) : Json :=
  .obj ([("proto", .str offer.proto.asStr), ("port", .num offer.port.toNat)] ++
    (if offer.name = "" then [] else [("name", .str offer.name)]) ++
    [("enabled", .bool offer.enabled)])

def optionJson {α : Type} (json : α → Json) : Option α → Json
  | none => .null
  | some value => json value

def bindStateJson : BindState → Json
  | .listening => .obj [("state", .str "listening")]
  | .failed error => .obj [("state", .str "failed"), ("error", .str error)]

def peerLiveJson (live : PeerLive) : Json :=
  .obj [("id", .str live.id), ("short", .str live.short), ("path", .str live.path),
    ("addr", optionJson .str live.addr), ("rtt_ms", optionJson .num live.rttMs),
    ("since_secs", .num live.sinceSecs)]

def bindingJson (runtime : Runtime) (binding : Binding) : Json :=
  .obj [("proto", .str binding.proto.asStr), ("local", .num binding.localPort.toNat),
    ("remote", .num binding.remotePort.toNat), ("name", .str binding.name),
    ("enabled", .bool binding.enabled),
    ("runtime", optionJson bindStateJson (runtime.bindState binding))]

def peerJson (peer : Peer) : Json :=
  .obj [("id", .str peer.id.text), ("short", .str peer.id.fmtShort), ("name", .str peer.name),
    ("enabled", .bool peer.enabled), ("offers", .arr (peer.offers.map offerJson))]

/-- The admin surface: the shared state, its token, and the endpoint id it
shows. -/
structure Admin where
  shared : Shared
  token : String
  id : String

def getState (admin : Admin) (now : Instant) : Response :=
  let shared := admin.shared
  let config := shared.config
  jsonResponse 200 (.obj [
    ("role", .str shared.role.asStr),
    ("id", .str admin.id),
    ("config_path", .str shared.path.display),
    ("uptime_secs", .num (elapsedSecs shared.started now)),
    ("shared_offers", .arr (config.serve.shared.map offerJson)),
    ("peers", .arr (config.serve.peers.map peerJson)),
    ("bindings", .arr (config.connect.bindings.map (bindingJson shared.runtime))),
    ("live_peers", .arr ((shared.runtime.livePeers now).map peerLiveJson))])

end Rtun
