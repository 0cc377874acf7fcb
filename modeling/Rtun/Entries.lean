import Rtun.Config

/-!
# A configuration as a map of entries

What an edit names: a shared offer, a peer, one peer's offer, or a binding, each by
its key. The content under a key is what the first matching entry says besides it.
-/

namespace Rtun

/-- The name of an entry. -/
inductive EntryKey where
  | shared (proto : Proto) (port : UInt16)
  | peer (id : EndpointId)
  | offer (id : EndpointId) (proto : Proto) (port : UInt16)
  | binding (proto : Proto) (localPort : UInt16)
deriving DecidableEq

/-- What an entry says besides its key. -/
inductive Entry where
  | offer (name : String) (enabled : Bool)
  | peer (name : String) (enabled : Bool)
  | binding (remotePort : UInt16) (name : String) (enabled : Bool)
deriving DecidableEq

/-- The content of the first offer with the key. -/
def offerEntry (offers : List Offer) (proto : Proto) (port : UInt16) : Option Entry :=
  (offers.find? (fun offer => offer.proto == proto && offer.port == port)).map
    (fun offer => .offer offer.name offer.enabled)

/-- The content under a key, or nothing when there is no such entry. -/
def Config.entry (config : Config) : EntryKey → Option Entry
  | .shared proto port => offerEntry config.serve.shared proto port
  | .peer id =>
      (config.serve.peers.find? (fun peer => peer.id == id)).map
        (fun peer => .peer peer.name peer.enabled)
  | .offer id proto port => do
      let peer ← config.serve.peers.find? (fun peer => peer.id == id)
      offerEntry peer.offers proto port
  | .binding proto localPort =>
      (config.connect.bindings.find?
          (fun binding => binding.proto == proto && binding.localPort == localPort)).map
        (fun binding => .binding binding.remotePort binding.name binding.enabled)

end Rtun
