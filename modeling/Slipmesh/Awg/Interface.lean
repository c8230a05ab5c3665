import Slipmesh.Awg.Config
import Slipmesh.Common.Keys
import Slipmesh.Library.Ordered
import Slipmesh.Library.Ownership
import Mathlib.Data.String.Basic

/-! `awg::interface`: the peers of one kernel interface, brought to what the config
says by the difference to what the kernel reports. -/

namespace Slipmesh.Awg
open Library Net Common

def fullTunnelAllowedIps : List String := ["0.0.0.0/0", "::/0"]

structure Peer where
  publicKey : String
  allowedIps : List String
  endpoint : Option String
  /-- Never reported by the kernel. -/
  advancedSecurity : Bool
deriving DecidableEq, Repr

/-! ### The kernel's side -/

/-- The peers by their key, each with its endpoint, and the peer that has each of the
allowed IPs. -/
structure Device where
  peers : AList fun _ : Key => Option SocketAddr
  allowed : Ownership Network Key

/-- One entry of a `SetDevice`. -/
inductive PeerUpdate where
  | replace (key : Key) (allowedIps : List Network) (endpoint : Option SocketAddr) (advancedSecurity : Bool)
  | removeMe (key : Key)

/-- The kernel takes one entry: it makes the peer where it is new, clears its allowed
IPs before it gives it those listed, and keeps its endpoint where none is sent. -/
def Device.update (device : Device) : PeerUpdate → Device
  | .replace key allowedIps endpoint _ =>
    { peers := device.peers.insert key (endpoint.or (device.peers.lookup key).join)
      allowed := (device.allowed.clear key).give key allowedIps }
  | .removeMe key => { peers := device.peers.erase key, allowed := device.allowed.clear key }

/-- `SetDevice`: the entries in their order. -/
def Device.set (device : Device) (updates : List PeerUpdate) : Device := updates.foldl Device.update device

/-! ### The daemon's side -/

/-- What the resolver answers at one start. -/
abbrev Resolver := String → Option SocketAddr

def resolvePeer (resolver : Resolver) (entry : PeerEntry) : Option Peer := do
  let allowedIps := entry.allowedIps.getD fullTunnelAllowedIps
  let endpoint ← match entry.endpoint with
    | some hostPort => (resolver hostPort).map (some ∘ SocketAddr.text)
    | none => some none
  some ⟨entry.publicKey, allowedIps, endpoint, entry.advancedSecurity⟩

/-- The kernel's peers as texts. They are sorted in the source, which no reader of
the list depends on. -/
def currentPeers (engine : Engine) (device : Device) : List Peer :=
  device.peers.entries.map fun entry =>
    { publicKey := encodeKey engine entry.1
      allowedIps := (device.allowed.held entry.1).map Network.text
      endpoint := entry.2.map SocketAddr.text
      advancedSecurity := false }

/-- Equality of the texts as sets. -/
def sameSet (a b : List String) : Prop := a ⊆ b ∧ b ⊆ a

instance (a b : List String) : Decidable (sameSet a b) := inferInstanceAs (Decidable (a ⊆ b ∧ b ⊆ a))

def unchanged (prev peer : Peer) : Prop :=
  sameSet prev.allowedIps peer.allowedIps ∧ prev.endpoint = peer.endpoint ∧
    prev.advancedSecurity = peer.advancedSecurity

instance (prev peer : Peer) : Decidable (unchanged prev peer) := by
  unfold unchanged
  infer_instance

def byKey (peers : List Peer) : SortedMap String Peer := SortedMap.ofPairs (peers.map fun peer => (peer.publicKey, peer))

/-- A peer to add or replace under each key, or none where the key is to go: first
what is wanted, then what is left over. -/
def diffPeers (previous desired : List Peer) : List (String × Option Peer) :=
  let prevMap := byKey previous
  let desiredMap := byKey desired
  (desiredMap.entries.filterMap fun (key, peer) =>
    if ∃ prev ∈ prevMap.find? key, unchanged prev peer then none else some (key, some peer)) ++
  (prevMap.keys.filterMap fun key => if (desiredMap.find? key).isSome then none else some (key, none))

/-- An entry for the kernel. A key or an allowed IP that does not parse skips the peer,
an endpoint that does not parse is left out. -/
def peerUpdate (engine : Engine) : String × Option Peer → Option PeerUpdate
  | (publicKey, op) => do
    let key ← (decodeKey engine publicKey).toOption
    match op with
    | some peer =>
      let allowedIps ← peer.allowedIps.mapM networkOf
      some (.replace key allowedIps (peer.endpoint.bind parseSocketAddr) peer.advancedSecurity)
    | none => some (.removeMe key)

def syncPeers (engine : Engine) (device : Device) (previous desired : List Peer) : Device :=
  device.set ((diffPeers previous desired).filterMap (peerUpdate engine))

/-- The keys that `set_identity` has to decode. -/
def setIdentity (engine : Engine) (iface : InterfaceEntry) : Except KeyError Unit := do
  let _ ← decodeKey engine iface.privateKey
  if let some key := iface.obfuscation.headerProtectionKey then
    let _ ← decodeKey engine key

/-- A peer that does not resolve stays as the kernel has it, if it has it. -/
def desiredPeers (resolver : Resolver) (previous : List Peer) (peers : List PeerEntry) : List Peer :=
  peers.filterMap fun entry => (resolvePeer resolver entry).or (previous.find? (·.publicKey = entry.publicKey))

/-- A start, as far as the peers of one interface go. -/
def ensureInterface (engine : Engine) (resolver : Resolver) (iface : InterfaceEntry) (device : Device) :
    Except KeyError Device := do
  setIdentity engine iface
  let previous := currentPeers engine device
  return syncPeers engine device previous (desiredPeers resolver previous iface.peers)

end Slipmesh.Awg
