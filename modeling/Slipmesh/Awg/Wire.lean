import Slipmesh.Awg.Handshake
import Slipmesh.Awg.Interface
import Mathlib.Data.List.Lex
import Mathlib.Order.WithBot

/-! `awg::interface` and `awg::handshake` where they meet netlink: the attributes of a
peer as a `GetDevice` dump reports them and a `SetDevice` sends them. -/

namespace Slipmesh.Awg.Wire
open Library Net Common

inductive AddressFamily where
  | ipv4 | ipv6
deriving DecidableEq, Repr

inductive AllowedIpAttribute where
  | family (family : AddressFamily)
  | ipAddr (addr : IpAddr)
  | cidr (prefixLen : Nat)
deriving DecidableEq, Repr

abbrev AllowedIp := List AllowedIpAttribute

inductive PeerFlags where
  | removeMe | replaceAllowedIps
deriving DecidableEq, Repr

inductive PeerAttribute where
  | publicKey (key : Key)
  | flags (flags : PeerFlags)
  | allowedIps (ips : List AllowedIp)
  | endpoint (addr : SocketAddr)
  | persistentKeepaliveRange (secs : Nat)
  | lastHandshake (seconds : Int)
  | rxBytes (count : Nat)
  | txBytes (count : Nat)
  | other (kind : Nat) (payload : List Byte)
deriving DecidableEq

/-- One `AmneziaWireguardPeer`. -/
abbrev Frame := List PeerAttribute

inductive Attribute where
  | ifName (name : String)
  | peers (frames : List Frame)
  | other (kind : Nat)
deriving DecidableEq

/-- All attributes of all messages of one dump. -/
abbrev Dump := List Attribute

def frames (dump : Dump) : List Frame :=
  dump.flatMap fun
    | .peers frames => frames
    | _ => []

/-! ### Reading the peers -/

def ipIn : AllowedIpAttribute → Option IpAddr
  | .ipAddr ip => some ip
  | _ => none

def cidrIn : AllowedIpAttribute → Option Nat
  | .cidr prefixLen => some prefixLen
  | _ => none

def allowedIpToCidr (attrs : AllowedIp) : Option String := do
  let ip ← attrs.findSome? ipIn
  let cidr ← attrs.findSome? cidrIn
  some (IpAddr.text ip ++ "/" ++ toString cidr)

structure Reading where
  publicKey : Option String
  allowedIps : List String
  endpoint : Option String

def readAttribute (engine : Engine) (reading : Reading) : PeerAttribute → Reading
  | .publicKey key => { reading with publicKey := some (encodeKey engine key) }
  | .allowedIps ips => { reading with allowedIps := ips.filterMap allowedIpToCidr }
  | .endpoint addr => { reading with endpoint := some (SocketAddr.text addr) }
  | _ => reading

def readPeer (engine : Engine) (frame : Frame) : Option Peer :=
  let reading := frame.foldl (readAttribute engine) ⟨none, [], none⟩
  reading.publicKey.map fun publicKey => ⟨publicKey, reading.allowedIps, reading.endpoint, false⟩

/-- The order that peers are sorted in: their fields from the first to the last. -/
def orderKey (peer : Peer) : String ×ₗ List String ×ₗ WithBot String ×ₗ Bool :=
  toLex (peer.publicKey, toLex (peer.allowedIps, toLex (peer.endpoint, peer.advancedSecurity)))

instance : LinearOrder Peer :=
  LinearOrder.lift' orderKey fun a b same => by
    obtain ⟨publicKey, rest⟩ := Prod.ext_iff.mp (toLex.injective same)
    obtain ⟨allowedIps, rest⟩ := Prod.ext_iff.mp (toLex.injective rest)
    obtain ⟨endpoint, advancedSecurity⟩ := Prod.ext_iff.mp (toLex.injective rest)
    cases a
    cases b
    cases (show _ = _ from publicKey)
    cases (show _ = _ from allowedIps)
    cases (show _ = _ from endpoint)
    cases (show _ = _ from advancedSecurity)
    rfl

/-- Every frame that has a key is a peer of its own. -/
def currentPeers (engine : Engine) (dump : Dump) : List Peer := sort ((frames dump).filterMap (readPeer engine))

/-! ### Reading the handshakes -/

def attributeKey : PeerAttribute → Option Key
  | .publicKey key => some key
  | _ => none

/-- The first key of a frame. -/
def publicKey? (frame : Frame) : Option Key := frame.findSome? attributeKey

def readStats (stats : PeerStats) : PeerAttribute → PeerStats
  | .lastHandshake seconds => { stats with lastHandshake := seconds.toNat }
  | .rxBytes count => { stats with rxBytes := count }
  | .txBytes count => { stats with txBytes := count }
  | _ => stats

def defaultStats : PeerStats := ⟨0, 0, 0⟩

/-- A frame is folded into what the frames of its key said before. -/
def mergePeerAttrs (engine : Engine) (dump : Dump) : SortedMap String PeerStats :=
  (frames dump).foldl (SortedMap.foldInto (fun frame => (publicKey? frame).map (encodeKey engine))
    fun frame stats => frame.foldl readStats (stats.getD defaultStats)) .empty

/-! ### Sending the difference -/

def cidrToAllowedIp (cidr : String) : Option AllowedIp :=
  match parseCidr cidr with
  | .ok cidr => some [.family (if cidr.addr.isIpv4 then .ipv4 else .ipv6), .ipAddr cidr.addr, .cidr cidr.len]
  | .error _ => none

def advancedSecurityKind : Nat := 11

def persistentKeepaliveSecs : Nat := 25

def endpointAttributes (endpoint : Option String) : Frame :=
  match endpoint.bind parseSocketAddr with
  | some addr => [.endpoint addr, .persistentKeepaliveRange persistentKeepaliveSecs]
  | none => []

def peerAttributes (key : Key) (peer : Peer) : Option Frame := do
  let allowedIps ← peer.allowedIps.mapM cidrToAllowedIp
  some ([.publicKey key, .flags .replaceAllowedIps, .allowedIps allowedIps] ++
    (if peer.advancedSecurity then [.other advancedSecurityKind []] else []) ++ endpointAttributes peer.endpoint)

/-- The frame of one operation, unless it is skipped. -/
def frameOf (engine : Engine) (op : String × Option Peer) : Option Frame :=
  match decodeKey engine op.1 with
  | .error _ => none
  | .ok key =>
    match op.2 with
    | some peer => peerAttributes key peer
    | none => some [.publicKey key, .flags .removeMe]

def pushOp (engine : Engine) (wgPeers : List Frame) (op : String × Option Peer) : List Frame :=
  match frameOf engine op with
  | some frame => wgPeers ++ [frame]
  | none => wgPeers

/-- The `SetDevice` of `sync_peers`, if there is anything to send. -/
def syncPeers (engine : Engine) (iface : String) (previous desired : List Peer) : Option (List Attribute) :=
  let ops := diffPeers previous desired
  let wgPeers := ops.foldl (pushOp engine) []
  if ops.isEmpty || wgPeers.isEmpty then none else some [.ifName iface, .peers wgPeers]

/-! ### The kernel's side -/

def takeAllowedIp (attrs : AllowedIp) : Option Network := do
  let addr ← attrs.findSome? ipIn
  let len ← attrs.findSome? cidrIn
  if bounded : len ≤ maxPrefix addr then some ⟨IpCidr.network ⟨addr, len, bounded⟩, network_network _⟩ else none

def allowedIpsIn : PeerAttribute → List AllowedIp
  | .allowedIps ips => ips
  | _ => []

def endpointIn : PeerAttribute → Option SocketAddr
  | .endpoint addr => some addr
  | _ => none

/-- What the kernel makes of a frame. -/
def takeFrame (frame : Frame) : Option PeerUpdate := do
  let key ← publicKey? frame
  if .flags .removeMe ∈ frame then some (.removeMe key)
  else
    some (.replace key ((frame.flatMap allowedIpsIn).filterMap takeAllowedIp) (frame.findSome? endpointIn)
      (.other advancedSecurityKind [] ∈ frame))

/-! ### One pass -/

/-- What every lookup of a pass answers; two entries with one host are looked up apart. -/
abbrev Answers := PeerEntry → Resolver

/-- A peer that does not resolve stays as the kernel has it, if it has it. -/
def desiredPeer (answers : Answers) (previous : List Peer) (entry : PeerEntry) : Option Peer :=
  (resolvePeer (answers entry) entry).or (previous.find? (·.publicKey = entry.publicKey))

def desiredPeers (answers : Answers) (previous : List Peer) (peers : List PeerEntry) : List Peer :=
  sort (peers.filterMap (desiredPeer answers previous))

end Slipmesh.Awg.Wire
