import Slipmesh.Awg.Daemon
import Slipmesh.Common.Netlink
import Slipmesh.Library.Program

/-! The links of a node as its kernel keeps them for every daemon, and the netlink requests
that read and change them. Any request may fail. -/

namespace Slipmesh.Host
open Net Common

def amneziawg : String := "amneziawg"

/-- What the module keeps of a link of its kind. -/
structure Tunnel where
  identity : DeviceIdentity
  peers : Awg.SecuredDevice

structure Link where
  index : UInt32
  /-- As netlink names it. No daemon asks for a kind that the netlink library names by itself. -/
  kind : Option String
  up : Bool
  addresses : List IpCidr
  tunnel : Option Tunnel
  driven : tunnel.isSome = true ↔ kind = some amneziawg

/-- The links by their names; no two have one index. -/
structure Kernel where
  links : String → Option Link
  distinct : ∀ first second a b, links first = some a → links second = some b → a.index = b.index → first = second

/-- `fe80::/10`. -/
def LinkLocal (address : IpCidr) : Prop :=
  match address.addr with
  | .v4 _ => False
  | .v6 addr => addr.toNat / 2 ^ 118 = 0x3fa

/-- IPv4 addresses of one subnet: the first of them that a link is given is the primary one. -/
def SameSubnet (first second : IpCidr) : Prop := first.addr.isIpv4 = true ∧ IpCidr.network first = IpCidr.network second

/-- What a kernel that was asked for an address has of it: it keeps one prefix of an IPv6
address, and takes 0.0.0.0 for none. -/
def Held (addresses : List IpCidr) (address : IpCidr) : Prop :=
  address ∈ addresses ∨ address.addr = .v4 0 ∨ address.addr.isIpv4 = false ∧ ∃ held ∈ addresses, held.addr = address.addr

/-- No link is given the unspecified, the loopback or a multicast address. -/
def Assignable (address : IpCidr) : Prop :=
  match address.addr with
  | .v4 _ => True
  | .v6 addr => addr ≠ 0 ∧ addr ≠ 1 ∧ addr.toNat / 2 ^ 120 ≠ 0xff

/-- An address is not refused for the others: those of its subnet may be of another scope. -/
def Fits (addresses : List IpCidr) (address : IpCidr) : Prop :=
  Assignable address ∧ ∀ other ∈ addresses, SameSubnet address other → other = address

inductive Request where
  | getLink (name : String)
  | dumpLinks
  | addLink (name kind : String)
  | deleteLink (index : UInt32)
  | setUp (index : UInt32)
  | dumpAddresses (index : UInt32)
  | deleteAddress (index : UInt32) (address : IpCidr)
  | replaceAddress (index : UInt32) (address : IpCidr)
  | setDevice (name : String) (attrs : List DeviceAttribute)
  | getDevice (name : String)
  | setPeers (name : String) (updates : List Awg.PeerUpdate)

/-- What a request that is granted is answered with: an index where there is the link, the
name, index and kind of every link, the addresses of one, its peers. -/
abbrev Request.Reply : Request → Type
  | .getLink _ => Option UInt32
  | .dumpLinks => List (String × UInt32 × Option String)
  | .dumpAddresses _ => List IpCidr
  | .getDevice _ => Awg.Device
  | _ => Unit

/-- None where the request fails. -/
abbrev Request.Answer (request : Request) : Type := Option request.Reply

/-- A daemon's code between its netlink requests. -/
abbrev Netlink (ε α : Type) := Library.Program Request Request.Answer ε α

def call {ε : Type} (request : Request) (error : ε) : Netlink ε request.Reply :=
  .ask request fun answer => .done (answer.elim (.error error) .ok)

/-! ### What the kernel does -/

def Link.setUp (link : Link) (gained : List IpCidr) : Link := { link with up := true, addresses := link.addresses ++ gained }

/-- With a primary address its secondary ones may go, where they are not promoted. -/
structure Link.Drops (link : Link) (address : IpCidr) (addresses : List IpCidr) : Prop where
  present : address ∈ link.addresses
  gone : address ∉ addresses
  only : ∀ other ∈ addresses, other ∈ link.addresses
  spared : ∀ other ∈ link.addresses, other ≠ address → ¬ SameSubnet address other → other ∈ addresses

structure Link.Gains (link : Link) (address : IpCidr) (addresses : List IpCidr) : Prop where
  kept : ∀ other ∈ link.addresses, other ∈ addresses
  only : ∀ other ∈ addresses, other ∈ link.addresses ∨ other = address
  held : Held addresses address

def Link.drive (link : Link) (change : Tunnel → Tunnel) : Link :=
  { link with tunnel := link.tunnel.map change, driven := by rw [Option.isSome_map]; exact link.driven }

def Tunnel.setDevice (attrs : List DeviceAttribute) (tunnel : Tunnel) : Tunnel :=
  { tunnel with identity := attrs.foldl DeviceIdentity.set tunnel.identity }

def Tunnel.setPeers (updates : List Awg.PeerUpdate) (tunnel : Tunnel) : Tunnel :=
  { tunnel with peers := tunnel.peers.set updates }

/-- One link is altered or gone, the others are as they were. -/
def Kernel.Alters (kernel after : Kernel) (name : String) (altered : Option Link) : Prop :=
  after.links = Function.update kernel.links name altered

/-- A request by index alters the one link that has it. -/
def Kernel.AltersAt (kernel after : Kernel) (index : UInt32) (alter : Link → Option Link → Prop) : Prop :=
  ∃ name link altered, kernel.links name = some link ∧ link.index = index ∧ alter link altered ∧ kernel.Alters after name altered

/-- The device of a link that has one is altered. -/
def Kernel.Drives (kernel after : Kernel) (name : String) (change : Tunnel → Tunnel) : Prop :=
  ∃ link, kernel.links name = some link ∧ link.tunnel.isSome = true ∧ kernel.Alters after name (some (link.drive change))

/-- A link that has just been made, with whatever the module makes its device of. -/
structure Link.Fresh (link : Link) (kind : String) : Prop where
  kind : link.kind = some kind
  down : link.up = false
  addresses : link.addresses = []
  peers : ∀ tunnel, link.tunnel = some tunnel → tunnel.peers = .new

/-- A link that is set up may be given link-local addresses, unless it is of the module's
kind. -/
structure Link.Rises (link : Link) (risen : Option Link) (gained : List IpCidr) : Prop where
  up : risen = some (link.setUp gained)
  silent : link.kind = some amneziawg → gained = []
  linkLocal : ∀ address ∈ gained, LinkLocal address

def Kernel.grants (kernel : Kernel) : (request : Request) → request.Reply → Kernel → Prop
  | .getLink name, found, after => after = kernel ∧ found = (kernel.links name).map (·.index)
  | .dumpLinks, listed, after =>
    after = kernel ∧ (listed.map (·.1)).Nodup ∧ ∀ name index kind, (name, index, kind) ∈ listed ↔
      ∃ link, kernel.links name = some link ∧ link.index = index ∧ link.kind = kind
  | .addLink name kind, _, after =>
    kernel.links name = none ∧ ∃ link : Link, link.Fresh kind ∧ kernel.Alters after name (some link)
  | .deleteLink index, _, after => kernel.AltersAt after index fun _ altered => altered = none
  | .setUp index, _, after => kernel.AltersAt after index fun link altered => ∃ gained, link.Rises altered gained
  | .dumpAddresses index, listed, after =>
    after = kernel ∧ listed.Nodup ∧ ∀ address, address ∈ listed ↔
      ∃ name link, kernel.links name = some link ∧ link.index = index ∧ address ∈ link.addresses
  | .deleteAddress index address, _, after =>
    kernel.AltersAt after index fun link altered =>
      ∃ addresses, link.Drops address addresses ∧ altered = some { link with addresses }
  | .replaceAddress index address, _, after =>
    kernel.AltersAt after index fun link altered =>
      ∃ addresses, link.Gains address addresses ∧ altered = some { link with addresses }
  | .setDevice name attrs, _, after => kernel.Drives after name (Tunnel.setDevice attrs)
  | .getDevice name, device, after =>
    after = kernel ∧ ∃ link tunnel, kernel.links name = some link ∧ link.tunnel = some tunnel ∧ device = tunnel.peers.device
  | .setPeers name updates, _, after => kernel.Drives after name (Tunnel.setPeers updates)

/-- A request that fails changes nothing, but for a `SetDevice`, which may have set any part
of what it is about. -/
def Kernel.refuses (kernel : Kernel) : Request → Kernel → Prop
  | .setDevice name _, after => after = kernel ∨ ∃ identity, kernel.Drives after name ({ · with identity })
  | .setPeers name _, after => after = kernel ∨ ∃ peers, kernel.Drives after name ({ · with peers })
  | _, after => after = kernel

/-- What a request may be refused for by a kernel that refuses nothing else: the link is
there already, or it is not there or not as the request takes it to be; the address is not
there, or does not fit; or the module is older than 3.1. -/
def Kernel.Reason (kernel : Kernel) : Request → Prop
  | .getLink _ | .dumpLinks | .dumpAddresses _ => False
  | .addLink name _ => kernel.links name ≠ none
  | .deleteLink index | .setUp index => ∀ name link, kernel.links name = some link → link.index ≠ index
  | .replaceAddress index address =>
    ∀ name link, kernel.links name = some link → link.index = index → ¬ Fits link.addresses address
  | .deleteAddress index address =>
    ∀ name link, kernel.links name = some link → link.index = index → address ∉ link.addresses
  | .setDevice name attrs => (∀ link, kernel.links name = some link → link.tunnel = none) ∨ attrs.any (·.is31) = true
  | .getDevice name | .setPeers name _ => ∀ link, kernel.links name = some link → link.tunnel = none

/-- The kernel answers, where `refusable` says what it may refuse. -/
def serves (refusable : Kernel → Request → Prop) (request : Request) (kernel : Kernel) : request.Answer → Kernel → Prop
  | none, after => refusable kernel request ∧ kernel.refuses request after
  | some reply, after => kernel.grants request reply after

/-- Any request may fail. -/
def whimsical (_ : Kernel) (_ : Request) : Prop := True

end Slipmesh.Host
