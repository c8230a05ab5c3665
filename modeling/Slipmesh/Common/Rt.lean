import Slipmesh.Common.Cidr

/-! `common::netlink::rt`: the routes a daemon adds, and what it reads back of those the
kernel holds. The kernel is a parameter that comes with what is relied on. -/

namespace Slipmesh.Common
open Net

abbrev RouteProtocol := UInt8

inductive RouteAddress where
  | inet (addr : Ipv4Addr)
  | inet6 (addr : Ipv6Addr)
  | other
deriving DecidableEq, Repr

def RouteAddress.ofAddr : IpAddr → RouteAddress
  | .v4 addr => .inet addr
  | .v6 addr => .inet6 addr

inductive RouteAttribute where
  | destination (addr : RouteAddress)
  | oif (index : UInt32)
  | other
deriving DecidableEq, Repr

/-- A message of a dump, of whose header the prefix length and the protocol are read. -/
structure RouteMessage where
  destinationPrefixLength : Nat
  protocol : RouteProtocol
  attributes : List RouteAttribute
deriving DecidableEq, Repr

/-- What a builder is told of a route. -/
structure RouteRequest where
  destinationPrefix : IpCidr
  outputInterface : UInt32
  protocol : RouteProtocol

/-! ### The kernel's side -/

/-- A route as the kernel keeps it; not every route has one interface. -/
structure KernelRoute where
  network : Network
  oif : Option UInt32
  protocol : RouteProtocol
deriving DecidableEq

def RouteRequest.route (request : RouteRequest) : KernelRoute where
  network := ⟨IpCidr.network request.destinationPrefix, network_network _⟩
  oif := some request.outputInterface
  protocol := request.protocol

inductive Family where
  | inet | inet6
deriving DecidableEq, Repr

def KernelRoute.family (route : KernelRoute) : Family := if route.network.cidr.addr.isIpv4 then .inet else .inet6

/-- How the kernel adds or replaces a route, where it does not refuse to, and the message
it dumps one as. A default route has no destination. -/
structure RouteKernel where
  replace : RouteRequest → List KernelRoute → Option (List KernelRoute)
  replaced : ∀ request routes after, replace request routes = some after → request.route ∈ after
  dump : KernelRoute → RouteMessage
  prefixLength : ∀ route, (dump route).destinationPrefixLength = route.network.cidr.len
  protocol : ∀ route, (dump route).protocol = route.protocol
  oif : ∀ route index, .oif index ∈ (dump route).attributes ↔ route.oif = some index
  destination : ∀ route addr, .destination addr ∈ (dump route).attributes ↔
    route.network.cidr.len ≠ 0 ∧ addr = .ofAddr route.network.cidr.addr

/-- The answer to a dump of one family. -/
def RouteKernel.dumped (kernel : RouteKernel) (routes : List KernelRoute) (family : Family) : List RouteMessage :=
  (routes.filter (·.family = family)).map kernel.dump

/-! ### The daemon's side -/

inductive RtError where
  | cidr (reason : CidrError)
  | addRoute (destination : String) (index : UInt32)
deriving DecidableEq, Repr

section
variable (kernel : RouteKernel) (index : UInt32)

def routeAddOf (cidr : IpCidr) (protocol : RouteProtocol) (routes : List KernelRoute) : Except RtError (List KernelRoute) :=
  (kernel.replace ⟨cidr, index, protocol⟩ routes).elim (.error (.addRoute (cidr.textWith IpAddr.text) index)) .ok

def routeAddV4 (addr : Ipv4Addr) (len : Nat) (bounded : len ≤ 32) :
    RouteProtocol → List KernelRoute → Except RtError (List KernelRoute) :=
  routeAddOf kernel index ⟨.v4 addr, len, bounded⟩

def routeAddV6 (addr : Ipv6Addr) (len : Nat) (bounded : len ≤ 128) :
    RouteProtocol → List KernelRoute → Except RtError (List KernelRoute) :=
  routeAddOf kernel index ⟨.v6 addr, len, bounded⟩

def routeAdd (cidr : String) (protocol : RouteProtocol) (routes : List KernelRoute) : Except RtError (List KernelRoute) :=
  match parseCidr cidr with
  | .error reason => .error (.cidr reason)
  | .ok ⟨.v4 addr, len, bounded⟩ => routeAddV4 kernel index addr len bounded protocol routes
  | .ok ⟨.v6 addr, len, bounded⟩ => routeAddV6 kernel index addr len bounded protocol routes

end

/-- The first destination of a route. -/
def destinationOf (route : RouteMessage) : Option (IpAddr × Nat) :=
  route.attributes.findSome? fun
    | .destination (.inet addr) => some (.v4 addr, route.destinationPrefixLength)
    | .destination (.inet6 addr) => some (.v6 addr, route.destinationPrefixLength)
    | _ => none

def outputInterface (route : RouteMessage) : Option UInt32 :=
  route.attributes.findSome? fun
    | .oif index => some index
    | _ => none

/-- What the loop over a dump makes of one message. -/
def matchRoute (index : UInt32) (protocol : RouteProtocol) (route : RouteMessage) : Option String :=
  if route.protocol ≠ protocol then none
  else if outputInterface route ≠ some index then none
  else (destinationOf route).map fun (addr, len) => IpAddr.text addr ++ "/" ++ toString len

/-- The query answers with the messages of a dump, or fails. -/
def routesMatching (query : Family → Option (List RouteMessage)) (family : Family) (index : UInt32)
    (protocol : RouteProtocol) : Option (List String) :=
  (query family).map (·.filterMap (matchRoute index protocol))

def routesByProtocol (query : Family → Option (List RouteMessage)) (index : UInt32) (protocol : RouteProtocol) :
    Option (List String) := do
  let inet ← routesMatching query .inet index protocol
  let inet6 ← routesMatching query .inet6 index protocol
  return inet ++ inet6

end Slipmesh.Common
