import Slipmesh.Common.Rt
import Slipmesh.Host

/-! `common::netlink::rt`: links and their addresses, found, made and brought to what is
wanted of them. -/

namespace Slipmesh.Common
open Net Host Library

inductive LinkError where
  | lookUp (name : String)
  | create (name kind : String)
  | missing (name : String)
  | list
  | delete (index : UInt32)
  | up (index : UInt32)
  | addresses (index : UInt32)
  | remove (address : String) (index : UInt32)
  | assign (address : String) (index : UInt32)
  | cidr (reason : CidrError)
deriving DecidableEq, Repr

/-- Which of `current` has to go for only `desired` to remain. -/
def toRemove {α : Type} [DecidableEq α] (current desired : List α) : List α := current.filter (· ∉ desired)

def linkIndex (name : String) : Netlink LinkError (Option UInt32) := call (.getLink name) (.lookUp name)

/-- The index, and whether the link was just made. -/
def ensureLink (name kind : String) : Netlink LinkError (UInt32 × Bool) := do
  match ← linkIndex name with
  | some index => return (index, false)
  | none =>
    call (.addLink name kind) (.create name kind)
    match ← linkIndex name with
    | some index => return (index, true)
    | none => throw (.missing name)

def listLinks : Netlink LinkError (List (String × UInt32 × Option String)) := call .dumpLinks .list

def listLinksByKind (kind : String) : Netlink LinkError (List (String × UInt32)) := do
  let links ← listLinks
  return links.filterMap fun (name, index, found) => if found = some kind then some (name, index) else none

def deleteLink (index : UInt32) : Netlink LinkError Unit := call (.deleteLink index) (.delete index)

def setUp (index : UInt32) : Netlink LinkError Unit := call (.setUp index) (.up index)

/-! ### Addresses -/

def familyOf (address : IpCidr) : Family := if address.addr.isIpv4 then .inet else .inet6

/-- The kernel answers with both families. -/
def familyAddresses (family : Family) (index : UInt32) : Netlink LinkError (List IpCidr) := do
  let listed ← call (.dumpAddresses index) (.addresses index)
  return listed.filter (familyOf · = family)

def v4Addresses (index : UInt32) : Netlink LinkError (List IpCidr) := familyAddresses .inet index

def v6Addresses (index : UInt32) : Netlink LinkError (List IpCidr) := familyAddresses .inet6 index

def removeAddress (index : UInt32) (address : IpCidr) : Netlink LinkError Unit :=
  call (.deleteAddress index address) (.remove (address.textWith IpAddr.text) index)

def assignAddress (index : UInt32) (address : IpCidr) : Netlink LinkError Unit :=
  call (.replaceAddress index address) (.assign (address.textWith IpAddr.text) index)

def ensureFamilyAddresses (addresses : Netlink LinkError (List IpCidr)) (index : UInt32) (desired : List IpCidr) :
    Netlink LinkError Unit := do
  let current ← addresses
  (toRemove current desired).forM (removeAddress index)
  desired.forM (assignAddress index)

def ensureV4Addresses (index : UInt32) (desired : List IpCidr) : Netlink LinkError Unit :=
  ensureFamilyAddresses (v4Addresses index) index desired

def ensureV6Addresses (index : UInt32) (desired : List IpCidr) : Netlink LinkError Unit :=
  ensureFamilyAddresses (v6Addresses index) index desired

/-- All of the addresses of a link at once: a family's desired ones displace only its own. -/
def ensureAddresses (index : UInt32) (cidrs : List String) : Netlink LinkError Unit := do
  match cidrs.mapM parseCidr with
  | .error reason => throw (.cidr reason)
  | .ok desired =>
    ensureV4Addresses index (desired.filter (familyOf · = .inet))
    ensureV6Addresses index (desired.filter (familyOf · = .inet6))

end Slipmesh.Common
