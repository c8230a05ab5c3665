import Slipmesh.Net

/-! `common::cidr`: the texts `<addr>/<prefix>` of either address family. -/

namespace Slipmesh.Common
open Net

/-- What the parser reports, each with the text it was given. -/
inductive CidrError where
  | missingSlash (cidr : String)
  | invalidAddress (cidr : String)
  | invalidPrefixLength (cidr : String)
  | prefixTooLong (cidr : String) (len max : Nat)
deriving DecidableEq, Repr

/-- An address with a prefix length its family allows. The bits past the prefix
are kept as they were written. -/
structure Cidr {α : Type} (width : α → Nat) where
  addr : α
  len : Nat
  bounded : len ≤ width addr
deriving DecidableEq, Repr

def splitOnce (separator : Char) (text : String) : Option (String × String) :=
  match text.toList.dropWhile (· ≠ separator) with
  | [] => none
  | _ :: rest => some (String.ofList (text.toList.takeWhile (· ≠ separator)), String.ofList rest)

def parseCidrWith {α : Type} (parseAddr : String → Option α) (width : α → Nat) (cidr : String) :
    Except CidrError (Cidr width) :=
  match splitOnce '/' cidr with
  | none => .error (.missingSlash cidr)
  | some (addr, len) =>
    match parseAddr addr with
    | none => .error (.invalidAddress cidr)
    | some addr =>
      match parseU8 len with
      | none => .error (.invalidPrefixLength cidr)
      | some len =>
        if bounded : len ≤ width addr then .ok ⟨addr, len, bounded⟩
        else .error (.prefixTooLong cidr len (width addr))

def maxPrefix (addr : IpAddr) : Nat := if addr.isIpv4 then 32 else 128

abbrev IpCidr := Cidr maxPrefix

def parseCidr : String → Except CidrError IpCidr := parseCidrWith parseIpAddr maxPrefix

def Cidr.textWith {α : Type} {width : α → Nat} (text : α → String) (cidr : Cidr width) : String :=
  text cidr.addr ++ "/" ++ toString cidr.len

def clearHost {w : Nat} (addr : BitVec w) (len : Nat) : BitVec w := addr >>> (w - len) <<< (w - len)

def networkAddr (addr : IpAddr) (len : Nat) : IpAddr :=
  match addr with
  | .v4 addr => .v4 (clearHost addr len)
  | .v6 addr => .v6 (clearHost addr len)

theorem maxPrefix_networkAddr (addr : IpAddr) (len : Nat) : maxPrefix (networkAddr addr len) = maxPrefix addr := by
  cases addr with
  | v4 addr => rfl
  | v6 addr => rfl

def IpCidr.network (cidr : IpCidr) : IpCidr :=
  ⟨networkAddr cidr.addr cidr.len, cidr.len, by rw [maxPrefix_networkAddr]; exact cidr.bounded⟩

/-- A CIDR without host bits, which is what a kernel route is for. -/
structure Network where
  cidr : IpCidr
  masked : cidr.network = cidr
deriving DecidableEq

theorem clearHost_clearHost {w : Nat} (addr : BitVec w) (len : Nat) :
    clearHost (clearHost addr len) len = clearHost addr len := by
  simp only [clearHost, BitVec.shiftLeft_ushiftRight, BitVec.and_assoc, BitVec.and_self]

theorem network_network (cidr : IpCidr) : IpCidr.network (IpCidr.network cidr) = IpCidr.network cidr := by
  obtain ⟨addr, len, bounded⟩ := cidr
  cases addr with
  | v4 addr => simp only [IpCidr.network, networkAddr, clearHost_clearHost]
  | v6 addr => simp only [IpCidr.network, networkAddr, clearHost_clearHost]

/-- The network a CIDR text lies in, if it parses. -/
def networkOf (text : String) : Option Network :=
  match parseCidr text with
  | .ok cidr => some ⟨IpCidr.network cidr, network_network cidr⟩
  | .error _ => none

def Network.text (network : Network) : String := network.cidr.textWith IpAddr.text

end Slipmesh.Common
