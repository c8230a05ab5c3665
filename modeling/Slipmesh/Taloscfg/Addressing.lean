import Slipmesh.Router.CidrPair

/-! `taloscfg::addressing`: a node's addresses from its identity. `Machine` has the two
functions on the machine integers, where an operation that overflows is `none`. -/

namespace Slipmesh.Taloscfg
open Net

/-- The network's bits down to its prefix, and the host's bits below. -/
def hostIn {w : Nat} (network : BitVec w) (prefixLen : Nat) (host : BitVec w) : BitVec w :=
  let mask : BitVec w := if prefixLen = 0 then 0 else BitVec.allOnes w <<< (w - prefixLen)
  (network &&& mask) ||| (host &&& ~~~mask)

def ipv4Loopback (network : Ipv4Addr) (prefixLen : Nat) (nodeId : Ipv4Addr) : Ipv4Addr := hostIn network prefixLen nodeId

def ipv6Loopback (network : Ipv6Addr) (prefixLen : Nat) (nodeId : Ipv4Addr) : Ipv6Addr :=
  hostIn network prefixLen (nodeId.setWidth 128)

namespace Machine

def shl {w : Nat} (bits : BitVec w) (amount : UInt8) : Option (BitVec w) :=
  if amount.toNat < w then some (bits <<< amount.toNat) else none

/-- The mask of a prefix of an address of `w` bits. -/
def mask (w : Nat) (prefixLen : UInt8) : Option (BitVec w) :=
  if prefixLen = 0 then some 0 else (Router.Pair.subLen (UInt8.ofNat w) prefixLen).bind (shl (BitVec.allOnes w))

def ipv4Loopback (network : Ipv4Addr) (prefixLen : UInt8) (nodeId : Ipv4Addr) : Option Ipv4Addr := do
  let mask ← mask 32 prefixLen
  return (network &&& mask) ||| (nodeId &&& ~~~mask)

def ipv6Loopback (network : Ipv6Addr) (prefixLen : UInt8) (nodeId : Ipv4Addr) : Option Ipv6Addr := do
  let mask ← mask 128 prefixLen
  let host : Ipv6Addr := nodeId.setWidth 128
  return (network &&& mask) ||| (host &&& ~~~mask)

end Machine

end Slipmesh.Taloscfg
