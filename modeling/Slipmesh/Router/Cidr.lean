import Slipmesh.Common.Cidr
import Slipmesh.Library.Ordered
import Mathlib.Order.Lattice

/-! `router::cidr`: IPv4 networks as the bypass arithmetic handles them. -/

namespace Slipmesh.Router
open Net Library
open Common (CidrError)

/-- A `(u32, u8)` pair. The source calls the number a network address, but no
operation below clears the bits past the prefix. -/
abbrev Cidr := Common.Cidr fun _ : Ipv4Addr => 32

namespace Cidr

def parseCidr : String → Except CidrError Cidr := Common.parseCidrWith parseIpv4Addr fun _ => 32

/-- The order of the pairs. -/
instance : LinearOrder Cidr :=
  LinearOrder.lift' (fun net => toLex (net.addr.toNat, net.len)) fun a b same => by
    obtain ⟨addr, len⟩ := Prod.ext_iff.mp (toLex.injective same)
    cases a
    cases b
    cases BitVec.eq_of_toNat_eq addr
    cases (show _ = _ from len)
    rfl

def mask (len : Nat) : BitVec 32 := if len = 0 then 0 else BitVec.allOnes 32 <<< (32 - len)

def networkAddr (addr : Ipv4Addr) (len : Nat) : Ipv4Addr := addr &&& mask len

def contains (outer inner : Cidr) : Bool :=
  decide (outer.len ≤ inner.len) && networkAddr inner.addr outer.len == outer.addr

def lowerHalf (net : Cidr) (fits : net.len + 1 ≤ 32) : Cidr := ⟨net.addr, net.len + 1, fits⟩

def upperHalf (net : Cidr) (fits : net.len + 1 ≤ 32) : Cidr :=
  let halfSize := 1#32 <<< (32 - (net.len + 1))
  ⟨net.addr + halfSize, net.len + 1, fits⟩

/-- The loop of `address_exclude`, which halves `current` down to the length of `exclude`. -/
def excludeFrom (exclude : Cidr) : (steps : Nat) → (current : Cidr) → current.len + steps = exclude.len → List Cidr
  | 0, _, _ => []
  | steps + 1, current, same =>
    have fits : current.len + 1 ≤ 32 := by have := exclude.bounded; omega
    have next : current.len + 1 + steps = exclude.len := by omega
    have lowerNext : (current.lowerHalf fits).len + steps = exclude.len := next
    have upperNext : (current.upperHalf fits).len + steps = exclude.len := next
    if (current.lowerHalf fits).contains exclude then
      current.upperHalf fits :: excludeFrom exclude steps (current.lowerHalf fits) lowerNext
    else current.lowerHalf fits :: excludeFrom exclude steps (current.upperHalf fits) upperNext

def addressExclude (net exclude : Cidr) : List Cidr :=
  if shorter : net.len < exclude.len then excludeFrom exclude (exclude.len - net.len) net (by omega) else []

def parentAddr (net : Cidr) : Ipv4Addr := networkAddr net.addr (net.len - 1)

def isLower (net : Cidr) : Bool := net.addr == net.parentAddr

/-- The network next to `net` inside their common parent. Anything but the lower
half is paired with the lower half. -/
def sibling (net : Cidr) : Cidr :=
  ⟨if net.isLower then net.parentAddr ||| 1#32 <<< (32 - net.len) else net.parentAddr, net.len, net.bounded⟩

def parent (net : Cidr) : Cidr :=
  ⟨net.parentAddr, net.len - 1, (Nat.sub_le ..).trans net.bounded⟩

structure Merging where
  merged : List Cidr
  used : Nat → Bool
  changed : Bool

def Merging.mark (state : Merging) (index : Nat) : Merging :=
  { state with used := Function.update state.used index true }

def Merging.push (state : Merging) (net : Cidr) : Merging :=
  { state with merged := state.merged ++ [net] }

/-- One turn of the pairing loop, for the network at position `index`. -/
def mergeStep (nets : List Cidr) (state : Merging) (net : Cidr) (index : Nat) : Merging :=
  if state.used index then state
  else if net.len = 0 then state.push net
  else
    match nets.zipIdx.findIdx? fun (other, position) =>
        position ≠ index && !state.used position && other == net.sibling with
    | some found => { ((state.mark index).mark found).push net.parent with changed := true }
    | none => (state.mark index).push net

def mergeRound (nets : List Cidr) : List Cidr × Bool :=
  let state := nets.zipIdx.foldl (fun state (net, index) => mergeStep nets state net index) ⟨[], fun _ => false, false⟩
  (sortDedup state.merged, state.changed)

/-- The merging loop. A round that merges leaves fewer networks, so as many
rounds as there are networks, and one more, are enough. -/
def mergeRounds : Nat → List Cidr → List Cidr
  | 0, nets => nets
  | fuel + 1, nets =>
    let (merged, changed) := mergeRound nets
    if changed then mergeRounds fuel merged else merged

def dropContained (nets : List Cidr) : List Cidr :=
  nets.filter fun net => !nets.any fun other => other ≠ net && decide (other.len < net.len) && other.contains net

def collapse (nets : List Cidr) : List Cidr :=
  let kept := sortDedup (dropContained (sortDedup nets))
  mergeRounds (kept.length + 1) kept

end Cidr

/-- `fe80::` with the low 32 bits of the loopback as its last two groups. -/
def linkLocalFromLoopback (ipv6Loopback : Ipv6Addr) : Ipv6Addr :=
  let bits : BitVec 32 := ipv6Loopback.setWidth 32
  BitVec.ofNat 128 (ofGroups 16 [0xfe80, 0, 0, 0, 0, 0, (bits >>> 16).toNat, (bits.setWidth 16).toNat])

end Slipmesh.Router
