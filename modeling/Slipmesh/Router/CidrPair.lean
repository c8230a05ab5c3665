import Slipmesh.Router.Cidr

/-! `router::cidr` on the machine integers it is written in. An operation that
overflows, which the source leaves to a panic, is `none` here. -/

namespace Slipmesh.Router

abbrev Pair := BitVec 32 × UInt8

namespace Pair

def addLen (a b : UInt8) : Option UInt8 := if a.toNat + b.toNat < 2 ^ 8 then some (a + b) else none

def subLen (a b : UInt8) : Option UInt8 := if b.toNat ≤ a.toNat then some (a - b) else none

def shl (bits : BitVec 32) (amount : UInt8) : Option (BitVec 32) :=
  if amount.toNat < 32 then some (bits <<< amount.toNat) else none

def wrappingAdd (a b : BitVec 32) : Option (BitVec 32) := some (a + b)

/-- What `wrapping_add` is spared from: the sum that does not fit. -/
def checkedAdd (a b : BitVec 32) : Option (BitVec 32) := if a.toNat + b.toNat < 2 ^ 32 then some (a + b) else none

def mask (prefixLen : UInt8) : Option (BitVec 32) :=
  if prefixLen.toNat = 0 then some 0 else (subLen 32 prefixLen).bind (shl (BitVec.allOnes 32))

def networkAddr (addr : BitVec 32) (prefixLen : UInt8) : Option (BitVec 32) := (mask prefixLen).map (addr &&& ·)

def contains (outer inner : Pair) : Option Bool :=
  if outer.2.toNat ≤ inner.2.toNat then (networkAddr inner.1 outer.2).map (· == outer.1) else some false

/-- One turn of the loop: the half that is pushed and the half that is cut next. -/
def excludeStep (add : BitVec 32 → BitVec 32 → Option (BitVec 32)) (exclude current : Pair) : Option (Pair × Pair) := do
  let childLen ← addLen current.2 1
  let shift ← subLen 32 childLen
  let halfSize ← shl 1 shift
  let lower : Pair := (current.1, childLen)
  let sum ← add current.1 halfSize
  let upper : Pair := (sum, childLen)
  let holed ← contains lower exclude
  return if holed then (upper, lower) else (lower, upper)

private theorem addLen_one {len child : UInt8} (added : addLen len 1 = some child) : child.toNat = len.toNat + 1 := by
  rw [addLen] at added
  split at added
  next fits =>
    cases added
    rw [UInt8.toNat_add]
    exact Nat.mod_eq_of_lt fits
  next => cases added

theorem excludeStep_len {add : BitVec 32 → BitVec 32 → Option (BitVec 32)} {exclude current : Pair} {halves : Pair × Pair}
    (stepped : excludeStep add exclude current = some halves) : halves.2.2.toNat = current.2.toNat + 1 := by
  simp only [excludeStep, Option.bind_eq_bind, Option.bind_eq_some_iff, Option.pure_def, Option.some.injEq] at stepped
  obtain ⟨child, added, _, _, _, _, _, _, holed, _, rfl⟩ := stepped
  split <;> exact addLen_one added

/-- The `while` loop, which every turn brings one bit closer to `exclude`. -/
def excludeLoop (add : BitVec 32 → BitVec 32 → Option (BitVec 32)) (exclude current : Pair) (out : List Pair) :
    Option (List Pair) :=
  if current.2.toNat < exclude.2.toNat then
    match _stepped : excludeStep add exclude current with
    | none => none
    | some halves => excludeLoop add exclude halves.2 (out ++ [halves.1])
  else some out
termination_by exclude.2.toNat - current.2.toNat
decreasing_by
  have longer := excludeStep_len _stepped
  omega

/-- `address_exclude`, over the addition it uses. -/
def addressExcludeWith (add : BitVec 32 → BitVec 32 → Option (BitVec 32)) (net exclude : Pair) : Option (List Pair) :=
  if exclude.2.toNat ≤ net.2.toNat then some [] else excludeLoop add exclude net []

def addressExclude : Pair → Pair → Option (List Pair) := addressExcludeWith wrappingAdd

end Pair

/-- The pair a network is held as. -/
def Cidr.pair (net : Cidr) : Pair := (net.addr, UInt8.ofNat net.len)

end Slipmesh.Router
