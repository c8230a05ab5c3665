import Slipmesh.Common.Config

/-! `taloscfg::obfuscation_gen`: the nine obfuscation parameters a run can draw. -/

namespace Slipmesh.Taloscfg
open Common

/-- What the generator draws, each value in its range. -/
structure Draw where
  jc : UInt16
  jmin : UInt16
  spread : UInt16
  s1 : UInt16
  s2 : UInt16
  h1 : UInt32
  h2 : UInt32
  h3 : UInt32
  h4 : UInt32
  junk : 4 ≤ jc ∧ jc ≤ 12 ∧ 10 ≤ jmin ∧ jmin ≤ 100 ∧ 1 ≤ spread ∧ spread ≤ 900
  sizes : 15 ≤ s1 ∧ s1 ≤ 150 ∧ 15 ≤ s2 ∧ s2 ≤ 150 ∧ s2 ≠ s1 + 56
  headers : ∀ h ∈ [h1, h2, h3, h4], 5 ≤ h ∧ h ≤ 2147483647
  distinct : [h1, h2, h3, h4].Nodup

instance : Inhabited Draw := ⟨4, 10, 1, 15, 16, 5, 6, 7, 8, by decide, by decide, by simp, by decide⟩

def generate (draw : Draw) : Obfuscation :=
  { jc := some draw.jc
    jmin := some draw.jmin
    jmax := some (draw.jmin + draw.spread)
    s1 := some draw.s1
    s2 := some draw.s2
    h1 := some draw.h1
    h2 := some draw.h2
    h3 := some draw.h3
    h4 := some draw.h4 }

/-! ### Drawing -/

/-- Why the generator does not return: the draws end, one is not in the range asked for,
or it panics. -/
inductive Stop where
  | exhausted
  | outOfRange
  | overflow
  | indexOutOfBounds
deriving DecidableEq, Repr

def inRange (low high value : Nat) : Except Stop Nat := if low ≤ value ∧ value ≤ high then .ok value else .error .outOfRange

/-- `random_range`, and the draws that are left. -/
def randomRange (low high : Nat) : List Nat → Except Stop (Nat × List Nat)
  | [] => .error .exhausted
  | value :: draws => do
    let value ← inRange low high value
    return (value, draws)

def addU16 (a b : UInt16) : Except Stop UInt16 := if a.toNat + b.toNat < 2 ^ 16 then .ok (a + b) else .error .overflow

/-- The loop that draws `s2`. -/
def drawS2 (s1 : UInt16) : List Nat → Except Stop (UInt16 × List Nat)
  | [] => .error .exhausted
  | value :: draws => do
    let s2 ← inRange 15 150 value
    let avoided ← addU16 s1 56
    if UInt16.ofNat s2 ≠ avoided then return (UInt16.ofNat s2, draws) else drawS2 s1 draws

/-- The `while` loop of `random_magic_headers`. -/
def drawHeaders (values : List UInt32) : List Nat → Except Stop (List UInt32 × List Nat)
  | [] => if values.length < 4 then .error .exhausted else .ok (values, [])
  | value :: draws =>
    if values.length < 4 then do
      let candidate ← inRange 5 2147483647 value
      drawHeaders (if UInt32.ofNat candidate ∈ values then values else values ++ [UInt32.ofNat candidate]) draws
    else .ok (values, value :: draws)

def headerAt (values : List UInt32) (i : Nat) : Except Stop UInt32 :=
  match values[i]? with
  | some value => .ok value
  | none => .error .indexOutOfBounds

/-- `generate`, on the draws it is given. -/
def generateFrom (draws : List Nat) : Except Stop (Obfuscation × List Nat) := do
  let (jmin, draws) ← randomRange 10 100 draws
  let (spread, draws) ← randomRange 1 900 draws
  let jmax ← addU16 (UInt16.ofNat jmin) (UInt16.ofNat spread)
  let (s1, draws) ← randomRange 15 150 draws
  let (s2, draws) ← drawS2 (UInt16.ofNat s1) draws
  let (headers, draws) ← drawHeaders [] draws
  let h1 ← headerAt headers 0
  let h2 ← headerAt headers 1
  let h3 ← headerAt headers 2
  let h4 ← headerAt headers 3
  let (jc, draws) ← randomRange 4 12 draws
  return ({ jc := some (UInt16.ofNat jc)
            jmin := some (UInt16.ofNat jmin)
            jmax := some jmax
            s1 := some (UInt16.ofNat s1)
            s2 := some s2
            h1 := some h1
            h2 := some h2
            h3 := some h3
            h4 := some h4 }, draws)

end Slipmesh.Taloscfg
