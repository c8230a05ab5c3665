import Slipmesh.Proofs.Loopbacks

/-! The bits of an identity that its addresses keep. Where the prefix lengths fit the
addresses, no shift of the derivation overflows. -/

namespace Slipmesh.Taloscfg
open Net Common
open Router (linkLocalFromLoopback)

/-- The two identities agree on their low bits. -/
def AgreeBelow (first second : Ipv4Addr) (count : Nat) : Prop :=
  ∀ i < count, first.getLsbD i = second.getLsbD i

/-- The address has the bits of the network down to the prefix. -/
def LiesIn {w : Nat} (addr network : BitVec w) (prefixLen : Nat) : Prop :=
  clearHost addr prefixLen = clearHost network prefixLen

variable {first second : Ipv4Addr} {p q : UInt8}

theorem agreeBelow_iff {count : Nat} :
    AgreeBelow first second count ↔ first.toNat % 2 ^ count = second.toNat % 2 ^ count := by
  constructor
  · intro agree
    apply Nat.eq_of_testBit_eq
    intro i
    by_cases below : i < count
    · simp only [Nat.testBit_mod_two_pow, BitVec.testBit_toNat, agree i below]
    · simp [below]
  · intro same i below
    have bit := congrArg (Nat.testBit · i) same
    simpa only [Nat.testBit_mod_two_pow, below, decide_true, Bool.true_and, BitVec.testBit_toNat] using bit

theorem agreeBelow_min {count : Nat} : AgreeBelow first second count ↔ AgreeBelow first second (min 32 count) := by
  constructor
  · exact fun agree i below => agree i (by omega)
  · intro agree i below
    by_cases inside : i < 32
    · exact agree i (by omega)
    · rw [BitVec.getLsbD_of_ge first i (by omega), BitVec.getLsbD_of_ge second i (by omega)]

theorem hostIn_liesIn {w : Nat} (network host : BitVec w) (prefixLen : Nat) :
    LiesIn (hostIn network prefixLen host) network prefixLen := by
  apply BitVec.eq_of_getLsbD_eq
  intro i inside
  simp only [clearHost, BitVec.getLsbD_shiftLeft, BitVec.getLsbD_ushiftRight, inside]
  by_cases below : i < w - prefixLen
  · simp [below]
  · have position : w - prefixLen + (i - (w - prefixLen)) = i := by omega
    rw [position, hostIn_getLsbD _ _ _ inside, if_neg below]

namespace Machine

theorem mask_eq {w : Nat} (machine : w < 2 ^ 8) (fits : p.toNat ≤ w) :
    mask w p = some (if p.toNat = 0 then 0 else BitVec.allOnes w <<< (w - p.toNat)) := by
  have width : (UInt8.ofNat w).toNat = w := Nat.mod_eq_of_lt machine
  unfold mask
  by_cases none : p = 0
  · simp [none]
  · have positive : p.toNat ≠ 0 := fun same => none (UInt8.toNat.inj same)
    have rest : (UInt8.ofNat w - p).toNat = w - p.toNat := by
      rw [UInt8.toNat_sub_of_le _ _ (UInt8.le_iff_toNat_le.mpr (width.symm ▸ fits)), width]
    rw [if_neg none, Router.Pair.subLen, width, if_pos fits, Option.bind_some, shl, rest, if_pos (by omega),
      if_neg positive]

theorem ipv4Loopback_eq (network : Ipv4Addr) (fits : p.toNat ≤ 32) (nodeId : Ipv4Addr) :
    ipv4Loopback network p nodeId = some (Taloscfg.ipv4Loopback network p.toNat nodeId) := by
  rw [ipv4Loopback, mask_eq (by decide) fits]
  rfl

theorem ipv6Loopback_eq (network : Ipv6Addr) (fits : q.toNat ≤ 128) (nodeId : Ipv4Addr) :
    ipv6Loopback network q nodeId = some (Taloscfg.ipv6Loopback network q.toNat nodeId) := by
  rw [ipv6Loopback, mask_eq (by decide) fits]
  rfl

end Machine

/-- The addresses of two identities in a network of either family: the derivation does
not overflow, and which bits of the identities decide whether they collide. -/
theorem loopbacks_hostBits (ipv4 : Ipv4Addr) (ipv6 : Ipv6Addr) (fits4 : p.toNat ≤ 32) (fits6 : q.toNat ≤ 128)
    (first second : Ipv4Addr) :
    ∃ first4 second4 first6 second6,
      (Machine.ipv4Loopback ipv4 p first = some first4 ∧ Machine.ipv4Loopback ipv4 p second = some second4) ∧
      (Machine.ipv6Loopback ipv6 q first = some first6 ∧ Machine.ipv6Loopback ipv6 q second = some second6) ∧
      (LiesIn first4 ipv4 p.toNat ∧ LiesIn second4 ipv4 p.toNat) ∧
      (LiesIn first6 ipv6 q.toNat ∧ LiesIn second6 ipv6 q.toNat) ∧
      (first4 = second4 ↔ AgreeBelow first second (32 - p.toNat)) ∧
      (first6 = second6 ↔ AgreeBelow first second (min 32 (128 - q.toNat))) ∧
      (linkLocalFromLoopback first6 = linkLocalFromLoopback second6 ↔ first6 = second6) := by
  refine ⟨_, _, _, _, ⟨Machine.ipv4Loopback_eq ipv4 fits4 first, Machine.ipv4Loopback_eq ipv4 fits4 second⟩,
    ⟨Machine.ipv6Loopback_eq ipv6 fits6 first, Machine.ipv6Loopback_eq ipv6 fits6 second⟩,
    ⟨hostIn_liesIn _ _ _, hostIn_liesIn _ _ _⟩, ⟨hostIn_liesIn _ _ _, hostIn_liesIn _ _ _⟩, ?_, ?_, ?_⟩
  · exact (ipv4Loopback_eq_iff _ _ _ _).trans agreeBelow_iff.symm
  · exact (ipv6Loopback_eq_iff _ _ _ _).trans (agreeBelow_iff.symm.trans agreeBelow_min)
  · exact linkLocal_loopback_eq_iff _ _ _ _

/-- Past `/96` an IPv6 network cuts the identity off as an IPv4 one does. -/
theorem loopbacks_hostBits_narrow :
    ∃ first4 second4 first6 second6,
      (Machine.ipv4Loopback 0x0A3E0000#32 24 0x0A000001#32 = some first4 ∧
        Machine.ipv4Loopback 0x0A3E0000#32 24 0x0A000101#32 = some second4) ∧
      (Machine.ipv6Loopback (0xFD00#128 <<< 112) 112 0x0A000001#32 = some first6 ∧
        Machine.ipv6Loopback (0xFD00#128 <<< 112) 112 0x0A000101#32 = some second6) ∧
      (first4 = second4 ↔ AgreeBelow 0x0A000001#32 0x0A000101#32 8) ∧
      (first6 = second6 ↔ AgreeBelow 0x0A000001#32 0x0A000101#32 16) := by
  obtain ⟨first4, second4, first6, second6, made4, made6, _, _, same4, same6, _⟩ :=
    loopbacks_hostBits (p := 24) (q := 112) 0x0A3E0000#32 (0xFD00#128 <<< 112) (by decide) (by decide)
      0x0A000001#32 0x0A000101#32
  exact ⟨first4, second4, first6, second6, made4, made6, same4, same6⟩

end Slipmesh.Taloscfg
