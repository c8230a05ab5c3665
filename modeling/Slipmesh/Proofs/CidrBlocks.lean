import Slipmesh.Library.Dyadic
import Slipmesh.Router.Cidr

/-! A network is a dyadic block of addresses and the number it was written with.
The two agree when no bit past the prefix is set, and only then do the operations
of `router::cidr` see the whole block. -/

namespace Slipmesh.Router.Cidr
open Net Library

/-- The addresses that agree with the network on its first `len` bits. -/
def Covers (net : Cidr) (addr : Ipv4Addr) : Prop := ∀ i < net.len, addr.getMsbD i = net.addr.getMsbD i

/-- No bit past the prefix is set. -/
def Canonical (net : Cidr) : Prop := networkAddr net.addr net.len = net.addr

instance (net : Cidr) : Decidable net.Canonical := inferInstanceAs (Decidable (_ = _))

def block (net : Cidr) : Block := ⟨32 - net.len, net.addr.toNat / 2 ^ (32 - net.len)⟩

/-- The blocks of the networks without host bits. -/
def canonicalBlocks (nets : List Cidr) : Set Block := {b | ∃ net ∈ nets, net.Canonical ∧ net.block = b}

variable {net other outer inner : Cidr} {addr : Ipv4Addr} {x : Nat}

theorem mem_block : x ∈ net.block ↔ x / 2 ^ (32 - net.len) = net.addr.toNat / 2 ^ (32 - net.len) := Iff.rfl

theorem self_mem (net : Cidr) : net.addr.toNat ∈ net.block := rfl

theorem block_level (net : Cidr) : net.block.level = 32 - net.len := rfl

private theorem shift_eq_iff {a b : BitVec 32} {len : Nat} (bounded : len ≤ 32) :
    a.toNat / 2 ^ (32 - len) = b.toNat / 2 ^ (32 - len) ↔ ∀ i < len, a.getMsbD i = b.getMsbD i := by
  constructor
  · intro same i inside
    have bits : ∀ c : BitVec 32, c.getMsbD i = (c.toNat / 2 ^ (32 - len)).testBit (len - 1 - i) := by
      intro c
      have position : 32 - 1 - i = 32 - len + (len - 1 - i) := by omega
      rw [← Nat.shiftRight_eq_div_pow, Nat.testBit_shiftRight, BitVec.getMsbD, ← position, BitVec.getLsbD]
      simp [show i < 32 by omega]
    rw [bits, bits, same]
  · intro same
    apply Nat.eq_of_testBit_eq
    intro i
    rw [← Nat.shiftRight_eq_div_pow, ← Nat.shiftRight_eq_div_pow, Nat.testBit_shiftRight, Nat.testBit_shiftRight]
    by_cases inside : i < len
    · have bit := same (len - 1 - i) (by omega)
      have position : 32 - 1 - (len - 1 - i) = 32 - len + i := by omega
      simpa [BitVec.getMsbD, BitVec.getLsbD, position, show len - 1 - i < 32 by omega] using bit
    · rw [Nat.testBit_lt_two_pow (lt_of_lt_of_le a.isLt (Nat.pow_le_pow_right (by decide) (by omega))),
        Nat.testBit_lt_two_pow (lt_of_lt_of_le b.isLt (Nat.pow_le_pow_right (by decide) (by omega)))]

theorem covers_iff : net.Covers addr ↔ addr.toNat ∈ net.block :=
  (shift_eq_iff net.bounded).symm

theorem networkAddr_toNat (addr : Ipv4Addr) {len : Nat} (bounded : len ≤ 32) :
    (networkAddr addr len).toNat = addr.toNat / 2 ^ (32 - len) * 2 ^ (32 - len) := by
  rw [networkAddr, mask]
  by_cases zero : len = 0
  · subst zero
    have small : addr.toNat / 2 ^ 32 = 0 := Nat.div_eq_of_lt addr.isLt
    have cleared : addr &&& 0 = 0#32 := BitVec.and_zero
    rw [Nat.sub_zero, small, Nat.zero_mul, if_pos rfl, cleared]
    rfl
  · rw [if_neg zero, ← BitVec.shiftLeft_ushiftRight, BitVec.toNat_shiftLeft, BitVec.toNat_ushiftRight, Nat.shiftLeft_eq,
      Nat.shiftRight_eq_div_pow]
    exact Nat.mod_eq_of_lt (lt_of_le_of_lt (Nat.div_mul_le_self ..) addr.isLt)

theorem canonical_iff : net.Canonical ↔ net.addr.toNat = net.block.first := by
  rw [Canonical, ← BitVec.toNat_inj, networkAddr_toNat _ net.bounded]
  exact eq_comm

theorem block_le_iff : inner.block ≤ outer.block ↔ outer.len ≤ inner.len ∧ inner.addr.toNat ∈ outer.block := by
  have := inner.bounded
  have := outer.bounded
  constructor
  · intro nested
    have level := nested.1
    rw [block_level, block_level] at level
    exact ⟨by omega, Block.mem_of_le nested inner.self_mem⟩
  · rintro ⟨shorter, inside⟩
    apply Block.le_of_mem inner.self_mem inside
    rw [block_level, block_level]
    omega

theorem contains_iff : outer.contains inner = true ↔ outer.Canonical ∧ inner.block ≤ outer.block := by
  rw [contains, Bool.and_eq_true, decide_eq_true_eq, beq_iff_eq, ← BitVec.toNat_inj, networkAddr_toNat _ outer.bounded,
    canonical_iff, block_le_iff, mem_block]
  constructor
  · rintro ⟨shorter, same⟩
    have index : inner.addr.toNat / 2 ^ (32 - outer.len) = outer.addr.toNat / 2 ^ (32 - outer.len) := by
      rw [← same, Nat.mul_div_cancel _ (Nat.two_pow_pos _)]
    refine ⟨?_, shorter, index⟩
    rw [Block.first, block, ← index, same]
  · rintro ⟨canonical, shorter, index⟩
    exact ⟨shorter, by rw [index]; exact canonical.symm⟩

theorem eq_of_block (first : net.Canonical) (second : other.Canonical) (same : net.block = other.block) :
    net = other := by
  have addr : net.addr = other.addr := by
    rw [← BitVec.toNat_inj, canonical_iff.mp first, canonical_iff.mp second, same]
  have len : net.len = other.len := by
    have level := congrArg Block.level same
    rw [block_level, block_level] at level
    have := net.bounded
    have := other.bounded
    omega
  cases net
  cases other
  cases addr
  cases len
  rfl

theorem block_lt (inside : x ∈ net.block) : x < 2 ^ 32 := by
  rw [mem_block] at inside
  have bounded := net.bounded
  have room : 2 ^ 32 = 2 ^ net.len * 2 ^ (32 - net.len) := by
    rw [← Nat.pow_add, Nat.add_sub_cancel' bounded]
  have index : net.addr.toNat / 2 ^ (32 - net.len) < 2 ^ net.len :=
    Nat.div_lt_of_lt_mul (by rw [Nat.mul_comm, ← room]; exact net.addr.isLt)
  rw [room, ← Nat.div_lt_iff_lt_mul (Nat.two_pow_pos _), inside]
  exact index

theorem lt_iff : net < other ↔
    net.addr.toNat < other.addr.toNat ∨ net.addr.toNat = other.addr.toNat ∧ net.len < other.len :=
  Prod.Lex.toLex_lt_toLex

/-! ### Halves -/

private theorem two_pow_half {len : Nat} (divisible : len + 1 ≤ 32) :
    2 ^ (32 - len) = 2 * 2 ^ (32 - (len + 1)) := by
  rw [← Nat.pow_succ', show (32 - (len + 1)).succ = 32 - len by omega]

private theorem addr_halves (canonical : net.Canonical) (fits : net.len + 1 ≤ 32) :
    net.addr.toNat = 2 * net.block.index * 2 ^ (32 - (net.len + 1)) := by
  rw [canonical_iff.mp canonical, Block.first, block_level, two_pow_half fits, ← Nat.mul_assoc,
    Nat.mul_comm net.block.index]

theorem lowerHalf_block (canonical : net.Canonical) (fits : net.len + 1 ≤ 32) :
    (net.lowerHalf fits).Canonical ∧ (net.lowerHalf fits).block = net.block.lower := by
  have level : 32 - (net.len + 1) = 32 - net.len - 1 := by omega
  have whole := addr_halves canonical fits
  have same : (net.lowerHalf fits).block = net.block.lower := by
    rw [block, Block.lower, block_level]
    change (⟨32 - (net.len + 1), net.addr.toNat / 2 ^ (32 - (net.len + 1))⟩ : Block) = _
    rw [whole, Nat.mul_div_cancel _ (Nat.two_pow_pos _), level]
  refine ⟨?_, same⟩
  rw [canonical_iff, same]
  change net.addr.toNat = _
  rw [whole, Block.first, Block.lower, block_level, level]

theorem upperHalf_block (canonical : net.Canonical) (fits : net.len + 1 ≤ 32) :
    (net.upperHalf fits).Canonical ∧ (net.upperHalf fits).block = net.block.upper := by
  have level : 32 - (net.len + 1) = 32 - net.len - 1 := by omega
  have whole := addr_halves canonical fits
  have small : 2 ^ (32 - (net.len + 1)) < 2 ^ 32 := Nat.pow_lt_pow_right (by decide) (by omega)
  have room : 2 ^ 32 = 2 * 2 ^ net.len * 2 ^ (32 - (net.len + 1)) := by
    rw [← Nat.pow_succ', ← Nat.pow_add, show net.len.succ + (32 - (net.len + 1)) = 32 by omega]
  have below : (2 * net.block.index + 1) * 2 ^ (32 - (net.len + 1)) < 2 ^ 32 := by
    have inside : 2 * net.block.index < 2 * 2 ^ net.len := by
      apply Nat.lt_of_mul_lt_mul_right (a := 2 ^ (32 - (net.len + 1)))
      rw [← whole, ← room]
      exact net.addr.isLt
    rw [room]
    exact Nat.mul_lt_mul_of_pos_right (by omega) (Nat.two_pow_pos _)
  have sum : (net.upperHalf fits).addr.toNat = (2 * net.block.index + 1) * 2 ^ (32 - (net.len + 1)) := by
    change (net.addr + 1#32 <<< (32 - (net.len + 1))).toNat = _
    rw [BitVec.toNat_add, BitVec.toNat_shiftLeft, Nat.shiftLeft_eq, whole]
    change (_ + 1 * 2 ^ (32 - (net.len + 1)) % 2 ^ 32) % 2 ^ 32 = _
    rw [Nat.one_mul, Nat.mod_eq_of_lt small, ← Nat.succ_mul]
    exact Nat.mod_eq_of_lt below
  have same : (net.upperHalf fits).block = net.block.upper := by
    rw [block, sum, Block.upper, block_level]
    change (⟨32 - (net.len + 1), _ / 2 ^ (32 - (net.len + 1))⟩ : Block) = _
    rw [Nat.mul_div_cancel _ (Nat.two_pow_pos _), level]
  refine ⟨?_, same⟩
  rw [canonical_iff, same, sum, Block.first, Block.upper, block_level, level]

end Slipmesh.Router.Cidr
