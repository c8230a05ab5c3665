import Slipmesh.Router.CidrPair
import Slipmesh.Proofs.Exclusion
import Slipmesh.Proofs.NormalForm

/-! `address_exclude` on machine integers. Cutting a network without host bits down
to one it contains overflows nowhere, and leaves the fewest networks there can be. -/

namespace Slipmesh.Router
open Net Library

namespace Pair
open Cidr (addressExclude excludeFrom lowerHalf upperHalf)

variable {net exclude current : Cidr}

theorem pair_len (net : Cidr) : net.pair.2.toNat = net.len := by
  have := net.bounded
  exact Nat.mod_eq_of_lt (by omega)

theorem subLen_bits (len : UInt8) (bounded : len.toNat ≤ 32) : ∃ rest, subLen 32 len = some rest ∧ rest.toNat = 32 - len.toNat := by
  refine ⟨32 - len, if_pos bounded, ?_⟩
  rw [UInt8.toNat_sub_of_le _ _ (UInt8.le_iff_toNat_le.mpr bounded)]
  rfl

theorem mask_pair (net : Cidr) : mask net.pair.2 = some (Cidr.mask net.len) := by
  have bounded := net.bounded
  obtain ⟨rest, taken, bits⟩ := subLen_bits net.pair.2 (by rw [pair_len]; exact bounded)
  rw [pair_len] at bits
  rw [mask, pair_len, taken]
  by_cases zero : net.len = 0
  · rw [if_pos zero, Cidr.mask, if_pos zero]
  · rw [if_neg zero, Cidr.mask, if_neg zero, Option.bind_some, shl, if_pos (by omega), bits]

theorem contains_pair (outer inner : Cidr) : contains outer.pair inner.pair = some (outer.contains inner) := by
  rw [contains, pair_len, pair_len, networkAddr, mask_pair, Cidr.contains]
  split
  next fits => simp only [fits, decide_true, Bool.true_and, Option.map_some, Cidr.networkAddr, Cidr.pair]
  next short => simp only [short, decide_false, Bool.false_and]

/-- The half sum of a network without host bits fits its 32 bits. -/
theorem upperHalf_fits (canonical : current.Canonical) (fits : current.len + 1 ≤ 32) :
    current.addr.toNat + (1#32 <<< (32 - (current.len + 1))).toNat < 2 ^ 32 := by
  obtain ⟨upperCanonical, upperBlock⟩ := Cidr.upperHalf_block canonical fits
  have level : 32 - (current.len + 1) = 32 - current.len - 1 := by omega
  have size : (1#32 <<< (32 - (current.len + 1))).toNat = 2 ^ (32 - current.len - 1) := by
    rw [BitVec.toNat_shiftLeft, Nat.shiftLeft_eq, level]
    change 1 * _ % 2 ^ 32 = _
    rw [Nat.one_mul]
    exact Nat.mod_eq_of_lt (Nat.pow_lt_pow_right (by decide) (by omega))
  have whole : current.addr.toNat = 2 * current.block.index * 2 ^ (32 - current.len - 1) := by
    obtain ⟨lowerCanonical, lowerBlock⟩ := Cidr.lowerHalf_block canonical fits
    have first := Cidr.canonical_iff.mp lowerCanonical
    rwa [lowerBlock] at first
  have sum : (current.upperHalf fits).addr.toNat = current.addr.toNat + 2 ^ (32 - current.len - 1) := by
    rw [Cidr.canonical_iff.mp upperCanonical, upperBlock, whole, ← Nat.succ_mul]
    rfl
  rw [size, ← sum]
  exact (current.upperHalf fits).addr.isLt

variable {add : BitVec 32 → BitVec 32 → Option (BitVec 32)}

theorem excludeStep_pair (adds : ∀ a b, a.toNat + b.toNat < 2 ^ 32 → add a b = some (a + b))
    (canonical : current.Canonical) (fits : current.len + 1 ≤ 32) (exclude : Cidr) :
    excludeStep add exclude.pair current.pair = some
      (if (current.lowerHalf fits).contains exclude then ((current.upperHalf fits).pair, (current.lowerHalf fits).pair)
        else ((current.lowerHalf fits).pair, (current.upperHalf fits).pair)) := by
  have child : addLen current.pair.2 1 = some (current.lowerHalf fits).pair.2 := by
    have room : current.pair.2.toNat + (1 : UInt8).toNat < 2 ^ 8 := by
      rw [pair_len]
      exact Nat.lt_of_le_of_lt fits (by decide)
    rw [addLen, if_pos room]
    exact congrArg some (UInt8.ofNat_add current.len 1).symm
  obtain ⟨rest, taken, bits⟩ := subLen_bits (current.lowerHalf fits).pair.2 (by rw [pair_len]; exact fits)
  have shift : rest.toNat = 32 - (current.len + 1) := by
    rw [bits, pair_len]
    rfl
  have half : shl 1 rest = some (1#32 <<< (32 - (current.len + 1))) := by
    rw [shl, if_pos (by omega), shift]
    rfl
  have sum := adds current.addr _ (upperHalf_fits canonical fits)
  have holed := contains_pair (current.lowerHalf fits) exclude
  simp only [excludeStep, child, taken, half, Option.bind_eq_bind, Option.bind_some]
  rw [show current.pair.1 = current.addr from rfl, sum, Option.bind_some]
  rw [show (current.addr, (current.lowerHalf fits).pair.2) = (current.lowerHalf fits).pair from rfl, holed]
  rfl

theorem excludeLoop_pair (adds : ∀ a b, a.toNat + b.toNat < 2 ^ 32 → add a b = some (a + b)) (exclude : Cidr)
    (steps : Nat) (current : Cidr) (same : current.len + steps = exclude.len) (canonical : current.Canonical)
    (out : List Pair) :
    excludeLoop add exclude.pair current.pair out =
      some (out ++ (excludeFrom exclude steps current same).map Cidr.pair) := by
  induction steps generalizing current out with
  | zero =>
    rw [excludeLoop, pair_len, pair_len, if_neg (by omega), excludeFrom, List.map_nil, List.append_nil]
  | succ steps ih =>
    have fits : current.len + 1 ≤ 32 := by have := exclude.bounded; omega
    rw [excludeLoop, pair_len, pair_len, if_pos (by omega), excludeFrom]
    have stepped := excludeStep_pair adds canonical fits exclude
    split
    next missing => rw [missing] at stepped; cases stepped
    next halves found =>
      rw [found, Option.some.injEq] at stepped
      subst stepped
      split
      · rw [ih _ _ (Cidr.lowerHalf_block canonical fits).1, List.append_assoc, List.map_cons]
        rfl
      · rw [ih _ _ (Cidr.upperHalf_block canonical fits).1, List.append_assoc, List.map_cons]
        rfl

theorem addressExclude_pair (adds : ∀ a b, a.toNat + b.toNat < 2 ^ 32 → add a b = some (a + b))
    (canonical : net.Canonical) (exclude : Cidr) :
    addressExcludeWith add net.pair exclude.pair = some ((net.addressExclude exclude).map Cidr.pair) := by
  rw [addressExcludeWith, pair_len, pair_len, Cidr.addressExclude]
  split
  next long => rw [dif_neg (by omega)]; rfl
  next short => rw [dif_pos (by omega), excludeLoop_pair adds exclude _ net _ canonical, List.nil_append]

end Pair

namespace Cidr

variable {net exclude : Cidr}

/-- Every turn of the loop pushes a half one bit longer than the one before. -/
theorem excludeFrom_lens (exclude : Cidr) (steps : Nat) (current : Cidr) (same : current.len + steps = exclude.len) :
    (∀ piece ∈ excludeFrom exclude steps current same, current.len < piece.len) ∧
      (excludeFrom exclude steps current same).Pairwise (·.len < ·.len) := by
  induction steps generalizing current with
  | zero => simp [excludeFrom]
  | succ steps ih =>
    have fits : current.len + 1 ≤ 32 := by have := exclude.bounded; omega
    have lower : (current.lowerHalf fits).len = current.len + 1 := rfl
    have upper : (current.upperHalf fits).len = current.len + 1 := rfl
    have grown : ∀ (half next : Cidr) (pieces : List Cidr), half.len = current.len + 1 → next.len = current.len + 1 →
        (∀ piece ∈ pieces, next.len < piece.len) ∧ pieces.Pairwise (·.len < ·.len) →
        (∀ piece ∈ half :: pieces, current.len < piece.len) ∧ (half :: pieces).Pairwise (·.len < ·.len) := by
      intro half next pieces halfLen nextLen given
      obtain ⟨longer, ascending⟩ := given
      refine ⟨?_, List.pairwise_cons.mpr ⟨?_, ascending⟩⟩
      · intro piece listed
        rcases List.mem_cons.mp listed with rfl | later
        · omega
        · have := longer piece later
          omega
      · intro piece later
        have := longer piece later
        omega
    rw [excludeFrom]
    split
    · exact grown _ _ _ upper lower (ih _ _)
    · exact grown _ _ _ lower upper (ih _ _)

theorem addressExclude_lens (net exclude : Cidr) : (net.addressExclude exclude).Pairwise (·.len < ·.len) := by
  rw [addressExclude]
  split
  · exact (excludeFrom_lens exclude _ net _).2
  · exact List.Pairwise.nil

theorem addressExclude_disjoint (canonical : net.Canonical) (inner : exclude.block ≤ net.block) :
    (net.addressExclude exclude).Pairwise Disjoint := by
  have carved := (addressExclude_carved canonical inner).2
  apply (addressExclude_lens net exclude).imp_of_mem
  intro piece other listed otherListed shorter addr both
  have same := carved.apart piece.block ⟨piece, listed, rfl⟩ other.block ⟨other, otherListed, rfl⟩ addr.toNat
    (covers_iff.mp both.1) (covers_iff.mp both.2)
  have level := congrArg Block.level same
  have := piece.bounded
  have := other.bounded
  rw [block_level, block_level] at level
  omega

private theorem covered_addr {nets : List Cidr} {addr : Ipv4Addr} :
    CoveredBy nets addr ↔ Block.Covered (blocks nets) addr.toNat := by
  rw [covered_blocks]
  constructor
  · intro given
    obtain ⟨net, listed, covers⟩ := given
    exact ⟨net, listed, covers_iff.mp covers⟩
  · intro given
    obtain ⟨net, listed, inside⟩ := given
    exact ⟨net, listed, covers_iff.mpr inside⟩

private theorem blocks_map (nets : List Cidr) : blocks nets = {b | b ∈ nets.map block} := by
  ext b
  simp [blocks]

theorem addressExclude_covers (canonical : net.Canonical) (inner : exclude.block ≤ net.block) (addr : Ipv4Addr) :
    CoveredBy (net.addressExclude exclude) addr ↔ net.Covers addr ∧ ¬ exclude.Covers addr := by
  rw [covered_addr, (addressExclude_carved canonical inner).2.exact, covers_iff, covers_iff]

theorem addressExclude_fewest (canonical : net.Canonical) (inner : exclude.block ≤ net.block) {others : List Cidr}
    (fills : ∀ addr, CoveredBy others addr ↔ net.Covers addr ∧ ¬ exclude.Covers addr) :
    (net.addressExclude exclude).length ≤ others.length := by
  have carved := (addressExclude_carved canonical inner).2
  rw [blocks_map] at carved
  have distinct : ((net.addressExclude exclude).map block).Nodup := by
    apply List.pairwise_map.mpr
    apply (addressExclude_lens net exclude).imp
    intro piece other shorter same
    have level := congrArg Block.level same
    have := piece.bounded
    have := other.bounded
    rw [block_level, block_level] at level
    omega
  have filled : ∀ x, Block.Covered {b | b ∈ others.map block} x ↔ x ∈ net.block ∧ x ∉ exclude.block := by
    intro x
    rw [← blocks_map]
    by_cases inside : x < 2 ^ 32
    · have number : (BitVec.ofNat 32 x).toNat = x := Nat.mod_eq_of_lt inside
      rw [← number, ← covered_addr, fills, covers_iff, covers_iff]
    · refine iff_of_false ?_ fun given => inside (block_lt given.1)
      intro given
      obtain ⟨other, _, within⟩ := covered_blocks.mp given
      exact inside (block_lt within)
  simpa only [List.length_map] using carved.length_le inner distinct filled

theorem excludeFrom_length (exclude : Cidr) (steps : Nat) (current : Cidr) (same : current.len + steps = exclude.len) :
    (excludeFrom exclude steps current same).length = steps := by
  induction steps generalizing current with
  | zero => rfl
  | succ steps ih =>
    rw [excludeFrom]
    split
    · exact congrArg Nat.succ (ih _ _)
    · exact congrArg Nat.succ (ih _ _)

/-- One network for each bit that `exclude` is longer. -/
theorem addressExclude_length (net exclude : Cidr) : (net.addressExclude exclude).length = exclude.len - net.len := by
  rw [addressExclude]
  split
  next shorter => exact excludeFrom_length exclude _ net _
  next long => rw [List.length_nil]; omega

theorem addressExclude_nil (netCanonical : net.Canonical) (excludeCanonical : exclude.Canonical)
    (inner : exclude.block ≤ net.block) : net.addressExclude exclude = [] ↔ net = exclude := by
  have fewer := (block_le_iff.mp inner).1
  constructor
  · intro empty
    have length := addressExclude_length net exclude
    rw [empty, List.length_nil] at length
    apply eq_of_block netCanonical excludeCanonical
    refine (Block.eq_of_mem exclude.block.first_mem (Block.mem_of_le inner exclude.block.first_mem) ?_).symm
    rw [block_level, block_level]
    omega
  · rintro rfl
    rw [addressExclude, dif_neg (Nat.lt_irrefl _)]

/-- Cutting `exclude` out of `net` overflows nowhere, not even where the sum may
wrap, and what is left of `net` cannot be written in fewer networks. -/
theorem addressExclude_exact (net exclude : Cidr) (netCanonical : net.Canonical) (excludeCanonical : exclude.Canonical)
    (contained : Pair.contains net.pair exclude.pair = some true) :
    ∃ pieces : List Cidr, Pair.addressExclude net.pair exclude.pair = some (pieces.map pair) ∧
      Pair.addressExcludeWith Pair.checkedAdd net.pair exclude.pair = some (pieces.map pair) ∧
      AllCanonical pieces ∧ pieces.Pairwise Disjoint ∧
      (∀ addr, CoveredBy pieces addr ↔ net.Covers addr ∧ ¬ exclude.Covers addr) ∧
      (∀ others : List Cidr, (∀ addr, CoveredBy others addr ↔ net.Covers addr ∧ ¬ exclude.Covers addr) →
        pieces.length ≤ others.length) ∧
      (pieces = [] ↔ net = exclude) := by
  rw [Pair.contains_pair, Option.some.injEq] at contained
  have inner := (contains_iff.mp contained).2
  refine ⟨net.addressExclude exclude, ?_, ?_, (addressExclude_carved netCanonical inner).1,
    addressExclude_disjoint netCanonical inner, addressExclude_covers netCanonical inner,
    fun others => addressExclude_fewest netCanonical inner, addressExclude_nil netCanonical excludeCanonical inner⟩
  · exact Pair.addressExclude_pair (fun _ _ _ => rfl) netCanonical exclude
  · exact Pair.addressExclude_pair (fun _ _ fits => if_pos fits) netCanonical exclude

/-- The nested test of the source. -/
theorem quarter_exact : ∃ pieces : List Cidr,
    Pair.addressExclude (10#32 <<< 24, 24) (10#32 <<< 24 ||| 64#32, 26) = some (pieces.map pair) ∧ pieces ≠ [] := by
  obtain ⟨pieces, result, _, _, _, _, _, nil⟩ := addressExclude_exact ⟨10#32 <<< 24, 24, by decide⟩
    ⟨10#32 <<< 24 ||| 64#32, 26, by decide⟩ (by decide) (by decide) (by decide)
  exact ⟨pieces, result, fun empty => absurd (nil.mp empty) (by decide)⟩

end Cidr

end Slipmesh.Router
