import Slipmesh.Proofs.CidrBlocks
import Slipmesh.Router.Resolver
import Mathlib.Data.List.Induction

/-! What the nested exclusion loop leaves of one network. A network without host
bits always takes its addresses out; one with host bits only as long as the piece
that holds the address has not been cut below its own size. -/

namespace Slipmesh.Router
open Library Cidr

def blocks (nets : List Cidr) : Set Block := {b | ∃ net ∈ nets, net.block = b}

theorem covered_blocks {nets : List Cidr} {x : Nat} : Block.Covered (blocks nets) x ↔ ∃ net ∈ nets, x ∈ net.block := by
  simp [Block.Covered, blocks]

private theorem blocks_cons (net : Cidr) (nets : List Cidr) : blocks (net :: nets) = insert net.block (blocks nets) := by
  ext b
  simp [blocks, eq_comm]

/-- Of a network as long as what is taken out of it, nothing is left. -/
private theorem carved_none {net exclude : Cidr} (inner : exclude.block ≤ net.block) (level : net.len = exclude.len) :
    Block.Carved net.block exclude.block (blocks []) := by
  have whole : net.block = exclude.block := by
    refine (Block.eq_of_mem exclude.block.first_mem (Block.mem_of_le inner exclude.block.first_mem) ?_).symm
    rw [block_level, block_level, level]
  have none : blocks [] = ∅ := by simp [blocks]
  rw [none, whole]
  exact Block.Carved.self _

private theorem excludeFrom_carved (exclude : Cidr) (steps : Nat) (current : Cidr)
    (same : current.len + steps = exclude.len) (canonical : current.Canonical)
    (inner : exclude.block ≤ current.block) :
    (∀ piece ∈ excludeFrom exclude steps current same, piece.Canonical) ∧
      Block.Carved current.block exclude.block (blocks (excludeFrom exclude steps current same)) := by
  induction steps generalizing current with
  | zero => exact ⟨by simp [excludeFrom], carved_none inner same⟩
  | succ steps ih =>
    have fits : current.len + 1 ≤ 32 := by have := exclude.bounded; omega
    have divisible : 0 < current.block.level := by rw [block_level]; omega
    obtain ⟨lowerCanonical, lowerBlock⟩ := lowerHalf_block canonical fits
    obtain ⟨upperCanonical, upperBlock⟩ := upperHalf_block canonical fits
    rw [excludeFrom]
    split
    · rename_i holed
      obtain ⟨_, below⟩ := contains_iff.mp holed
      obtain ⟨all, carved⟩ := ih (current.lowerHalf fits) _ lowerCanonical below
      refine ⟨List.forall_mem_cons.mpr ⟨upperCanonical, all⟩, ?_⟩
      have grown := carved.parent below
      rw [lowerBlock, Block.lower_parent divisible, Block.lower_sibling, ← upperBlock] at grown
      rw [blocks_cons]
      exact grown
    · rename_i missed
      have below : exclude.block ≤ (current.upperHalf fits).block := by
        have strict : exclude.block < current.block.lower.parent := by
          rw [Block.lower_parent divisible]
          refine lt_of_le_of_ne inner fun whole => ?_
          have level := congrArg Block.level whole
          rw [block_level, block_level] at level
          omega
        rw [upperBlock, ← Block.lower_sibling]
        rcases Block.le_half strict with lower | upper
        · exact absurd (contains_iff.mpr ⟨lowerCanonical, lowerBlock ▸ lower⟩) missed
        · exact upper
      obtain ⟨all, carved⟩ := ih (current.upperHalf fits) _ upperCanonical below
      refine ⟨List.forall_mem_cons.mpr ⟨lowerCanonical, all⟩, ?_⟩
      have grown := carved.parent below
      rw [upperBlock, Block.upper_parent divisible, Block.upper_sibling, ← lowerBlock] at grown
      rw [blocks_cons]
      exact grown

theorem addressExclude_carved {net exclude : Cidr} (canonical : net.Canonical) (inner : exclude.block ≤ net.block) :
    (∀ piece ∈ net.addressExclude exclude, piece.Canonical) ∧
      Block.Carved net.block exclude.block (blocks (net.addressExclude exclude)) := by
  rw [addressExclude]
  split
  · exact excludeFrom_carved exclude _ net _ canonical inner
  · rename_i long
    have shorter := (block_le_iff.mp inner).1
    exact ⟨by simp, carved_none inner (by omega)⟩

/-- One exclusion on one pending network. -/
structure Punched (exclude net : Cidr) (pieces : List Cidr) : Prop where
  canonical : ∀ piece ∈ pieces, piece.Canonical
  exact : ∀ x, (∃ piece ∈ pieces, x ∈ piece.block) ↔
    x ∈ net.block ∧ ¬ (x ∈ exclude.block ∧ (exclude.Canonical ∨ exclude.block ≤ net.block))
  maximal : ∀ piece ∈ pieces, ∀ x ∈ piece.block, ∀ d : Block, x ∈ d →
    (d ≤ piece.block ↔ d ≤ net.block ∧ ¬ exclude.block ≤ d)

theorem punch_punched {net : Cidr} (exclude : Cidr) (canonical : net.Canonical) :
    Punched exclude net (punch exclude net) := by
  rw [punch]
  split
  · rename_i swallowed
    obtain ⟨whole, below⟩ := contains_iff.mp swallowed
    refine ⟨by simp, ?_, by simp⟩
    intro x
    simp only [List.not_mem_nil, false_and, exists_false, false_iff]
    rintro ⟨inside, kept⟩
    exact kept ⟨Block.mem_of_le below inside, .inl whole⟩
  rename_i outside
  split
  · rename_i holed
    obtain ⟨_, below⟩ := contains_iff.mp holed
    obtain ⟨all, carved⟩ := addressExclude_carved canonical below
    refine ⟨all, ?_, ?_⟩
    · intro x
      rw [← covered_blocks, carved.exact]
      simp [below]
    · intro piece member x inside d within
      exact carved.maximal piece.block ⟨piece, member, rfl⟩ x inside d within
  · rename_i missed
    have far : ¬ exclude.block ≤ net.block := fun below => missed (contains_iff.mpr ⟨canonical, below⟩)
    refine ⟨by simpa using canonical, ?_, ?_⟩
    · intro x
      simp only [List.mem_singleton, exists_eq_left]
      refine ⟨fun inside => ⟨inside, ?_⟩, fun ⟨inside, _⟩ => inside⟩
      rintro ⟨struck, whole | below⟩
      · rcases Block.nested inside struck with above | below
        · exact outside (contains_iff.mpr ⟨whole, above⟩)
        · exact far below
      · exact far below
    · intro piece member x inside d within
      rw [List.mem_singleton.mp member]
      exact ⟨fun below => ⟨below, fun holed => far (holed.trans below)⟩, And.left⟩

/-- The exclusion takes `x` out of `whole` when it is reached, after `earlier`. -/
def Strikes (whole : Block) (earlier : List Cidr) (exclude : Cidr) (x : Nat) : Prop :=
  x ∈ exclude.block ∧ (exclude.Canonical ∨ exclude.block ≤ whole ∧ ∀ other ∈ earlier, ¬ other.block ≤ exclude.block)

def Struck (whole : Block) (excludes : List Cidr) (x : Nat) : Prop :=
  ∃ earlier exclude later, excludes = earlier ++ exclude :: later ∧ Strikes whole earlier exclude x

private theorem struck_append {whole : Block} {excludes : List Cidr} {last : Cidr} {x : Nat} :
    Struck whole (excludes ++ [last]) x ↔ Struck whole excludes x ∨ Strikes whole excludes last x := by
  constructor
  · rintro ⟨earlier, exclude, later, same, strikes⟩
    rcases List.eq_nil_or_concat later with rfl | ⟨later, final, rfl⟩
    · obtain ⟨rfl, rfl⟩ := List.append_inj' same rfl |>.imp id fun tail => (List.cons.inj tail).1
      exact .inr strikes
    · have same : excludes ++ [last] = (earlier ++ exclude :: later) ++ [final] := by simpa using same
      exact .inl ⟨earlier, exclude, later, (List.append_inj' same rfl).1, strikes⟩
  · rintro (⟨earlier, exclude, later, rfl, strikes⟩ | strikes)
    · exact ⟨earlier, exclude, later ++ [last], by simp, strikes⟩
    · exact ⟨excludes, last, [], rfl, strikes⟩

/-- The invariant of the loop, for one address: every pending piece that holds it
is as large as the exclusions so far allow, and one holds it until it is struck. -/
structure Pending (whole : Block) (excludes pending : List Cidr) (x : Nat) : Prop where
  canonical : ∀ piece ∈ pending, piece.Canonical
  maximal : ∀ piece ∈ pending, x ∈ piece.block → ∀ d : Block, x ∈ d →
    (d ≤ piece.block ↔ d ≤ whole ∧ ∀ exclude ∈ excludes, ¬ exclude.block ≤ d)
  left : (∃ piece ∈ pending, x ∈ piece.block) ↔ ¬ Struck whole excludes x

private theorem pending_step {whole : Block} {excludes pending : List Cidr} {x : Nat} (last : Cidr)
    (before : Pending whole excludes pending x) :
    Pending whole (excludes ++ [last]) (pending.flatMap (punch last)) x := by
  refine ⟨?_, ?_, ?_⟩
  · intro piece member
    obtain ⟨net, listed, member⟩ := List.mem_flatMap.mp member
    exact (punch_punched last (before.canonical net listed)).canonical piece member
  · intro piece member inside d within
    obtain ⟨net, listed, member⟩ := List.mem_flatMap.mp member
    have punched := punch_punched last (before.canonical net listed)
    have whole := ((punched.exact x).mp ⟨piece, member, inside⟩).1
    rw [punched.maximal piece member x inside d within, before.maximal net listed whole d within, and_assoc]
    simp [or_imp, forall_and]
  · rw [struck_append, not_or, ← before.left]
    constructor
    · rintro ⟨piece, member, inside⟩
      obtain ⟨net, listed, member⟩ := List.mem_flatMap.mp member
      obtain ⟨held, kept⟩ := ((punch_punched last (before.canonical net listed)).exact x).mp ⟨piece, member, inside⟩
      refine ⟨⟨net, listed, held⟩, fun ⟨struck, reason⟩ => kept ⟨struck, ?_⟩⟩
      rwa [before.maximal net listed held _ struck]
    · rintro ⟨⟨net, listed, held⟩, spared⟩
      have kept : x ∈ net.block ∧ ¬ (x ∈ last.block ∧ (last.Canonical ∨ last.block ≤ net.block)) := by
        refine ⟨held, fun ⟨struck, reason⟩ => spared ⟨struck, ?_⟩⟩
        rwa [← before.maximal net listed held _ struck]
      obtain ⟨piece, member, inside⟩ := ((punch_punched last (before.canonical net listed)).exact x).mpr kept
      exact ⟨piece, List.mem_flatMap.mpr ⟨net, listed, member⟩, inside⟩

theorem punchAll_pending {net : Cidr} (canonical : net.Canonical) (excludes : List Cidr) {x : Nat}
    (inside : x ∈ net.block) : Pending net.block excludes (punchAll excludes net) x := by
  induction excludes using List.reverseRecOn with
  | nil =>
    refine ⟨by simpa [punchAll] using canonical, by simp [punchAll], ?_⟩
    simp [punchAll, Struck, inside]
  | append_singleton excludes last ih =>
    rw [punchAll, List.foldl_append]
    exact pending_step last ih

/-- Nothing grows: a piece that is left holds only addresses of the network. -/
theorem punchAll_subset {net : Cidr} (canonical : net.Canonical) (excludes : List Cidr) :
    ∀ piece ∈ punchAll excludes net, piece.Canonical ∧ ∀ x ∈ piece.block, x ∈ net.block := by
  induction excludes using List.reverseRecOn with
  | nil => simpa [punchAll] using canonical
  | append_singleton excludes last ih =>
    intro piece member
    rw [punchAll, List.foldl_append] at member
    obtain ⟨held, listed, member⟩ := List.mem_flatMap.mp member
    obtain ⟨heldCanonical, subset⟩ := ih held listed
    have punched := punch_punched last heldCanonical
    refine ⟨punched.canonical piece member, fun x inside => subset x ?_⟩
    exact ((punched.exact x).mp ⟨piece, member, inside⟩).1

end Slipmesh.Router
