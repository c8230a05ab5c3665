import Slipmesh.Proofs.Collapse

/-! What `collapse` returns depends on the addresses alone: lists of networks
without host bits that cover the same addresses collapse to one list, and no
list that covers them is shorter. -/

namespace Slipmesh.Router.Cidr
open Net Library

def CoveredBy (nets : List Cidr) (addr : Ipv4Addr) : Prop := ∃ net ∈ nets, net.Covers addr

/-- No address is in both. -/
def Disjoint (net other : Cidr) : Prop := ∀ addr, ¬ (net.Covers addr ∧ other.Covers addr)

def AllCanonical (nets : List Cidr) : Prop := ∀ net ∈ nets, net.Canonical

instance (nets : List Cidr) : Decidable (AllCanonical nets) := inferInstanceAs (Decidable (∀ net ∈ nets, net.Canonical))

def SameCover (nets others : List Cidr) : Prop := ∀ addr, CoveredBy nets addr ↔ CoveredBy others addr

variable {nets others : List Cidr} {net other : Cidr} {addr : Ipv4Addr}

private theorem coveredBy_iff (canonical : AllCanonical nets) :
    CoveredBy nets addr ↔ Block.Covered (canonicalBlocks nets) addr.toNat := by
  constructor
  · intro given
    obtain ⟨net, listed, covers⟩ := given
    exact ⟨net.block, ⟨net, listed, canonical net listed, rfl⟩, covers_iff.mp covers⟩
  · intro given
    obtain ⟨block, member, inside⟩ := given
    obtain ⟨net, listed, _, rfl⟩ := member
    exact ⟨net, listed, covers_iff.mpr inside⟩

private theorem sameCover_iff (canonical : AllCanonical nets) (otherCanonical : AllCanonical others) :
    SameCover nets others ↔
      ∀ x, Block.Covered (canonicalBlocks nets) x ↔ Block.Covered (canonicalBlocks others) x := by
  constructor
  · intro same x
    -- A block of networks holds no number past the 32 bits of an address.
    by_cases inside : x < 2 ^ 32
    · have number : (BitVec.ofNat 32 x).toNat = x := Nat.mod_eq_of_lt inside
      rw [← number, ← coveredBy_iff canonical, ← coveredBy_iff otherCanonical]
      exact same _
    · have outside : ∀ list : List Cidr, ¬ Block.Covered (canonicalBlocks list) x := by
        intro list given
        obtain ⟨block, member, within⟩ := given
        obtain ⟨net, _, _, rfl⟩ := member
        exact inside (block_lt within)
      exact iff_of_false (outside nets) (outside others)
  · intro same addr
    rw [coveredBy_iff canonical, coveredBy_iff otherCanonical]
    exact same _

theorem collapse_canonical (canonical : AllCanonical nets) : AllCanonical (collapse nets) := by
  intro net listed
  by_contra loose
  exact loose (canonical net (((collapse_collapsed nets).loose net loose).mp listed).1)

theorem collapse_covers (canonical : AllCanonical nets) : SameCover (collapse nets) nets :=
  (sameCover_iff (collapse_canonical canonical) canonical).mpr (collapse_collapsed nets).covered

theorem collapse_disjoint (canonical : AllCanonical nets) : (collapse nets).Pairwise Disjoint := by
  have collapsed := collapse_collapsed nets
  apply collapsed.ascending.imp_of_mem
  intro net other listed otherListed below addr both
  have kept := collapse_canonical canonical
  have same := collapsed.normal.apart net.block ⟨net, listed, kept net listed, rfl⟩ other.block
    ⟨other, otherListed, kept other otherListed, rfl⟩ addr.toNat (covers_iff.mp both.1) (covers_iff.mp both.2)
  exact below.ne (eq_of_block (kept net listed) (kept other otherListed) same)

theorem collapse_unique (canonical : AllCanonical nets) (otherCanonical : AllCanonical others)
    (same : SameCover nets others) : collapse nets = collapse others := by
  have left := collapse_collapsed nets
  have right := collapse_collapsed others
  have kept := collapse_canonical canonical
  have otherKept := collapse_canonical otherCanonical
  have blocks : canonicalBlocks (collapse nets) = canonicalBlocks (collapse others) := by
    apply left.normal.unique right.normal
    intro x
    rw [left.covered, right.covered]
    exact (sameCover_iff canonical otherCanonical).mp same x
  apply ascending_ext left.ascending right.ascending
  intro net
  by_cases tight : net.Canonical
  · rw [← block_mem_canonicalBlocks tight, blocks, block_mem_canonicalBlocks tight]
  · exact iff_of_false (fun listed => tight (kept net listed)) fun listed => tight (otherKept net listed)

private theorem mergeRounds_length (fuel : Nat) (ascending : nets.Pairwise (· < ·)) :
    (mergeRounds fuel nets).length ≤ nets.length := by
  induction fuel generalizing nets with
  | zero => exact Nat.le_refl _
  | succ fuel ih =>
    have merged := (mergeRound_merges ascending).1
    have shorter : (mergeRound nets).1.length ≤ nets.length := by
      rw [merged]
      exact (sortDedup_length_le _).trans (List.length_filterMap_le ..)
    change (if (mergeRound nets).2 then mergeRounds fuel (mergeRound nets).1 else (mergeRound nets).1).length ≤ _
    split
    · exact (ih (merged ▸ sortDedup_ascending _)).trans shorter
    · exact shorter

theorem collapse_length_le (nets : List Cidr) : (collapse nets).length ≤ nets.length := by
  have kept := mergeRounds_length ((sortDedup (dropContained (sortDedup nets))).length + 1)
    (sortDedup_ascending (dropContained (sortDedup nets)))
  calc (collapse nets).length
    _ ≤ (sortDedup (dropContained (sortDedup nets))).length := kept
    _ ≤ (dropContained (sortDedup nets)).length := sortDedup_length_le _
    _ ≤ (sortDedup nets).length := List.length_filter_le ..
    _ ≤ nets.length := sortDedup_length_le _

/-- `collapse` is a normal form of the addresses its networks cover, and a
shortest list of networks that covers them. -/
theorem collapse_normalForm (nets : List Cidr) (canonical : AllCanonical nets) :
    AllCanonical (collapse nets) ∧ SameCover (collapse nets) nets ∧ (collapse nets).Pairwise Disjoint ∧
      ∀ others, AllCanonical others → SameCover nets others →
        collapse nets = collapse others ∧ (collapse nets).length ≤ others.length := by
  refine ⟨collapse_canonical canonical, collapse_covers canonical, collapse_disjoint canonical, ?_⟩
  intro others otherCanonical same
  have unique := collapse_unique canonical otherCanonical same
  exact ⟨unique, unique ▸ collapse_length_le others⟩

theorem halves_normalForm :
    AllCanonical [⟨10#32 <<< 24, 9, by decide⟩, ⟨10#32 <<< 24 ||| 1#32 <<< 23, 9, by decide⟩] ∧
      (collapse [⟨10#32 <<< 24, 9, by decide⟩, ⟨10#32 <<< 24 ||| 1#32 <<< 23, 9, by decide⟩]).Pairwise Disjoint :=
  ⟨by decide, (collapse_normalForm _ (by decide)).2.2.1⟩

end Slipmesh.Router.Cidr
