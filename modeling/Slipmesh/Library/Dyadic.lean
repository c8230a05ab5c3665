import Mathlib.Data.Nat.Basic
import Mathlib.Order.Basic
import Mathlib.Data.Set.Finite.Basic
import Mathlib.Order.Preorder.Finite
import Mathlib.Tactic.Linarith
import Mathlib.Tactic.Tauto

/-! Dyadic blocks of natural numbers. Two blocks are nested or disjoint, which
is what makes a set of blocks without siblings a normal form of its union. -/

namespace Slipmesh.Library

/-- The numbers whose quotient by `2 ^ level` is `index`. -/
@[ext] structure Block where
  level : Nat
  index : Nat
deriving DecidableEq, Repr

namespace Block

instance : Membership Nat Block := ⟨fun block x => x / 2 ^ block.level = block.index⟩

instance (x : Nat) (block : Block) : Decidable (x ∈ block) :=
  inferInstanceAs (Decidable (x / 2 ^ block.level = block.index))

instance : LE Block :=
  ⟨fun inner outer => inner.level ≤ outer.level ∧
    inner.index / 2 ^ (outer.level - inner.level) = outer.index⟩

instance (inner outer : Block) : Decidable (inner ≤ outer) :=
  inferInstanceAs (Decidable (_ ∧ _))

def first (block : Block) : Nat := block.index * 2 ^ block.level

def lower (block : Block) : Block := ⟨block.level - 1, 2 * block.index⟩

def upper (block : Block) : Block := ⟨block.level - 1, 2 * block.index + 1⟩

def parent (block : Block) : Block := ⟨block.level + 1, block.index / 2⟩

def sibling (block : Block) : Block :=
  ⟨block.level, if block.index % 2 = 0 then block.index + 1 else block.index - 1⟩

variable {x y : Nat} {a b c block : Block}

theorem mem_iff : x ∈ block ↔ x / 2 ^ block.level = block.index := Iff.rfl

theorem first_mem (block : Block) : block.first ∈ block :=
  Nat.mul_div_cancel _ (Nat.two_pow_pos _)

theorem first_le (inside : x ∈ block) : block.first ≤ x := by
  rw [mem_iff] at inside
  rw [first, ← inside]
  exact Nat.div_mul_le_self x _

private theorem div_level {low high : Nat} (order : low ≤ high) (x : Nat) :
    x / 2 ^ low / 2 ^ (high - low) = x / 2 ^ high := by
  rw [Nat.div_div_eq_div_mul, ← pow_add, Nat.add_sub_cancel' order]

theorem mem_of_le (inner : a ≤ b) (inside : x ∈ a) : x ∈ b := by
  obtain ⟨order, same⟩ := inner
  rw [mem_iff] at inside ⊢
  rw [← same, ← inside, div_level order]

/-- Two blocks that share a number are nested, the shorter inside the longer. -/
theorem le_of_mem (left : x ∈ a) (right : x ∈ b) (order : a.level ≤ b.level) : a ≤ b := by
  rw [mem_iff] at left right
  exact ⟨order, by rw [← left, ← right, div_level order]⟩

theorem nested (left : x ∈ a) (right : x ∈ b) : a ≤ b ∨ b ≤ a := by
  rcases le_total a.level b.level with order | order
  · exact .inl (le_of_mem left right order)
  · exact .inr (le_of_mem right left order)

instance : PartialOrder Block where
  le_refl block := ⟨Nat.le_refl _, by simp⟩
  le_trans a b c first second :=
    le_of_mem a.first_mem (mem_of_le second (mem_of_le first a.first_mem)) (first.1.trans second.1)
  le_antisymm a b first second := by
    have level := Nat.le_antisymm first.1 second.1
    have index := first.2
    rw [level, Nat.sub_self, pow_zero, Nat.div_one] at index
    exact Block.ext level index

theorem eq_of_mem (left : x ∈ a) (right : x ∈ b) (level : a.level = b.level) : a = b :=
  le_antisymm (le_of_mem left right level.le) (le_of_mem right left level.ge)

/-- Strictly inside means strictly shorter. -/
theorem level_lt (inner : a < b) : a.level < b.level := by
  refine lt_of_le_of_ne inner.le.1 fun same => inner.ne ?_
  exact eq_of_mem a.first_mem (mem_of_le inner.le a.first_mem) same

private theorem div_succ (x level : Nat) : x / 2 ^ (level + 1) = x / 2 ^ level / 2 := by
  rw [pow_succ, Nat.div_div_eq_div_mul]

theorem mem_parent : x ∈ block.parent ↔ x ∈ block ∨ x ∈ block.sibling := by
  simp only [mem_iff, parent, sibling, div_succ]
  split <;> omega

theorem le_parent (block : Block) : block ≤ block.parent :=
  le_of_mem block.first_mem (mem_parent.mpr (.inl block.first_mem)) (Nat.le_succ _)

@[simp] theorem sibling_level (block : Block) : block.sibling.level = block.level := rfl

@[simp] theorem sibling_sibling (block : Block) : block.sibling.sibling = block := by
  ext
  · rfl
  · simp only [sibling]
    split <;> split <;> omega

theorem sibling_ne (block : Block) : block.sibling ≠ block := by
  intro same
  have index := congrArg Block.index same
  simp only [sibling] at index
  split at index <;> omega

@[simp] theorem sibling_parent (block : Block) : block.sibling.parent = block.parent := by
  ext
  · rfl
  · simp only [parent, sibling]
    split <;> omega

theorem parent_le (inner : a < b) : a.parent ≤ b :=
  le_of_mem (mem_of_le a.le_parent a.first_mem) (mem_of_le inner.le a.first_mem) (level_lt inner)

/-- A block strictly inside a parent is inside one of its two halves. -/
theorem le_half (inner : a < block.parent) : a ≤ block ∨ a ≤ block.sibling := by
  have shorter : a.level ≤ block.level := Nat.le_of_lt_succ (level_lt inner)
  rcases mem_parent.mp (mem_of_le inner.le a.first_mem) with inside | inside
  · exact .inl (le_of_mem a.first_mem inside shorter)
  · exact .inr (le_of_mem a.first_mem inside shorter)

theorem mem_halves (divisible : 0 < block.level) : x ∈ block ↔ x ∈ block.lower ∨ x ∈ block.upper := by
  obtain ⟨level, same⟩ := Nat.exists_eq_succ_of_ne_zero divisible.ne'
  simp only [mem_iff, lower, upper, same, Nat.succ_eq_add_one, Nat.add_sub_cancel, div_succ]
  omega

theorem upper_eq_sibling (block : Block) : block.upper = block.lower.sibling := by
  ext
  · rfl
  · simp [upper, lower, sibling]

/-- The numbers covered by a family of blocks. -/
def Covered (family : Set Block) (x : Nat) : Prop := ∃ block ∈ family, x ∈ block

def Apart (family : Set Block) : Prop := ∀ a ∈ family, ∀ b ∈ family, ∀ x, x ∈ a → x ∈ b → a = b

/-- No two blocks of the family overlap and no two of them halve one block. -/
structure Normal (family : Set Block) : Prop where
  apart : Apart family
  reduced : ∀ a ∈ family, a.sibling ∉ family

/-- In a normal family a block that is covered is covered by one member. The
induction is on the block's level: its two halves cannot be two members. -/
theorem Normal.le_member {family : Set Block} (normal : Normal family) (block : Block)
    (inner : ∀ x ∈ block, Covered family x) : ∃ member ∈ family, block ≤ member := by
  obtain ⟨level, index⟩ := block
  induction level generalizing index with
  | zero =>
    obtain ⟨member, listed, inside⟩ := inner _ (first_mem ⟨0, index⟩)
    exact ⟨member, listed, le_of_mem (first_mem _) inside (Nat.zero_le _)⟩
  | succ level ih =>
    have divisible : 0 < (⟨level + 1, index⟩ : Block).level := Nat.succ_pos _
    obtain ⟨left, leftListed, leftInner⟩ := ih (2 * index)
      fun x inside => inner x ((mem_halves divisible).mpr (.inl inside))
    obtain ⟨right, rightListed, rightInner⟩ := ih (2 * index + 1)
      fun x inside => inner x ((mem_halves divisible).mpr (.inr inside))
    have grow : ∀ (half member : Block), half.parent = ⟨level + 1, index⟩ → half ≤ member →
        half ≠ member → (⟨level + 1, index⟩ : Block) ≤ member := by
      intro half member whole inside different
      exact whole ▸ parent_le (lt_of_le_of_ne inside different)
    by_cases leftSame : (⟨level, 2 * index⟩ : Block) = left
    · by_cases rightSame : (⟨level, 2 * index + 1⟩ : Block) = right
      · refine absurd ?_ (normal.reduced left leftListed)
        rw [← leftSame]
        convert rightListed using 1
        rw [← rightSame]
        exact (upper_eq_sibling ⟨level + 1, index⟩).symm
      · exact ⟨right, rightListed, grow _ _ (by ext <;> simp [parent]; omega) rightInner rightSame⟩
    · exact ⟨left, leftListed, grow _ _ (by ext <;> simp [parent]) leftInner leftSame⟩

private theorem Normal.subset_of_covered {left right : Set Block} (leftNormal : Normal left) (rightNormal : Normal right)
    (same : ∀ x, Covered left x ↔ Covered right x) : left ⊆ right := by
  intro a listed
  obtain ⟨outer, outerListed, inside⟩ := rightNormal.le_member a fun x member => (same x).mp ⟨a, listed, member⟩
  obtain ⟨back, backListed, around⟩ := leftNormal.le_member outer fun x member => (same x).mpr ⟨outer, outerListed, member⟩
  have shared := mem_of_le (inside.trans around) a.first_mem
  have whole : a = back := leftNormal.apart a listed back backListed _ a.first_mem shared
  rwa [le_antisymm inside (whole ▸ around)]

/-- A union of blocks has one normal family. -/
theorem Normal.unique {left right : Set Block} (leftNormal : Normal left) (rightNormal : Normal right)
    (same : ∀ x, Covered left x ↔ Covered right x) : left = right := by
  apply Set.Subset.antisymm
  · exact leftNormal.subset_of_covered rightNormal same
  · exact rightNormal.subset_of_covered leftNormal fun x => (same x).symm

def outermost (family : Set Block) : Set Block := {a ∈ family | ∀ b ∈ family, ¬ a < b}

/-- Siblings are replaced by their parent. -/
def joined (family : Set Block) : Set Block :=
  {a ∈ family | a.sibling ∉ family} ∪ {a | ∃ half ∈ family, half.sibling ∈ family ∧ half.parent = a}

theorem outermost_apart (family : Set Block) : Apart (outermost family) := by
  intro a left b right x inA inB
  rcases nested inA inB with below | below
  · exact (eq_or_lt_of_le below).resolve_right (left.2 b right.1)
  · exact ((eq_or_lt_of_le below).resolve_right (right.2 a left.1)).symm

theorem outermost_covered {family : Set Block} (finite : family.Finite) :
    Covered (outermost family) x ↔ Covered family x := by
  constructor
  · intro given
    obtain ⟨a, member, inside⟩ := given
    exact ⟨a, member.1, inside⟩
  · intro given
    obtain ⟨a, member, inside⟩ := given
    obtain ⟨top, above, maximal⟩ := finite.exists_le_maximal member
    refine ⟨top, ⟨maximal.prop, fun b other strict => ?_⟩, mem_of_le above inside⟩
    exact strict.not_ge (maximal.le_of_ge other strict.le)

theorem joined_covered {family : Set Block} : Covered (joined family) x ↔ Covered family x := by
  constructor
  · intro given
    obtain ⟨a, member, inside⟩ := given
    rcases member with member | ⟨half, member, other, rfl⟩
    · exact ⟨a, member.1, inside⟩
    · rcases mem_parent.mp inside with inside | inside
      · exact ⟨half, member, inside⟩
      · exact ⟨half.sibling, other, inside⟩
  · intro given
    obtain ⟨a, member, inside⟩ := given
    by_cases other : a.sibling ∈ family
    · exact ⟨a.parent, .inr ⟨a, member, other, rfl⟩, mem_parent.mpr (.inl inside)⟩
    · exact ⟨a, .inl ⟨member, other⟩, inside⟩

theorem joined_apart {family : Set Block} (apart : Apart family) : Apart (joined family) := by
  -- A block that stays cannot meet a parent: it would be one of the halves.
  have clash : ∀ (x : Nat) a half, a ∈ family → a.sibling ∉ family → half ∈ family → half.sibling ∈ family →
      x ∈ a → x ∈ half.parent → False := by
    intro x a half member alone listed other inA inside
    rcases mem_parent.mp inside with inside | inside
    · exact alone (apart a member half listed x inA inside ▸ other)
    · refine alone (apart a member half.sibling other x inA inside ▸ ?_)
      rwa [sibling_sibling]
  intro a left b right x inA inB
  rcases left with left | ⟨half, listed, other, rfl⟩
  · rcases right with right | ⟨half, listed, other, rfl⟩
    · exact apart a left.1 b right.1 x inA inB
    · exact (clash x a half left.1 left.2 listed other inA inB).elim
  · rcases right with right | ⟨second, secondListed, secondOther, rfl⟩
    · exact (clash x b half right.1 right.2 listed other inB inA).elim
    · rcases mem_parent.mp inA with inA | inA
      · rcases mem_parent.mp inB with inB | inB
        · rw [apart half listed second secondListed x inA inB]
        · rw [apart half listed second.sibling secondOther x inA inB, sibling_parent]
      · rcases mem_parent.mp inB with inB | inB
        · rw [← sibling_parent half, apart half.sibling other second secondListed x inA inB]
        · rw [← sibling_parent half, apart half.sibling other second.sibling secondOther x inA inB, sibling_parent]

theorem joined_of_reduced {family : Set Block} (reduced : ∀ a ∈ family, a.sibling ∉ family) :
    joined family = family := by
  apply Set.Subset.antisymm
  · intro a member
    rcases member with member | ⟨half, member, other, _⟩
    · exact member.1
    · exact absurd other (reduced half member)
  · intro a member
    exact .inl ⟨member, reduced a member⟩

/-- `pieces` fill `whole` but for `hole`, each as large as a block can be. -/
structure Carved (whole hole : Block) (pieces : Set Block) : Prop where
  exact : ∀ x, Covered pieces x ↔ x ∈ whole ∧ x ∉ hole
  maximal : ∀ piece ∈ pieces, ∀ x ∈ piece, ∀ d : Block, x ∈ d → (d ≤ piece ↔ d ≤ whole ∧ ¬ hole ≤ d)

theorem sibling_disjoint (left : x ∈ block) (right : x ∈ block.sibling) : False :=
  block.sibling_ne (eq_of_mem right left (sibling_level block))

theorem Carved.self (block : Block) : Carved block block ∅ := by
  refine ⟨?_, ?_⟩
  · intro x
    simp [Covered]
  · intro piece member
    exact absurd member (Set.notMem_empty _)

/-- A hole in one half leaves the other half whole. -/
theorem Carved.parent {half hole : Block} {pieces : Set Block} (carved : Carved half hole pieces)
    (inner : hole ≤ half) : Carved half.parent hole (insert half.sibling pieces) := by
  have apart : ∀ d : Block, d ≤ half.parent → ¬ hole ≤ d → d ≤ half ∨ d ≤ half.sibling := by
    intro d inside free
    refine le_half (lt_of_le_of_ne inside ?_)
    rintro rfl
    exact free (inner.trans half.le_parent)
  have other : half.sibling ≤ half.parent := half.sibling_parent ▸ half.sibling.le_parent
  refine ⟨?_, ?_⟩
  · intro x
    have missed : x ∈ half.sibling → x ∉ hole := fun right left => sibling_disjoint (mem_of_le inner left) right
    have covered := carved.exact x
    simp only [Covered, Set.mem_insert_iff, exists_eq_or_imp, mem_parent] at covered ⊢
    rw [covered]
    tauto
  · intro piece member x inside d within
    rcases member with rfl | member
    · constructor
      · intro below
        refine ⟨below.trans other, fun holed => ?_⟩
        exact sibling_disjoint (mem_of_le inner hole.first_mem) (mem_of_le (holed.trans below) hole.first_mem)
      · rintro ⟨below, free⟩
        rcases apart d below free with left | right
        · exact (sibling_disjoint (mem_of_le left within) inside).elim
        · exact right
    · have inHalf := ((carved.exact x).mp ⟨piece, member, inside⟩).1
      rw [carved.maximal piece member x inside d within]
      constructor
      · rintro ⟨below, free⟩
        exact ⟨below.trans half.le_parent, free⟩
      · rintro ⟨below, free⟩
        rcases apart d below free with left | right
        · exact ⟨left, free⟩
        · exact (sibling_disjoint inHalf (mem_of_le right within)).elim

theorem Carved.apart {whole hole : Block} {pieces : Set Block} (carved : Carved whole hole pieces) : Apart pieces := by
  intro a left b right x inA inB
  have insideA := (carved.maximal a left x inA a inA).mp le_rfl
  have insideB := (carved.maximal b right x inB b inB).mp le_rfl
  apply le_antisymm
  · exact (carved.maximal b right x inB a inA).mpr insideA
  · exact (carved.maximal a left x inA b inB).mpr insideB

/-- No family that fills `whole` but for `hole` has fewer blocks: each of its
blocks lies inside one piece, and every piece needs one. -/
theorem Carved.length_le {whole hole : Block} {pieces family : List Block}
    (carved : Carved whole hole {b | b ∈ pieces}) (inner : hole ≤ whole) (distinct : pieces.Nodup)
    (fills : ∀ x, Covered {b | b ∈ family} x ↔ x ∈ whole ∧ x ∉ hole) : pieces.length ≤ family.length := by
  have inside : ∀ piece ∈ pieces, ∃ b ∈ family, b ≤ piece := by
    intro piece listed
    obtain ⟨b, member, within⟩ := (fills _).mpr ((carved.exact _).mp ⟨piece, listed, piece.first_mem⟩)
    have free : ¬ hole ≤ b := fun holed =>
      ((fills _).mp ⟨b, member, mem_of_le holed hole.first_mem⟩).2 hole.first_mem
    refine ⟨b, member, (carved.maximal piece listed _ piece.first_mem b within).mpr ⟨?_, free⟩⟩
    have filled := ((fills _).mp ⟨b, member, b.first_mem⟩).1
    rcases nested b.first_mem filled with below | above
    · exact below
    · exact absurd (inner.trans above) free
  choose! chosen member below using inside
  have separate : (pieces.map chosen).Nodup := by
    apply List.Nodup.map_on _ distinct
    intro a left b right same
    have shared := mem_of_le (below a left) (chosen a).first_mem
    exact carved.apart a left b right _ shared (mem_of_le (below b right) (same ▸ (chosen a).first_mem))
  have within : pieces.map chosen ⊆ family := by
    intro b listed
    obtain ⟨piece, piecesListed, rfl⟩ := List.mem_map.mp listed
    exact member piece piecesListed
  simpa only [List.length_map] using separate.length_le_of_subset within

theorem lower_parent (divisible : 0 < block.level) : block.lower.parent = block := by
  obtain ⟨level, index⟩ := block
  simp only [parent, lower, Block.mk.injEq]
  simp only at divisible
  omega

theorem upper_parent (divisible : 0 < block.level) : block.upper.parent = block := by
  rw [upper_eq_sibling, sibling_parent, lower_parent divisible]

theorem lower_sibling (block : Block) : block.lower.sibling = block.upper := block.upper_eq_sibling.symm

theorem upper_sibling (block : Block) : block.upper.sibling = block.lower := by
  rw [upper_eq_sibling, sibling_sibling]

end Block

end Slipmesh.Library
