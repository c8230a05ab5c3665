import Slipmesh.Proofs.CidrBlocks
import Mathlib.Tactic.Ring

/-! Collapsing is taking the outermost blocks and joining siblings until none are
left. Networks with host bits take no part: one stays unless it lies strictly
inside a network without them. -/

namespace Slipmesh.Router.Cidr
open Library

variable {net other half : Cidr} {nets : List Cidr}

/-! ### Parents and siblings -/

private theorem ext_addr (addr : net.addr.toNat = other.addr.toNat) (len : net.len = other.len) : net = other := by
  cases net
  cases other
  cases BitVec.eq_of_toNat_eq addr
  cases (show _ = _ from len)
  rfl

private theorem parentAddr_toNat (net : Cidr) :
    net.parentAddr.toNat = net.addr.toNat / 2 ^ (32 - (net.len - 1)) * 2 ^ (32 - (net.len - 1)) :=
  networkAddr_toNat _ ((Nat.sub_le ..).trans net.bounded)

theorem parent_canonical (net : Cidr) : net.parent.Canonical := by
  rw [canonical_iff, Block.first, block]
  change net.parentAddr.toNat = net.parentAddr.toNat / 2 ^ (32 - (net.len - 1)) * 2 ^ (32 - (net.len - 1))
  rw [parentAddr_toNat, Nat.mul_div_cancel _ (Nat.two_pow_pos _)]

private theorem parent_fits (positive : net.len ≠ 0) : net.parent.len + 1 = net.len :=
  Nat.succ_pred_eq_of_ne_zero positive

theorem parent_block (positive : net.len ≠ 0) : net.parent.block = net.block.parent := by
  have := net.bounded
  have level : 32 - (net.len - 1) = 32 - net.len + 1 := by omega
  rw [block, Block.parent, block]
  change (⟨32 - (net.len - 1), net.parentAddr.toNat / 2 ^ (32 - (net.len - 1))⟩ : Block) = _
  rw [parentAddr_toNat, Nat.mul_div_cancel _ (Nat.two_pow_pos _), level, pow_succ, Nat.div_div_eq_div_mul]

private theorem fits (positive : net.len ≠ 0) : net.parent.len + 1 ≤ 32 := parent_fits positive ▸ net.bounded

private theorem isLower_iff (positive : net.len ≠ 0) :
    net.isLower = true ↔ net = net.parent.lowerHalf (fits positive) := by
  rw [isLower, beq_iff_eq]
  constructor
  · intro same
    exact ext_addr (congrArg BitVec.toNat same) (parent_fits positive).symm
  · intro same
    exact congrArg Common.Cidr.addr same

private theorem sibling_of_lower (positive : net.len ≠ 0) (lower : net.isLower = true) :
    net.sibling = net.parent.upperHalf (fits positive) := by
  obtain ⟨canonical, upper⟩ := upperHalf_block net.parent_canonical (fits positive)
  have start : net.parentAddr.toNat = net.parent.block.first := canonical_iff.mp net.parent_canonical
  have := net.bounded
  refine ext_addr ?_ (parent_fits positive).symm
  rw [canonical_iff.mp canonical, upper, sibling, if_pos lower, BitVec.toNat_or, BitVec.toNat_shiftLeft, start]
  change net.parent.block.first ||| 1 <<< (32 - net.len) % 2 ^ 32 = _
  have level : net.parent.block.level = 32 - net.len + 1 := by
    rw [block_level, ← parent_fits positive]
    have := fits positive
    omega
  have small : 2 ^ (32 - net.len) < 2 ^ 32 := Nat.pow_lt_pow_right (by decide) (by omega)
  have half : 2 ^ (32 - net.len) < 2 ^ (32 - net.len + 1) := Nat.pow_lt_pow_right (by decide) (by omega)
  rw [Nat.shiftLeft_eq, Nat.one_mul, Nat.mod_eq_of_lt small, Block.first, Block.first, Block.upper, level,
    Nat.mul_comm, ← Nat.two_pow_add_eq_or_of_lt half, Nat.add_sub_cancel, pow_succ]
  change _ = (2 * net.parent.block.index + 1) * 2 ^ (32 - net.len)
  ring

private theorem sibling_of_not_lower (positive : net.len ≠ 0) (upper : net.isLower = false) :
    net.sibling = net.parent.lowerHalf (fits positive) := by
  refine ext_addr ?_ (parent_fits positive).symm
  rw [sibling, if_neg (by simp [upper])]
  rfl

theorem isLower_canonical (positive : net.len ≠ 0) (lower : net.isLower = true) : net.Canonical := by
  rw [(isLower_iff positive).mp lower]
  exact (lowerHalf_block net.parent_canonical _).1

theorem sibling_canonical (positive : net.len ≠ 0) : net.sibling.Canonical := by
  cases lower : net.isLower with
  | true => exact sibling_of_lower positive lower ▸ (upperHalf_block net.parent_canonical _).1
  | false => exact sibling_of_not_lower positive lower ▸ (lowerHalf_block net.parent_canonical _).1

private theorem parent_divisible (positive : net.len ≠ 0) : 0 < net.parent.block.level := by
  have := fits positive
  rw [block_level]
  omega

private theorem sibling_parent_block (positive : net.len ≠ 0) : net.sibling.parent.block = net.parent.block := by
  have divisible := parent_divisible positive
  rw [parent_block (show net.sibling.len ≠ 0 from positive)]
  cases lower : net.isLower with
  | true =>
    rw [sibling_of_lower positive lower, (upperHalf_block net.parent_canonical _).2, Block.upper_parent divisible]
  | false =>
    rw [sibling_of_not_lower positive lower, (lowerHalf_block net.parent_canonical _).2, Block.lower_parent divisible]

theorem sibling_parent (positive : net.len ≠ 0) : net.sibling.parent = net.parent :=
  eq_of_block (parent_canonical _) (parent_canonical _) (sibling_parent_block positive)

theorem sibling_isLower (positive : net.len ≠ 0) : net.sibling.isLower = !net.isLower := by
  have parent := sibling_parent positive
  have halves : net.parent.upperHalf (fits positive) ≠ net.parent.lowerHalf (fits positive) := by
    intro same
    have blocks := congrArg block same
    rw [(upperHalf_block net.parent_canonical _).2, (lowerHalf_block net.parent_canonical _).2,
      Block.upper_eq_sibling] at blocks
    exact Block.sibling_ne _ blocks
  have reads : net.sibling.isLower = true ↔ net.sibling = net.parent.lowerHalf (fits positive) := by
    have own := isLower_iff (show net.sibling.len ≠ 0 from positive)
    simpa only [parent] using own
  cases lower : net.isLower with
  | true =>
    have upper := sibling_of_lower positive lower
    exact Bool.eq_false_iff.mpr fun low => halves (upper.symm.trans (reads.mp low))
  | false => exact reads.mpr (sibling_of_not_lower positive lower)

theorem sibling_block (positive : net.len ≠ 0) (canonical : net.Canonical) : net.sibling.block = net.block.sibling := by
  have divisible := parent_divisible positive
  have whole : net.block.parent = net.parent.block := (parent_block positive).symm
  cases lower : net.isLower with
  | true =>
    have same : net.block = net.parent.block.lower := by
      conv_lhs => rw [(isLower_iff positive).mp lower]
      exact (lowerHalf_block net.parent_canonical _).2
    rw [sibling_of_lower positive lower, (upperHalf_block net.parent_canonical _).2, same, Block.lower_sibling]
  | false =>
    have same : net.block = net.parent.block.upper := by
      have inside : net.addr.toNat ∈ net.parent.block := whole ▸ Block.mem_parent.mpr (.inl net.self_mem)
      have level : net.block.level = net.parent.block.level - 1 := by rw [← whole]; rfl
      rcases (Block.mem_halves divisible).mp inside with below | above
      · have low : net = net.parent.lowerHalf (fits positive) := by
          apply eq_of_block canonical (lowerHalf_block net.parent_canonical _).1
          rw [(lowerHalf_block net.parent_canonical _).2]
          exact Block.eq_of_mem net.self_mem below level
        rw [(isLower_iff positive).mpr low] at lower
        cases lower
      · exact Block.eq_of_mem net.self_mem above level
    rw [sibling_of_not_lower positive lower, (lowerHalf_block net.parent_canonical _).2, same, Block.upper_sibling]

theorem sibling_sibling (positive : net.len ≠ 0) (canonical : net.Canonical) : net.sibling.sibling = net := by
  have other := sibling_canonical positive
  have later : net.sibling.len ≠ 0 := positive
  apply eq_of_block (sibling_canonical later) canonical
  rw [sibling_block later other, sibling_block positive canonical, Block.sibling_sibling]

theorem sibling_lt (positive : net.len ≠ 0) (upper : net.isLower = false) : net.sibling < net := by
  have below : net.parentAddr.toNat ≤ net.addr.toNat := by
    rw [parentAddr_toNat]
    exact Nat.div_mul_le_self ..
  have different : net.parentAddr.toNat ≠ net.addr.toNat := by
    intro same
    rw [isLower, beq_eq_false_iff_ne] at upper
    exact upper (BitVec.eq_of_toNat_eq same).symm
  refine lt_iff.mpr (.inl ?_)
  rw [sibling_of_not_lower positive upper]
  exact lt_of_le_of_ne below different

theorem lt_sibling (positive : net.len ≠ 0) (lower : net.isLower = true) : net < net.sibling := by
  have upper : net.sibling.isLower = false := by rw [sibling_isLower positive, lower]; rfl
  have below := sibling_lt (show net.sibling.len ≠ 0 from positive) upper
  rwa [sibling_sibling positive (isLower_canonical positive lower)] at below

/-! ### One round of merging -/

def Pairs (nets : List Cidr) (net : Cidr) : Prop := net.len ≠ 0 ∧ net.Canonical ∧ net.sibling ∈ nets

instance (nets : List Cidr) (net : Cidr) : Decidable (Pairs nets net) := inferInstanceAs (Decidable (_ ∧ _ ∧ _))

/-- What a round leaves of a network: the lower of two siblings turns into their
parent, the upper one is consumed. -/
def merges (nets : List Cidr) (net : Cidr) : Option Cidr :=
  if Pairs nets net then (if net.isLower then some net.parent else none) else some net

/-- The networks whose flag is set once `done` have been visited. -/
def Taken (done : List Cidr) (net : Cidr) : Prop :=
  net.len ≠ 0 ∧ (net ∈ done ∨ net.isLower = false ∧ net.Canonical ∧ net.sibling ∈ done)

/-- The invariant of the pairing loop. -/
structure Visited (nets done : List Cidr) (state : Merging) : Prop where
  merged : state.merged = done.filterMap (merges nets)
  used : ∀ i net, nets[i]? = some net → (state.used i = true ↔ Taken done net)
  changed : state.changed = true ↔ ∃ net ∈ done, Pairs nets net ∧ net.isLower = true

private theorem search_some {used : Nat → Bool} {index found : Nat} {target : Cidr}
    (hit : (nets.zipIdx.findIdx? fun (other, position) =>
      position ≠ index && !used position && other == target) = some found) :
    nets[found]? = some target ∧ found ≠ index ∧ used found = false := by
  obtain ⟨inside, holds, _⟩ := List.findIdx?_eq_some_iff_getElem.mp hit
  rw [List.length_zipIdx] at inside
  simp only [List.getElem_zipIdx, Nat.zero_add, Bool.and_eq_true, decide_eq_true_eq, Bool.not_eq_true', beq_iff_eq]
    at holds
  exact ⟨by rw [List.getElem?_eq_getElem inside, holds.2], holds.1.1, holds.1.2⟩

private theorem search_none {used : Nat → Bool} {index i : Nat} {target : Cidr}
    (miss : (nets.zipIdx.findIdx? fun (other, position) =>
      position ≠ index && !used position && other == target) = none)
    (listed : nets[i]? = some target) (elsewhere : i ≠ index) : used i = true := by
  have member : (target, i) ∈ nets.zipIdx := List.mem_zipIdx_iff_getElem?.mpr listed
  have refused := List.findIdx?_eq_none_iff.mp miss _ member
  simpa [elsewhere] using refused

/-- What is known of the network in turn: the visited ones are those below it. -/
structure Turn (nets done : List Cidr) (net : Cidr) (index : Nat) : Prop where
  listed : nets[index]? = some net
  distinct : ∀ (i j : Nat) (a b : Cidr), nets[i]? = some a → nets[j]? = some b → (i = j ↔ a = b)
  visited : ∀ other ∈ nets, other ∈ done ↔ other < net

private theorem turn_of_split {todo : List Cidr} {done : List Cidr} (split : nets = done ++ net :: todo)
    (ascending : nets.Pairwise (· < ·)) : Turn nets done net done.length := by
  have here : nets[done.length]? = some net := by simp [split]
  refine ⟨here, ?_, ?_⟩
  · intro i j a b first second
    obtain ⟨inside, _⟩ := List.getElem?_eq_some_iff.mp first
    have distinct : nets.Nodup := ascending.imp fun order => order.ne
    rw [← List.getElem?_inj inside distinct, first, second, Option.some_inj]
  · intro other member
    rw [split] at ascending member
    obtain ⟨_, later, below⟩ := List.pairwise_append.mp ascending
    constructor
    · intro visited
      exact below other visited net (List.mem_cons_self ..)
    · intro before
      rcases List.mem_append.mp member with visited | member
      · exact visited
      · rcases List.mem_cons.mp member with rfl | member
        · exact absurd before (lt_irrefl _)
        · exact absurd before ((List.pairwise_cons.mp later).1 other member).asymm

section
variable {done : List Cidr} {state : Merging} {index : Nat}

private theorem not_visited (turn : Turn nets done net index) : net ∉ done := by
  intro member
  exact lt_irrefl _ ((turn.visited net (List.mem_of_getElem? turn.listed)).mp member)

private theorem taken_append : Taken (done ++ [net]) other ↔
    Taken done other ∨ other.len ≠ 0 ∧ (other = net ∨ other.isLower = false ∧ other.Canonical ∧ other.sibling = net) := by
  simp only [Taken, List.mem_append, List.mem_singleton]
  tauto

private theorem upper_sibling_visited (turn : Turn nets done net index) (pairs : Pairs nets net)
    (upper : net.isLower = false) : Taken done net :=
  ⟨pairs.1, .inr ⟨upper, pairs.2.1, (turn.visited _ pairs.2.2).mpr (sibling_lt pairs.1 upper)⟩⟩

private theorem visit_taken (turn : Turn nets done net index) (before : Visited nets done state)
    (subset : ∀ other ∈ done, other ∈ nets) (taken : Taken done net) : Visited nets (done ++ [net]) state := by
  obtain ⟨positive, visited | ⟨upper, canonical, low⟩⟩ := taken
  · exact absurd visited (not_visited turn)
  have pairs : Pairs nets net := ⟨positive, canonical, subset _ low⟩
  refine ⟨?_, ?_, ?_⟩
  · simp [before.merged, merges, pairs, upper]
  · intro i other listed
    rw [before.used i other listed, taken_append]
    refine ⟨.inl, ?_⟩
    rintro (taken | ⟨later, rfl | ⟨otherUpper, _, rfl⟩⟩)
    · exact taken
    · exact ⟨positive, .inr ⟨upper, canonical, low⟩⟩
    · rw [sibling_isLower later, otherUpper] at upper
      cases upper
  · rw [before.changed]
    simp [or_and_right, exists_or, upper]

private theorem visit_whole (turn : Turn nets done net index) (before : Visited nets done state)
    (whole : net.len = 0) : Visited nets (done ++ [net]) (state.push net) := by
  have alone : ¬ Pairs nets net := fun pairs => pairs.1 whole
  refine ⟨?_, ?_, ?_⟩
  · simp [Merging.push, before.merged, merges, alone]
  · intro i other listed
    rw [taken_append]
    refine (before.used i other listed).trans ⟨.inl, ?_⟩
    rintro (taken | ⟨later, rfl | ⟨_, _, rfl⟩⟩)
    · exact taken
    · exact absurd whole later
    · exact absurd whole later
  · apply before.changed.trans
    simp [or_and_right, exists_or, alone]

private theorem visit_pair (turn : Turn nets done net index) (before : Visited nets done state)
    (positive : net.len ≠ 0) (lower : net.isLower = true) {found : Nat} (partner : nets[found]? = some net.sibling) :
    Visited nets (done ++ [net]) { ((state.mark index).mark found).push net.parent with changed := true } := by
  have canonical := isLower_canonical positive lower
  have pairs : Pairs nets net := ⟨positive, canonical, List.mem_of_getElem? partner⟩
  refine ⟨?_, ?_, ?_⟩
  · simp [Merging.push, Merging.mark, before.merged, merges, pairs, lower]
  · intro i other listed
    have here := turn.distinct i index other net listed turn.listed
    have there := turn.distinct i found other net.sibling listed partner
    have marked : (((state.mark index).mark found).used i = true) ↔ other = net.sibling ∨ other = net ∨ Taken done other := by
      rw [← before.used i other listed, ← here, ← there]
      simp only [Merging.mark, Function.update_apply]
      by_cases second : i = found
      · simp [second]
      by_cases first : i = index
      · simp [first]
      · simp [first, second]
    apply marked.trans
    rw [taken_append]
    constructor
    · rintro (rfl | rfl | taken)
      · have upper : net.sibling.isLower = false := by rw [sibling_isLower positive, lower]; rfl
        exact .inr ⟨positive, .inr ⟨upper, sibling_canonical positive, sibling_sibling positive canonical⟩⟩
      · exact .inr ⟨positive, .inl rfl⟩
      · exact .inl taken
    · rintro (taken | ⟨later, rfl | ⟨_, otherCanonical, rfl⟩⟩)
      · exact .inr (.inr taken)
      · exact .inr (.inl rfl)
      · exact .inl (sibling_sibling later otherCanonical).symm
  · simp only [true_iff]
    exact ⟨net, by simp, pairs, lower⟩

private theorem visit_alone (turn : Turn nets done net index) (before : Visited nets done state)
    (positive : net.len ≠ 0) (alone : ¬ Pairs nets net)
    (free : ∀ i, nets[i]? = some net.sibling → i ≠ index → state.used i = true) :
    Visited nets (done ++ [net]) ((state.mark index).push net) := by
  refine ⟨?_, ?_, ?_⟩
  · simp [Merging.push, Merging.mark, before.merged, merges, alone]
  · intro i other listed
    have here := turn.distinct i index other net listed turn.listed
    have marked : ((state.mark index).used i = true) ↔ other = net ∨ Taken done other := by
      rw [← before.used i other listed, ← here]
      simp only [Merging.mark, Function.update_apply]
      by_cases first : i = index
      · simp [first]
      · simp [first]
    apply marked.trans
    rw [taken_append]
    constructor
    · rintro (rfl | taken)
      · exact .inr ⟨positive, .inl rfl⟩
      · exact .inl taken
    · rintro (taken | ⟨later, rfl | ⟨upper, otherCanonical, rfl⟩⟩)
      · exact .inr taken
      · exact .inl rfl
      · have other_sibling := sibling_sibling later otherCanonical
        refine .inr ((before.used i other listed).mp (free i (other_sibling.symm ▸ listed) ?_))
        intro same
        have whole := here.mp same
        exact absurd (sibling_lt later upper) (whole ▸ lt_irrefl _)
  · apply before.changed.trans
    simp [or_and_right, exists_or, alone]

/-- Every turn of the loop keeps the invariant, whichever branch it takes. -/
private theorem visit (turn : Turn nets done net index) (before : Visited nets done state)
    (subset : ∀ other ∈ done, other ∈ nets) : Visited nets (done ++ [net]) (mergeStep nets state net index) := by
  have used := before.used index net turn.listed
  rw [mergeStep]
  split
  · rename_i flag
    exact visit_taken turn before subset (used.mp flag)
  rename_i unused
  split
  · exact visit_whole turn before ‹_›
  rename_i positive
  split
  · rename_i found hit
    obtain ⟨partner, _, free⟩ := search_some hit
    cases lower : net.isLower with
    | true => exact visit_pair turn before positive lower partner
    | false =>
      -- The partner of anything but a lower half comes earlier, so its flag is set.
      have member := List.mem_of_getElem? partner
      have visited := (turn.visited _ member).mpr (sibling_lt positive lower)
      have taken := (before.used found _ partner).mpr ⟨positive, .inl visited⟩
      rw [free] at taken
      cases taken
  · rename_i miss
    have free : ∀ i, nets[i]? = some net.sibling → i ≠ index → state.used i = true :=
      fun i listed elsewhere => search_none miss listed elsewhere
    refine visit_alone turn before positive ?_ free
    intro pairs
    cases lower : net.isLower with
    | false => exact unused (used.mpr (upper_sibling_visited turn pairs lower))
    | true =>
      obtain ⟨i, listed⟩ := List.mem_iff_getElem?.mp pairs.2.2
      have later := lt_sibling positive lower
      have elsewhere : i ≠ index := fun same => later.ne ((turn.distinct i index _ _ listed turn.listed).mp same).symm
      obtain ⟨_, visited | ⟨_, _, visited⟩⟩ := (before.used i _ listed).mp (free i listed elsewhere)
      · exact absurd ((turn.visited _ pairs.2.2).mp visited) later.asymm
      · rw [sibling_sibling positive pairs.2.1] at visited
        exact not_visited turn visited

end

private theorem visit_all (ascending : nets.Pairwise (· < ·)) (todo done : List Cidr) (state : Merging)
    (split : nets = done ++ todo) (before : Visited nets done state) :
    Visited nets nets ((todo.zipIdx done.length).foldl (fun state (net, index) => mergeStep nets state net index) state) := by
  induction todo generalizing done state with
  | nil =>
    rw [List.append_nil] at split
    simpa only [List.zipIdx_nil, List.foldl_nil, split] using before
  | cons net todo ih =>
    have turn := turn_of_split split ascending
    have subset : ∀ other ∈ done, other ∈ nets := fun other member => split ▸ List.mem_append_left _ member
    have next := ih (done ++ [net]) _ (by simp [split]) (visit turn before subset)
    simpa only [List.zipIdx_cons, List.foldl_cons, List.length_append, List.length_singleton] using next

theorem mergeRound_merges (ascending : nets.Pairwise (· < ·)) :
    (mergeRound nets).1 = sortDedup (nets.filterMap (merges nets)) ∧
      ((mergeRound nets).2 = true ↔ ∃ net ∈ nets, Pairs nets net ∧ net.isLower = true) := by
  have start : Visited nets [] ⟨[], fun _ => false, false⟩ := by
    refine ⟨rfl, ?_, ?_⟩
    · simp [Taken]
    · simp
  have final := visit_all ascending nets [] _ rfl start
  exact ⟨congrArg sortDedup final.merged, final.changed⟩

/-! ### The blocks of a round -/

theorem block_mem_canonicalBlocks (canonical : net.Canonical) : net.block ∈ canonicalBlocks nets ↔ net ∈ nets := by
  constructor
  · intro given
    obtain ⟨other, member, otherCanonical, same⟩ := given
    rwa [← eq_of_block otherCanonical canonical same]
  · intro member
    exact ⟨net, member, canonical, rfl⟩

private theorem whole_sibling (whole : net.len = 0) : net.block.sibling ∉ canonicalBlocks nets := by
  intro given
  obtain ⟨other, _, _, same⟩ := given
  have level := congrArg Block.level same
  have index := congrArg Block.index same
  have zero : ∀ addr : BitVec 32, addr.toNat / 2 ^ 32 = 0 := fun addr => Nat.div_eq_of_lt addr.isLt
  rw [block_level, Block.sibling_level, block_level, whole] at level
  simp only [block, Block.sibling, whole, level, Nat.sub_zero, zero] at index
  exact absurd index (by decide)

theorem pairs_iff (canonical : net.Canonical) : Pairs nets net ↔ net.block.sibling ∈ canonicalBlocks nets := by
  by_cases positive : net.len = 0
  · exact ⟨fun pairs => absurd positive pairs.1, fun member => absurd member (whole_sibling positive)⟩
  · rw [← sibling_block positive canonical, block_mem_canonicalBlocks (sibling_canonical positive)]
    exact ⟨fun pairs => pairs.2.2, fun member => ⟨positive, canonical, member⟩⟩

private theorem merges_loose (loose : ¬ net.Canonical) : merges nets net = some net :=
  if_neg fun pairs => loose pairs.2.1

private theorem loose_round (loose : ¬ net.Canonical) : net ∈ nets.filterMap (merges nets) ↔ net ∈ nets := by
  rw [List.mem_filterMap]
  constructor
  · intro given
    obtain ⟨other, member, merged⟩ := given
    rw [merges] at merged
    split at merged
    · split at merged
      · exact absurd (Option.some.inj merged ▸ other.parent_canonical) loose
      · cases merged
    · exact Option.some.inj merged ▸ member
  · intro member
    exact ⟨net, member, merges_loose loose⟩

private theorem canonicalBlocks_round :
    canonicalBlocks (nets.filterMap (merges nets)) = Block.joined (canonicalBlocks nets) := by
  apply Set.Subset.antisymm
  · intro b given
    obtain ⟨net, member, canonical, same⟩ := given
    obtain ⟨other, listed, merged⟩ := List.mem_filterMap.mp member
    rw [merges] at merged
    split at merged
    · rename_i pairs
      split at merged
      · cases merged
        refine .inr ⟨other.block, ⟨other, listed, pairs.2.1, rfl⟩, (pairs_iff pairs.2.1).mp pairs, ?_⟩
        rw [← same, parent_block pairs.1]
      · cases merged
    · rename_i alone
      cases merged
      exact same ▸ .inl ⟨⟨net, listed, canonical, rfl⟩, fun sibling => alone ((pairs_iff canonical).mpr sibling)⟩
  · intro b member
    rcases member with ⟨⟨net, listed, canonical, rfl⟩, alone⟩ | ⟨_, ⟨net, listed, canonical, rfl⟩, other, rfl⟩
    · have kept : merges nets net = some net := if_neg fun pairs => alone ((pairs_iff canonical).mp pairs)
      exact ⟨net, List.mem_filterMap.mpr ⟨net, listed, kept⟩, canonical, rfl⟩
    · have pairs := (pairs_iff canonical).mpr other
      cases lower : net.isLower with
      | true =>
        have merged : merges nets net = some net.parent := by rw [merges, if_pos pairs, if_pos lower]
        exact ⟨net.parent, List.mem_filterMap.mpr ⟨net, listed, merged⟩, net.parent_canonical, parent_block pairs.1⟩
      | false =>
        have back := sibling_sibling pairs.1 canonical
        have siblingPairs : Pairs nets net.sibling := ⟨pairs.1, sibling_canonical pairs.1, back.symm ▸ listed⟩
        have siblingLower : net.sibling.isLower = true := by rw [sibling_isLower pairs.1, lower]; rfl
        have merged : merges nets net.sibling = some net.sibling.parent := by
          rw [merges, if_pos siblingPairs, if_pos siblingLower]
        refine ⟨net.sibling.parent, List.mem_filterMap.mpr ⟨net.sibling, pairs.2.2, merged⟩, parent_canonical _, ?_⟩
        rw [sibling_parent pairs.1, parent_block pairs.1]

private theorem canonicalBlocks_sortDedup (nets : List Cidr) : canonicalBlocks (sortDedup nets) = canonicalBlocks nets := by
  simp only [canonicalBlocks, mem_sortDedup]

private theorem round_shrinks (changed : ∃ net ∈ nets, Pairs nets net ∧ net.isLower = true) :
    (sortDedup (nets.filterMap (merges nets))).length < nets.length := by
  obtain ⟨net, member, pairs, lower⟩ := changed
  have back := sibling_sibling pairs.1 pairs.2.1
  have siblingPairs : Pairs nets net.sibling := ⟨pairs.1, sibling_canonical pairs.1, back.symm ▸ member⟩
  have siblingUpper : net.sibling.isLower = false := by rw [sibling_isLower pairs.1, lower]; rfl
  have consumed : merges nets net.sibling = none := by
    rw [merges, if_pos siblingPairs, if_neg (by simp [siblingUpper])]
  have shorter := List.length_filterMap_lt_length_iff_exists.mpr ⟨net.sibling, pairs.2.2, consumed⟩
  exact lt_of_le_of_lt (sortDedup_length_le _) shorter

/-- What the rounds keep of the networks they start from. -/
structure Merged (before after : List Cidr) : Prop where
  ascending : after.Pairwise (· < ·)
  normal : Block.Normal (canonicalBlocks after)
  covered : ∀ x, Block.Covered (canonicalBlocks after) x ↔ Block.Covered (canonicalBlocks before) x
  loose : ∀ net, ¬ net.Canonical → (net ∈ after ↔ net ∈ before)

private theorem round_unchanged (ascending : nets.Pairwise (· < ·))
    (same : ¬ ∃ net ∈ nets, Pairs nets net ∧ net.isLower = true) :
    (∀ b ∈ canonicalBlocks nets, b.sibling ∉ canonicalBlocks nets) ∧ sortDedup (nets.filterMap (merges nets)) = nets := by
  have reduced : ∀ b ∈ canonicalBlocks nets, b.sibling ∉ canonicalBlocks nets := by
    intro b given other
    obtain ⟨net, listed, canonical, block⟩ := given
    rw [← block] at other
    have pairs := (pairs_iff canonical).mpr other
    cases lower : net.isLower with
    | true => exact same ⟨net, listed, pairs, lower⟩
    | false =>
      have back := sibling_sibling pairs.1 canonical
      have siblingLower : net.sibling.isLower = true := by rw [sibling_isLower pairs.1, lower]; rfl
      exact same ⟨net.sibling, pairs.2.2, ⟨pairs.1, sibling_canonical pairs.1, back.symm ▸ listed⟩, siblingLower⟩
  refine ⟨reduced, ascending_ext (sortDedup_ascending _) ascending ?_⟩
  intro net
  rw [mem_sortDedup]
  by_cases canonical : net.Canonical
  · rw [← block_mem_canonicalBlocks canonical, canonicalBlocks_round, Block.joined_of_reduced reduced,
      block_mem_canonicalBlocks canonical]
  · exact loose_round canonical

/-- The rounds end, within as many as there are networks, with no siblings left. -/
theorem mergeRounds_merged (fuel : Nat) (enough : nets.length < fuel) (ascending : nets.Pairwise (· < ·))
    (apart : Block.Apart (canonicalBlocks nets)) : Merged nets (mergeRounds fuel nets) := by
  induction fuel generalizing nets with
  | zero => omega
  | succ fuel ih =>
    obtain ⟨merged, changed⟩ := mergeRound_merges ascending
    rw [mergeRounds]
    simp only [merged]
    split
    · rename_i flag
      have shorter := round_shrinks (changed.mp flag)
      have blocks : canonicalBlocks (sortDedup (nets.filterMap (merges nets))) = Block.joined (canonicalBlocks nets) := by
        rw [canonicalBlocks_sortDedup, canonicalBlocks_round]
      have rest := ih (by omega) (sortDedup_ascending _) (blocks ▸ Block.joined_apart apart)
      refine ⟨rest.ascending, rest.normal, ?_, ?_⟩
      · intro x
        rw [rest.covered, blocks, Block.joined_covered]
      · intro net loose
        rw [rest.loose net loose, mem_sortDedup, loose_round loose]
    · rename_i flag
      obtain ⟨reduced, same⟩ := round_unchanged ascending fun exists_pair => flag (changed.mpr exists_pair)
      rw [same]
      exact ⟨ascending, ⟨apart, reduced⟩, fun _ => Iff.rfl, fun _ _ => Iff.rfl⟩

/-! ### Collapsing -/

private theorem mem_dropContained : net ∈ dropContained nets ↔ net ∈ nets ∧ ∀ b ∈ canonicalBlocks nets, ¬ net.block < b := by
  rw [dropContained, List.mem_filter]
  refine and_congr_right fun _ => ?_
  rw [Bool.not_eq_true', List.any_eq_false]
  constructor
  · intro kept b given strict
    obtain ⟨other, listed, canonical, same⟩ := given
    subst same
    have level := Block.level_lt strict
    rw [block_level, block_level] at level
    have shorter : other.len < net.len := by omega
    have different : other ≠ net := fun same => absurd (same ▸ shorter) (lt_irrefl _)
    apply kept other listed
    simp [different, shorter, contains_iff.mpr ⟨canonical, strict.le⟩]
  · intro outer other listed holds
    simp only [Bool.and_eq_true, decide_eq_true_eq] at holds
    obtain ⟨⟨_, shorter⟩, contained⟩ := holds
    obtain ⟨canonical, below⟩ := contains_iff.mp contained
    refine outer other.block ⟨other, listed, canonical, rfl⟩ (lt_of_le_of_ne below fun same => ?_)
    have level := congrArg Block.level same
    rw [block_level, block_level] at level
    have := net.bounded
    omega

private theorem canonicalBlocks_finite (nets : List Cidr) : (canonicalBlocks nets).Finite := by
  apply (nets.map block).finite_toSet.subset
  intro b given
  obtain ⟨net, listed, _, same⟩ := given
  exact List.mem_map.mpr ⟨net, listed, same⟩

/-- The meaning of `collapse`. -/
structure Collapsed (nets out : List Cidr) : Prop where
  ascending : out.Pairwise (· < ·)
  normal : Block.Normal (canonicalBlocks out)
  covered : ∀ x, Block.Covered (canonicalBlocks out) x ↔ Block.Covered (canonicalBlocks nets) x
  loose : ∀ net, ¬ net.Canonical → (net ∈ out ↔ net ∈ nets ∧ ∀ b ∈ canonicalBlocks nets, ¬ net.block < b)

theorem Collapsed.of_members {before out : List Cidr} (collapsed : Collapsed before out)
    (same : ∀ net, net ∈ before ↔ net ∈ nets) : Collapsed nets out := by
  have blocks : canonicalBlocks before = canonicalBlocks nets := by simp only [canonicalBlocks, same]
  refine ⟨collapsed.ascending, collapsed.normal, ?_, ?_⟩
  · intro x
    rw [collapsed.covered, blocks]
  · intro net loose
    rw [collapsed.loose net loose, same, blocks]

theorem collapse_collapsed (nets : List Cidr) : Collapsed nets (collapse nets) := by
  have kept : ∀ net, net ∈ sortDedup (dropContained (sortDedup nets)) ↔
      net ∈ nets ∧ ∀ b ∈ canonicalBlocks nets, ¬ net.block < b := by
    intro net
    rw [mem_sortDedup, mem_dropContained, mem_sortDedup, canonicalBlocks_sortDedup]
  have blocks : canonicalBlocks (sortDedup (dropContained (sortDedup nets))) = Block.outermost (canonicalBlocks nets) := by
    apply Set.Subset.antisymm
    · intro b given
      obtain ⟨net, listed, canonical, same⟩ := given
      obtain ⟨member, outer⟩ := (kept net).mp listed
      exact same ▸ ⟨⟨net, member, canonical, rfl⟩, outer⟩
    · intro b given
      obtain ⟨⟨net, listed, canonical, same⟩, outer⟩ := given
      exact ⟨net, (kept net).mpr ⟨listed, same ▸ outer⟩, canonical, same⟩
  have merged := mergeRounds_merged ((sortDedup (dropContained (sortDedup nets))).length + 1) (Nat.lt_succ_self _)
    (sortDedup_ascending _) (blocks ▸ Block.outermost_apart _)
  refine ⟨merged.ascending, merged.normal, ?_, ?_⟩
  · intro x
    rw [collapse, merged.covered, blocks, Block.outermost_covered (canonicalBlocks_finite nets)]
  · intro net loose
    rw [collapse, merged.loose net loose, kept]

end Slipmesh.Router.Cidr
