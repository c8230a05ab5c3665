import Slipmesh.Proofs.AwgConfig

/-! What one pass does to the kernel's routes and to the daemon's record of them.
Calls may fail anywhere; where none failed the outcome is exact. -/

namespace Slipmesh.Awg
open Library

variable {ν : Type} [DecidableEq ν] {naming : Naming ν} {index other : UInt32} {world : World ν} {ok : Nat → Bool}
  {turn : String × Nat}

/-! ### The additions -/

section
variable {state : Progress ν}

omit [DecidableEq ν] in
private theorem refusal {route : Option ν} {outcome : Bool} (refused : ∀ r, route = some r → outcome = true → False) :
    route = none ∨ outcome = false := by
  cases route with
  | none => exact .inl rfl
  | some r =>
    cases outcome with
    | false => exact .inr rfl
    | true => exact (refused r rfl rfl).elim

/-- Every way a turn of the inner loop can go. -/
theorem visit_cases (naming : Naming ν) (index : UInt32) (ok : Nat → Bool) (state : Progress ν) (turn : String × Nat) :
    (turn.1 ∈ state.world.installed index ∧
      visit naming index ok state turn = { state with stillFresh := state.stillFresh.insert turn.1 }) ∨
    (turn.1 ∉ state.world.installed index ∧ ∃ route, naming.name turn.1 = some route ∧
      visit naming index ok state turn = ⟨state.world.add index route turn.1, state.stillFresh.insert turn.1⟩) ∨
    ((naming.name turn.1 = none ∨ ok turn.2 = false) ∧
      visit naming index ok state turn = { state with world := state.world.fail index }) := by
  rw [visit]
  split
  · rename_i known
    exact .inl ⟨known, rfl⟩
  · rename_i unknown
    split
    · rename_i route named _
      exact .inr (.inl ⟨unknown, route, named, rfl⟩)
    · rename_i refused
      exact .inr (.inr ⟨refusal refused, rfl⟩)

omit [DecidableEq ν] in
private theorem fail_failed : (world.fail index).failed index = true := Function.update_self ..

private theorem visit_failed (failed : state.world.failed index = true) :
    (visit naming index ok state turn).world.failed index = true := by
  rcases visit_cases naming index ok state turn with ⟨_, same⟩ | ⟨_, _, _, same⟩ | ⟨_, same⟩
  · exact same ▸ failed
  · exact same ▸ failed
  · exact same ▸ fail_failed

private theorem visits_failed (naming : Naming ν) (ok : Nat → Bool) (turns : List (String × Nat)) (failed : state.world.failed index = true) :
    (turns.foldl (visit naming index ok) state).world.failed index = true :=
  run_invariant (fun state : Progress ν => state.world.failed index = true) (fun _ _ before => visit_failed before) turns failed

/-- The additions of a pass in which none failed. -/
structure Added (naming : Naming ν) (index : UInt32) (before : Progress ν) (cidrs : List String) (after : Progress ν) :
    Prop where
  fresh : ∀ cidr, cidr ∈ after.stillFresh ↔ cidr ∈ before.stillFresh ∨ cidr ∈ cidrs
  installed : ∀ cidr, cidr ∈ after.world.installed index ↔ cidr ∈ before.world.installed index ∨ cidr ∈ cidrs
  routes : ∀ route, route ∈ after.world.routes index ↔ route ∈ before.world.routes index ∨
    ∃ cidr ∈ cidrs, cidr ∉ before.world.installed index ∧ naming.name cidr = some route

omit [DecidableEq ν] in
private theorem added_known {cidr : String} {cidrs : List String} {after : Progress ν}
    (known : cidr ∈ state.world.installed index)
    (later : Added naming index { state with stillFresh := state.stillFresh.insert cidr } cidrs after) :
    Added naming index state (cidr :: cidrs) after := by
  refine ⟨?_, ?_, ?_⟩
  · intro c
    rw [later.fresh, List.mem_insert_iff, List.mem_cons]
    tauto
  · intro c
    rw [later.installed, List.mem_cons]
    constructor
    · exact Or.imp_right .inr
    · rintro (old | rfl | new)
      · exact .inl old
      · exact .inl known
      · exact .inr new
  · intro route
    rw [later.routes]
    refine or_congr_right ⟨?_, ?_⟩
    · intro given
      obtain ⟨c, member, holds⟩ := given
      exact ⟨c, List.mem_cons_of_mem _ member, holds⟩
    · intro given
      obtain ⟨c, member, absent, named⟩ := given
      rcases List.mem_cons.mp member with rfl | member
      · exact absurd known absent
      · exact ⟨c, member, absent, named⟩

private theorem added_new {cidr : String} {cidrs : List String} {route : ν} {after : Progress ν}
    (unknown : cidr ∉ state.world.installed index) (named : naming.name cidr = some route)
    (later : Added naming index ⟨state.world.add index route cidr, state.stillFresh.insert cidr⟩ cidrs after) :
    Added naming index state (cidr :: cidrs) after := by
  refine ⟨?_, ?_, ?_⟩
  · intro c
    rw [later.fresh, List.mem_insert_iff, List.mem_cons]
    tauto
  · intro c
    rw [later.installed]
    simp only [World.add, Function.update_self, List.mem_insert_iff, List.mem_cons]
    tauto
  · intro r
    rw [later.routes]
    simp only [World.add, Function.update_self, List.mem_insert_iff, not_or, List.exists_mem_cons_iff]
    constructor
    · rintro ((rfl | old) | ⟨c, member, ⟨_, absent⟩, holds⟩)
      · exact .inr (.inl ⟨unknown, named⟩)
      · exact .inl old
      · exact .inr (.inr ⟨c, member, absent, holds⟩)
    · rintro (old | ⟨_, first⟩ | ⟨c, member, absent, holds⟩)
      · exact .inl (.inr old)
      · exact .inl (.inl (Option.some.inj (first.symm.trans named)))
      · by_cases same : c = cidr
        · exact .inl (.inl (Option.some.inj (holds.symm.trans (same ▸ named))))
        · exact .inr ⟨c, member, ⟨same, absent⟩, holds⟩

private theorem visits_added (cidrs : List String) (start : Nat)
    (passed : ((cidrs.zipIdx start).foldl (visit naming index ok) state).world.failed index = false) :
    Added naming index state cidrs ((cidrs.zipIdx start).foldl (visit naming index ok) state) := by
  induction cidrs generalizing state start with
  | nil => exact ⟨by simp, by simp, by simp⟩
  | cons cidr cidrs ih =>
    rw [List.zipIdx_cons, List.foldl_cons] at passed ⊢
    have later := ih (start + 1) passed
    rcases visit_cases naming index ok state (cidr, start) with ⟨known, same⟩ | ⟨unknown, route, named, same⟩ | ⟨_, same⟩
    · exact added_known known (by rwa [same] at later ⊢)
    · exact added_new unknown named (by rwa [same] at later ⊢)
    · have broken := visits_failed naming ok (cidrs.zipIdx (start + 1))
        (same ▸ fail_failed : (visit naming index ok state (cidr, start)).world.failed index = true)
      rw [passed] at broken
      cases broken

end

/-! ### The removals -/

theorem removeStale_cases (naming : Naming ν) (index : UInt32) (ok : Nat → Bool) (world : World ν) (turn : String × Nat) :
    (∃ route, naming.name turn.1 = some route ∧ removeStale naming index ok world turn = world.remove index route turn.1) ∨
      ((naming.name turn.1 = none ∨ ok turn.2 = false) ∧ removeStale naming index ok world turn = world.fail index) := by
  rw [removeStale]
  split
  · rename_i route named _
    exact .inl ⟨route, named, rfl⟩
  · rename_i refused
    exact .inr ⟨refusal refused, rfl⟩

private theorem removeStale_failed (failed : world.failed index = true) :
    (removeStale naming index ok world turn).failed index = true := by
  rcases removeStale_cases naming index ok world turn with ⟨_, _, same⟩ | ⟨_, same⟩
  · exact same ▸ failed
  · exact same ▸ fail_failed

private theorem removals_failed (naming : Naming ν) (ok : Nat → Bool) (turns : List (String × Nat)) (failed : world.failed index = true) :
    (turns.foldl (removeStale naming index ok) world).failed index = true :=
  run_invariant (fun world : World ν => world.failed index = true) (fun _ _ before => removeStale_failed before) turns failed

/-- The removals of a pass in which none failed. -/
structure Removed (naming : Naming ν) (index : UInt32) (before : World ν) (cidrs : List String) (after : World ν) :
    Prop where
  installed : ∀ cidr, cidr ∈ after.installed index ↔ cidr ∈ before.installed index ∧ cidr ∉ cidrs
  routes : ∀ route, route ∈ after.routes index ↔ route ∈ before.routes index ∧
    ∀ cidr ∈ cidrs, naming.name cidr ≠ some route

private theorem removals_removed (cidrs : List String) (start : Nat)
    (passed : ((cidrs.zipIdx start).foldl (removeStale naming index ok) world).failed index = false) :
    Removed naming index world cidrs ((cidrs.zipIdx start).foldl (removeStale naming index ok) world) := by
  induction cidrs generalizing world start with
  | nil => exact ⟨by simp, by simp⟩
  | cons cidr cidrs ih =>
    rw [List.zipIdx_cons, List.foldl_cons] at passed ⊢
    have later := ih (start + 1) passed
    rcases removeStale_cases naming index ok world (cidr, start) with ⟨route, named, same⟩ | ⟨_, same⟩
    · refine ⟨?_, ?_⟩
      · intro c
        rw [later.installed, same]
        simp only [World.remove, Function.update_self, List.mem_filter, List.mem_cons, decide_eq_true_eq]
        tauto
      · intro r
        have first : naming.name cidr ≠ some r ↔ r ≠ route := by
          rw [named, ne_eq, Option.some_inj, eq_comm]
        rw [later.routes, same]
        simp only [World.remove, Function.update_self, List.mem_filter, decide_eq_true_eq, List.forall_mem_cons, first,
          and_assoc]
    · have broken := removals_failed naming ok (cidrs.zipIdx (start + 1))
        (same ▸ fail_failed : (removeStale naming index ok world (cidr, start)).failed index = true)
      rw [passed] at broken
      cases broken

/-! ### One interface -/

section
variable {now : Nat} {iface : TrackedInterface} {met : Encounter iface}

/-- An interface is left alone by a turn of the loop for another one. -/
private theorem reconcileInterface_other (naming : Naming ν) (now : Nat) (met : Encounter iface) (world : World ν)
    (apart : other ≠ iface.index) :
    (reconcileInterface naming now iface met world).routes other = world.routes other ∧
      (reconcileInterface naming now iface met world).installed other = world.installed other ∧
      (reconcileInterface naming now iface met world).failed other = world.failed other := by
  have failing : ∀ w : World ν, (w.fail iface.index).failed other = w.failed other :=
    fun _ => Function.update_of_ne apart ..
  rw [reconcileInterface]
  split
  · exact ⟨rfl, rfl, failing _⟩
  rename_i dump _
  have added : (visitFresh naming now iface met dump world).world.routes other = world.routes other ∧
      (visitFresh naming now iface met dump world).world.installed other = world.installed other ∧
      (visitFresh naming now iface met dump world).world.failed other = world.failed other := by
    refine run_invariant (fun state : Progress ν => state.world.routes other = world.routes other ∧
      state.world.installed other = world.installed other ∧ state.world.failed other = world.failed other) ?_ _
      ⟨rfl, rfl, rfl⟩
    intro state turn given
    obtain ⟨routes, installed, failed⟩ := given
    rcases visit_cases naming iface.index met.addOk state turn with ⟨_, same⟩ | ⟨_, _, _, same⟩ | ⟨_, same⟩
    · exact same ▸ ⟨routes, installed, failed⟩
    · rw [same]
      exact ⟨(Function.update_of_ne apart ..).trans routes, (Function.update_of_ne apart ..).trans installed, failed⟩
    · rw [same]
      exact ⟨routes, installed, (failing _).trans failed⟩
  refine run_invariant (fun w : World ν => w.routes other = world.routes other ∧
    w.installed other = world.installed other ∧ w.failed other = world.failed other) ?_ _ added
  intro w turn given
  obtain ⟨routes, installed, failed⟩ := given
  rcases removeStale_cases naming iface.index met.delOk w turn with ⟨_, _, same⟩ | ⟨_, same⟩
  · rw [same]
    exact ⟨(Function.update_of_ne apart ..).trans routes, (Function.update_of_ne apart ..).trans installed, failed⟩
  · rw [same]
    exact ⟨routes, installed, (failing _).trans failed⟩

/-- The texts of the allowed IPs of the fresh peers. -/
def Fresh (now : Nat) (iface : TrackedInterface) (dump : String → Option PeerStats) (cidr : String) : Prop :=
  ∃ peer ∈ iface.peers.entries, isFresh now iface dump peer.1 = true ∧ cidr ∈ peer.2

theorem mem_freshCidrs {dump : String → Option PeerStats} {cidr : String} :
    cidr ∈ freshCidrs now iface dump met.visits ↔ Fresh now iface dump cidr := by
  simp only [freshCidrs, Fresh, List.mem_flatMap, List.mem_filter, met.visited.mem_iff, and_assoc]

/-- A pass over an interface in which no call failed. -/
structure Reconciled (naming : Naming ν) (now : Nat) (iface : TrackedInterface) (dump : String → Option PeerStats)
    (before after : World ν) : Prop where
  installed : ∀ cidr, cidr ∈ after.installed iface.index ↔ Fresh now iface dump cidr
  routes : ∀ route, route ∈ after.routes iface.index ↔
    (route ∈ before.routes iface.index ∨
      ∃ cidr, Fresh now iface dump cidr ∧ cidr ∉ before.installed iface.index ∧ naming.name cidr = some route) ∧
    ∀ cidr ∈ before.installed iface.index, ¬ Fresh now iface dump cidr → naming.name cidr ≠ some route

theorem reconcileInterface_reconciled (passed : (reconcileInterface naming now iface met world).failed iface.index = false) :
    ∃ dump, met.dump = some dump ∧ Reconciled naming now iface dump world (reconcileInterface naming now iface met world) := by
  rw [reconcileInterface] at passed ⊢
  cases read : met.dump with
  | none =>
    simp only [read] at passed
    rw [fail_failed] at passed
    cases passed
  | some dump =>
    simp only [read] at passed ⊢
    have added : Added naming iface.index ⟨world, []⟩ (freshCidrs now iface dump met.visits)
        (visitFresh naming now iface met dump world) := by
      apply visits_added _ 0
      cases broken : (visitFresh naming now iface met dump world).world.failed iface.index with
      | false => exact broken
      | true =>
        rw [removals_failed naming met.delOk _ broken] at passed
        cases passed
    have removed := removals_removed _ 0 passed
    have listed : ∀ cidr, cidr ∈ stale iface met (visitFresh naming now iface met dump world) ↔
        cidr ∈ world.installed iface.index ∧ ¬ Fresh now iface dump cidr := by
      intro cidr
      simp only [stale, (met.reordered _).mem_iff, List.mem_filter, added.installed, added.fresh, mem_freshCidrs,
        List.not_mem_nil, false_or, decide_eq_true_eq]
      tauto
    refine ⟨dump, rfl, ?_, ?_⟩
    · intro cidr
      rw [removed.installed, added.installed, listed, mem_freshCidrs]
      tauto
    · intro route
      rw [removed.routes, added.routes]
      refine and_congr (or_congr_right ?_) ?_
      · simp only [mem_freshCidrs]
      · simp only [listed, and_imp]

end

/-! ### A whole pass -/

/-- The loop over the interfaces. -/
def reconcileAll (naming : Naming ν) (pass : Pass) (tracked : List TrackedInterface) (world : World ν) : World ν :=
  tracked.foldl (fun world iface => reconcileInterface naming pass.now iface (pass.meets iface) world) world

private theorem reconcileAll_other (naming : Naming ν) (pass : Pass) (tracked : List TrackedInterface) (world : World ν)
    (apart : ∀ iface ∈ tracked, other ≠ iface.index) :
    (reconcileAll naming pass tracked world).routes other = world.routes other ∧
      (reconcileAll naming pass tracked world).installed other = world.installed other ∧
      (reconcileAll naming pass tracked world).failed other = world.failed other := by
  refine run_invariant_mem (fun w : World ν => w.routes other = world.routes other ∧
    w.installed other = world.installed other ∧ w.failed other = world.failed other) tracked ?_ ⟨rfl, rfl, rfl⟩
  intro w iface listed given
  obtain ⟨routes, installed, failed⟩ := given
  obtain ⟨sameRoutes, sameInstalled, sameFailed⟩ := reconcileInterface_other naming pass.now (pass.meets iface) w (apart iface listed)
  exact ⟨sameRoutes.trans routes, sameInstalled.trans installed, sameFailed.trans failed⟩

omit [DecidableEq ν] in
private theorem Reconciled.congr {now : Nat} {iface : TrackedInterface} {dump : String → Option PeerStats}
    {before after start final : World ν} (reconciled : Reconciled naming now iface dump before after)
    (startRoutes : before.routes iface.index = start.routes iface.index)
    (startInstalled : before.installed iface.index = start.installed iface.index)
    (finalRoutes : final.routes iface.index = after.routes iface.index)
    (finalInstalled : final.installed iface.index = after.installed iface.index) :
    Reconciled naming now iface dump start final := by
  refine ⟨?_, ?_⟩
  · intro cidr
    rw [finalInstalled, reconciled.installed]
  · intro route
    rw [finalRoutes, reconciled.routes, startRoutes, startInstalled]

/-- What a pass does to one interface is what its own turn of the loop does. -/
theorem reconcilePass_split {tracked : List TrackedInterface} (naming : Naming ν) (world : World ν)
    (distinct : (tracked.map (·.index)).Nodup) (pass : Pass) {iface : TrackedInterface} (listed : iface ∈ tracked) :
    ∃ start : World ν, start.routes iface.index = world.routes iface.index ∧
      start.installed iface.index = world.installed iface.index ∧ start.failed iface.index = false ∧
      (reconcilePass naming tracked world pass).routes iface.index =
        (reconcileInterface naming pass.now iface (pass.meets iface) start).routes iface.index ∧
      (reconcilePass naming tracked world pass).installed iface.index =
        (reconcileInterface naming pass.now iface (pass.meets iface) start).installed iface.index ∧
      (reconcilePass naming tracked world pass).failed iface.index =
        (reconcileInterface naming pass.now iface (pass.meets iface) start).failed iface.index := by
  obtain ⟨earlier, later, rfl⟩ := List.append_of_mem listed
  simp only [List.map_append, List.map_cons, List.nodup_append, List.nodup_cons, List.mem_cons, List.mem_map] at distinct
  obtain ⟨_, ⟨afterwards, _⟩, before⟩ := distinct
  have split : reconcilePass naming (earlier ++ iface :: later) world pass = reconcileAll naming pass later
      (reconcileInterface naming pass.now iface (pass.meets iface)
        (reconcileAll naming pass earlier { world with failed := fun _ => false })) := by
    rw [reconcilePass, List.foldl_append, List.foldl_cons]
    rfl
  obtain ⟨startRoutes, startInstalled, startFailed⟩ := reconcileAll_other naming pass earlier
    { world with failed := fun _ => false } fun next member same =>
    before next.index ⟨next, member, rfl⟩ iface.index (.inl rfl) same.symm
  rw [split]
  exact ⟨_, startRoutes, startInstalled, startFailed, reconcileAll_other naming pass later _ fun next member same =>
    afterwards ⟨next, member, same.symm⟩⟩

/-- An interface for which no call of the pass failed ends reconciled, whatever befell the others. -/
theorem reconcilePass_reconciled {tracked : List TrackedInterface} (distinct : (tracked.map (·.index)).Nodup)
    {pass : Pass} {iface : TrackedInterface} (listed : iface ∈ tracked)
    (passed : (reconcilePass naming tracked world pass).failed iface.index = false) :
    ∃ dump, (pass.meets iface).dump = some dump ∧
      Reconciled naming pass.now iface dump world (reconcilePass naming tracked world pass) := by
  obtain ⟨start, startRoutes, startInstalled, _, finalRoutes, finalInstalled, finalFailed⟩ :=
    reconcilePass_split naming world distinct pass listed
  rw [finalFailed] at passed
  obtain ⟨dump, read, reconciled⟩ := reconcileInterface_reconciled passed
  exact ⟨dump, read, reconciled.congr startRoutes startInstalled finalRoutes finalInstalled⟩

/-! ### Passes in which no call fails -/

/-- The netlink side of a pass: every dump is there and every call succeeds. -/
structure Undisturbed (tracked : List TrackedInterface) (pass : Pass) : Prop where
  dumped : ∀ iface ∈ tracked, ∃ dump, (pass.meets iface).dump = some dump
  added : ∀ iface ∈ tracked, ∀ i, (pass.meets iface).addOk i = true
  deleted : ∀ iface ∈ tracked, ∀ i, (pass.meets iface).delOk i = true

private theorem visits_passed {cidrs : List String} (state : Progress ν) (good : ∀ i, ok i = true)
    (named : ∀ cidr ∈ cidrs, ∃ route, naming.name cidr = some route) (start : state.world.failed index = false) :
    (cidrs.zipIdx.foldl (visit naming index ok) state).world.failed index = false := by
  refine run_invariant_mem (fun state : Progress ν => state.world.failed index = false) _ ?_ start
  intro state turn member before
  obtain ⟨route, name⟩ := named turn.1 (List.fst_mem_of_mem_zipIdx member)
  rcases visit_cases naming index ok state turn with ⟨_, same⟩ | ⟨_, _, _, same⟩ | ⟨refused, _⟩
  · exact same ▸ before
  · exact same ▸ before
  · rw [name, good] at refused
    simp at refused

private theorem removals_passed {cidrs : List String} (good : ∀ i, ok i = true)
    (named : ∀ cidr ∈ cidrs, ∃ route, naming.name cidr = some route) (start : world.failed index = false) :
    (cidrs.zipIdx.foldl (removeStale naming index ok) world).failed index = false := by
  refine run_invariant_mem (fun world : World ν => world.failed index = false) _ ?_ start
  intro world turn member before
  obtain ⟨route, name⟩ := named turn.1 (List.fst_mem_of_mem_zipIdx member)
  rcases removeStale_cases naming index ok world turn with ⟨_, _, same⟩ | ⟨refused, _⟩
  · exact same ▸ before
  · rw [name, good] at refused
    simp at refused

theorem reconcilePass_passed {tracked : List TrackedInterface} (distinct : (tracked.map (·.index)).Nodup)
    {pass : Pass} (undisturbed : Undisturbed tracked pass) {iface : TrackedInterface} (listed : iface ∈ tracked)
    (recorded : ∀ cidr ∈ world.installed iface.index, ∃ route, naming.name cidr = some route)
    (allowed : ∀ peer ∈ iface.peers.entries, ∀ cidr ∈ peer.2, ∃ route, naming.name cidr = some route) :
    (reconcilePass naming tracked world pass).failed iface.index = false := by
  obtain ⟨start, _, startInstalled, startFailed, _, _, finalFailed⟩ :=
    reconcilePass_split naming world distinct pass listed
  obtain ⟨dump, read⟩ := undisturbed.dumped iface listed
  rw [finalFailed, reconcileInterface, read]
  have fresh : ∀ cidr ∈ freshCidrs pass.now iface dump (pass.meets iface).visits, ∃ route, naming.name cidr = some route := by
    intro cidr member
    obtain ⟨peer, entry, _, inside⟩ := mem_freshCidrs.mp member
    exact allowed peer entry cidr inside
  have passed := visits_passed ⟨start, []⟩ (undisturbed.added iface listed) fresh startFailed
  refine removals_passed (undisturbed.deleted iface listed) ?_ passed
  intro cidr member
  have inside := (List.mem_filter.mp (((pass.meets iface).reordered _).mem_iff.mp member)).1
  rcases ((visits_added _ 0 passed).installed cidr).mp inside with old | new
  · exact recorded cidr (startInstalled ▸ old)
  · exact fresh cidr new

end Slipmesh.Awg
