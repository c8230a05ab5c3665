import Slipmesh.Proofs.Routes

/-! What a published snapshot says of a peer's handshake: a peer is connected by its
routes, which another peer or a failed call may have left on record. -/

namespace Slipmesh.Awg
open Library

variable {ν : Type} [DecidableEq ν] {naming : Naming ν} {index : UInt32} {world : World ν} {ok : Nat → Bool}

/-! ### What is on record, whatever failed -/

theorem mem_connected {tracked : List TrackedInterface} {installed : UInt32 → List String} {now : Nat} {pair : String × String} :
    pair ∈ (snapshotFrom tracked installed now).connected ↔ ∃ iface ∈ tracked, iface.name = pair.1 ∧
      ∃ allowedIps, (pair.2, allowedIps) ∈ iface.peers.entries ∧ allowedIps ≠ [] ∧
        ∀ cidr ∈ allowedIps, cidr ∈ installed iface.index := by
  simp only [snapshotFrom, allInstalled, List.mem_flatMap, List.mem_map, List.mem_filter, Bool.and_eq_true,
    Bool.not_eq_true', List.isEmpty_eq_false_iff, List.all_eq_true, decide_eq_true_eq]
  constructor
  · intro given
    obtain ⟨iface, listed, ⟨key, allowedIps⟩, ⟨member, some, all⟩, rfl⟩ := given
    exact ⟨iface, listed, rfl, allowedIps, member, some, all⟩
  · intro given
    obtain ⟨iface, listed, name, allowedIps, member, some, all⟩ := given
    exact ⟨iface, listed, (pair.2, allowedIps), ⟨member, some, all⟩, Prod.ext name rfl⟩

/-- Inside the additions: a text is on record from before, or is one of the fresh ones. -/
structure Recording (index : UInt32) (record cidrs : List String) (state : Progress ν) : Prop where
  installed : ∀ cidr ∈ state.world.installed index, cidr ∈ record ∨ cidr ∈ state.stillFresh
  fresh : ∀ cidr ∈ state.stillFresh, cidr ∈ cidrs

private theorem visit_recording {record cidrs : List String} (state : Progress ν) (turn : String × Nat) (listed : turn.1 ∈ cidrs)
    (recording : Recording index record cidrs state) : Recording index record cidrs (visit naming index ok state turn) := by
  obtain ⟨installed, fresh⟩ := recording
  have inserted : ∀ cidr ∈ state.stillFresh.insert turn.1, cidr ∈ cidrs := by
    intro cidr member
    rcases List.mem_insert_iff.mp member with rfl | old
    · exact listed
    · exact fresh cidr old
  rcases visit_cases naming index ok state turn with ⟨_, same⟩ | ⟨_, route, _, same⟩ | ⟨_, same⟩
  · rw [same]
    refine ⟨fun cidr member => ?_, inserted⟩
    exact (installed cidr member).imp_right List.mem_insert_of_mem
  · rw [same]
    refine ⟨fun cidr member => ?_, inserted⟩
    simp only [World.add, Function.update_self, List.mem_insert_iff] at member
    rcases member with rfl | old
    · exact .inr List.mem_insert_self
    · exact (installed cidr old).imp_right List.mem_insert_of_mem
  · exact same ▸ ⟨installed, fresh⟩

private theorem visits_recording (cidrs : List String) (world : World ν) :
    Recording index (world.installed index) cidrs (cidrs.zipIdx.foldl (visit naming index ok) ⟨world, []⟩) := by
  apply run_invariant_mem (Recording index (world.installed index) cidrs)
  · intro state turn member
    exact visit_recording state turn (List.fst_mem_of_mem_zipIdx member)
  · exact ⟨fun _ => .inl, fun _ => False.elim ∘ List.not_mem_nil⟩

/-- A text outlasts the removals when none of its own went through. -/
private theorem removals_left {turns : List (String × Nat)} {cidr : String}
    (left : cidr ∈ (turns.foldl (removeStale naming index ok) world).installed index) :
    cidr ∈ world.installed index ∧
      ∀ position, (cidr, position) ∈ turns → naming.name cidr = none ∨ ok position = false := by
  induction turns generalizing world with
  | nil => exact ⟨left, fun _ => False.elim ∘ List.not_mem_nil⟩
  | cons turn turns ih =>
    obtain ⟨before, later⟩ := ih left
    rcases removeStale_cases naming index ok world turn with ⟨route, _, same⟩ | ⟨refused, same⟩
    · simp only [same, World.remove, Function.update_self, List.mem_filter, decide_eq_true_eq] at before
      refine ⟨before.1, fun position member => ?_⟩
      rcases List.mem_cons.mp member with first | member
      · exact absurd (congrArg Prod.fst first) before.2
      · exact later position member
    · rw [same] at before
      refine ⟨before, fun position member => ?_⟩
      rcases List.mem_cons.mp member with first | member
      · rw [← first] at refused
        exact refused
      · exact later position member

section
variable {now : Nat} {iface : TrackedInterface} {met : Encounter iface}

/-- What a failed call leaves on record from before a pass: everything, where the dump
failed, and otherwise a text whose own removal failed. -/
def Left (naming : Naming ν) (now : Nat) (iface : TrackedInterface) (met : Encounter iface) (world : World ν) (cidr : String) :
    Prop :=
  cidr ∈ world.installed iface.index ∧ ∀ dump, met.dump = some dump →
    ∃ position, (cidr, position) ∈ (stale iface met (visitFresh naming now iface met dump world)).zipIdx ∧
      (naming.name cidr = none ∨ met.delOk position = false)

/-- Two states that the additions to one interface cannot tell apart. -/
def Alike (index : UInt32) (first second : Progress ν) : Prop :=
  first.world.installed index = second.world.installed index ∧ first.stillFresh = second.stillFresh

private theorem visit_alike {first second : Progress ν} (turn : String × Nat) (alike : Alike index first second) :
    Alike index (visit naming index ok first turn) (visit naming index ok second turn) := by
  obtain ⟨installed, fresh⟩ := alike
  rw [visit, visit, installed, fresh]
  split
  · exact ⟨installed, rfl⟩
  · split
    · simp only [Alike, World.add, Function.update_self, installed, and_self]
    · exact ⟨installed, rfl⟩

private theorem visits_alike (turns : List (String × Nat)) {first second : Progress ν} (alike : Alike index first second) :
    Alike index (turns.foldl (visit naming index ok) first) (turns.foldl (visit naming index ok) second) := by
  induction turns generalizing first second with
  | nil => exact alike
  | cons turn turns ih => exact ih (visit_alike turn alike)

theorem Left.congr {first second : World ν} {cidr : String} (left : Left naming now iface met first cidr)
    (same : first.installed iface.index = second.installed iface.index) : Left naming now iface met second cidr := by
  obtain ⟨recorded, removal⟩ := left
  refine ⟨same ▸ recorded, fun dump read => ?_⟩
  obtain ⟨installed, fresh⟩ : Alike iface.index (visitFresh naming now iface met dump first)
    (visitFresh naming now iface met dump second) := visits_alike _ ⟨same, rfl⟩
  have listed : stale iface met (visitFresh naming now iface met dump second) =
      stale iface met (visitFresh naming now iface met dump first) := by rw [stale, stale, installed, fresh]
  rw [listed]
  exact removal dump read

/-- Whatever failed, a text on record after an interface's turn is an allowed IP of a
fresh peer, or left by the failure. -/
theorem reconcileInterface_recorded {cidr : String}
    (recorded : cidr ∈ (reconcileInterface naming now iface met world).installed iface.index) :
    (∃ dump, met.dump = some dump ∧ Fresh now iface dump cidr) ∨ Left naming now iface met world cidr := by
  rw [reconcileInterface] at recorded
  cases read : met.dump with
  | none =>
    rw [read] at recorded
    exact .inr ⟨recorded, fun dump same => by rw [read] at same; cases same⟩
  | some dump =>
    simp only [read] at recorded
    obtain ⟨before, refused⟩ := removals_left recorded
    obtain ⟨installed, fresh⟩ : Recording iface.index (world.installed iface.index) (freshCidrs now iface dump met.visits)
      (visitFresh naming now iface met dump world) := visits_recording _ world
    by_cases still : cidr ∈ (visitFresh naming now iface met dump world).stillFresh
    · exact .inl ⟨dump, rfl, mem_freshCidrs.mp (fresh cidr still)⟩
    · refine .inr ⟨(installed cidr before).resolve_right still, fun own same => ?_⟩
      cases read.symm.trans same
      have outdated : cidr ∈ stale iface met (visitFresh naming now iface met dump world) := by
        rw [stale, (met.reordered _).mem_iff, List.mem_filter]
        exact ⟨before, by simpa using still⟩
      obtain ⟨position, found⟩ := List.mem_iff_getElem?.mp outdated
      have member := List.mk_mem_zipIdx_iff_getElem?.mpr found
      exact ⟨position, member, refused position member⟩

end

theorem reconcilePass_recorded {tracked : List TrackedInterface} (distinct : (tracked.map (·.index)).Nodup) {pass : Pass}
    {iface : TrackedInterface} (listed : iface ∈ tracked) {cidr : String}
    (recorded : cidr ∈ (reconcilePass naming tracked world pass).installed iface.index) :
    (∃ dump, (pass.meets iface).dump = some dump ∧ Fresh pass.now iface dump cidr) ∨
      Left naming pass.now iface (pass.meets iface) world cidr := by
  obtain ⟨start, _, startInstalled, _, _, finalInstalled, _⟩ := reconcilePass_split naming world distinct pass listed
  rw [finalInstalled] at recorded
  exact (reconcileInterface_recorded recorded).imp_right fun left => left.congr startInstalled

/-! ### What connected says -/

/-- The handshake of the peer, as a successful dump of the pass read it, was fresh. -/
def FreshPeer (pass : Pass) (iface : TrackedInterface) (publicKey : String) : Prop :=
  ∃ dump, (pass.meets iface).dump = some dump ∧ isFresh pass.now iface dump publicKey = true

/-- An allowed IP of the peer is on record for another reason than its own handshake:
it is one of another fresh peer, or a failed call has left it. -/
def Borrowed (naming : Naming ν) (world : World ν) (pass : Pass) (iface : TrackedInterface) (publicKey cidr : String) : Prop :=
  (∃ other ∈ iface.peers.entries, other.1 ≠ publicKey ∧ cidr ∈ other.2 ∧ FreshPeer pass iface other.1) ∨
    Left naming pass.now iface (pass.meets iface) world cidr

/-- After every pass of every run, a connected peer has allowed IPs, all of them on
record. Its handshake was fresh in that pass, or every one of them is borrowed. -/
theorem connected_fresh_or_borrowed (daemon : Daemon) (naming : Naming ν) (world : World ν) (passes : List Pass) :
    ∀ move ∈ moves (reconcilePass naming daemon.tracked) world passes, ∀ now,
      ∀ pair ∈ (snapshotFrom daemon.tracked (reconcilePass naming daemon.tracked move.1 move.2).installed now).connected,
        ∃ iface ∈ daemon.tracked, iface.name = pair.1 ∧ ∃ allowedIps, (pair.2, allowedIps) ∈ iface.peers.entries ∧
          allowedIps ≠ [] ∧
          (∀ cidr ∈ allowedIps, cidr ∈ (reconcilePass naming daemon.tracked move.1 move.2).installed iface.index) ∧
          (FreshPeer move.2 iface pair.2 ∨ ∀ cidr ∈ allowedIps, Borrowed naming move.1 move.2 iface pair.2 cidr) := by
  intro move _ now pair connected
  obtain ⟨iface, listed, name, allowedIps, entry, some, all⟩ := mem_connected.mp connected
  refine ⟨iface, listed, name, allowedIps, entry, some, all, ?_⟩
  by_cases fresh : FreshPeer move.2 iface pair.2
  · exact .inl fresh
  · refine .inr fun cidr member => ?_
    rcases reconcilePass_recorded daemon.indices listed (all cidr member) with ⟨dump, read, other, inside, late, holds⟩ | left
    · have apart : other.1 ≠ pair.2 := fun same => fresh ⟨dump, read, same ▸ late⟩
      exact .inl ⟨other, inside, apart, holds, dump, read, late⟩
    · exact .inr left

/-- The kernel before the daemon has run. -/
def emptyKernel : World String := ⟨fun _ => [], fun _ => [], fun _ => false⟩

/-- A pass whose dump fails, after one that found the peer. -/
def blindPass : Pass :=
  { calmPass with meets := fun iface => { calmPass.meets iface with dump := none } }

def calmWorld : World String :=
  reconcilePass textNaming spelledDaemon.tracked (seed textNaming spelledDaemon.tracked emptyKernel) calmPass

theorem blindPass_move :
    (calmWorld, blindPass) ∈ moves (reconcilePass textNaming spelledDaemon.tracked)
      (seed textNaming spelledDaemon.tracked emptyKernel) [calmPass, blindPass] :=
  List.mem_cons_of_mem _ (List.mem_singleton_self _)

theorem blindPass_connected :
    ("wg0", "peer") ∈ (snapshotFrom spelledDaemon.tracked
      (reconcilePass textNaming spelledDaemon.tracked calmWorld blindPass).installed 101).connected := by
  decide +kernel

theorem connected_fresh_or_borrowed_blind :
    ∃ iface ∈ spelledDaemon.tracked, iface.name = "wg0" ∧ ∃ allowedIps, ("peer", allowedIps) ∈ iface.peers.entries ∧
      allowedIps ≠ [] ∧
      (∀ cidr ∈ allowedIps,
        cidr ∈ (reconcilePass textNaming spelledDaemon.tracked calmWorld blindPass).installed iface.index) ∧
      (FreshPeer blindPass iface "peer" ∨ ∀ cidr ∈ allowedIps, Borrowed textNaming calmWorld blindPass iface "peer" cidr) :=
  connected_fresh_or_borrowed spelledDaemon textNaming (seed textNaming spelledDaemon.tracked emptyKernel)
    [calmPass, blindPass] _ blindPass_move 101 _ blindPass_connected

/-- The dump of the second pass fails, and the peer of the first stays connected. -/
theorem connected_not_fresh : ¬ ∀ (daemon : Daemon) (kernel : World String) (passes : List Pass),
    ∀ move ∈ moves (reconcilePass textNaming daemon.tracked) (seed textNaming daemon.tracked kernel) passes, ∀ now,
      ∀ pair ∈ (snapshotFrom daemon.tracked (reconcilePass textNaming daemon.tracked move.1 move.2).installed now).connected,
        ∃ iface ∈ daemon.tracked, iface.name = pair.1 ∧ FreshPeer move.2 iface pair.2 := by
  intro alwaysFresh
  obtain ⟨iface, _, _, dump, read, _⟩ := alwaysFresh spelledDaemon emptyKernel [calmPass, blindPass] _ blindPass_move 101 _
    blindPass_connected
  cases read

end Slipmesh.Awg
