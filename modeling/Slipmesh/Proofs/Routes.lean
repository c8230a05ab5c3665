import Slipmesh.Proofs.ReadBack
import Slipmesh.Proofs.Reconcile

/-! The routes of a whole run. Named by their text, routes and record part only where
an earlier run has left a default route, which the report of the kernel's routes leaves
out. Named by the network a text lies in, as the kernel names them, they also part
when a stale spelling of a fresh network is on record. -/

namespace Slipmesh.Awg
open Library Common

/-! ### A daemon of one peer -/

private def spelledPeer : PeerEntry := { publicKey := "peer", allowedIps := some ["fd00::5/64"] }

private def spelledInterface : InterfaceEntry :=
  { name := "wg0", listenPort := 51820, privateKey := "", peers := [spelledPeer] }

private def onlyLink : LinkTable :=
  ⟨fun name => if name = "wg0" then some 1 else none, by
    intro first second i left right
    split at left
    · split at right
      · exact Eq.trans ‹_› (Eq.symm ‹_›)
      · cases right
    · cases left⟩

/-- One interface with one peer, whose allowed IP is written with a host bit. -/
def spelledDaemon : Daemon :=
  ⟨{ interfaces := [spelledInterface] }, by decide, onlyLink, [⟨"wg0", 1, 180, trackedPeers [spelledPeer]⟩], rfl⟩

/-! ### Routes named by their text -/

/-- The text of a route to everywhere, in either family. -/
def isDefault (cidr : String) : Bool := (networkOf cidr).any (·.cidr.len = 0)

def textNaming : Naming String where
  name := some
  text cidr := if isDefault cidr then none else some cidr
  name_text cidr other same := by
    split at same
    · cases same
    · exact same.symm

/-- The record of an interface is what the kernel holds there. -/
def Agrees (index : UInt32) (world : World String) : Prop :=
  ∀ cidr, cidr ∈ world.installed index ↔ cidr ∈ world.routes index

private theorem agrees_add {index other : UInt32} {cidr : String} {world : World String} (agrees : Agrees other world) :
    Agrees other (world.add index cidr cidr) := by
  intro c
  by_cases same : other = index
  · subst same
    simp [World.add, agrees c]
  · simpa [World.add, same] using agrees c

private theorem agrees_remove {index other : UInt32} {cidr : String} {world : World String} (agrees : Agrees other world) :
    Agrees other (world.remove index cidr cidr) := by
  intro c
  by_cases same : other = index
  · subst same
    simp [World.remove, agrees c]
  · simpa [World.remove, same] using agrees c

private theorem agrees_visit {index other : UInt32} {ok : Nat → Bool} (state : Progress String) (turn : String × Nat)
    (agrees : Agrees other state.world) : Agrees other (visit textNaming index ok state turn).world := by
  rcases visit_cases textNaming index ok state turn with ⟨_, same⟩ | ⟨_, route, named, same⟩ | ⟨_, same⟩
  · exact same ▸ agrees
  · cases named
    exact same ▸ agrees_add agrees
  · exact same ▸ agrees

private theorem agrees_removeStale {index other : UInt32} {ok : Nat → Bool} (world : World String) (turn : String × Nat)
    (agrees : Agrees other world) : Agrees other (removeStale textNaming index ok world turn) := by
  rcases removeStale_cases textNaming index ok world turn with ⟨route, named, same⟩ | ⟨_, same⟩
  · cases named
    exact same ▸ agrees_remove agrees
  · exact same ▸ agrees

section
variable {other : UInt32} {now : Nat} {iface : TrackedInterface} {met : Encounter iface} {world : World String}

private theorem agrees_visitFresh (dump : String → Option PeerStats) (agrees : Agrees other world) :
    Agrees other (visitFresh textNaming now iface met dump world).world :=
  run_invariant (fun state : Progress String => Agrees other state.world) agrees_visit _ agrees

private theorem agrees_interface (agrees : Agrees other world) :
    Agrees other (reconcileInterface textNaming now iface met world) := by
  rw [reconcileInterface]
  split
  · exact agrees
  · exact run_invariant (Agrees other) agrees_removeStale _ (agrees_visitFresh _ agrees)

private theorem agrees_interfaceStates (agrees : Agrees other world) :
    ∀ state ∈ interfaceStates textNaming now iface met world, Agrees other state := by
  intro state member
  rw [interfaceStates] at member
  split at member
  · exact List.mem_singleton.mp member ▸ agrees
  · rcases List.mem_append.mp member with member | member
    · obtain ⟨progress, inside, rfl⟩ := List.mem_map.mp member
      exact states_invariant (fun state : Progress String => Agrees other state.world) agrees_visit _ agrees _ inside
    · exact states_invariant (Agrees other) agrees_removeStale _ (agrees_visitFresh _ agrees) _ member

end

private theorem agrees_pass {other : UInt32} {tracked : List TrackedInterface} (world : World String) (pass : Pass)
    (agrees : Agrees other world) : Agrees other (reconcilePass textNaming tracked world pass) :=
  run_invariant (Agrees other) (fun _ _ before => agrees_interface before) tracked agrees

private theorem agrees_passStates {other : UInt32} {pass : Pass} (tracked : List TrackedInterface) (world : World String)
    (agrees : Agrees other world) : ∀ state ∈ passStates textNaming pass tracked world, Agrees other state := by
  induction tracked generalizing world with
  | nil =>
    intro state member
    cases member
  | cons iface rest ih =>
    intro state member
    rcases List.mem_append.mp member with member | member
    · exact agrees_interfaceStates agrees state member
    · exact ih _ (agrees_interface agrees) state member

private theorem agrees_runStates {other : UInt32} {tracked : List TrackedInterface} (passes : List Pass)
    (world : World String) (agrees : Agrees other world) :
    ∀ state ∈ runStates textNaming tracked world passes, Agrees other state := by
  induction passes generalizing world with
  | nil =>
    intro state member
    exact List.mem_singleton.mp member ▸ agrees
  | cons pass rest ih =>
    intro state member
    rcases List.mem_append.mp member with member | member
    · rcases List.mem_cons.mp member with rfl | member
      · exact agrees
      · exact agrees_passStates tracked { world with failed := fun _ => false } agrees state member
    · exact ih _ (agrees_pass world pass agrees) state member

private theorem agrees_seed_iff {tracked : List TrackedInterface} {iface : TrackedInterface} (listed : iface ∈ tracked)
    (kernel : World String) : Agrees iface.index (seed textNaming tracked kernel) ↔
      ∀ cidr ∈ kernel.routes iface.index, isDefault cidr = false := by
  have inside : iface.index ∈ tracked.map (·.index) := List.mem_map.mpr ⟨iface, listed, rfl⟩
  have record : (seed textNaming tracked kernel).installed iface.index =
      (kernel.routes iface.index).filterMap textNaming.text := if_pos inside
  have recorded : ∀ cidr, cidr ∈ (kernel.routes iface.index).filterMap textNaming.text ↔
      cidr ∈ kernel.routes iface.index ∧ isDefault cidr = false := by
    intro cidr
    rw [List.mem_filterMap]
    constructor
    · intro given
      obtain ⟨other, held, same⟩ := given
      simp only [textNaming] at same
      split at same
      · cases same
      · rename_i longer
        cases same
        exact ⟨held, Bool.eq_false_of_not_eq_true longer⟩
    · intro given
      obtain ⟨held, longer⟩ := given
      exact ⟨cidr, held, by simp [textNaming, longer]⟩
  simp only [Agrees, record, recorded]
  constructor
  · exact fun agrees cidr held => ((agrees cidr).mpr held).2
  · exact fun longer cidr => ⟨And.left, fun held => ⟨held, longer cidr held⟩⟩

/-- What the passes of a run owe: no failure anywhere parts the record from the kernel, and
a pass that no call of an interface fails leaves exactly the routes of its fresh peers. -/
structure Recorded (tracked : List TrackedInterface) (start : World String) (passes : List Pass) : Prop where
  record : ∀ state ∈ runStates textNaming tracked start passes,
    ∀ iface ∈ tracked, ∀ cidr, cidr ∈ state.installed iface.index ↔ cidr ∈ state.routes iface.index
  passed : ∀ move ∈ moves (reconcilePass textNaming tracked) start passes,
    ∀ iface ∈ tracked, (reconcilePass textNaming tracked move.1 move.2).failed iface.index = false →
      ∃ dump, (move.2.meets iface).dump = some dump ∧ ∀ cidr,
        cidr ∈ (reconcilePass textNaming tracked move.1 move.2).routes iface.index ↔ Fresh move.2.now iface dump cidr

/-- A run keeps its record exactly when it starts without a default route that an
earlier one has left. -/
theorem record_is_kernel_iff (daemon : Daemon) (kernel : World String) (passes : List Pass) :
    Recorded daemon.tracked (seed textNaming daemon.tracked kernel) passes ↔
      ∀ iface ∈ daemon.tracked, ∀ cidr ∈ kernel.routes iface.index, isDefault cidr = false := by
  constructor
  · intro recorded iface listed
    apply (agrees_seed_iff listed kernel).mp
    apply recorded.record _ _ iface listed
    cases passes with
    | nil => exact List.mem_singleton_self _
    | cons pass rest => exact List.mem_append_left _ (List.mem_cons_self ..)
  · intro longer
    have start : ∀ iface ∈ daemon.tracked, Agrees iface.index (seed textNaming daemon.tracked kernel) :=
      fun iface listed => (agrees_seed_iff listed kernel).mpr (longer iface listed)
    refine ⟨?_, ?_⟩
    · intro state member iface listed
      exact agrees_runStates passes _ (start iface listed) state member
    · intro move member iface listed passed
      have before : Agrees iface.index move.1 :=
        moves_invariant (Agrees iface.index) agrees_pass passes (start iface listed) move member
      obtain ⟨dump, read, reconciled⟩ := reconcilePass_reconciled daemon.indices listed passed
      refine ⟨dump, read, fun cidr => ?_⟩
      rw [← reconciled.installed]
      exact (agrees_pass move.1 move.2 before cidr).symm

/-- A default route left on the interface is not on record after the start. -/
theorem record_not_kernel : ¬ ∀ (daemon : Daemon) (kernel : World String) (passes : List Pass),
    Recorded daemon.tracked (seed textNaming daemon.tracked kernel) passes := by
  intro alwaysRecorded
  have listed : (⟨"wg0", 1, 180, trackedPeers [spelledPeer]⟩ : TrackedInterface) ∈ spelledDaemon.tracked :=
    List.mem_singleton_self _
  have recorded := (alwaysRecorded spelledDaemon ⟨fun _ => ["0.0.0.0/0"], fun _ => [], fun _ => false⟩ []).record _
    (List.mem_singleton_self _) _ listed
  have missing := (recorded "0.0.0.0/0").mpr (List.mem_singleton_self _)
  exact absurd missing (by decide)

/-! ### Routes named by their network -/

/-- The kernel's own naming: it keeps the masked network and reports its text, unless the
network is all of the family. -/
def networkNaming : Naming Network where
  name := networkOf
  text network := if network.cidr.len = 0 then none else some network.text
  name_text network cidr same := by
    split at same
    · cases same
    · cases same
      exact networkOf_text network

/-- The seeding of a tracked interface is what `routes_by_protocol` reports of the kernel's
routes: the world's are those with the tag. -/
theorem seed_reported (kernel : RouteKernel) (routes : List KernelRoute) (protocol : RouteProtocol) {tracked : List TrackedInterface}
    {world : World Network} {iface : TrackedInterface} (listed : iface ∈ tracked)
    (tagged : ∀ network, network ∈ world.routes iface.index ↔
      ∃ route ∈ routes, route.protocol = protocol ∧ route.oif = some iface.index ∧ route.network = network) :
    ∃ report, routesByProtocol (fun family => some (kernel.dumped routes family)) iface.index protocol = some report ∧
      ∀ cidr, cidr ∈ (seed networkNaming tracked world).installed iface.index ↔ cidr ∈ report := by
  obtain ⟨report, read, reported⟩ := routesByProtocol_dumped kernel routes iface.index protocol
  refine ⟨report, read, ?_⟩
  intro cidr
  have record : (seed networkNaming tracked world).installed iface.index =
      (world.routes iface.index).filterMap networkNaming.text := if_pos (List.mem_map.mpr ⟨iface, listed, rfl⟩)
  rw [record, reported, List.mem_filterMap]
  constructor
  · intro given
    obtain ⟨network, held, named⟩ := given
    obtain ⟨route, member, tag, oif, rfl⟩ := (tagged network).mp held
    simp only [networkNaming] at named
    split at named
    · cases named
    · rename_i longer
      exact ⟨route, member, ⟨tag, oif, longer⟩, (Option.some.inj named).symm⟩
  · intro given
    obtain ⟨route, member, holds, rfl⟩ := given
    exact ⟨_, (tagged _).mpr ⟨route, member, holds.protocol, holds.oif, rfl⟩, by simp [networkNaming, holds.longer]⟩

/-- A restart of the process with the same config, or a pass that no call disturbs. -/
inductive Event (tracked : List TrackedInterface) where
  | restart
  | pass (pass : Pass) (undisturbed : Undisturbed tracked pass)

def happen (tracked : List TrackedInterface) (world : World Network) : Event tracked → World Network
  | .restart => seed networkNaming tracked world
  | .pass pass _ => reconcilePass networkNaming tracked world pass

/-- The pass leaves exactly the networks of the allowed IPs of its fresh peers. -/
def Settled (tracked : List TrackedInterface) (world : World Network) : Event tracked → Prop
  | .restart => True
  | .pass pass _ => ∀ iface ∈ tracked, ∀ dump, (pass.meets iface).dump = some dump → ∀ network,
    network ∈ (reconcilePass networkNaming tracked world pass).routes iface.index ↔
      ∃ cidr, Fresh pass.now iface dump cidr ∧ networkOf cidr = some network

/-- No text on record that the pass finds stale spells the network of a fresh one. -/
def Unmixed (tracked : List TrackedInterface) (world : World Network) : Event tracked → Prop
  | .restart => True
  | .pass pass _ => ∀ iface ∈ tracked, ∀ dump, (pass.meets iface).dump = some dump →
    ∀ old ∈ world.installed iface.index, ¬ Fresh pass.now iface dump old →
      ∀ cidr, Fresh pass.now iface dump cidr → networkOf old ≠ networkOf cidr

/-- Every default route the kernel has is on record, or the pass finds it fresh. -/
def Accounted (tracked : List TrackedInterface) (world : World Network) : Event tracked → Prop
  | .restart => True
  | .pass pass _ => ∀ iface ∈ tracked, ∀ dump, (pass.meets iface).dump = some dump →
    ∀ network ∈ world.routes iface.index, network.cidr.len = 0 →
      (∃ cidr ∈ world.installed iface.index, networkOf cidr = some network) ∨
        ∃ cidr, Fresh pass.now iface dump cidr ∧ networkOf cidr = some network

/-- Each text of the record names one of the kernel's routes, and the routes that no text
names are default ones. -/
structure Names (tracked : List TrackedInterface) (world : World Network) : Prop where
  parsed : ∀ iface ∈ tracked, ∀ cidr ∈ world.installed iface.index, ∃ network, networkOf cidr = some network
  held : ∀ iface ∈ tracked, ∀ cidr ∈ world.installed iface.index, ∀ network, networkOf cidr = some network →
    network ∈ world.routes iface.index
  recorded : ∀ iface ∈ tracked, ∀ network ∈ world.routes iface.index, network.cidr.len ≠ 0 →
    ∃ cidr ∈ world.installed iface.index, networkOf cidr = some network

private theorem names_seed (tracked : List TrackedInterface) (world : World Network) :
    Names tracked (seed networkNaming tracked world) := by
  have installed : ∀ iface ∈ tracked, (seed networkNaming tracked world).installed iface.index =
      (world.routes iface.index).filterMap networkNaming.text := by
    intro iface listed
    exact if_pos (List.mem_map.mpr ⟨iface, listed, rfl⟩)
  refine ⟨?_, ?_, ?_⟩
  · intro iface listed cidr member
    rw [installed iface listed] at member
    obtain ⟨network, _, named⟩ := List.mem_filterMap.mp member
    exact ⟨network, networkNaming.name_text network cidr named⟩
  · intro iface listed cidr member network named
    rw [installed iface listed] at member
    obtain ⟨other, held, reported⟩ := List.mem_filterMap.mp member
    exact Option.some.inj ((networkNaming.name_text other cidr reported).symm.trans named) ▸ held
  · intro iface listed network held longer
    rw [installed iface listed]
    have reported : networkNaming.text network = some network.text := if_neg longer
    exact ⟨network.text, List.mem_filterMap.mpr ⟨network, held, reported⟩, networkOf_text network⟩

section
variable (daemon : Daemon) {world : World Network}

private theorem pass_reconciled (names : Names daemon.tracked world) {pass : Pass}
    (undisturbed : Undisturbed daemon.tracked pass) {iface : TrackedInterface} (listed : iface ∈ daemon.tracked) :
    ∃ dump, (pass.meets iface).dump = some dump ∧
      Reconciled networkNaming pass.now iface dump world (reconcilePass networkNaming daemon.tracked world pass) :=
  reconcilePass_reconciled daemon.indices listed (reconcilePass_passed daemon.indices undisturbed listed
    (names.parsed iface listed) fun _ member _ allowed => daemon.parsed listed member allowed)

private theorem needs_of_settled {pass : Pass} {undisturbed : Undisturbed daemon.tracked pass}
    (names : Names daemon.tracked world) (settled : Settled daemon.tracked world (.pass pass undisturbed)) :
    Unmixed daemon.tracked world (.pass pass undisturbed) ∧ Accounted daemon.tracked world (.pass pass undisturbed) := by
  constructor
  · intro iface listed dump read old recorded stale cidr fresh same
    obtain ⟨own, ownRead, reconciled⟩ := pass_reconciled daemon names undisturbed listed
    cases ownRead.symm.trans read
    obtain ⟨network, named⟩ := names.parsed iface listed old recorded
    have held := (settled iface listed dump read network).mpr ⟨cidr, fresh, same ▸ named⟩
    exact ((reconciled.routes network).mp held).2 old recorded stale named
  · intro iface listed dump read network held _
    obtain ⟨own, ownRead, reconciled⟩ := pass_reconciled daemon names undisturbed listed
    cases ownRead.symm.trans read
    by_cases known : ∃ cidr ∈ world.installed iface.index, networkOf cidr = some network
    · exact .inl known
    · -- Nothing on record takes the route away, so the pass leaves it as it is.
      have kept := (reconciled.routes network).mpr
        ⟨.inl held, fun cidr recorded _ named => known ⟨cidr, recorded, named⟩⟩
      exact .inr ((settled iface listed dump read network).mp kept)

private theorem settled_of_needs {pass : Pass} {undisturbed : Undisturbed daemon.tracked pass}
    (names : Names daemon.tracked world) (unmixed : Unmixed daemon.tracked world (.pass pass undisturbed))
    (accounted : Accounted daemon.tracked world (.pass pass undisturbed)) :
    Settled daemon.tracked world (.pass pass undisturbed) := by
  intro iface listed dump read network
  obtain ⟨own, ownRead, reconciled⟩ := pass_reconciled daemon names undisturbed listed
  cases ownRead.symm.trans read
  rw [reconciled.routes]
  constructor
  · rintro ⟨held | ⟨cidr, fresh, _, named⟩, kept⟩
    · have known : (∃ cidr ∈ world.installed iface.index, networkOf cidr = some network) ∨
          ∃ cidr, Fresh pass.now iface dump cidr ∧ networkOf cidr = some network := by
        by_cases default : network.cidr.len = 0
        · exact accounted iface listed dump read network held default
        · exact .inl (names.recorded iface listed network held default)
      rcases known with ⟨cidr, recorded, named⟩ | fresh
      · by_cases fresh : Fresh pass.now iface dump cidr
        · exact ⟨cidr, fresh, named⟩
        · exact absurd named (kept cidr recorded fresh)
      · exact fresh
    · exact ⟨cidr, fresh, named⟩
  · intro given
    obtain ⟨cidr, fresh, named⟩ := given
    refine ⟨?_, fun old recorded stale same => ?_⟩
    · by_cases recorded : cidr ∈ world.installed iface.index
      · exact .inl (names.held iface listed cidr recorded network named)
      · exact .inr ⟨cidr, fresh, recorded, named⟩
    · exact unmixed iface listed dump read old recorded stale cidr fresh (same.trans named.symm)

private theorem settled_iff (world : World Network) (event : Event daemon.tracked) (names : Names daemon.tracked world) :
    Settled daemon.tracked world event ↔ Unmixed daemon.tracked world event ∧ Accounted daemon.tracked world event := by
  cases event with
  | restart => exact ⟨fun _ => ⟨trivial, trivial⟩, fun _ => trivial⟩
  | pass pass undisturbed =>
    exact ⟨needs_of_settled daemon names, fun needs => settled_of_needs daemon names needs.1 needs.2⟩

private theorem names_happen (world : World Network) (event : Event daemon.tracked) (names : Names daemon.tracked world)
    (needs : Unmixed daemon.tracked world event ∧ Accounted daemon.tracked world event) :
    Names daemon.tracked (happen daemon.tracked world event) := by
  cases event with
  | restart => exact names_seed daemon.tracked world
  | pass pass undisturbed =>
    have settled := (settled_iff daemon world (.pass pass undisturbed) names).mpr needs
    refine ⟨?_, ?_, ?_⟩
    · intro iface listed cidr recorded
      obtain ⟨dump, _, reconciled⟩ := pass_reconciled daemon names undisturbed listed
      obtain ⟨peer, member, _, allowed⟩ := (reconciled.installed cidr).mp recorded
      exact daemon.parsed listed member allowed
    · intro iface listed cidr recorded network named
      obtain ⟨dump, read, reconciled⟩ := pass_reconciled daemon names undisturbed listed
      exact (settled iface listed dump read network).mpr ⟨cidr, (reconciled.installed cidr).mp recorded, named⟩
    · intro iface listed network held _
      obtain ⟨dump, read, reconciled⟩ := pass_reconciled daemon names undisturbed listed
      obtain ⟨cidr, fresh, named⟩ := (settled iface listed dump read network).mp held
      exact ⟨cidr, (reconciled.installed cidr).mpr fresh, named⟩

/-- Every pass of every run of restarts and passes ends settled exactly when none
finds a stale spelling of a fresh network on record, or a default route off it that is stale. -/
theorem passes_settled_iff (kernel : World Network) (events : List (Event daemon.tracked)) :
    (∀ move ∈ moves (happen daemon.tracked) (seed networkNaming daemon.tracked kernel) events,
      Settled daemon.tracked move.1 move.2) ↔
    ∀ move ∈ moves (happen daemon.tracked) (seed networkNaming daemon.tracked kernel) events,
      Unmixed daemon.tracked move.1 move.2 ∧ Accounted daemon.tracked move.1 move.2 :=
  always_iff (Names daemon.tracked) (settled_iff daemon) (names_happen daemon) events (names_seed daemon.tracked kernel)

end

/-! ### A host bit in an allowed IP -/

/-- A pass that finds every peer fresh and no call failing. -/
def calmPass : Pass :=
  ⟨100, fun iface => ⟨some fun _ => some ⟨50, 0, 0⟩, iface.peers.entries, List.Perm.refl _, fun _ => true, fun _ => true,
    id, fun _ => List.Perm.refl _⟩⟩

theorem calmPass_undisturbed (tracked : List TrackedInterface) : Undisturbed tracked calmPass :=
  ⟨fun _ _ => ⟨_, rfl⟩, fun _ _ _ => rfl, fun _ _ _ => rfl⟩

/-- What an earlier run of the daemon left: the network of the allowed IP. -/
def leftBehind : World Network :=
  { routes := fun index => if index = 1 then (networkOf "fd00::5/64").toList else []
    installed := fun _ => []
    failed := fun _ => false }

/-- The first pass after a restart takes the route of a fresh peer out of the kernel. -/
theorem passes_not_settled : ¬ ∀ (daemon : Daemon) (kernel : World Network) (events : List (Event daemon.tracked)),
    ∀ move ∈ moves (happen daemon.tracked) (seed networkNaming daemon.tracked kernel) events,
      Settled daemon.tracked move.1 move.2 := by
  intro alwaysSettled
  have listed : (⟨"wg0", 1, 180, trackedPeers [spelledPeer]⟩ : TrackedInterface) ∈ spelledDaemon.tracked :=
    List.mem_singleton_self _
  have settled := alwaysSettled spelledDaemon leftBehind [.pass calmPass (calmPass_undisturbed _)] _ (List.mem_singleton_self _)
    _ listed _ rfl
  have gone : (reconcilePass networkNaming spelledDaemon.tracked (seed networkNaming spelledDaemon.tracked leftBehind)
      calmPass).routes 1 = [] := by decide +kernel
  have network : ∃ network, networkOf "fd00::5/64" = some network := Option.isSome_iff_exists.mp (by decide)
  obtain ⟨network, named⟩ := network
  have held := (settled network).mpr ⟨"fd00::5/64", ⟨_, List.mem_singleton_self _, by decide, List.mem_singleton_self _⟩, named⟩
  exact List.not_mem_nil (gone ▸ held)

end Slipmesh.Awg
