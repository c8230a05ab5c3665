import Mathlib.Data.List.Nodup
import Slipmesh.Proofs.Topology

/-! The ports that a node listens on. Validation reserves a port of both ends of
every link and of every host of every pool, and the renderer uses no other. -/

namespace Slipmesh.Taloscfg
open Library Common

def linkPorts (link : MeshLink) : PortsByNode := [(link.pair.1, link.port), (link.pair.2, link.port)]

def poolPorts (pool : RoadwarriorPool) : PortsByNode := pool.nodeHostnames.map fun name => (name, pool.listenPort)

/-- A pass over `ports` that has reserved `claimed`, each for the first time. -/
structure Reserves (ports claimed taken : PortsByNode) : Prop where
  listed : taken.Perm (claimed ++ ports)
  fresh : ports.Nodup → taken.Nodup

namespace Reserves

variable {ports first second claimed middle taken : PortsByNode}

theorem none (ports : PortsByNode) : Reserves ports [] ports := ⟨List.Perm.refl _, id⟩

theorem append (one : Reserves ports first middle) (other : Reserves middle second taken) :
    Reserves ports (first ++ second) taken := by
  refine ⟨?_, fun nodup => other.fresh (one.fresh nodup)⟩
  have moved : (second ++ (first ++ ports)).Perm (first ++ second ++ ports) := by
    rw [← List.append_assoc]
    exact List.perm_append_comm.append_right ports
  exact (other.listed.trans (one.listed.append_left second)).trans moved

theorem ofTakePort {name : String} {port : UInt16} (ok : takePort ports name port = .ok taken) :
    Reserves ports [(name, port)] taken := by
  simp only [takePort, refuse_ok, Except.ok.injEq] at ok
  obtain ⟨unused, rfl⟩ := ok
  exact ⟨List.Perm.refl _, fun nodup => List.nodup_cons.mpr ⟨unused, nodup⟩⟩

theorem ofLink {known : List String} {link : MeshLink} (ok : validateLink known ports link = .ok taken) :
    Reserves ports (linkPorts link) taken := by
  simp only [validateLink, throw_bind, accept_ok, bind_ok] at ok
  obtain ⟨_, _, _, middle, one, other⟩ := ok
  exact (ofTakePort one).append (ofTakePort other)

theorem ofLinks {known : List String} {links : List MeshLink} (ok : validateLinks known ports links = .ok taken) :
    Reserves ports (links.flatMap linkPorts) taken := by
  induction links generalizing ports with
  | nil =>
    cases ok
    exact none _
  | cons link links ih =>
    simp only [validateLinks, bind_ok] at ok
    obtain ⟨middle, one, rest⟩ := ok
    rw [List.flatMap_cons]
    exact (ofLink one).append (ih rest)

theorem ofHostnames {known : List String} {port : UInt16} {pool : String} {names : List String}
    (ok : validateHostnames known port pool ports names = .ok taken) :
    Reserves ports (names.map fun name => (name, port)) taken := by
  induction names generalizing ports with
  | nil =>
    cases ok
    exact none _
  | cons name names ih =>
    simp only [validateHostnames, throw_bind, accept_ok, bind_ok] at ok
    obtain ⟨_, middle, one, rest⟩ := ok
    exact (ofTakePort one).append (ih rest)

theorem ofPools {known names : List String} {pools : List RoadwarriorPool}
    (ok : validatePools known names ports pools = .ok ()) : ∃ taken, Reserves ports (pools.flatMap poolPorts) taken := by
  induction pools generalizing names ports with
  | nil => exact ⟨ports, none _⟩
  | cons pool pools ih =>
    simp only [validatePools, bind_ok, exists_unit, throw_bind, refuse_ok] at ok
    obtain ⟨_, _, middle, one, _, rest⟩ := ok
    obtain ⟨taken, others⟩ := ih rest
    rw [List.flatMap_cons]
    exact ⟨taken, (ofHostnames one).append others⟩

end Reserves

/-- Every port that the topology has a node listen on, with the node. -/
def reservedPorts (mesh : MeshConfig) : PortsByNode := mesh.links.flatMap linkPorts ++ mesh.roadwarriors.flatMap poolPorts

theorem reservedPorts_nodup {mesh : MeshConfig} (ok : validate mesh = .ok ()) : (reservedPorts mesh).Nodup := by
  simp only [validate, bind_ok, exists_unit, throw_bind, refuse_ok] at ok
  obtain ⟨_, _, ports, links, pools, _⟩ := ok
  obtain ⟨taken, more⟩ := Reserves.ofPools pools
  have all := (Reserves.ofLinks links).append more
  have distinct := all.listed.nodup_iff.mp (all.fresh List.nodup_nil)
  rwa [List.append_nil] at distinct

/-! ### What a node listens on -/

def linksOf (mesh : MeshConfig) (nodeName : String) : List MeshLink :=
  mesh.links.filter fun link => link.pair.1 = nodeName ∨ link.pair.2 = nodeName

def poolsOf (mesh : MeshConfig) (nodeName : String) : List RoadwarriorPool :=
  mesh.roadwarriors.filter fun pool => nodeName ∈ pool.nodeHostnames

def portsOf (mesh : MeshConfig) (nodeName : String) : List UInt16 :=
  (linksOf mesh nodeName).map (·.port) ++ (poolsOf mesh nodeName).map (·.listenPort)

variable {curve : Curve} {mesh : MeshConfig} {nodeName : String} {resolved : ResolvedSecrets}

private theorem linkInterfaces_ports {own : OwnEnd} {links : List MeshLink} {interfaces : List Awg.InterfaceEntry}
    (ok : linkInterfaces curve mesh nodeName resolved own links = .ok interfaces) :
    interfaces.map (·.listenPort) =
      (links.filter fun link => link.pair.1 = nodeName ∨ link.pair.2 = nodeName).map (·.port) := by
  induction links generalizing interfaces with
  | nil =>
    cases ok
    rfl
  | cons link links ih =>
    rw [linkInterfaces] at ok
    cases far : peerOf nodeName link with
    | none =>
      have foreign : ¬ (link.pair.1 = nodeName ∨ link.pair.2 = nodeName) := by
        intro own
        rw [peerOf] at far
        split at far
        · cases far
        · simp_all
      simp only [far] at ok
      rw [List.filter_cons_of_neg (by simpa using foreign)]
      exact ih ok
    | some peerName =>
      have party : link.pair.1 = nodeName ∨ link.pair.2 = nodeName := by
        by_contra foreign
        rw [not_or] at foreign
        rw [peerOf, if_neg foreign.1, if_neg foreign.2] at far
        cases far
      simp only [far, bind_ok, pure_ok] at ok
      obtain ⟨iface, made, others, rest, rfl⟩ := ok
      simp only [meshInterface, bind_ok, pure_ok] at made
      obtain ⟨_, _, _, _, _, _, rfl⟩ := made
      rw [List.filter_cons_of_pos (by simpa using party), List.map_cons, List.map_cons, ih rest]

theorem renderAwgConfig_ports {cfg : Awg.AwgConfig} (ok : renderAwgConfig curve mesh nodeName resolved = .ok cfg) :
    cfg.interfaces.map (·.listenPort) = portsOf mesh nodeName := by
  simp only [renderAwgConfig, meshInterfacesFor, bind_ok, pure_ok] at ok
  obtain ⟨interfaces, ⟨own, _, links⟩, metrics, _, rfl⟩ := ok
  rw [List.map_append, linkInterfaces_ports links, portsOf, linksOf, poolsOf, roadwarriorInterfacesFor, List.map_map]
  rfl

private theorem links_reserved (links : List MeshLink) (nodeName : String) :
    ((links.filter fun link => link.pair.1 = nodeName ∨ link.pair.2 = nodeName).map fun link => (nodeName, link.port)).Sublist
      (links.flatMap linkPorts) := by
  induction links with
  | nil => exact List.Sublist.refl _
  | cons link links ih =>
    rw [List.filter_cons, List.flatMap_cons]
    split
    next party =>
      change ([(nodeName, link.port)] ++ _).Sublist (linkPorts link ++ _)
      refine List.Sublist.append (List.singleton_sublist.mpr ?_) ih
      rcases of_decide_eq_true party with rfl | rfl
      · exact List.mem_cons_self ..
      · exact List.mem_cons_of_mem _ (List.mem_singleton.mpr rfl)
    next => exact ih.trans (List.sublist_append_right _ _)

private theorem pools_reserved (pools : List RoadwarriorPool) (nodeName : String) :
    ((pools.filter fun pool => nodeName ∈ pool.nodeHostnames).map fun pool => (nodeName, pool.listenPort)).Sublist
      (pools.flatMap poolPorts) := by
  induction pools with
  | nil => exact List.Sublist.refl _
  | cons pool pools ih =>
    rw [List.filter_cons, List.flatMap_cons]
    split
    next hosts =>
      change ([(nodeName, pool.listenPort)] ++ _).Sublist (poolPorts pool ++ _)
      refine List.Sublist.append (List.singleton_sublist.mpr ?_) ih
      exact List.mem_map.mpr ⟨nodeName, of_decide_eq_true hosts, rfl⟩
    next => exact ih.trans (List.sublist_append_right _ _)

private theorem portsOf_reserved (mesh : MeshConfig) (nodeName : String) :
    ((portsOf mesh nodeName).map fun port => (nodeName, port)).Sublist (reservedPorts mesh) := by
  rw [portsOf, List.map_append, List.map_map, List.map_map]
  exact (links_reserved mesh.links nodeName).append (pools_reserved mesh.roadwarriors nodeName)

/-- A node's interfaces listen on the ports of its links and of its pools, no two on one. -/
theorem listenPorts_distinct {cfg : Awg.AwgConfig} (accepted : validate mesh = .ok ())
    (rendered : renderAwgConfig curve mesh nodeName resolved = .ok cfg) :
    cfg.interfaces.map (·.listenPort) = portsOf mesh nodeName ∧ (cfg.interfaces.map (·.listenPort)).Nodup := by
  have ports := renderAwgConfig_ports rendered
  refine ⟨ports, ?_⟩
  rw [ports]
  exact ((portsOf_reserved mesh nodeName).nodup (reservedPorts_nodup accepted)).of_map

private def linkAndPool : MeshConfig :=
  { cluster := { loopbackNetworks := ⟨"10.62.0.0/16", "fd00:62::/32"⟩ }
    nodes := [{ name := "a", nodeId := "10.62.0.1" }, { name := "b", nodeId := "10.62.0.2" }]
    links := [{ pair := ("b", "a"), port := 51820 }]
    roadwarriors := [{ name := "home", nodeHostnames := ["a"], address := "10.63.0.1/24", listenPort := 51821 }] }

theorem listenPorts_linkAndPool :
    ∃ cfg, renderAwgConfig twoKeys linkAndPool "a" (resolve twoKeys twoDraws linkAndPool).1 = .ok cfg ∧
    cfg.interfaces.map (·.listenPort) = portsOf linkAndPool "a" ∧ (cfg.interfaces.map (·.listenPort)).Nodup := by
  have renders : (renderAwgConfig twoKeys linkAndPool "a" (resolve twoKeys twoDraws linkAndPool).1).isOk = true := by
    decide +kernel
  obtain ⟨cfg, rendered⟩ := exists_of_isOk renders
  exact ⟨cfg, rendered, listenPorts_distinct (by decide) rendered⟩

end Slipmesh.Taloscfg
