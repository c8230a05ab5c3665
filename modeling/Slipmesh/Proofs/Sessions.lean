import Slipmesh.Library.IndexMap
import Slipmesh.Proofs.BirdConf
import Slipmesh.Proofs.CidrText
import Slipmesh.Proofs.Topology

/-! The iBGP session of two nodes, which each of them configures from its own
`router.yaml`. -/

namespace Slipmesh.Taloscfg
open Library Net Common Proofs.CidrText
open Router (BgpPeerEntry RouterConfig StaticInputs)

/-- One entry for the other node, at the address that the other's own config gives it,
and none for the node itself. -/
structure Faces (cfg other : RouterConfig) (ownName otherName : String) : Prop where
  one : ∃ address, cfg.bgpPeers.filter (·.name = otherName) = [⟨otherName, address⟩] ∧
    ∃ inputs, StaticInputs.fromConfig other = .ok inputs ∧ parseIpv6Addr address = some inputs.identity.ipv6Loopback
  notItself : ∀ entry ∈ cfg.bgpPeers, entry.name ≠ ownName

/-- What two nodes need for a session. -/
structure Session (mesh : MeshConfig) (a b : NodeEntry) (cfgA cfgB : RouterConfig) : Prop where
  left : Faces cfgA cfgB a.name b.name
  right : Faces cfgB cfgA b.name a.name
  sameAs : cfgA.bgpAs = cfgB.bgpAs
  everyOther : cfgA.bgpPeers.map (·.name) = (mesh.nodes.filter (· ≠ a)).map (·.name)

variable {mesh : MeshConfig} {name : String} {cfg : RouterConfig}

private theorem bgpPeersFor_names {peers : List BgpPeerEntry} (ok : bgpPeersFor mesh name = .ok peers) :
    peers.map (·.name) = (mesh.nodes.filter (·.name ≠ name)).map (·.name) := by
  apply mapM_keeps ok
  intro node entry made
  simp only [bind_ok, pure_ok] at made
  obtain ⟨_, _, rfl⟩ := made
  rfl

private theorem bgpPeersFor_address {peers : List BgpPeerEntry} (ok : bgpPeersFor mesh name = .ok peers) :
    ∀ entry ∈ peers, ∃ loopbacks, nodeLoopbacks mesh entry.name = .ok loopbacks ∧ entry.address = Ipv6Addr.text loopbacks.2 := by
  intro entry listed
  obtain ⟨node, _, made⟩ := (mapM_ok ok).2 entry listed
  simp only [bind_ok, pure_ok] at made
  obtain ⟨loopbacks, derived, rfl⟩ := made
  exact ⟨loopbacks, derived, rfl⟩

private theorem renderRouterConfig_parts (rendered : renderRouterConfig mesh name = .ok cfg) :
    (∃ loopbacks, nodeLoopbacks mesh name = .ok loopbacks ∧
      cfg.node.loopbackAddresses = [Ipv4Addr.text loopbacks.1 ++ "/32", Ipv6Addr.text loopbacks.2 ++ "/128"]) ∧
    cfg.bgpAs = mesh.cluster.bgpAs ∧ bgpPeersFor mesh name = .ok cfg.bgpPeers := by
  simp only [renderRouterConfig, bind_ok, pure_ok, throw_bind, refuse_ok] at rendered
  obtain ⟨loopbacks, derived, _, _, _, _, _, peers, made, _, _, rfl⟩ := rendered
  exact ⟨⟨loopbacks, derived, rfl⟩, rfl, made⟩

private theorem parseLoopbackAddress_written (addr : IpAddr) {len : Nat} {suffix : String} (bounded : len ≤ maxPrefix addr)
    (written : "/" ++ toString len = suffix) :
    Router.parseLoopbackAddress (IpAddr.text addr ++ suffix) = .ok ⟨addr, len, bounded⟩ := by
  have slash : '/' ∈ (IpAddr.text addr ++ suffix).toList := by
    rw [← written]
    simp
  rw [Router.parseLoopbackAddress, if_pos slash, parseCidr_written addr bounded written]
  rfl

/-- A rendered config gives the daemon the loopbacks it was rendered from. -/
theorem rendered_identity (rendered : renderRouterConfig mesh name = .ok cfg) :
    ∃ inputs loopbacks, StaticInputs.fromConfig cfg = .ok inputs ∧ nodeLoopbacks mesh name = .ok loopbacks ∧
      inputs.identity = ⟨loopbacks.1, loopbacks.2⟩ := by
  obtain ⟨⟨loopbacks, derived, written⟩, _, peers⟩ := renderRouterConfig_parts rendered
  have v4 : Router.parseLoopbackAddress (Ipv4Addr.text loopbacks.1 ++ "/32") = .ok ⟨.v4 loopbacks.1, 32, Nat.le_refl _⟩ :=
    parseLoopbackAddress_written (.v4 loopbacks.1) _ (by decide)
  have v6 : Router.parseLoopbackAddress (Ipv6Addr.text loopbacks.2 ++ "/128") = .ok ⟨.v6 loopbacks.2, 128, Nat.le_refl _⟩ :=
    parseLoopbackAddress_written (.v6 loopbacks.2) _ (by decide)
  have texts : ∀ entry ∈ cfg.bgpPeers, ∃ address, parseIpv6Addr entry.address = some address := by
    intro entry listed
    obtain ⟨far, _, text⟩ := bgpPeersFor_address peers entry listed
    exact ⟨far.2, text ▸ parseIpv6Addr_text far.2⟩
  obtain ⟨parsed, made, _⟩ := Router.bgpPeers_ok texts
  have read : cfg.node.loopbackAddresses.mapM Router.parseLoopbackAddress =
      .ok [⟨.v4 loopbacks.1, 32, Nat.le_refl _⟩, ⟨.v6 loopbacks.2, 128, Nat.le_refl _⟩] :=
    written ▸ mapM_cons_ok.mpr ⟨_, _, v4, mapM_cons_ok.mpr ⟨_, _, v6, rfl, rfl⟩, rfl⟩
  exact ⟨_, loopbacks, Router.fromConfig_read read rfl made, derived, rfl⟩

private theorem faces {a b : NodeEntry} (names : (mesh.nodes.map (·.name)).Nodup) (listed : b ∈ mesh.nodes)
    (different : b.name ≠ a.name) {cfgA cfgB : RouterConfig} (rendersA : renderRouterConfig mesh a.name = .ok cfgA)
    (rendersB : renderRouterConfig mesh b.name = .ok cfgB) : Faces cfgA cfgB a.name b.name := by
  obtain ⟨_, _, peers⟩ := renderRouterConfig_parts rendersA
  have others := bgpPeersFor_names peers
  have distinct : (cfgA.bgpPeers.map (·.name)).Nodup := by
    rw [others]
    exact names.sublist (List.filter_sublist.map _)
  have present : b.name ∈ cfgA.bgpPeers.map (·.name) := by
    rw [others]
    exact List.mem_map_of_mem (List.mem_filter.mpr ⟨listed, by simpa using different⟩)
  obtain ⟨entry, inside, named⟩ := List.mem_map.mp present
  obtain ⟨inputs, loopbacks, read, derived, identity⟩ := rendered_identity rendersB
  obtain ⟨far, derivedFar, text⟩ := bgpPeersFor_address peers entry inside
  rw [named] at derivedFar
  cases derived.symm.trans derivedFar
  refine ⟨⟨entry.address, ?_, inputs, read, ?_⟩, ?_⟩
  · have only := IndexMap.filter_of_distinct BgpPeerEntry.name distinct inside
    rw [named] at only
    rw [only, ← named]
  · rw [text, parseIpv6Addr_text, identity]
  · intro other member same
    have inOthers : other.name ∈ (mesh.nodes.filter (·.name ≠ a.name)).map (·.name) :=
      others ▸ List.mem_map_of_mem member
    obtain ⟨node, kept, its⟩ := List.mem_map.mp inOthers
    exact of_decide_eq_true (List.mem_filter.mp kept).2 (its.trans same)

private theorem others_eq (names : (mesh.nodes.map (·.name)).Nodup) {a : NodeEntry} (listed : a ∈ mesh.nodes) :
    mesh.nodes.filter (·.name ≠ a.name) = mesh.nodes.filter (· ≠ a) := by
  apply List.filter_congr
  intro node member
  rw [decide_eq_decide, not_iff_not]
  exact ⟨fun same => List.inj_on_of_nodup_map names member listed same, congrArg NodeEntry.name⟩

/-- Of a validated topology: any two of its nodes configure one session, from both ends. -/
theorem session_agrees (accepted : validate mesh = .ok ()) {a b : NodeEntry} (listedA : a ∈ mesh.nodes)
    (listedB : b ∈ mesh.nodes) (different : a ≠ b) {cfgA cfgB : RouterConfig}
    (rendersA : renderRouterConfig mesh a.name = .ok cfgA) (rendersB : renderRouterConfig mesh b.name = .ok cfgB) :
    Session mesh a b cfgA cfgB := by
  have names := (validate_ok accepted).names
  have apart : a.name ≠ b.name := fun same => different (List.inj_on_of_nodup_map names listedA listedB same)
  obtain ⟨_, asA, peers⟩ := renderRouterConfig_parts rendersA
  obtain ⟨_, asB, _⟩ := renderRouterConfig_parts rendersB
  refine ⟨faces names listedB apart.symm rendersA rendersB, faces names listedA apart rendersB rendersA, ?_, ?_⟩
  · exact asA.trans asB.symm
  · rw [bgpPeersFor_names peers, others_eq names listedA]

private def nodeA : NodeEntry := { name := "a", nodeId := "10.62.0.1" }

private def nodeB : NodeEntry := { name := "b", nodeId := "10.62.0.2" }

private def pairOfNodes : MeshConfig :=
  { cluster := { bgpAs := 64512, loopbackNetworks := ⟨"10.62.0.0/16", "fd00:62::/32"⟩ }
    nodes := [nodeA, nodeB] }

theorem session_pairOfNodes : ∃ cfgA cfgB, renderRouterConfig pairOfNodes "a" = .ok cfgA ∧
    renderRouterConfig pairOfNodes "b" = .ok cfgB ∧ Session pairOfNodes nodeA nodeB cfgA cfgB := by
  have rendersA : (renderRouterConfig pairOfNodes "a").isOk = true := by decide +kernel
  have rendersB : (renderRouterConfig pairOfNodes "b").isOk = true := by decide +kernel
  obtain ⟨cfgA, renderedA⟩ := exists_of_isOk rendersA
  obtain ⟨cfgB, renderedB⟩ := exists_of_isOk rendersB
  exact ⟨cfgA, cfgB, renderedA, renderedB,
    session_agrees (by decide) (by decide) (by decide) (by decide) renderedA renderedB⟩

end Slipmesh.Taloscfg
