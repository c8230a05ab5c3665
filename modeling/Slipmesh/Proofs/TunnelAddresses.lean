import Slipmesh.Proofs.CidrText
import Slipmesh.Proofs.Generate
import Slipmesh.Proofs.Loopbacks
import Slipmesh.Proofs.Roadwarriors

/-! The address of each family that a mesh interface has, on either derivation. -/

namespace Slipmesh.Taloscfg
open Library Net Common Yaml Proofs.CidrText
open Awg (AwgConfig InterfaceEntry)
open Router (linkLocalFromLoopback)

/-- The address is within `fe80::/10`. -/
def IsLinkLocal (addr : Ipv6Addr) : Prop := addr.toNat / 2 ^ 118 = 0x3fa

instance (addr : Ipv6Addr) : Decidable (IsLinkLocal addr) := inferInstanceAs (Decidable (_ = _))

def ipv6Address (text : String) : Option Ipv6Addr :=
  match parseCidr text with
  | .ok ⟨.v6 addr, _, _⟩ => some addr
  | _ => none

/-- Every interface of a link has one IPv6 address, which is link-local. -/
def MeshLinkLocal (cfg : AwgConfig) : Prop :=
  ∀ iface ∈ cfg.interfaces, (∃ peer, iface.name = "mesh-" ++ peer) →
    ∃ addr, iface.addresses.filterMap ipv6Address = [addr] ∧ IsLinkLocal addr

/-- The host has no link, or the network that its tunnel address is in, without the bits
past its prefix, is link-local. -/
def TunnelsLinkLocal (mesh : MeshConfig) (host : String) : Prop :=
  (∀ link ∈ mesh.links, peerOf host link = none) ∨
    ∀ networks, parseTunnelNetworks mesh = .ok (some networks) →
      IsLinkLocal (hostIn networks.ipv6 networks.ipv6Prefix 0)

variable {curve : Curve} {mesh : MeshConfig} {resolved : ResolvedSecrets} {host : String}

/-! ### The two derivations -/

/-- An identity fills no bit that decides the scope. -/
theorem linkLocal_ipv6Loopback (network : Ipv6Addr) (prefixLen : Nat) (nodeId : Ipv4Addr) :
    IsLinkLocal (ipv6Loopback network prefixLen nodeId) ↔ IsLinkLocal (hostIn network prefixLen 0) := by
  have high : ipv6Loopback network prefixLen nodeId >>> 118 = hostIn network prefixLen 0 >>> 118 := by
    apply BitVec.eq_of_getLsbD_eq
    intro i _
    rw [BitVec.getLsbD_ushiftRight, BitVec.getLsbD_ushiftRight]
    by_cases inside : 118 + i < 128
    · rw [ipv6Loopback, hostIn_getLsbD _ _ _ inside, hostIn_getLsbD _ _ _ inside]
      have clear : (nodeId.setWidth 128).getLsbD (118 + i) = false := by
        rw [BitVec.getLsbD_setWidth, BitVec.getLsbD_of_ge _ _ (by omega), Bool.and_false]
      simp [clear]
    · rw [BitVec.getLsbD_of_ge _ _ (by omega), BitVec.getLsbD_of_ge _ _ (by omega)]
  have top := congrArg BitVec.toNat high
  simp only [BitVec.toNat_ushiftRight, Nat.shiftRight_eq_div_pow] at top
  rw [IsLinkLocal, IsLinkLocal, top]

theorem linkLocal_fromLoopback (loopback : Ipv6Addr) : IsLinkLocal (linkLocalFromLoopback loopback) := by
  rw [IsLinkLocal, linkLocal_toNat]
  omega

/-- Where an end's addresses come from: one address of IPv6, alone or next to one of IPv4. -/
theorem ownEnd_addresses {own : OwnEnd} (ok : ownEnd mesh host resolved = .ok own) :
    ∃ (addr : Ipv6Addr) (v4 : Option Ipv4Addr),
      own.addresses = (Ipv6Addr.text addr ++ "/64") :: (v4.map (Ipv4Addr.text · ++ "/32")).toList ∧
      ((parseTunnelNetworks mesh = .ok none ∧ IsLinkLocal addr) ∨
        ∃ networks nodeId, parseTunnelNetworks mesh = .ok (some networks) ∧
          addr = ipv6Loopback networks.ipv6 networks.ipv6Prefix nodeId) := by
  simp only [ownEnd, nodeTunnelAddresses, bind_ok, pure_ok, Prod.exists, elim_ok] at ok
  obtain ⟨_, loopback, _, tunnel, ⟨networks, parsed, tunnels⟩, privateKey, _, rfl⟩ := ok
  cases networks with
  | none =>
    cases tunnels
    exact ⟨_, none, rfl, .inl ⟨parsed, linkLocal_fromLoopback loopback⟩⟩
  | some networks =>
    simp only [bind_ok, pure_ok] at tunnels
    obtain ⟨nodeId, _, rfl⟩ := tunnels
    exact ⟨_, some (networks.addresses nodeId).1, rfl, .inr ⟨networks, nodeId, parsed, rfl⟩⟩

theorem ipv6Address_v6 (addr : Ipv6Addr) : ipv6Address (Ipv6Addr.text addr ++ "/64") = some addr := by
  have bounded : 64 ≤ maxPrefix (.v6 addr) := by simp [maxPrefix, IpAddr.isIpv4]
  have read : parseCidr (Ipv6Addr.text addr ++ "/64") = .ok ⟨.v6 addr, 64, bounded⟩ :=
    parseCidr_written (.v6 addr) bounded (by decide)
  rw [ipv6Address, read]

theorem ipv6Address_v4 (addr : Ipv4Addr) : ipv6Address (Ipv4Addr.text addr ++ "/32") = none := by
  have bounded : 32 ≤ maxPrefix (.v4 addr) := by simp [maxPrefix, IpAddr.isIpv4]
  have read : parseCidr (Ipv4Addr.text addr ++ "/32") = .ok ⟨.v4 addr, 32, bounded⟩ :=
    parseCidr_written (.v4 addr) bounded (by decide)
  rw [ipv6Address, read]

theorem filterMap_addresses (addr : Ipv6Addr) (v4 : Option Ipv4Addr) :
    ((Ipv6Addr.text addr ++ "/64") :: (v4.map (Ipv4Addr.text · ++ "/32")).toList).filterMap ipv6Address = [addr] := by
  cases v4 with
  | none => simp [ipv6Address_v6]
  | some v4 => simp [ipv6Address_v6, ipv6Address_v4]

theorem meshInterface_addresses {own : OwnEnd} {link : MeshLink} {peerName : String} {iface : InterfaceEntry}
    (rendered : meshInterface curve mesh resolved own link peerName = .ok iface) : iface.addresses = own.addresses := by
  simp only [meshInterface, bind_ok, pure_ok] at rendered
  obtain ⟨_, _, _, _, _, _, rfl⟩ := rendered
  rfl

/-- Of a rendered config: its mesh interfaces are all link-local exactly where the host
has none, or its tunnel network is. -/
theorem meshLinkLocal_iff {cfg : AwgConfig} (rendered : renderAwgConfig curve mesh host resolved = .ok cfg) :
    MeshLinkLocal cfg ↔ TunnelsLinkLocal mesh host := by
  constructor
  · intro inScope
    by_cases linked : ∀ link ∈ mesh.links, peerOf host link = none
    · exact .inl linked
    · simp only [not_forall] at linked
      obtain ⟨link, listed, isEnd⟩ := linked
      obtain ⟨position, here⟩ := List.mem_iff_getElem?.mp listed
      obtain ⟨peerName, isEnd⟩ := Option.ne_none_iff_exists'.mp isEnd
      obtain ⟨own, iface, ended, place, made⟩ := renderAwgConfig_at rendered here isEnd
      obtain ⟨addr, v4, addresses, derived⟩ := ownEnd_addresses ended
      obtain ⟨found, only, isLocal⟩ := inScope iface (List.mem_of_getElem? place) ⟨peerName, meshInterface_name made⟩
      rw [meshInterface_addresses made, addresses, filterMap_addresses, List.cons.injEq] at only
      refine .inr fun networks parsed => ?_
      rcases derived with ⟨absent, _⟩ | ⟨networks', nodeId, parsed', rfl⟩
      · cases absent.symm.trans parsed
      · cases parsed'.symm.trans parsed
        rw [← linkLocal_ipv6Loopback _ _ nodeId, only.1]
        exact isLocal
  · intro tunnels iface member named
    obtain ⟨peer, named⟩ := named
    have linked := (mem_interfaces rendered member).resolve_right fun pooled => by
      obtain ⟨pool, _, _, rfl⟩ := pooled
      exact rw_ne_mesh _ _ named
    obtain ⟨own, ended, link, listed, peerName, isEnd, made⟩ := linked
    obtain ⟨addr, v4, addresses, derived⟩ := ownEnd_addresses ended
    refine ⟨addr, by rw [meshInterface_addresses made, addresses, filterMap_addresses], ?_⟩
    rcases derived with ⟨_, isLocal⟩ | ⟨networks, nodeId, parsed, rfl⟩
    · exact isLocal
    · rw [linkLocal_ipv6Loopback]
      rcases tunnels with unlinked | tunnels
      · cases (unlinked link listed).symm.trans isEnd
      · exact tunnels networks parsed

/-- Of every host that a patch file is rendered for. -/
theorem rendered_meshLinkLocal_iff {renderer : Renderer} {file : SlipmeshFile} {text : String}
    (rendered : render renderer curve file resolved host = .ok text) :
    ∃ mesh cfg, file.effectiveFor renderer.toSerde host = .ok mesh ∧
      renderAwgConfig curve mesh host resolved = .ok cfg ∧ (MeshLinkLocal cfg ↔ TunnelsLinkLocal mesh host) := by
  obtain ⟨mesh, cfg, _, effective, made, _⟩ := render_contains rendered
  exact ⟨mesh, cfg, effective, made, meshLinkLocal_iff made⟩

/-! ### Two nodes whose tunnel addresses are in a network of either scope -/

def tunnelNodes (ipv6 : String) : MeshConfig :=
  { cluster := {
      bgpAs := 64512
      loopbackNetworks := ⟨"10.62.0.0/16", "fd00:62::/32"⟩
      directInterfaces := ["mesh-*"]
      tunnelNetworks := some ⟨"10.64.0.0/16", ipv6⟩ }
    nodes := [
      { name := "node-a", nodeId := "10.62.0.1", meshPrivateKey := some setText },
      { name := "node-b", nodeId := "10.62.0.2", meshPrivateKey := some setText }]
    links := [{ pair := ("node-a", "node-b"), port := 51820, plain := true }] }

def tunnelText (ipv6 : String) : String :=
  document routerDefault ++
    "---\nslipmesh:\n  kind: network\ncluster:\n  bgp_as: 64512\n  loopback_networks:\n    ipv4: 10.62.0.0/16\n" ++
    "    ipv6: fd00:62::/32\n  direct_interfaces: ['mesh-*']\n  tunnel_networks:\n    ipv4: 10.64.0.0/16\n    ipv6: " ++ ipv6 ++
    "\nnodes:\n  - name: node-a\n    node_id: 10.62.0.1\n    mesh_private_key: " ++ setText ++
    "\n  - name: node-b\n    node_id: 10.62.0.2\n    mesh_private_key: " ++ setText ++
    "\nmesh:\n  links:\n    - pair:\n        - node-a\n        - node-b\n      port: 51820\n      plain: true\n"

def tunnelEntries (ipv6 : String) : List (Value × Value) := [
  (.ofString "cluster", .mapping none [
    (.ofString "bgp_as", .scalar none (.number (.integer 64512))),
    (.ofString "loopback_networks", stringMap [("ipv4", "10.62.0.0/16"), ("ipv6", "fd00:62::/32")]),
    (.ofString "direct_interfaces", .sequence none [.ofString "mesh-*"]),
    (.ofString "tunnel_networks", stringMap [("ipv4", "10.64.0.0/16"), ("ipv6", ipv6)])]),
  (.ofString "nodes", .sequence none [
    stringMap [("name", "node-a"), ("node_id", "10.62.0.1"), ("mesh_private_key", setText)],
    stringMap [("name", "node-b"), ("node_id", "10.62.0.2"), ("mesh_private_key", setText)]]),
  (.ofString "mesh", .mapping none [(.ofString "links", .sequence none [.mapping none [
    (.ofString "pair", .sequence none [.ofString "node-a", .ofString "node-b"]),
    (.ofString "port", .scalar none (.number (.integer 51820))),
    (.ofString "plain", .scalar none (.bool true))]])])]

theorem tunnelEntries_distinct (ipv6 : String) :
    (Value.mapping none ((.ofString metaKey, networkBlock) :: tunnelEntries ipv6)).keys.Nodup := by
  change ([metaKey, "cluster", "nodes", "mesh"].map Value.ofString).Nodup
  decide +kernel

def tunnelRaws (ipv6 : String) : List RawDocument := [
  { patchRaw routerDefault 0 with index := 0, line := 1 },
  { index := 1
    line := 10
    value := .ok ⟨.mapping none ((.ofString metaKey, networkBlock) :: tunnelEntries ipv6), tunnelEntries_distinct ipv6⟩
    mesh := .ok (tunnelNodes ipv6)
    pool := .error "missing field name" }]

def tunnelFile (ipv6 : String) : SlipmeshFile where
  network := .mapping none (tunnelEntries ipv6)
  networkIndex := 1
  hosts := ["node-a", "node-b"]
  pools := []
  patches := [{
    index := 0
    line := 1
    block := { kind := .patch }
    value := routerDefault.patch
    distinct := routerDefault.patch_distinct
    mesh := .error "missing field cluster"
    pool := .error "missing field name" }]
  topology := tunnelNodes ipv6

def tunnelSerde (ipv6 : String) : Serde where
  documents text := if text = tunnelText ipv6 then .ok (tunnelRaws ipv6) else .error "no slipmesh block"
  readMeta := readBlock
  readMesh value :=
    if value = .mapping none (tunnelEntries ipv6 ++ [(.ofString "roadwarriors", .sequence none [])]) then
      .ok (tunnelNodes ipv6)
    else .error "missing field cluster"
  text := blockText
  readMeta_patchBlock := readBlock_patchBlock

def tunnelRenderer (ipv6 : String) : Renderer := { threeRenderer with toSerde := tunnelSerde ipv6 }

def tunnelSecrets (ipv6 : String) : ResolvedSecrets := (resolve twoKeys threeWorld.draws (tunnelNodes ipv6)).1

theorem documents_tunnelSerde (ipv6 text : String) : (tunnelSerde ipv6).documents text =
    if text = tunnelText ipv6 then .ok (tunnelRaws ipv6) else .error "no slipmesh block" := rfl

theorem read_tunnelText (ipv6 : String) (known : ipv6 = "fe80:0:64::/64" ∨ ipv6 = "fd00:64::/64") :
    SlipmeshFile.read (tunnelSerde ipv6) (tunnelText ipv6) = .ok (tunnelFile ipv6) := by
  have opened : (tunnelSerde ipv6).documents (tunnelText ipv6) = .ok (tunnelRaws ipv6) := by
    rw [documents_tunnelSerde, if_pos rfl]
  rw [read_of_documents opened]
  rcases known with rfl | rfl
  · decide +kernel
  · decide +kernel

theorem render_tunnelFile (ipv6 : String) (known : ipv6 = "fe80:0:64::/64" ∨ ipv6 = "fd00:64::/64") :
    ∃ text, render (tunnelRenderer ipv6) twoKeys (tunnelFile ipv6) (tunnelSecrets ipv6) "node-a" = .ok text := by
  apply exists_of_isOk
  rcases known with rfl | rfl
  · decide +kernel
  · decide +kernel

theorem rendered_meshLinkLocal_fe80 : ∃ mesh cfg,
    (tunnelFile "fe80:0:64::/64").effectiveFor (tunnelSerde "fe80:0:64::/64") "node-a" = .ok mesh ∧
    renderAwgConfig twoKeys mesh "node-a" (tunnelSecrets "fe80:0:64::/64") = .ok cfg ∧
    (MeshLinkLocal cfg ↔ TunnelsLinkLocal mesh "node-a") := by
  obtain ⟨text, rendered⟩ := render_tunnelFile "fe80:0:64::/64" (.inl rfl)
  exact rendered_meshLinkLocal_iff rendered

/-- The tunnel addresses of two linked nodes are in a network of global scope. -/
theorem tunnels_of_global_scope :
    SlipmeshFile.read (tunnelSerde "fd00:64::/64") (tunnelText "fd00:64::/64") = .ok (tunnelFile "fd00:64::/64") ∧
    ∃ text cfg, render (tunnelRenderer "fd00:64::/64") twoKeys (tunnelFile "fd00:64::/64") (tunnelSecrets "fd00:64::/64")
        "node-a" = .ok text ∧
      (tunnelFile "fd00:64::/64").effectiveFor (tunnelSerde "fd00:64::/64") "node-a" = .ok (tunnelNodes "fd00:64::/64") ∧
      renderAwgConfig twoKeys (tunnelNodes "fd00:64::/64") "node-a" (tunnelSecrets "fd00:64::/64") = .ok cfg ∧
      ¬ MeshLinkLocal cfg := by
  obtain ⟨text, rendered⟩ := render_tunnelFile "fd00:64::/64" (.inr rfl)
  obtain ⟨mesh, cfg, _, effective, made, _⟩ := render_contains rendered
  have whole : (tunnelFile "fd00:64::/64").effectiveFor (tunnelSerde "fd00:64::/64") "node-a" =
      .ok (tunnelNodes "fd00:64::/64") := by decide +kernel
  cases effective.symm.trans whole
  refine ⟨read_tunnelText _ (.inr rfl), text, cfg, rendered, whole, made, ?_⟩
  intro inScope
  rcases (meshLinkLocal_iff made).mp inScope with unlinked | tunnels
  · cases unlinked _ (List.mem_cons_self ..)
  · have parsed : parseTunnelNetworks (tunnelNodes "fd00:64::/64") =
        .ok (some ⟨0x0a400000#32, 16, 0xfd000064000000000000000000000000#128, 64, by decide⟩) := by decide +kernel
    exact absurd (tunnels _ parsed) (by decide +kernel)

end Slipmesh.Taloscfg
