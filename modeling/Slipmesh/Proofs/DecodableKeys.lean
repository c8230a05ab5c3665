import Slipmesh.Proofs.Identity
import Slipmesh.Proofs.TunnelAddresses

/-! Which texts a rendered `awg.yaml` has for its keys, and when the daemon can decode
each of them. -/

namespace Slipmesh.Taloscfg
open Library Common Yaml
open Awg (AwgConfig InterfaceEntry)

/-- The key decodes, if it is set. -/
def Decodes (engine : Engine) (text : Option String) : Prop := ∀ key ∈ text, (decodeKey engine key).isOk = true

/-- The keys that setting an interface's identity decodes. -/
def KeysDecode (engine : Engine) (cfg : AwgConfig) : Prop :=
  ∀ iface ∈ cfg.interfaces,
    (decodeKey engine iface.privateKey).isOk = true ∧ Decodes engine iface.obfuscation.headerProtectionKey

/-- The key of a settlement: the one set on the entry, or the topology's. No key is generated. -/
def protectionKey (plain : Bool) (specific global : Obfuscation) : Option String :=
  if plain then none else specific.headerProtectionKey.or global.headerProtectionKey

/-- Every key that is set where the host's interfaces take theirs decodes: the node's own
if it has a link, and for each link the one kept for it. -/
structure HostKeysDecode (engine : Engine) (mesh : MeshConfig) (host : String) : Prop where
  own : (∃ link ∈ mesh.links, (peerOf host link).isSome) → ∀ node ∈ mesh.nodes, node.name = host →
    Decodes engine node.meshPrivateKey
  links : ∀ link ∈ mesh.links, (peerOf host link).isSome → ∀ sharing ∈ keptLink mesh link,
    Decodes engine (protectionKey sharing.plain sharing.obfuscation mesh.obfuscation)
  pools : ∀ pool ∈ mesh.roadwarriors, host ∈ pool.nodeHostnames →
    Decodes engine pool.privateKey ∧ Decodes engine (protectionKey pool.plain pool.obfuscation mesh.obfuscation)

variable {curve : Curve} {mesh : MeshConfig} {resolved : ResolvedSecrets} {draws : Draws} {host : String} {cfg : AwgConfig}

/-! ### The secrets as texts -/

/-- A generated key decodes. -/
theorem decodes_resolveKey (curve : Curve) (specific : Option String) (secret : Key) :
    (decodeKey curve.engine (resolveKey curve specific secret).1).isOk = true ↔ Decodes curve.engine specific := by
  cases specific with
  | some key => simp [resolveKey, Decodes]
  | none => simp [resolveKey, Decodes, generatePrivateKey, Except.isOk, Except.toBool]

theorem resolveObfuscation_protectionKey (plain : Bool) (specific global : Obfuscation) (draw : Draw) :
    (resolveUnlessPlain plain specific global draw).1.headerProtectionKey = protectionKey plain specific global := by
  rw [resolveUnlessPlain, protectionKey]
  split
  · rfl
  · simp [resolveObfuscation, joinFields, orElse, generate]

theorem settlement_protectionKey (draws : Draws) (mesh : MeshConfig) (link : MeshLink) (position : Nat) :
    (settlement draws mesh link position).headerProtectionKey =
      protectionKey link.plain link.obfuscation mesh.obfuscation := by
  rw [← resolveLink_settlement]
  exact resolveObfuscation_protectionKey ..

theorem node_secret (names : (mesh.nodes.map (·.name)).Nodup) (curve : Curve) (draws : Draws) {node : NodeEntry}
    {position : Nat} (listed : mesh.nodes[position]? = some node) :
    (resolve curve draws mesh).1.meshPrivateKeys.find? node.name = some (resolveNode curve draws node position).1 := by
  have keys : (mesh.nodes.zipIdx.map fun entry => (entry.1.name, (resolveNode curve draws entry.1 entry.2).1)).map Prod.fst =
      mesh.nodes.map (·.name) := by
    rw [List.map_map, ← List.zipIdx_map_fst 0 mesh.nodes, List.map_map, List.zipIdx_map_fst]
    rfl
  apply (SortedMap.find?_ofPairs (keys ▸ names)).mpr
  exact List.mem_map.mpr ⟨(node, position), List.mem_zipIdx_iff_getElem?.mpr listed, rfl⟩

/-! ### The keys of each kind of interface -/

theorem own_decodes (valid : ValidTopology mesh) {key : String} {node : NodeEntry} (listed : node ∈ mesh.nodes)
    (found : (resolve curve draws mesh).1.meshPrivateKeys.find? node.name = some key) :
    (decodeKey curve.engine key).isOk = true ↔ Decodes curve.engine node.meshPrivateKey := by
  obtain ⟨position, here⟩ := List.mem_iff_getElem?.mp listed
  cases found.symm.trans (node_secret valid.names curve draws here)
  exact decodes_resolveKey ..

theorem link_decodes {link : MeshLink} (listed : link ∈ mesh.links) {peerName : String} {iface : InterfaceEntry}
    (isEnd : EndOf curve (resolve curve draws mesh).1 link host peerName iface) :
    Decodes curve.engine iface.obfuscation.headerProtectionKey ↔ ∀ sharing ∈ keptLink mesh link,
      Decodes curve.engine (protectionKey sharing.plain sharing.obfuscation mesh.obfuscation) := by
  obtain ⟨other, sharing, last, _, kept⟩ := kept_settlement curve draws listed
  rw [isEnd.obfuscation, kept, Option.getD_some, settlement_protectionKey, last]
  simp

theorem pool_decodes (valid : ValidTopology mesh) (curve : Curve) (draws : Draws) {pool : RoadwarriorPool}
    (listed : pool ∈ mesh.roadwarriors) :
    ((decodeKey curve.engine (roadwarriorInterface (resolve curve draws mesh).1 pool).privateKey).isOk = true ↔
        Decodes curve.engine pool.privateKey) ∧
      (roadwarriorInterface (resolve curve draws mesh).1 pool).obfuscation.headerProtectionKey =
        protectionKey pool.plain pool.obfuscation mesh.obfuscation := by
  obtain ⟨position, here⟩ := List.mem_iff_getElem?.mp listed
  obtain ⟨key, obfuscation⟩ := pool_secrets valid.pools curve draws here
  rw [roadwarriorInterface, key, obfuscation]
  exact ⟨decodes_resolveKey .., resolveObfuscation_protectionKey ..⟩

/-! ### A rendered config -/

theorem host_listed (accepted : validate mesh = .ok ()) {link : MeshLink} (listed : link ∈ mesh.links)
    (isEnd : (peerOf host link).isSome) : ∃ node ∈ mesh.nodes, node.name = host := by
  have known := ends_known accepted listed
  rw [peerOf] at isEnd
  split at isEnd
  · rename_i same
    exact List.mem_map.mp (same ▸ known.1)
  split at isEnd
  · rename_i same
    exact List.mem_map.mp (same ▸ known.2)
  · cases isEnd

theorem keysDecode_iff (accepted : validate mesh = .ok ())
    (rendered : renderAwgConfig curve mesh host (resolve curve draws mesh).1 = .ok cfg) :
    KeysDecode curve.engine cfg ↔ HostKeysDecode curve.engine mesh host := by
  have valid := validate_ok accepted
  have endOf {link : MeshLink} (listed : link ∈ mesh.links) (isEnd : (peerOf host link).isSome) :
      ∃ iface ∈ cfg.interfaces, ∃ peerName, EndOf curve (resolve curve draws mesh).1 link host peerName iface := by
    obtain ⟨position, here⟩ := List.mem_iff_getElem?.mp listed
    obtain ⟨peerName, isEnd⟩ := Option.isSome_iff_exists.mp isEnd
    obtain ⟨iface, place, ends⟩ := renderAwgConfig_endOf rendered here isEnd
    exact ⟨iface, List.mem_of_getElem? place, peerName, ends⟩
  constructor
  · intro decodes
    refine ⟨?_, ?_, ?_⟩
    · intro linked node listed named
      obtain ⟨link, inMesh, isEnd⟩ := linked
      obtain ⟨iface, member, peerName, ends⟩ := endOf inMesh isEnd
      exact (own_decodes valid listed (named ▸ ends.own)).mp (decodes iface member).1
    · intro link inMesh isEnd
      obtain ⟨iface, member, peerName, ends⟩ := endOf inMesh isEnd
      exact (link_decodes inMesh ends).mp (decodes iface member).2
    · intro pool listed hosts
      obtain ⟨key, protection⟩ := pool_decodes valid curve draws listed
      obtain ⟨own, set⟩ := decodes _ (roadwarriorInterface_mem rendered listed hosts)
      exact ⟨key.mp own, protection ▸ set⟩
  · intro decodes iface member
    rcases mem_interfaces rendered member with linked | pooled
    · obtain ⟨own, ended, link, inMesh, peerName, isEnd, made⟩ := linked
      have ends := meshInterface_endOf (ownEnd_privateKey ended) made
      have hosted : (peerOf host link).isSome := by rw [isEnd]; rfl
      obtain ⟨node, listed, named⟩ := host_listed accepted inMesh hosted
      have set := decodes.own ⟨link, inMesh, hosted⟩ node listed named
      exact ⟨(own_decodes valid listed (named ▸ ends.own)).mpr set, (link_decodes inMesh ends).mpr (decodes.links link inMesh hosted)⟩
    · obtain ⟨pool, listed, hosts, rfl⟩ := pooled
      obtain ⟨key, protection⟩ := pool_decodes valid curve draws listed
      obtain ⟨own, set⟩ := decodes.pools pool listed hosts
      exact ⟨key.mpr own, protection ▸ set⟩

/-- Of a host that a patch file is rendered for: the daemon can decode the keys of every
interface exactly where those decode that the host takes from `slipmesh.yaml`. -/
theorem rendered_keysDecode_iff {renderer : Renderer} {file : SlipmeshFile} {text content : String}
    (read : SlipmeshFile.read renderer.toSerde text = .ok file)
    (rendered : render renderer curve file (resolve curve draws file.topology).1 host = .ok content) :
    ∃ cfg, renderAwgConfig curve file.topology host (resolve curve draws file.topology).1 = .ok cfg ∧
      (KeysDecode curve.engine cfg ↔ HostKeysDecode curve.engine file.topology host) ∧
      (KeysDecode curve.engine cfg ↔ ∀ iface ∈ cfg.interfaces, Awg.setIdentity curve.engine iface = .ok ()) := by
  obtain ⟨mesh, cfg, _, effective, made, _⟩ := render_contains rendered
  cases effectiveFor_of_read read effective
  refine ⟨cfg, made, keysDecode_iff (validate_of_read read) made, ?_⟩
  simp only [KeysDecode, Decodes, Awg.setIdentity_ok_iff]

theorem rendered_keysDecode_tunnel : ∃ cfg,
    renderAwgConfig twoKeys (tunnelNodes "fe80:0:64::/64") "node-a" (tunnelSecrets "fe80:0:64::/64") = .ok cfg ∧
      (KeysDecode standard cfg ↔ HostKeysDecode standard (tunnelNodes "fe80:0:64::/64") "node-a") ∧
      (KeysDecode standard cfg ↔ ∀ iface ∈ cfg.interfaces, Awg.setIdentity standard iface = .ok ()) := by
  obtain ⟨content, rendered⟩ := render_tunnelFile "fe80:0:64::/64" (.inl rfl)
  have read : SlipmeshFile.read (tunnelRenderer "fe80:0:64::/64").toSerde (tunnelText "fe80:0:64::/64") =
      .ok (tunnelFile "fe80:0:64::/64") := read_tunnelText "fe80:0:64::/64" (.inl rfl)
  exact rendered_keysDecode_iff read rendered

/-! ### A pool whose key was never filled in -/

def changemePool : RoadwarriorPool :=
  { name := "clients"
    nodeHostnames := ["node-a"]
    address := "10.99.0.1/24"
    listenPort := 51900
    privateKey := some "changeme"
    plain := true }

def changemeNode : MeshConfig := { oneNode with roadwarriors := [changemePool] }

def changemeText : String :=
  patchesText [routerDefault] ++
    "---\nslipmesh:\n  kind: roadwarriors\nname: clients\nnode_hostnames:\n  - node-a\naddress: 10.99.0.1/24\n" ++
    "listen_port: 51900\nprivate_key: changeme\nplain: true\n"

def poolBlock : Value := .mapping none [(.ofString "kind", .ofString "roadwarriors")]

def poolEntries : List (Value × Value) := [
  (.ofString "name", .ofString "clients"),
  (.ofString "node_hostnames", .sequence none [.ofString "node-a"]),
  (.ofString "address", .ofString "10.99.0.1/24"),
  (.ofString "listen_port", .scalar none (.number (.integer 51900))),
  (.ofString "private_key", .ofString "changeme"),
  (.ofString "plain", .scalar none (.bool true))]

theorem poolEntries_distinct : (Value.mapping none poolEntries).keys.Nodup := by
  change (["name", "node_hostnames", "address", "listen_port", "private_key", "plain"].map Value.ofString).Nodup
  decide

theorem poolBlock_distinct : (Value.mapping none ((.ofString metaKey, poolBlock) :: poolEntries)).keys.Nodup := by
  change ([metaKey, "name", "node_hostnames", "address", "listen_port", "private_key", "plain"].map Value.ofString).Nodup
  decide

def poolRaw : RawDocument where
  index := 2
  line := 21
  value := .ok ⟨.mapping none ((.ofString metaKey, poolBlock) :: poolEntries), poolBlock_distinct⟩
  mesh := .error "missing field cluster"
  pool := .ok changemePool

def changemeFile : SlipmeshFile :=
  { oneNodeFile [routerDefault] with
    pools := [{
      index := 2
      line := 21
      block := { kind := .roadwarriors }
      value := .mapping none poolEntries
      distinct := poolEntries_distinct
      mesh := .error "missing field cluster"
      pool := .ok changemePool }]
    topology := changemeNode }

def changemeSerde : Serde where
  documents text :=
    if text = changemeText then .ok (patchesRaw [routerDefault] ++ [poolRaw]) else .error "no slipmesh block"
  readMeta block := if block = poolBlock then .ok { kind := .roadwarriors } else readBlock block
  readMesh value :=
    if value = .mapping none (oneNodeEntries ++ [(.ofString "roadwarriors", .sequence none [.mapping none poolEntries])]) then
      .ok changemeNode
    else .error "missing field cluster"
  text := blockText
  readMeta_patchBlock := rfl

def changemeRenderer : Renderer := { threeRenderer with toSerde := changemeSerde }

def changemeSecrets : ResolvedSecrets := (resolve twoKeys threeWorld.draws changemeNode).1

theorem documents_changemeSerde (text : String) : changemeSerde.documents text =
    if text = changemeText then .ok (patchesRaw [routerDefault] ++ [poolRaw]) else .error "no slipmesh block" := rfl

theorem read_changemeText : SlipmeshFile.read changemeSerde changemeText = .ok changemeFile := by
  have opened : changemeSerde.documents changemeText = .ok (patchesRaw [routerDefault] ++ [poolRaw]) := by
    rw [documents_changemeSerde, if_pos rfl]
  rw [read_of_documents opened]
  decide +kernel

/-- Every host's patch file is rendered, with a key that the daemon cannot decode. -/
theorem changeme_key_rendered : SlipmeshFile.read changemeSerde changemeText = .ok changemeFile ∧
    (∀ host ∈ changemeFile.hosts, ∃ content,
      render changemeRenderer twoKeys changemeFile changemeSecrets host = .ok content) ∧
    ∃ cfg, renderAwgConfig twoKeys changemeNode "node-a" changemeSecrets = .ok cfg ∧ ¬ KeysDecode standard cfg := by
  have renders : ∀ host ∈ changemeFile.hosts, ∃ content,
      render changemeRenderer twoKeys changemeFile changemeSecrets host = .ok content := by
    have passes : ∀ host ∈ changemeFile.hosts,
        (render changemeRenderer twoKeys changemeFile changemeSecrets host).isOk = true := by decide +kernel
    exact fun host known => exists_of_isOk (passes host known)
  obtain ⟨content, rendered⟩ := renders "node-a" (List.mem_cons_self ..)
  obtain ⟨mesh, cfg, _, effective, made, _⟩ := render_contains rendered
  cases effectiveFor_of_read read_changemeText effective
  refine ⟨read_changemeText, renders, cfg, made, ?_⟩
  intro decodes
  have fine : HostKeysDecode standard changemeNode "node-a" :=
    (keysDecode_iff (validate_of_read read_changemeText) made).mp decodes
  have pool := fine.pools changemePool (List.mem_cons_self ..) (List.mem_cons_self ..)
  exact absurd (pool.1 "changeme" rfl) (by decide)

end Slipmesh.Taloscfg
