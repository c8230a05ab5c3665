import Slipmesh.Proofs.Roadwarriors
import Slipmesh.Proofs.SlipmeshFile

/-! Of a validated topology with its own secrets, nothing that is looked up is missing:
no default stands in for a secret, and what the code takes for granted is there. -/

namespace Slipmesh.Taloscfg
open Library Net Common
open Awg (AwgConfig InterfaceEntry)

variable {curve : Curve} {mesh : MeshConfig} {resolved : ResolvedSecrets} {pool : RoadwarriorPool}

/-! ### What is held -/

/-- The secrets have what the entries of the topology look up. -/
structure Held (mesh : MeshConfig) (resolved : ResolvedSecrets) : Prop where
  nodes : ∀ node ∈ mesh.nodes, (resolved.meshPrivateKeys.find? node.name).isSome
  links : ∀ link ∈ mesh.links, (resolved.meshLinkObfuscation.find? (linkKey link.pair)).isSome
  poolKeys : ∀ pool ∈ mesh.roadwarriors, (resolved.roadwarriorPrivateKeys.find? pool.name).isSome
  poolObfuscation : ∀ pool ∈ mesh.roadwarriors, (resolved.roadwarriorObfuscation.find? pool.name).isSome

/-- Links whose names are joined to one key share an entry, and no entry is missing. -/
theorem resolve_held (curve : Curve) (draws : Draws) (mesh : MeshConfig) : Held mesh (resolve curve draws mesh).1 := by
  have made {α β : Type} (items : List α) (key : α → String) (value : α → Nat → β) :
      ∀ item ∈ items, ((SortedMap.ofPairs (items.zipIdx.map fun entry => (key entry.1, value entry.1 entry.2))).find?
        (key item)).isSome := by
    intro item listed
    rw [SortedMap.isSome_ofPairs, zipIdx_map_keys]
    exact List.mem_map_of_mem listed
  constructor
  · exact made mesh.nodes NodeEntry.name fun node index => (resolveNode curve draws node index).1
  · exact made mesh.links (linkKey ·.pair) fun link index => (resolveLink draws mesh link index).1
  · exact made mesh.roadwarriors RoadwarriorPool.name fun pool index => (resolvePoolKey curve draws pool index).1
  · exact made mesh.roadwarriors RoadwarriorPool.name fun pool index => (resolvePoolObfuscation draws mesh pool index).1

theorem Held.node (held : Held mesh resolved) {name : String} (known : name ∈ mesh.nodes.map (·.name)) :
    ∃ key, resolved.meshPrivateKeys.find? name = some key := by
  obtain ⟨node, listed, rfl⟩ := List.mem_map.mp known
  exact Option.isSome_iff_exists.mp (held.nodes node listed)

theorem Held.inPool (held : Held mesh resolved) (listed : pool ∈ mesh.roadwarriors) :
    ∃ key obfuscation, resolved.roadwarriorPrivateKeys.find? pool.name = some key ∧
      resolved.roadwarriorObfuscation.find? pool.name = some obfuscation := by
  obtain ⟨key, here⟩ := Option.isSome_iff_exists.mp (held.poolKeys pool listed)
  obtain ⟨obfuscation, there⟩ := Option.isSome_iff_exists.mp (held.poolObfuscation pool listed)
  exact ⟨key, obfuscation, here, there⟩

/-! ### Rendering -/

/-- A private key was not there. -/
def RenderError.isMiss : RenderError → Bool
  | .noPrivateKey _ => true
  | _ => false

theorem parseNetworks_avoids (field ipv4 ipv6 : String) : Avoids (·.isMiss = true) (parseNetworks field ipv4 ipv6) := by
  refine avoids_bind ?_ fun v4 _ => avoids_bind ?_ fun v6 _ => avoids_pure
  · rw [parseIpv4Network]
    split <;> simp [RenderError.isMiss]
  · rw [parseIpv6Network]
    split <;> simp [RenderError.isMiss]

theorem findNode_avoids (mesh : MeshConfig) (name : String) : Avoids (·.isMiss = true) (findNode mesh name) :=
  avoids_elim fun _ => by simp [RenderError.isMiss]

theorem nodeIdOf_avoids (mesh : MeshConfig) (name : String) : Avoids (·.isMiss = true) (nodeIdOf mesh name) :=
  avoids_bind (findNode_avoids mesh name) fun _ _ => avoids_elim fun _ => by simp [RenderError.isMiss]

theorem nodeLoopbacks_avoids (mesh : MeshConfig) (name : String) : Avoids (·.isMiss = true) (nodeLoopbacks mesh name) :=
  avoids_bind (parseNetworks_avoids _ _ _) fun _ _ => avoids_bind (nodeIdOf_avoids mesh name) fun _ _ => avoids_pure

theorem nodeTunnelAddresses_avoids (mesh : MeshConfig) (name : String) :
    Avoids (·.isMiss = true) (nodeTunnelAddresses mesh name) := by
  refine avoids_bind ?_ fun networks _ => ?_
  · rw [parseTunnelNetworks]
    split
    · exact avoids_ok
    · exact avoids_map (parseNetworks_avoids _ _ _)
  · cases networks with
    | none => exact avoids_pure
    | some networks => exact avoids_bind (nodeIdOf_avoids mesh name) fun _ _ => avoids_pure

theorem metricsFor_avoids (mesh : MeshConfig) (name : String) (port : Option UInt16) (field : String) :
    Avoids (·.isMiss = true) (metricsFor mesh name port field) := by
  rw [metricsFor.eq_def]
  split
  · exact avoids_ok
  · apply avoids_refuse
    · simp [RenderError.isMiss]
    · exact avoids_bind (nodeLoopbacks_avoids mesh name) fun _ _ => avoids_pure

/-- A node that has loopbacks is one of the topology. -/
theorem nodeLoopbacks_known {name : String} {loopbacks : Ipv4Addr × Ipv6Addr} (ok : nodeLoopbacks mesh name = .ok loopbacks) :
    name ∈ mesh.nodes.map (·.name) := by
  simp only [nodeLoopbacks, nodeIdOf, findNode, bind_ok, elim_ok] at ok
  obtain ⟨_, _, _, ⟨node, found, _⟩, _⟩ := ok
  have named := List.find?_some found
  exact List.mem_map.mpr ⟨node, List.mem_of_find?_eq_some found, of_decide_eq_true named⟩

theorem ownEnd_avoids (held : Held mesh resolved) (name : String) : Avoids (·.isMiss = true) (ownEnd mesh name resolved) := by
  refine avoids_bind (nodeLoopbacks_avoids mesh name) fun loopbacks here => ?_
  refine avoids_bind (nodeTunnelAddresses_avoids mesh name) fun tunnel _ => ?_
  obtain ⟨key, found⟩ := held.node (nodeLoopbacks_known here)
  refine avoids_bind (avoids_elim fun missing => ?_) fun _ _ => avoids_pure
  rw [found] at missing
  cases missing

theorem meshInterface_avoids (held : Held mesh resolved) (own : OwnEnd) (link : MeshLink) {peerName : String}
    (known : peerName ∈ mesh.nodes.map (·.name)) :
    Avoids (·.isMiss = true) (meshInterface curve mesh resolved own link peerName) := by
  obtain ⟨key, found⟩ := held.node known
  refine avoids_bind (findNode_avoids mesh peerName) fun _ _ => ?_
  refine avoids_bind (avoids_elim fun missing => ?_) fun _ _ => ?_
  · rw [found] at missing
    cases missing
  · exact avoids_bind (avoids_mapError fun _ => by simp [RenderError.isMiss]) fun _ _ => avoids_pure

theorem peerOf_end {nodeName peerName : String} {link : MeshLink} (isEnd : peerOf nodeName link = some peerName) :
    peerName = link.pair.1 ∨ peerName = link.pair.2 := by
  rw [peerOf] at isEnd
  split at isEnd
  · exact .inr (Option.some.inj isEnd).symm
  · split at isEnd
    · exact .inl (Option.some.inj isEnd).symm
    · cases isEnd

theorem linkInterfaces_avoids (held : Held mesh resolved) (own : OwnEnd) (nodeName : String) {links : List MeshLink}
    (ends : ∀ link ∈ links, link.pair.1 ∈ mesh.nodes.map (·.name) ∧ link.pair.2 ∈ mesh.nodes.map (·.name)) :
    Avoids (·.isMiss = true) (linkInterfaces curve mesh nodeName resolved own links) := by
  induction links with
  | nil => exact avoids_ok
  | cons link links ih =>
    obtain ⟨here, others⟩ := List.forall_mem_cons.mp ends
    rw [linkInterfaces.eq_def]
    cases isEnd : peerOf nodeName link with
    | none => simpa only [isEnd] using ih others
    | some peerName =>
      have known : peerName ∈ mesh.nodes.map (·.name) := by
        rcases peerOf_end isEnd with rfl | rfl
        · exact here.1
        · exact here.2
      simp only [isEnd]
      exact avoids_bind (meshInterface_avoids held own link known) fun _ _ =>
        avoids_bind (ih others) fun _ _ => avoids_pure

theorem renderAwgConfig_avoids (accepted : validate mesh = .ok ()) (held : Held mesh resolved) (nodeName : String) :
    Avoids (·.isMiss = true) (renderAwgConfig curve mesh nodeName resolved) := by
  refine avoids_bind ?_ fun _ _ => avoids_bind (metricsFor_avoids mesh nodeName _ _) fun _ _ => avoids_pure
  exact avoids_bind (ownEnd_avoids held nodeName) fun own _ =>
    linkInterfaces_avoids held own nodeName fun _ listed => ends_known accepted listed

/-- The key and the obfuscation of an interface are those held for the node and the
link, or for the pool. -/
inductive Supplied (mesh : MeshConfig) (resolved : ResolvedSecrets) (nodeName : String) (iface : InterfaceEntry) : Prop
  | link (link : MeshLink) (listed : link ∈ mesh.links) (isEnd : (peerOf nodeName link).isSome)
      (key : resolved.meshPrivateKeys.find? nodeName = some iface.privateKey)
      (obfuscation : resolved.meshLinkObfuscation.find? (linkKey link.pair) = some iface.obfuscation)
  | pool (pool : RoadwarriorPool) (listed : pool ∈ mesh.roadwarriors) (hosted : nodeName ∈ pool.nodeHostnames)
      (key : resolved.roadwarriorPrivateKeys.find? pool.name = some iface.privateKey)
      (obfuscation : resolved.roadwarriorObfuscation.find? pool.name = some iface.obfuscation)

theorem interfaces_supplied (held : Held mesh resolved) {nodeName : String} {cfg : AwgConfig}
    (rendered : renderAwgConfig curve mesh nodeName resolved = .ok cfg) :
    ∀ iface ∈ cfg.interfaces, Supplied mesh resolved nodeName iface := by
  intro iface member
  rcases mem_interfaces rendered member with ofLink | ofPool
  · obtain ⟨own, ended, link, listed, peerName, isEnd, here⟩ := ofLink
    have fits := meshInterface_endOf (ownEnd_privateKey ended) here
    obtain ⟨obfuscation, found⟩ := Option.isSome_iff_exists.mp (held.links link listed)
    have same := fits.obfuscation
    rw [found, Option.getD_some] at same
    exact .link link listed (isEnd ▸ rfl) fits.own (same ▸ found)
  · obtain ⟨pool, listed, hosted, rfl⟩ := ofPool
    obtain ⟨key, obfuscation, here, there⟩ := held.inPool listed
    refine .pool pool listed hosted ?_ ?_
    · rw [roadwarriorInterface, here]
      rfl
    · rw [roadwarriorInterface, there]
      rfl

/-! ### The pools -/

/-- A private key was not there, or something that is taken for granted was not. -/
def RoadwarriorError.isMiss : RoadwarriorError → Bool
  | .noPrivateKey _ => true
  | .expected _ => true
  | _ => false

theorem findPool_avoids (mesh : MeshConfig) (name : String) : Avoids (·.isMiss = true) (findPool mesh name) :=
  avoids_elim fun _ => by simp [RoadwarriorError.isMiss]

theorem nodeEndpoint_avoids {host : String} (known : host ∈ mesh.nodes.map (·.name)) :
    Avoids (·.isMiss = true) (nodeEndpoint mesh pool host) := by
  refine avoids_bind (avoids_elim fun missing => ?_) fun node _ => ?_
  · obtain ⟨node, listed, named⟩ := List.mem_map.mp known
    exact absurd (decide_eq_true named) (List.find?_eq_none.mp missing node listed)
  · exact avoids_bind (avoids_elim fun _ => by simp [RoadwarriorError.isMiss]) fun _ _ => avoids_pure

theorem poolEndpoint_avoids (checked : PoolChecked (mesh.nodes.map (·.name)) pool) (chosen : Option String) :
    Avoids (·.isMiss = true) (poolEndpoint mesh pool chosen) := by
  cases chosen with
  | some chosen =>
    rw [poolEndpoint]
    split
    · rename_i hosts
      exact nodeEndpoint_avoids (checked.known chosen hosts)
    · exact avoids_ok
  | none =>
    cases hosts : pool.nodeHostnames with
    | nil => exact absurd hosts checked.hosted
    | cons host rest =>
      simp only [poolEndpoint, hosts]
      exact nodeEndpoint_avoids (checked.known host (hosts ▸ List.mem_cons_self ..))

theorem poolIdentity_held (held : Held mesh resolved) (listed : pool ∈ mesh.roadwarriors) :
    ∃ key obfuscation, resolved.roadwarriorPrivateKeys.find? pool.name = some key ∧
      resolved.roadwarriorObfuscation.find? pool.name = some obfuscation ∧
      poolIdentity pool resolved = .ok (key, obfuscation) := by
  obtain ⟨key, obfuscation, here, there⟩ := held.inPool listed
  refine ⟨key, obfuscation, here, there, ?_⟩
  rw [poolIdentity, here, there]
  rfl

theorem serverSide_avoids (accepted : validate mesh = .ok ()) (held : Held mesh resolved) (listed : pool ∈ mesh.roadwarriors)
    (endpoint : Option String) : Avoids (·.isMiss = true) (serverSide curve mesh resolved pool endpoint) := by
  obtain ⟨key, obfuscation, _, _, identity⟩ := poolIdentity_held held listed
  refine avoids_bind ?_ fun _ _ => avoids_bind ?_ fun _ _ => avoids_bind ?_ fun _ _ => avoids_pure
  · rw [identity]
    exact avoids_ok
  · exact avoids_mapError fun _ => by simp [RoadwarriorError.isMiss]
  · exact poolEndpoint_avoids (pool_checked accepted listed) endpoint

theorem parseAllowedIp_avoids (input : String) : Avoids (·.isMiss = true) (parseAllowedIp input) := by
  simp only [parseAllowedIp]
  split
  · exact avoids_bind (avoids_mapError fun _ => by simp [RoadwarriorError.isMiss]) fun _ _ => avoids_pure
  · exact avoids_bind (avoids_elim fun _ => by simp [RoadwarriorError.isMiss]) fun _ _ => avoids_pure

theorem clientKeys_avoids (curve : Curve) (secret : Key) (given : Option String) :
    Avoids (·.isMiss = true) (clientKeys curve secret given) := by
  cases given with
  | some given => exact avoids_ok
  | none => exact avoids_bind (avoids_mapError fun _ => by simp [RoadwarriorError.isMiss]) fun _ _ => avoids_pure

theorem checkNotDuplicate_avoids (pool : RoadwarriorPool) (name publicKey : String) :
    Avoids (·.isMiss = true) (checkNotDuplicate pool name publicKey) := by
  apply avoids_refuse
  · simp [RoadwarriorError.isMiss]
  · apply avoids_refuse
    · simp [RoadwarriorError.isMiss]
    · exact avoids_pure

theorem add_avoids (accepted : validate mesh = .ok ()) (held : Held mesh resolved) (secret : Key) (request : AddRequest) :
    Avoids (·.isMiss = true) (add curve mesh resolved secret request) := by
  apply avoids_refuse
  · simp [RoadwarriorError.isMiss]
  apply avoids_refuse
  · simp [RoadwarriorError.isMiss]
  refine avoids_bind (findPool_avoids mesh request.pool) fun pool found => ?_
  refine avoids_bind (avoids_mapM fun input _ => parseAllowedIp_avoids input) fun allowedIps _ => ?_
  apply avoids_refuse
  · simp [RoadwarriorError.isMiss]
  refine avoids_bind (clientKeys_avoids curve secret request.publicKey) fun keys _ => ?_
  refine avoids_bind (checkNotDuplicate_avoids pool request.name keys.2) fun _ _ => ?_
  have side : Avoids (·.isMiss = true) (serverSide curve mesh resolved pool request.endpoint) :=
    serverSide_avoids accepted held (findPool_ok found).1 request.endpoint
  split
  · exact avoids_pure
  · exact avoids_bind side fun _ _ => avoids_pure

theorem findClient_avoids (mesh : MeshConfig) (poolName name : String) :
    Avoids (·.isMiss = true) (findClient mesh poolName name) := by
  refine avoids_bind (findPool_avoids mesh poolName) fun pool _ => avoids_bind ?_ fun index found => ?_
  · exact avoids_elim fun _ => by simp [RoadwarriorError.isMiss]
  · rw [findClientIndex, elim_ok] at found
    obtain ⟨inside, _⟩ := List.findIdx?_eq_some_iff_getElem.mp found
    rw [List.getElem?_eq_getElem inside]
    exact avoids_pure

theorem inspectedKey_avoids (curve : Curve) (client : RoadwarriorClient) (name : String) (given : Option String) :
    Avoids (·.isMiss = true) (inspectedKey curve client name given) := by
  cases given with
  | none => exact avoids_ok
  | some given =>
    refine avoids_bind (avoids_mapError fun _ => by simp [RoadwarriorError.isMiss]) fun derived _ => ?_
    apply avoids_accept
    · exact avoids_pure
    · simp [RoadwarriorError.isMiss]

theorem inspect_avoids (accepted : validate mesh = .ok ()) (held : Held mesh resolved) (poolName name : String)
    (privateKey endpoint : Option String) :
    Avoids (·.isMiss = true) (inspect curve mesh resolved poolName name privateKey endpoint) := by
  refine avoids_bind (findPool_avoids mesh poolName) fun pool found => ?_
  refine avoids_bind (findClient_avoids mesh poolName name) fun client _ => ?_
  refine avoids_bind (serverSide_avoids accepted held (findPool_ok found).1 endpoint) fun _ _ => ?_
  exact avoids_bind (inspectedKey_avoids curve client.2 name privateKey) fun _ _ => avoids_pure

/-! ### A topology with its own secrets -/

/-- Every lookup hits: in rendering a node, in adding and inspecting a client, and where
a host's documents are merged. -/
structure NothingMissing (curve : Curve) (mesh : MeshConfig) (resolved : ResolvedSecrets) : Prop where
  nodes : ∀ name ∈ mesh.nodes.map (·.name), ∃ key, resolved.meshPrivateKeys.find? name = some key
  links : ∀ link ∈ mesh.links, (∃ key, resolved.meshPrivateKeys.find? link.pair.1 = some key) ∧
    (∃ key, resolved.meshPrivateKeys.find? link.pair.2 = some key) ∧
    ∃ obfuscation, resolved.meshLinkObfuscation.find? (linkKey link.pair) = some obfuscation
  pools : ∀ pool ∈ mesh.roadwarriors, ∃ key obfuscation, resolved.roadwarriorPrivateKeys.find? pool.name = some key ∧
    resolved.roadwarriorObfuscation.find? pool.name = some obfuscation ∧ poolIdentity pool resolved = .ok (key, obfuscation)
  rendered : ∀ nodeName, Avoids (·.isMiss = true) (renderAwgConfig curve mesh nodeName resolved)
  supplied : ∀ nodeName cfg, renderAwgConfig curve mesh nodeName resolved = .ok cfg →
    ∀ iface ∈ cfg.interfaces, Supplied mesh resolved nodeName iface
  endpoints : ∀ pool ∈ mesh.roadwarriors, ∀ chosen, Avoids (·.isMiss = true) (poolEndpoint mesh pool chosen)
  added : ∀ secret request, Avoids (·.isMiss = true) (add curve mesh resolved secret request)
  inspected : ∀ poolName name privateKey endpoint,
    Avoids (·.isMiss = true) (inspect curve mesh resolved poolName name privateKey endpoint)

theorem lookups_hit (accepted : validate mesh = .ok ()) (curve : Curve) (draws : Draws) :
    NothingMissing curve mesh (resolve curve draws mesh).1 ∧
      ∀ (file : SlipmeshFile) (host : String), ∀ identity ∈ identities file.patches host,
        sources file.patches host identity ≠ [] := by
  have held := resolve_held curve draws mesh
  refine ⟨?_, fun file host identity reached => sources_ne_nil.mpr reached⟩
  constructor
  · exact fun name known => held.node known
  · intro link listed
    obtain ⟨first, second⟩ := ends_known accepted listed
    exact ⟨held.node first, held.node second, Option.isSome_iff_exists.mp (held.links link listed)⟩
  · exact fun pool listed => poolIdentity_held held listed
  · exact renderAwgConfig_avoids accepted held
  · exact fun nodeName cfg rendered => interfaces_supplied held rendered
  · exact fun pool listed => poolEndpoint_avoids (pool_checked accepted listed)
  · exact add_avoids accepted held
  · exact inspect_avoids accepted held

/-- A pool on two nodes that are linked. -/
def linkedPhones : MeshConfig := { phonesMesh with links := [{ pair := ("node-b", "node-a"), port := 51820 }] }

theorem lookups_hit_phones : NothingMissing twoKeys linkedPhones (resolve twoKeys twoDraws linkedPhones).1 :=
  (lookups_hit (by decide) twoKeys twoDraws).1

end Slipmesh.Taloscfg
