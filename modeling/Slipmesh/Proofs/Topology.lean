import Slipmesh.Library.Guard
import Slipmesh.Taloscfg.Render

/-! What the topology's validation promises the renderer. -/

namespace Slipmesh.Taloscfg
open Library Net Common

structure ValidTopology (mesh : MeshConfig) : Prop where
  names : (mesh.nodes.map (·.name)).Nodup
  identities : ∀ node ∈ mesh.nodes, ∃ nodeId, parseIpv4Addr node.nodeId = some nodeId
  distinct : ∀ a ∈ mesh.nodes, ∀ b ∈ mesh.nodes, parseIpv4Addr a.nodeId = parseIpv4Addr b.nodeId → a = b
  links : ∀ link ∈ mesh.links, link.pair.1 ≠ link.pair.2
  pools : (mesh.roadwarriors.map (·.name)).Nodup

private theorem validateNodes_ok {names : List String} {ids : List Ipv4Addr} {nodes : List NodeEntry}
    (ok : validateNodes names ids nodes = .ok ()) :
    ((nodes.map (·.name)).Nodup ∧ ∀ node ∈ nodes, node.name ∉ names) ∧
      ((nodes.map (parseIpv4Addr ·.nodeId)).Nodup ∧ ∀ node ∈ nodes, parseIpv4Addr node.nodeId ∉ ids.map some) ∧
      ∀ node ∈ nodes, ∃ nodeId, parseIpv4Addr node.nodeId = some nodeId := by
  induction nodes generalizing names ids with
  | nil => simp
  | cons node nodes ih =>
    simp only [validateNodes, throw_bind, refuse_ok] at ok
    obtain ⟨_, fresh, ok⟩ := ok
    split at ok
    · simp at ok
    rename_i nodeId parsed
    simp only [refuse_ok] at ok
    obtain ⟨unused, rest⟩ := ok
    obtain ⟨⟨names, apart⟩, ⟨identities, free⟩, parse⟩ := ih rest
    refine ⟨distinct_cons fresh names apart, ?_, List.forall_mem_cons.mpr ⟨⟨nodeId, parsed⟩, parse⟩⟩
    have unused' : parseIpv4Addr node.nodeId ∉ ids.map some := by simpa [parsed] using unused
    rw [List.map_cons, ← parsed] at free
    exact distinct_cons unused' identities free

private theorem validateLinks_each {known : List String} {ports taken : PortsByNode} {links : List MeshLink}
    (ok : validateLinks known ports links = .ok taken) :
    ∀ link ∈ links, link.pair.1 ∈ known ∧ link.pair.2 ∈ known ∧ link.pair.1 ≠ link.pair.2 := by
  induction links generalizing ports with
  | nil => simp
  | cons link links ih =>
    simp only [validateLinks, bind_ok] at ok
    obtain ⟨after, first, rest⟩ := ok
    simp only [validateLink, throw_bind, accept_ok] at first
    obtain ⟨left, right, apart, _⟩ := first
    exact List.forall_mem_cons.mpr ⟨⟨left, right, apart⟩, ih rest⟩

/-! ### The pools -/

theorem validateClients_iff {pool : String} {keys : List String} {clients : List RoadwarriorClient} :
    validateClients pool keys clients = .ok () ↔
      (clients.map (·.publicKey)).Nodup ∧ ∀ client ∈ clients, client.publicKey ∉ keys := by
  have distinct : validateClients pool keys clients = .ok () ↔ (clients.map (·.publicKey)).Nodup ∧
      (∀ client ∈ clients, client.publicKey ∉ keys) ∧ ∀ client ∈ clients, True := by
    apply distinct_ok
    · intro keys
      rfl
    · intro keys client rest
      simp only [validateClients, throw_bind, refuse_ok, true_and]
  simpa using distinct

private theorem validateHostnames_known {known : List String} {port : UInt16} {pool : String} {ports taken : PortsByNode}
    {names : List String} (ok : validateHostnames known port pool ports names = .ok taken) : ∀ name ∈ names, name ∈ known := by
  induction names generalizing ports with
  | nil => simp
  | cons name names ih =>
    simp only [validateHostnames, throw_bind, accept_ok, bind_ok] at ok
    obtain ⟨here, _, _, rest⟩ := ok
    exact List.forall_mem_cons.mpr ⟨here, ih rest⟩

/-- What a pool is checked for, whatever the others are. -/
structure PoolChecked (known : List String) (pool : RoadwarriorPool) : Prop where
  hosted : pool.nodeHostnames ≠ []
  known : ∀ name ∈ pool.nodeHostnames, name ∈ known
  clients : validateClients pool.name [] pool.clients = .ok ()

private theorem validatePools_ok {known names : List String} {ports : PortsByNode} {pools : List RoadwarriorPool}
    (ok : validatePools known names ports pools = .ok ()) :
    (pools.map (·.name)).Nodup ∧ (∀ pool ∈ pools, pool.name ∉ names) ∧ ∀ pool ∈ pools, PoolChecked known pool := by
  induction pools generalizing names ports with
  | nil => simp
  | cons pool pools ih =>
    simp only [validatePools, bind_ok, exists_unit, throw_bind, refuse_ok] at ok
    obtain ⟨fresh, hosted, taken, hosts, clients, rest⟩ := ok
    obtain ⟨nodup, apart, others⟩ := ih rest
    obtain ⟨distinct, unseen⟩ := distinct_cons fresh nodup apart
    exact ⟨distinct, unseen, List.forall_mem_cons.mpr ⟨⟨hosted, validateHostnames_known hosts, clients⟩, others⟩⟩

/-- Pools that differ in their clients alone pass where the clients do. -/
theorem validatePools_clients {known names : List String} {ports : PortsByNode} {pools : List RoadwarriorPool}
    (ok : validatePools known names ports pools = .ok ()) (clients : RoadwarriorPool → List RoadwarriorClient)
    (fine : ∀ pool ∈ pools, validateClients pool.name [] (clients pool) = .ok ()) :
    validatePools known names ports (pools.map fun pool => { pool with clients := clients pool }) = .ok () := by
  induction pools generalizing names ports with
  | nil => exact ok
  | cons pool pools ih =>
    simp only [List.map_cons, validatePools, bind_ok, exists_unit, throw_bind, refuse_ok] at ok ⊢
    obtain ⟨fresh, hosted, taken, hosts, _, rest⟩ := ok
    obtain ⟨first, others⟩ := List.forall_mem_cons.mp fine
    exact ⟨fresh, hosted, taken, hosts, first, ih rest others⟩

theorem validate_ok {mesh : MeshConfig} (ok : validate mesh = .ok ()) : ValidTopology mesh := by
  simp only [validate, bind_ok, exists_unit, throw_bind, refuse_ok] at ok
  obtain ⟨_, nodes, ports, links, pools, _⟩ := ok
  obtain ⟨⟨names, _⟩, ⟨identities, _⟩, parsed⟩ := validateNodes_ok nodes
  constructor
  · exact names
  · exact parsed
  · exact fun a listedA b listedB same => List.inj_on_of_nodup_map identities listedA listedB same
  · exact fun link listed => (validateLinks_each links link listed).2.2
  · exact (validatePools_ok pools).1

/-- The ends of a link are nodes of the topology. -/
theorem ends_known {mesh : MeshConfig} (ok : validate mesh = .ok ()) {link : MeshLink} (listed : link ∈ mesh.links) :
    link.pair.1 ∈ mesh.nodes.map (·.name) ∧ link.pair.2 ∈ mesh.nodes.map (·.name) := by
  simp only [validate, bind_ok, exists_unit, throw_bind, refuse_ok] at ok
  obtain ⟨_, _, ports, links, _, _⟩ := ok
  obtain ⟨first, second, _⟩ := validateLinks_each links link listed
  exact ⟨first, second⟩

theorem pool_checked {mesh : MeshConfig} (ok : validate mesh = .ok ()) {pool : RoadwarriorPool}
    (listed : pool ∈ mesh.roadwarriors) : PoolChecked (mesh.nodes.map (·.name)) pool := by
  simp only [validate, bind_ok, exists_unit, throw_bind, refuse_ok] at ok
  obtain ⟨_, _, ports, _, pools, _⟩ := ok
  exact (validatePools_ok pools).2.2 pool listed

theorem ValidTopology.findNode {mesh : MeshConfig} (valid : ValidTopology mesh) {node : NodeEntry}
    (listed : node ∈ mesh.nodes) : findNode mesh node.name = .ok node := by
  have found : mesh.nodes.find? (·.name = node.name) = some node := (find?_key valid.names).mpr ⟨listed, rfl⟩
  rw [Taloscfg.findNode, found, Option.elim_some]

theorem ValidTopology.nodeIdOf {mesh : MeshConfig} (valid : ValidTopology mesh) {node : NodeEntry}
    (listed : node ∈ mesh.nodes) {nodeId : Ipv4Addr} (parsed : parseIpv4Addr node.nodeId = some nodeId) :
    nodeIdOf mesh node.name = .ok nodeId := by
  rw [Taloscfg.nodeIdOf, valid.findNode listed]
  simp only [bind, Except.bind, parsed, Option.elim_some]

/-! ### Two secrets, as a topology's nodes have them -/

def setKey : Key := ⟨List.replicate 32 2, rfl⟩

def drawnKey : Key := ⟨List.replicate 32 1, rfl⟩

/-- X25519 on the two. -/
def twoKeys : Curve where
  engine := standard
  publicKey key :=
    if key = drawnKey then
      ⟨[164, 224, 146, 146, 182, 81, 194, 120, 185, 119, 44, 86, 159, 95, 169, 187, 19, 217, 6, 180, 106, 182, 140, 157,
        249, 220, 43, 68, 9, 248, 162, 9], rfl⟩
    else
      ⟨[206, 141, 58, 209, 204, 182, 51, 236, 123, 112, 193, 120, 20, 165, 199, 110, 205, 2, 150, 133, 5, 13, 52, 71,
        69, 186, 5, 135, 14, 88, 125, 89], rfl⟩

def setText : String := "AgICAgICAgICAgICAgICAgICAgICAgICAgICAgICAgI="

def drawnText : String := "AQEBAQEBAQEBAQEBAQEBAQEBAQEBAQEBAQEBAQEBAQE="

/-- Nodes that are next to each other draw different keys. -/
def twoDraws : Draws where
  nodeKey index := if index % 2 = 0 then drawnKey else setKey
  linkObfuscation _ := default
  poolKey _ := drawnKey
  poolObfuscation _ := default

end Slipmesh.Taloscfg
