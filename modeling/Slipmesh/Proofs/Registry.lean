import Mathlib.Logic.Function.Basic
import Slipmesh.Proofs.AddedClient
import Slipmesh.Proofs.Secrets

/-! What the commands leave alone in the topology: all of it but the secrets and the
clients; the secrets, once they are set; and every client that is not the one they are on. -/

namespace Slipmesh.Taloscfg
open Library Net Common

variable {curve : Curve} {draws : Draws} {mesh other : MeshConfig} {pool : RoadwarriorPool} {client : RoadwarriorClient}
  {poolName name : String}

/-! ### Clients that change -/

def MeshConfig.withClients (mesh : MeshConfig) (clients : RoadwarriorPool → List RoadwarriorClient) : MeshConfig :=
  { mesh with roadwarriors := mesh.roadwarriors.map fun pool => { pool with clients := clients pool } }

theorem addClient_eq (mesh : MeshConfig) (poolName : String) (client : RoadwarriorClient) :
    addClient mesh poolName client = mesh.withClients (clientsWith poolName client) :=
  congrArg (fun roadwarriors => { mesh with roadwarriors }) (roadwarriors_addClient poolName client)

/-- The clients of a pool in the topology that one is removed from. -/
def clientsWithout (poolName : String) (index : Nat) (pool : RoadwarriorPool) : List RoadwarriorClient :=
  if pool.name = poolName then retainOthers pool.clients index else pool.clients

theorem removeClient_eq (mesh : MeshConfig) (poolName : String) (index : Nat) :
    removeClient mesh poolName index = mesh.withClients (clientsWithout poolName index) := by
  refine congrArg (fun roadwarriors => { mesh with roadwarriors }) (List.map_congr_left ?_)
  intro pool _
  rw [clientsWithout]
  split <;> rfl

/-- Clients have no part in the secrets. -/
theorem resolve_withClients (draws : Draws) (clients : RoadwarriorPool → List RoadwarriorClient) :
    resolve curve draws (mesh.withClients clients) = resolve curve draws mesh := by
  simp only [resolve, mintedNames, MeshConfig.withClients, List.zipIdx_map, List.map_map, List.filterMap_map, List.flatMap_map]
  rfl

/-! ### All but the secrets and the clients -/

def NodeEntry.layout (node : NodeEntry) : NodeEntry := { node with meshPrivateKey := none }

def MeshLink.layout (link : MeshLink) : MeshLink := { link with obfuscation := {} }

def RoadwarriorPool.layout (pool : RoadwarriorPool) : RoadwarriorPool :=
  { pool with privateKey := none, obfuscation := {}, clients := [] }

def MeshConfig.layout (mesh : MeshConfig) : MeshConfig :=
  { mesh with
    nodes := mesh.nodes.map NodeEntry.layout
    links := mesh.links.map MeshLink.layout
    roadwarriors := mesh.roadwarriors.map RoadwarriorPool.layout }

theorem layout_withClients (clients : RoadwarriorPool → List RoadwarriorClient) :
    (mesh.withClients clients).layout = mesh.layout := by
  rw [MeshConfig.layout, MeshConfig.layout, MeshConfig.withClients, List.map_map]
  rfl

theorem layout_recorded : (recorded curve draws mesh).layout = mesh.layout := by
  have nodes := zipIdx_map_unseen (recordedNode curve draws) NodeEntry.layout
    (fun node index => by rw [recordedNode_eq]; rfl) mesh.nodes
  have links := zipIdx_map_unseen (recordedLink draws mesh) MeshLink.layout
    (fun link index => by rw [recordedLink_eq]; rfl) mesh.links
  have pools := zipIdx_map_unseen (recordedPool curve draws mesh) RoadwarriorPool.layout
    (fun pool index => by rw [recordedPool_eq]; rfl) mesh.roadwarriors
  simp only [MeshConfig.layout, recorded, nodes, links, pools]

theorem nodeEndpoint_layout (host : String) : nodeEndpoint mesh.layout pool.layout host = nodeEndpoint mesh pool host := by
  have same : ((fun node => decide (node.name = host)) ∘ NodeEntry.layout) = fun node => decide (node.name = host) := rfl
  simp only [nodeEndpoint, MeshConfig.layout, List.find?_map, same]
  cases mesh.nodes.find? (·.name = host) <;> rfl

/-- What a config says of the server rests on the layout and the secrets. -/
theorem serverSide_layout (secrets : ResolvedSecrets) (endpoint : Option String) :
    serverSide curve mesh.layout secrets pool.layout endpoint = serverSide curve mesh secrets pool endpoint := by
  have chosen : poolEndpoint mesh.layout pool.layout endpoint = poolEndpoint mesh pool endpoint := by
    simp only [poolEndpoint, nodeEndpoint_layout]
    rfl
  simp only [serverSide, chosen]
  rfl

theorem resolveDns_layout : resolveDns mesh.layout pool.layout = resolveDns mesh pool := rfl

theorem findPool_layout (same : mesh.layout = other.layout) (found : findPool mesh poolName = .ok pool) :
    ∃ pool', findPool other poolName = .ok pool' ∧ pool'.layout = pool.layout := by
  have firsts := congrArg (fun mesh => mesh.roadwarriors.find? (·.name = poolName)) same
  have named : ((fun pool => decide (pool.name = poolName)) ∘ RoadwarriorPool.layout) = fun pool => decide (pool.name = poolName) := rfl
  simp only [MeshConfig.layout, List.find?_map, named] at firsts
  rw [findPool, elim_ok] at found
  rw [found] at firsts
  obtain ⟨pool', first, same⟩ := Option.map_eq_some_iff.mp firsts.symm
  exact ⟨pool', by rw [findPool, first]; rfl, same⟩

/-! ### Secrets that are all set -/

/-- Whatever is drawn, nothing is minted and the secrets come out the same. -/
def Settled (curve : Curve) (mesh : MeshConfig) (secrets : ResolvedSecrets) : Prop := ∀ draws, resolve curve draws mesh = (secrets, {})

theorem settled_recorded : Settled curve (recorded curve draws mesh) (resolve curve draws mesh).1 := by
  intro later
  exact Prod.ext (secrets_recorded curve draws later mesh) (minted_recorded curve draws later mesh)

theorem Settled.withClients {secrets : ResolvedSecrets} (settled : Settled curve mesh secrets)
    (clients : RoadwarriorPool → List RoadwarriorClient) : Settled curve (mesh.withClients clients) secrets := by
  intro draws
  rw [resolve_withClients]
  exact settled draws

/-- Where nothing is named as minted, nothing is minted. -/
theorem minted_nothing (unnamed : (resolve curve draws mesh).2.isEmpty) : (resolve curve draws mesh).2 = {} := by
  have nothing := secrets_named curve draws mesh unnamed
  simp only [Minted.secrets, List.append_eq_nil_iff, List.map_eq_nil_iff, List.flatMap_eq_nil_iff] at nothing
  obtain ⟨⟨nodeKeys, linkObfuscation⟩, pools⟩ := nothing
  have noPools : (resolve curve draws mesh).2.pools = [] := by
    rw [List.eq_nil_iff_forall_not_mem]
    intro minted member
    have none_set := pools minted member
    obtain ⟨entry, _, made⟩ := List.mem_filterMap.mp member
    simp only [mintedPool] at made
    split at made
    · rename_i set
      cases made
      simp only [PoolMinted.secrets, List.append_eq_nil_iff, Option.toList_eq_nil_iff, Option.map_eq_none_iff] at none_set
      simp [none_set] at set
    · cases made
  have names : (resolve curve draws mesh).2.names = [] := List.isEmpty_iff.mp unnamed
  generalize (resolve curve draws mesh).2 = minted at nodeKeys linkObfuscation noPools names
  obtain ⟨_, _, _, _⟩ := minted
  cases nodeKeys
  cases linkObfuscation
  cases noPools
  cases names
  rfl

/-- Where nothing is minted, nothing changes. -/
theorem recorded_nothing (names : (mesh.roadwarriors.map (·.name)).Nodup) (nothing : (resolve curve draws mesh).2 = {}) :
    recorded curve draws mesh = mesh := by
  have recorded := record_minted curve draws mesh names
  rw [nothing] at recorded
  have same : record mesh {} = .ok mesh := rfl
  rw [same, Except.ok.injEq] at recorded
  exact recorded.symm

/-! ### One client -/

/-- The client that goes by a name in a pool. -/
def clientNamed (mesh : MeshConfig) (poolName name : String) : Option RoadwarriorClient :=
  (mesh.roadwarriors.find? (·.name = poolName)).bind fun pool => pool.clients.find? (·.name = name)

theorem clientNamed_pool (found : findPool mesh poolName = .ok pool) (name : String) :
    clientNamed mesh poolName name = pool.clients.find? (·.name = name) := by
  rw [findPool, elim_ok] at found
  rw [clientNamed, found, Option.bind_some]

theorem findClient_named {index : Nat} (found : findPool mesh poolName = .ok pool)
    (ok : findClient mesh poolName name = .ok (index, client)) :
    pool.clients[index]? = some client ∧ client.name = name ∧ clientNamed mesh poolName name = some client := by
  obtain ⟨here, named⟩ := findClient_ok found ok
  refine ⟨here, named, ?_⟩
  simp only [findClient, found, bind_ok, Except.ok.injEq, exists_eq_left', findClientIndex, elim_ok] at ok
  obtain ⟨position, first, ok⟩ := ok
  split at ok
  · cases ok
    rw [clientNamed_pool found, List.find?_eq_bind_findIdx?_getElem?, first]
    exact here
  · cases ok

theorem findClient_of_named (named : clientNamed mesh poolName name = some client) :
    ∃ index, findClient mesh poolName name = .ok (index, client) := by
  rw [clientNamed, Option.bind_eq_some_iff] at named
  obtain ⟨pool, found, named⟩ := named
  have isPool : findPool mesh poolName = .ok pool := by rw [findPool, found]; rfl
  rw [List.find?_eq_bind_findIdx?_getElem?, Option.bind_eq_some_iff] at named
  obtain ⟨index, first, here⟩ := named
  refine ⟨index, ?_⟩
  simp only [findClient, isPool, bind_ok, Except.ok.injEq, exists_eq_left', findClientIndex, elim_ok]
  refine ⟨index, first, ?_⟩
  rw [here]
  rfl

theorem clientNamed_recorded : clientNamed (recorded curve draws mesh) poolName name = clientNamed mesh poolName name := by
  have clients := zipIdx_map_unseen (recordedPool curve draws mesh) (fun pool => (pool.name, pool.clients))
    (fun pool index => by rw [recordedPool_eq]) mesh.roadwarriors
  have firsts := congrArg (fun entries => (entries.find? fun entry => entry.1 = poolName).bind
    fun entry => entry.2.find? (·.name = name)) clients
  simp only [List.find?_map, Option.bind_map] at firsts
  simp only [clientNamed, recorded, List.find?_map, Option.bind_map]
  exact firsts

theorem clientNamed_withClients (clients : RoadwarriorPool → List RoadwarriorClient) :
    clientNamed (mesh.withClients clients) poolName name =
      (mesh.roadwarriors.find? (·.name = poolName)).bind fun pool => (clients pool).find? (·.name = name) := by
  rw [clientNamed, MeshConfig.withClients, List.find?_map, Option.bind_map]
  rfl

/-- The clients of every pool, by the names of both. -/
def registry (mesh : MeshConfig) : String × String → Option RoadwarriorClient := fun place => clientNamed mesh place.1 place.2

/-- What becomes of the clients of one pool, where those of the others stay. -/
theorem registry_withClients (found : findPool mesh poolName = .ok pool) {clients : RoadwarriorPool → List RoadwarriorClient}
    (others : ∀ other, other.name ≠ poolName → clients other = other.clients) {value : Option RoadwarriorClient}
    (here : (clients pool).find? (·.name = name) = value)
    (elsewhere : ∀ otherName, otherName ≠ name →
      (clients pool).find? (·.name = otherName) = pool.clients.find? (·.name = otherName)) :
    registry (mesh.withClients clients) = Function.update (registry mesh) (poolName, name) value := by
  rw [findPool, elim_ok] at found
  funext place
  obtain ⟨otherPool, otherName⟩ := place
  rw [registry, clientNamed_withClients]
  by_cases samePool : otherPool = poolName
  · rw [samePool, found, Option.bind_some]
    by_cases sameName : otherName = name
    · rw [sameName, Function.update_self]
      exact here
    · have apart : (poolName, otherName) ≠ (poolName, name) := fun same => sameName (Prod.mk.inj same).2
      rw [Function.update_of_ne apart, elsewhere otherName sameName, registry, clientNamed, found]
      rfl
  · have apart : (otherPool, otherName) ≠ (poolName, name) := fun same => samePool (Prod.mk.inj same).1
    rw [Function.update_of_ne apart, registry, clientNamed]
    refine Option.bind_congr ?_
    intro other first
    have named : other.name = otherPool := by simpa using List.find?_some first
    rw [others other (named ▸ samePool)]

/-- A client of a new name is put there, and every other stays as it is. -/
theorem registry_addClient (found : findPool mesh poolName = .ok pool) (fresh : ∀ other ∈ pool.clients, other.name ≠ client.name) :
    registry (addClient mesh poolName client) = Function.update (registry mesh) (poolName, client.name) (some client) := by
  have clients : clientsWith poolName client pool = pool.clients ++ [client] := if_pos (findPool_ok found).2
  have absent : pool.clients.find? (·.name = client.name) = none := by simpa using fresh
  rw [addClient_eq]
  apply registry_withClients found
  · exact fun other differ => if_neg differ
  · rw [clients, List.find?_append, absent]
    simp
  · intro otherName differ
    rw [clients, List.find?_append]
    simp [Ne.symm differ]

/-- Where a client is removed, every other stays as it is. -/
theorem registry_removeClient {index : Nat} (found : findPool mesh poolName = .ok pool)
    (ok : findClient mesh poolName name = .ok (index, client)) : registry (removeClient mesh poolName index) =
      Function.update (registry mesh) (poolName, name) ((retainOthers pool.clients index).find? (·.name = name)) := by
  obtain ⟨here, rfl, -⟩ := findClient_named found ok
  obtain ⟨before, after, parts, rest⟩ := retainOthers_at here
  have clients : clientsWithout poolName index pool = retainOthers pool.clients index := if_pos (findPool_ok found).2
  rw [removeClient_eq]
  apply registry_withClients found
  · exact fun other differ => if_neg differ
  · rw [clients]
  · intro otherName differ
    rw [clients, rest, parts, List.find?_append, List.find?_append, List.find?_cons]
    simp [Ne.symm differ]

/-- Where no two clients of the pool have one name, the one that is removed is gone. -/
theorem removed_gone {index : Nat} (names : (pool.clients.map (·.name)).Nodup) (here : pool.clients[index]? = some client) :
    (retainOthers pool.clients index).find? (·.name = client.name) = none := by
  obtain ⟨before, after, parts, rest⟩ := retainOthers_at here
  rw [parts, List.map_append, List.map_cons, List.nodup_middle, List.nodup_cons, ← List.map_append] at names
  rw [rest, List.find?_eq_none]
  intro other member
  have differ : other.name ≠ client.name := fun same => names.1 (same ▸ List.mem_map_of_mem member)
  simpa using differ

/-- No pool has two clients of one name. -/
def NamesDistinct (mesh : MeshConfig) : Prop := ∀ pool ∈ mesh.roadwarriors, (pool.clients.map (·.name)).Nodup

theorem NamesDistinct.withClients {clients : RoadwarriorPool → List RoadwarriorClient}
    (distinct : ∀ pool ∈ mesh.roadwarriors, ((clients pool).map (·.name)).Nodup) : NamesDistinct (mesh.withClients clients) := by
  intro pool member
  obtain ⟨before, listed, rfl⟩ := List.mem_map.mp member
  exact distinct before listed

theorem NamesDistinct.recorded (distinct : NamesDistinct mesh) : NamesDistinct (recorded curve draws mesh) := by
  intro pool member
  obtain ⟨⟨before, index⟩, listed, rfl⟩ := List.mem_map.mp member
  change ((recordedPool curve draws mesh before index).clients.map (·.name)).Nodup
  rw [recordedPool_eq]
  exact distinct before (List.fst_mem_of_mem_zipIdx listed)

theorem NamesDistinct.addClient (distinct : NamesDistinct mesh)
    (fresh : ∀ pool ∈ mesh.roadwarriors, pool.name = poolName → ∀ other ∈ pool.clients, other.name ≠ client.name) :
    NamesDistinct (addClient mesh poolName client) := by
  rw [addClient_eq]
  apply NamesDistinct.withClients
  intro pool listed
  rw [clientsWith]
  split
  · rename_i same
    exact IndexMap.distinct_append RoadwarriorClient.name (distinct pool listed) (fresh pool listed same)
  · exact distinct pool listed

theorem NamesDistinct.removeClient (distinct : NamesDistinct mesh) (index : Nat) :
    NamesDistinct (removeClient mesh poolName index) := by
  rw [removeClient_eq]
  apply NamesDistinct.withClients
  intro pool listed
  rw [clientsWithout]
  split
  · exact (distinct pool listed).sublist ((retainOthers_sublist pool.clients index).map _)
  · exact distinct pool listed

end Slipmesh.Taloscfg
