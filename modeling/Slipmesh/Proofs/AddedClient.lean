import Slipmesh.Proofs.AwgConfig
import Slipmesh.Proofs.CidrText
import Slipmesh.Proofs.Roadwarriors
import Slipmesh.Taloscfg.Edit

/-! A client that `rw-add` makes passes the checks of both validators, is the one found
by its name, and leaves the pool as it was once it is removed. -/

namespace Slipmesh.Taloscfg
open Library Net Common Proofs.CidrText
open Awg (AwgConfig InterfaceEntry PeerEntry PeerChecked InterfaceChecked validateInterfaces_iff validatePeers_iff)

variable {curve : Curve} {mesh : MeshConfig} {resolved : ResolvedSecrets} {pool : RoadwarriorPool}
  {client : RoadwarriorClient}

/-! ### What is checked of a new client -/

/-- What is made of an entry is a network, as it is written. -/
theorem parseAllowedIp_ok {input text : String} (ok : parseAllowedIp input = .ok text) : ∃ net, parseCidr text = .ok net := by
  simp only [parseAllowedIp] at ok
  split at ok
  · simp only [bind_ok, mapError_ok, pure_ok] at ok
    obtain ⟨net, _, rfl⟩ := ok
    exact ⟨net, parseCidr_text net⟩
  · simp only [bind_ok, elim_ok, pure_ok] at ok
    obtain ⟨addr, _, rfl⟩ := ok
    have bounded : (if addr.isIpv4 then 32 else 128) ≤ maxPrefix addr := le_rfl
    rw [String.append_assoc]
    exact ⟨_, parseCidr_written addr bounded rfl⟩

/-- What both validators ask of a client, beside what the pool has. -/
structure NewClient (curve : Curve) (pool : RoadwarriorPool) (client : RoadwarriorClient) : Prop where
  name : ∀ other ∈ pool.clients, other.name ≠ client.name
  publicKey : ∀ other ∈ pool.clients, other.publicKey ≠ client.publicKey
  networks : ∀ text ∈ client.allowedIps, ∃ net, parseCidr text = .ok net
  protection : client.advancedSecurity = false
  keyOf : KeyOf curve client.publicKey (client.privateKey.elim .unknown .known)

theorem checkNotDuplicate_ok {name publicKey : String} (ok : checkNotDuplicate pool name publicKey = .ok ()) :
    (∀ other ∈ pool.clients, other.name ≠ name) ∧ ∀ other ∈ pool.clients, other.publicKey ≠ publicKey := by
  simp only [checkNotDuplicate, throw_bind, refuse_ok, List.any_eq_true, decide_eq_true_eq, not_exists, not_and] at ok
  exact ⟨ok.1, ok.2.1⟩

theorem newClient_of_add {secret : Key} {request : AddRequest} {added : Added}
    (ok : add curve mesh resolved secret request = .ok added) :
    ∃ pool, findPool mesh request.pool = .ok pool ∧ added.client.name = request.name ∧
      NewClient curve pool added.client := by
  obtain ⟨pool, privateKey, steps⟩ := add_ok ok
  obtain ⟨names, publicKeys⟩ := checkNotDuplicate_ok steps.fresh
  refine ⟨pool, steps.found, steps.name, ?_⟩
  constructor
  · exact steps.name ▸ names
  · exact publicKeys
  · intro text member
    obtain ⟨input, _, made⟩ := (mapM_ok steps.networks).2 text member
    exact parseAllowedIp_ok made
  · exact steps.protection
  · have known := keyOf_clientKeys steps.keys
    rw [steps.kept]
    cases privateKey with
    | unknown => trivial
    | known key =>
      rw [AddRequest.keptKey]
      split
      · exact known
      · trivial

/-! ### The topology -/

theorem validateClients_append (checked : validateClients pool.name [] pool.clients = .ok ())
    (fresh : NewClient curve pool client) : validateClients pool.name [] (pool.clients ++ [client]) = .ok () := by
  rw [validateClients_iff] at checked ⊢
  exact ⟨IndexMap.distinct_append RoadwarriorClient.publicKey checked.1 fresh.publicKey, by simp⟩

theorem validate_addClient (accepted : validate mesh = .ok ()) (listed : pool ∈ mesh.roadwarriors)
    (fresh : NewClient curve pool client) : validate (addClient mesh pool.name client) = .ok () := by
  have names := (validate_ok accepted).pools
  have clients : ∀ other ∈ mesh.roadwarriors, validateClients other.name [] (clientsWith pool.name client other) = .ok () := by
    intro other member
    have checked := (pool_checked accepted member).clients
    rw [clientsWith]
    split
    · rename_i same
      cases List.inj_on_of_nodup_map names member listed same
      exact validateClients_append checked fresh
    · exact checked
  simp only [validate, bind_ok, exists_unit, throw_bind, refuse_ok] at accepted ⊢
  obtain ⟨some, nodes, ports, links, pools, bypass⟩ := accepted
  refine ⟨some, nodes, ports, links, ?_, bypass⟩
  rw [roadwarriors_addClient]
  exact validatePools_clients pools _ clients

/-! ### The nodes' configs -/

theorem linkInterfaces_addClient (poolName nodeName : String) (own : OwnEnd) (links : List MeshLink) :
    linkInterfaces curve (addClient mesh poolName client) nodeName resolved own links =
      linkInterfaces curve mesh nodeName resolved own links := by
  induction links with
  | nil => rfl
  | cons link links ih =>
    rw [linkInterfaces, linkInterfaces, ih]
    rfl

/-- The interfaces of the links stay as they are. -/
theorem render_addClient (poolName : String) (client : RoadwarriorClient) {nodeName : String} {cfg : AwgConfig}
    (rendered : renderAwgConfig curve mesh nodeName resolved = .ok cfg) :
    ∃ ifaces, cfg.interfaces = ifaces ++ roadwarriorInterfacesFor mesh nodeName resolved ∧
      renderAwgConfig curve (addClient mesh poolName client) nodeName resolved =
        .ok ⟨ifaces ++ roadwarriorInterfacesFor (addClient mesh poolName client) nodeName resolved, cfg.metrics⟩ := by
  simp only [renderAwgConfig, meshInterfacesFor, bind_ok, pure_ok] at rendered
  obtain ⟨ifaces, ⟨own, ends, links⟩, metrics, port, rfl⟩ := rendered
  refine ⟨ifaces, rfl, ?_⟩
  simp only [renderAwgConfig, meshInterfacesFor, bind_ok, pure_ok]
  exact ⟨ifaces, ⟨own, ends, (linkInterfaces_addClient _ _ _ _).trans links⟩, metrics, port, rfl⟩

/-- The interface of a pool has the clients that the pool has with one added. -/
theorem interfaces_addClient (poolName nodeName : String) :
    roadwarriorInterfacesFor (addClient mesh poolName client) nodeName resolved =
      (mesh.roadwarriors.filter fun pool => nodeName ∈ pool.nodeHostnames).map fun pool =>
        roadwarriorInterface resolved { pool with clients := clientsWith poolName client pool } := by
  rw [roadwarriorInterfacesFor, roadwarriors_addClient, List.filter_map, List.map_map]
  rfl

/-- The pool's interface passes with one more peer. -/
theorem interfaceChecked_append (checked : InterfaceChecked (roadwarriorInterface resolved pool))
    (fresh : NewClient curve pool client) :
    InterfaceChecked (roadwarriorInterface resolved { pool with clients := pool.clients ++ [client] }) := by
  obtain ⟨keys, _, peers⟩ := validatePeers_iff.mp checked.peers
  refine ⟨checked.named, checked.short, checked.addresses, validatePeers_iff.mpr ⟨?_, by simp, ?_⟩⟩
  · simp only [roadwarriorInterface, List.map_map] at keys ⊢
    exact IndexMap.distinct_append RoadwarriorClient.publicKey keys fresh.publicKey
  · intro peer member
    obtain ⟨other, listed, rfl⟩ := List.mem_map.mp member
    rcases List.mem_append.mp listed with before | last
    · obtain ⟨protection, parsed⟩ := peers _ (List.mem_map_of_mem before)
      exact ⟨protection, parsed⟩
    · cases List.mem_singleton.mp last
      exact ⟨by simp [fresh.protection], fresh.networks⟩

theorem awg_validate_addClient (names : (mesh.roadwarriors.map (·.name)).Nodup) (listed : pool ∈ mesh.roadwarriors)
    (fresh : NewClient curve pool client) {nodeName : String} {cfg : AwgConfig}
    (rendered : renderAwgConfig curve mesh nodeName resolved = .ok cfg) (valid : Awg.validate cfg = .ok ()) :
    ∃ after, renderAwgConfig curve (addClient mesh pool.name client) nodeName resolved = .ok after ∧
      Awg.validate after = .ok () := by
  obtain ⟨ifaces, shape, after⟩ := render_addClient pool.name client rendered
  refine ⟨_, after, ?_⟩
  rw [Awg.validate_iff, shape] at valid
  obtain ⟨metrics, distinct, checked⟩ := valid
  rw [List.forall_mem_append] at checked
  refine Awg.validate_iff.mpr ⟨metrics, ?_, List.forall_mem_append.mpr ⟨checked.1, ?_⟩⟩
  · rw [List.map_append, interfaces_addClient, List.map_map]
    rw [List.map_append, roadwarriorInterfacesFor, List.map_map] at distinct
    exact distinct
  · intro iface member
    rw [interfaces_addClient] at member
    obtain ⟨other, hosted, rfl⟩ := List.mem_map.mp member
    have before := checked.2 _ (List.mem_map_of_mem hosted)
    rw [clientsWith]
    split
    · rename_i same
      cases List.inj_on_of_nodup_map names (List.mem_filter.mp hosted).1 listed same
      exact interfaceChecked_append before fresh
    · exact before

/-! ### Finding and removing -/

theorem findClient_addClient (found : findPool mesh pool.name = .ok pool) (fresh : NewClient curve pool client) :
    findClient (addClient mesh pool.name client) pool.name client.name = .ok (pool.clients.length, client) := by
  have inPool : findPool (addClient mesh pool.name client) pool.name =
      .ok { pool with clients := pool.clients ++ [client] } := by
    rw [findPool, elim_ok] at found ⊢
    rw [roadwarriors_addClient, List.find?_map, Option.map_eq_some_iff]
    refine ⟨pool, found, ?_⟩
    rw [clientsWith, if_pos rfl]
  have first : (pool.clients ++ [client]).findIdx? (·.name = client.name) = some pool.clients.length := by
    have before : pool.clients.findIdx? (·.name = client.name) = none := by
      rw [List.findIdx?_eq_none_iff]
      intro other member
      simpa using fresh.name other member
    simp [List.findIdx?_append, before, List.findIdx?_cons]
  simp only [findClient, bind_ok]
  refine ⟨_, inPool, pool.clients.length, ?_, ?_⟩
  · rw [findClientIndex, elim_ok]
    exact first
  · rw [List.getElem?_concat_length]
    rfl

/-- The topology without the client at an index of a pool. -/
def removeClient (mesh : MeshConfig) (poolName : String) (index : Nat) : MeshConfig :=
  { mesh with
    roadwarriors := mesh.roadwarriors.map fun pool =>
      if pool.name = poolName then { pool with clients := retainOthers pool.clients index } else pool }

theorem removeClient_addClient (names : (mesh.roadwarriors.map (·.name)).Nodup) (listed : pool ∈ mesh.roadwarriors)
    (client : RoadwarriorClient) :
    removeClient (addClient mesh pool.name client) pool.name pool.clients.length = mesh := by
  have pools : (removeClient (addClient mesh pool.name client) pool.name pool.clients.length).roadwarriors =
      mesh.roadwarriors := by
    rw [removeClient, roadwarriors_addClient, List.map_map]
    apply (List.map_congr_left _).trans (List.map_id _)
    intro other member
    rw [Function.comp_apply]
    split
    · rename_i same
      cases List.inj_on_of_nodup_map names member listed same
      rw [clientsWith, if_pos rfl, retainOthers_last]
      rfl
    · rename_i differ
      rw [clientsWith, if_neg differ]
      rfl
  exact congrArg (fun pools => { mesh with roadwarriors := pools }) pools

/-! ### The document of a pool -/

/-- What a pool's document has as its clients. -/
def PoolClients.Reads (curve : Curve) (document : PoolClients) (clients : List RoadwarriorClient) : Prop :=
  (document.clients.getD []).mapM (RoadwarriorClient.tryFrom curve) = .ok clients

theorem tryFrom_written (fresh : NewClient curve pool client) :
    RoadwarriorClient.tryFrom curve (ClientFields.ofClient client).entry = .ok client := by
  obtain ⟨name, publicKey, privateKey, allowedIps, advancedSecurity⟩ := client
  cases fresh.protection
  cases privateKey with
  | none => rfl
  | some key =>
    have derived : publicKeyFromPrivate curve key = .ok publicKey := fresh.keyOf
    simp only [RoadwarriorClient.tryFrom, ClientFields.ofClient, ClientFields.entry, Option.isNone_some, Bool.false_eq_true,
      if_false, derived, bind_ok, mapError_ok, pure_ok]
    exact ⟨publicKey, rfl, rfl⟩

theorem reads_addClient {document : PoolClients} (reads : document.Reads curve pool.clients)
    (fresh : NewClient curve pool client) : (document.addClient client).Reads curve (pool.clients ++ [client]) := by
  rw [PoolClients.Reads] at reads ⊢
  change (document.clients.getD [] ++ [(ClientFields.ofClient client).entry]).mapM _ = _
  rw [List.mapM_append, reads, List.mapM_cons, tryFrom_written fresh]
  rfl

theorem removeClient_written {document : PoolClients} (reads : document.Reads curve pool.clients)
    (client : RoadwarriorClient) :
    (document.addClient client).removeClient pool.clients.length = .ok ⟨some (document.clients.getD [])⟩ := by
  have size : (document.clients.getD []).length = pool.clients.length := by
    have each := mapM_keeps (p := fun _ => ()) (q := fun _ => ()) reads fun _ _ _ => rfl
    simpa using (congrArg List.length each).symm
  rw [← size]
  change Except.ok (ε := EditError) (PoolClients.mk (some (retainOthers (document.clients.getD [] ++ _) _))) = _
  rw [retainOthers_last]

/-! ### `rw-add` -/

/-- A pool with a client added: both validators accept it, the client is found where it
was added, and it can be removed from there. -/
structure ClientAdded (curve : Curve) (mesh : MeshConfig) (pool : RoadwarriorPool) (client : RoadwarriorClient) : Prop where
  accepted : validate (addClient mesh pool.name client) = .ok ()
  secrets : ∀ draws, (resolve curve draws (addClient mesh pool.name client)).1 = (resolve curve draws mesh).1
  configs : ∀ nodeName resolved cfg, renderAwgConfig curve mesh nodeName resolved = .ok cfg → Awg.validate cfg = .ok () →
    ∃ after, renderAwgConfig curve (addClient mesh pool.name client) nodeName resolved = .ok after ∧
      Awg.validate after = .ok ()
  found : findClient (addClient mesh pool.name client) pool.name client.name = .ok (pool.clients.length, client)
  removed : removeClient (addClient mesh pool.name client) pool.name pool.clients.length = mesh
  document : ∀ document : PoolClients, document.Reads curve pool.clients →
    (document.addClient client).Reads curve (pool.clients ++ [client]) ∧
      (document.addClient client).removeClient pool.clients.length = .ok ⟨some (document.clients.getD [])⟩

/-- What `rw-add` checks of its arguments is what the validators check of the client. -/
theorem add_accepted (accepted : validate mesh = .ok ()) {secret : Key} {request : AddRequest} {added : Added}
    (ok : add curve mesh resolved secret request = .ok added) :
    ∃ pool ∈ mesh.roadwarriors, pool.name = request.pool ∧ added.client.name = request.name ∧
      ClientAdded curve mesh pool added.client := by
  obtain ⟨pool, found, named, fresh⟩ := newClient_of_add ok
  obtain ⟨listed, isPool⟩ := findPool_ok found
  have names := (validate_ok accepted).pools
  rw [← isPool] at found
  refine ⟨pool, listed, isPool, named, ?_⟩
  constructor
  · exact validate_addClient accepted listed fresh
  · exact fun draws => resolve_addClient draws pool.name added.client
  · exact fun nodeName resolved cfg rendered valid => awg_validate_addClient names listed fresh rendered valid
  · exact findClient_addClient found fresh
  · exact removeClient_addClient names listed added.client
  · exact fun document reads => ⟨reads_addClient reads fresh, removeClient_written reads added.client⟩

def tabletRequest : AddRequest where
  pool := "phones"
  name := "tablet"
  allowedIps := "10.63.0.3, 10.63.8.0/24,fd00:63::3"
  publicKey := some "tablet-key"

theorem add_accepted_tablet : ∃ added : Added,
    add twoKeys phonesMesh (resolve twoKeys twoDraws phonesMesh).1 setKey tabletRequest = .ok added ∧
      ∃ pool ∈ phonesMesh.roadwarriors, pool.name = tabletRequest.pool ∧ added.client.name = tabletRequest.name ∧
        ClientAdded twoKeys phonesMesh pool added.client := by
  have made : (add twoKeys phonesMesh (resolve twoKeys twoDraws phonesMesh).1 setKey tabletRequest).isOk := by
    decide +kernel
  obtain ⟨added, ok⟩ := exists_of_isOk made
  exact ⟨added, ok, add_accepted (by decide) ok⟩

end Slipmesh.Taloscfg
