import Slipmesh.Library.IndexMap
import Slipmesh.Proofs.Settlements
import Slipmesh.Taloscfg.Roadwarrior

/-! The two sides of a roadwarrior pool: the interface on its nodes, and the configs
that are handed out to its clients. -/

namespace Slipmesh.Taloscfg
open Library Net Common
open Awg (AwgConfig InterfaceEntry PeerEntry)

variable {curve : Curve} {mesh : MeshConfig} {resolved : ResolvedSecrets} {pool : RoadwarriorPool}

/-! ### The interface of a pool -/

theorem rw_ne_mesh (pool peer : String) : "rw-" ++ pool ≠ "mesh-" ++ peer := by
  intro same
  have first := congrArg (fun name => name.toList.head?) same
  simp at first

/-- A node of the pool has one interface of its name. -/
theorem pool_interface (names : (mesh.roadwarriors.map (·.name)).Nodup) (listed : pool ∈ mesh.roadwarriors)
    {nodeName : String} (hosts : nodeName ∈ pool.nodeHostnames) {cfg : AwgConfig}
    (rendered : renderAwgConfig curve mesh nodeName resolved = .ok cfg) :
    cfg.interfaces.filter (·.name = "rw-" ++ pool.name) = [roadwarriorInterface resolved pool] := by
  simp only [renderAwgConfig, meshInterfacesFor, bind_ok, pure_ok] at rendered
  obtain ⟨ifaces, ⟨own, _, links⟩, metrics, _, rfl⟩ := rendered
  have others : ifaces.filter (·.name = "rw-" ++ pool.name) = [] := by
    rw [List.filter_eq_nil_iff]
    intro iface member same
    obtain ⟨link, _, peerName, _, here⟩ := mem_linkInterfaces links member
    rw [meshInterface_name here, decide_eq_true_eq] at same
    exact rw_ne_mesh _ _ same.symm
  have alone : (mesh.roadwarriors.filter fun pool => nodeName ∈ pool.nodeHostnames).filter
      (·.name = pool.name) = [pool] := by
    have distinct : ((mesh.roadwarriors.filter fun pool => nodeName ∈ pool.nodeHostnames).map (·.name)).Nodup :=
      names.sublist (List.filter_sublist.map _)
    apply IndexMap.filter_of_distinct RoadwarriorPool.name distinct
    simpa using ⟨listed, hosts⟩
  have same (other : RoadwarriorPool) : (roadwarriorInterface resolved other).name = "rw-" ++ pool.name ↔
      other.name = pool.name := by simp [roadwarriorInterface]
  rw [List.filter_append, others, List.nil_append, roadwarriorInterfacesFor, List.filter_map]
  simp only [Function.comp_def, same, alone, List.map_cons, List.map_nil]

/-! ### The secrets of a pool -/

theorem pool_secrets (names : (mesh.roadwarriors.map (·.name)).Nodup) (curve : Curve) (draws : Draws) {position : Nat}
    (listed : mesh.roadwarriors[position]? = some pool) :
    (resolve curve draws mesh).1.roadwarriorPrivateKeys.find? pool.name = some (resolvePoolKey curve draws pool position).1 ∧
    (resolve curve draws mesh).1.roadwarriorObfuscation.find? pool.name =
      some (resolvePoolObfuscation draws mesh pool position).1 := by
  have held {α : Type} (value : RoadwarriorPool → Nat → α) :
      (SortedMap.ofPairs (mesh.roadwarriors.zipIdx.map fun entry => (entry.1.name, value entry.1 entry.2))).find? pool.name =
        some (value pool position) := by
    have keys := zipIdx_map_keys mesh.roadwarriors RoadwarriorPool.name value
    apply (SortedMap.find?_ofPairs (keys ▸ names)).mpr
    exact List.mem_map.mpr ⟨(pool, position), List.mem_zipIdx_iff_getElem?.mpr listed, rfl⟩
  exact ⟨held fun pool index => (resolvePoolKey curve draws pool index).1,
    held fun pool index => (resolvePoolObfuscation draws mesh pool index).1⟩

theorem findPool_ok {name : String} (found : findPool mesh name = .ok pool) : pool ∈ mesh.roadwarriors ∧ pool.name = name := by
  rw [findPool, elim_ok] at found
  have named := List.find?_some found
  exact ⟨List.mem_of_find?_eq_some found, of_decide_eq_true named⟩

/-- What a config says of the server is what the pool's interface has. -/
theorem serverSide_ok {endpoint : Option String} {server : ServerSide}
    (ok : serverSide curve mesh resolved pool endpoint = .ok server) :
    publicKeyFromPrivate curve (roadwarriorInterface resolved pool).privateKey = .ok server.publicKey ∧
      poolEndpoint mesh pool endpoint = .ok server.endpoint ∧
      server.obfuscation = (roadwarriorInterface resolved pool).obfuscation := by
  simp only [serverSide, poolIdentity, bind_ok, pure_ok, elim_ok, mapError_ok, Prod.exists, Prod.mk.injEq] at ok
  obtain ⟨_, _, ⟨privateKey, found, rfl, rfl⟩, publicKey, derived, endpoint, placed, rfl⟩ := ok
  refine ⟨?_, placed, rfl⟩
  rw [roadwarriorInterface, found]
  exact derived

/-! ### What a config is rendered from -/

theorem findClient_ok {poolName name : String} {index : Nat} {client : RoadwarriorClient}
    (found : findPool mesh poolName = .ok pool) (ok : findClient mesh poolName name = .ok (index, client)) :
    pool.clients[index]? = some client ∧ client.name = name := by
  simp only [findClient, found, bind_ok, Except.ok.injEq, exists_eq_left', findClientIndex, elim_ok] at ok
  obtain ⟨position, first, ok⟩ := ok
  split at ok
  · rename_i other here
    cases ok
    obtain ⟨inside, named, _⟩ := List.findIdx?_eq_some_iff_getElem.mp first
    have same : pool.clients[index] = client := (List.getElem?_eq_some_iff.mp here).2
    exact ⟨here, same ▸ of_decide_eq_true named⟩
  · cases ok

theorem inspect_ok {poolName name : String} {privateKey endpoint : Option String} {config : ClientConfig}
    (ok : inspect curve mesh resolved poolName name privateKey endpoint = .ok config) :
    ∃ (pool : RoadwarriorPool) (index : Nat) (client : RoadwarriorClient) (server : ServerSide) (key : ClientPrivateKey),
      findPool mesh poolName = .ok pool ∧ pool.clients[index]? = some client ∧ client.name = name ∧
      serverSide curve mesh resolved pool endpoint = .ok server ∧ inspectedKey curve client name privateKey = .ok key ∧
      config = renderClientConfig key client.allowedIps (resolveDns mesh pool) server.publicKey server.endpoint
        server.obfuscation := by
  simp only [inspect, bind_ok, pure_ok, Prod.exists] at ok
  obtain ⟨pool, found, index, client, member, server, side, key, known, rfl⟩ := ok
  obtain ⟨here, named⟩ := findClient_ok found member
  exact ⟨pool, index, client, server, key, found, here, named, side, known, rfl⟩

/-- What `rw-add` has checked, and what it makes. -/
structure AddSteps (curve : Curve) (mesh : MeshConfig) (resolved : ResolvedSecrets) (secret : Key) (request : AddRequest)
    (added : Added) (pool : RoadwarriorPool) (privateKey : ClientPrivateKey) : Prop where
  found : findPool mesh request.pool = .ok pool
  networks : (Text.split ',' request.allowedIps).mapM parseAllowedIp = .ok added.client.allowedIps
  keys : clientKeys curve secret request.publicKey = .ok (privateKey, added.client.publicKey)
  fresh : checkNotDuplicate pool request.name added.client.publicKey = .ok ()
  name : added.client.name = request.name
  kept : added.client.privateKey = request.keptKey privateKey
  protection : added.client.advancedSecurity = false
  config : ∀ key config, added.config = some (key, config) → ∃ server,
    serverSide curve mesh resolved pool request.endpoint = .ok server ∧
    config = renderClientConfig privateKey added.client.allowedIps (resolveDns mesh pool) server.publicKey
      server.endpoint server.obfuscation

theorem add_ok {secret : Key} {request : AddRequest} {added : Added}
    (ok : add curve mesh resolved secret request = .ok added) :
    ∃ pool privateKey, AddSteps curve mesh resolved secret request added pool privateKey := by
  simp only [add, throw_bind, refuse_ok, bind_ok, exists_unit, Prod.exists] at ok
  obtain ⟨_, _, pool, found, allowedIps, parsed, _, privateKey, publicKey, keys, fresh, ok⟩ := ok
  refine ⟨pool, privateKey, ?_⟩
  split at ok
  · cases ok
    exact ⟨found, parsed, keys, fresh, rfl, rfl, rfl, by simp⟩
  · simp only [bind_ok, pure_ok] at ok
    obtain ⟨server, side, rfl⟩ := ok
    refine ⟨found, parsed, keys, fresh, rfl, rfl, rfl, ?_⟩
    intro key config same
    cases same
    exact ⟨server, side, rfl⟩

/-! ### The client's keys -/

/-- The private key that is known is that of the public one. -/
def KeyOf (curve : Curve) (publicKey : String) : ClientPrivateKey → Prop
  | .known key => publicKeyFromPrivate curve key = .ok publicKey
  | .unknown => True

theorem keyOf_tryFrom {entry : ClientEntry} {client : RoadwarriorClient}
    (read : RoadwarriorClient.tryFrom curve entry = .ok client) :
    KeyOf curve client.publicKey (client.privateKey.elim .unknown .known) := by
  rw [RoadwarriorClient.tryFrom] at read
  cases held : entry.privateKey with
  | none =>
    cases given : entry.publicKey with
    | none => simp only [held, given, throw_bind, throw_ok] at read
    | some other =>
      simp only [held, given, bind_ok, pure_ok, Except.ok.injEq, exists_eq_left'] at read
      rw [← read]
      trivial
  | some key =>
    cases given : entry.publicKey with
    | none =>
      simp only [held, given, bind_ok, mapError_ok, pure_ok] at read
      obtain ⟨publicKey, derived, rfl⟩ := read
      exact derived
    | some other => simp only [held, given, throw_bind, throw_ok] at read

theorem keyOf_inspected {client : RoadwarriorClient} {name : String} {privateKey : Option String} {key : ClientPrivateKey}
    (kept : KeyOf curve client.publicKey (client.privateKey.elim .unknown .known))
    (ok : inspectedKey curve client name privateKey = .ok key) : KeyOf curve client.publicKey key := by
  cases privateKey with
  | none =>
    cases ok
    exact kept
  | some given =>
    simp only [inspectedKey, bind_ok, mapError_ok, throw_bind, accept_ok, pure_ok] at ok
    obtain ⟨derived, found, same, rfl⟩ := ok
    exact found.trans (congrArg Except.ok same)

theorem keyOf_clientKeys {secret : Key} {given : Option String} {key : ClientPrivateKey} {publicKey : String}
    (ok : clientKeys curve secret given = .ok (key, publicKey)) : KeyOf curve publicKey key := by
  cases given with
  | some given =>
    cases ok
    trivial
  | none =>
    simp only [clientKeys, bind_ok, mapError_ok, pure_ok, Prod.mk.injEq] at ok
    obtain ⟨derived, found, rfl, rfl⟩ := ok
    exact found

/-! ### Both sides of a pool -/

/-- A client's config fits the interface that has the client as the peer at an index. -/
structure ConfigFits (curve : Curve) (iface : InterfaceEntry) (index : Nat) (name : String) (endpoint : Option String)
    (config : ClientConfig) : Prop where
  server : ∃ publicKey, publicKeyFromPrivate curve iface.privateKey = .ok publicKey ∧
    config.peer.lookup "PublicKey" = some publicKey
  client : ∃ entry allowedIps, iface.peers[index]? = some entry ∧ entry.name = some name ∧
    entry.allowedIps = some allowedIps ∧ config.interface.lookup "Address" = some (", ".intercalate allowedIps) ∧
    ∀ key, config.interface.lookup "PrivateKey" = some key →
      key = keyPlaceholder ∨ publicKeyFromPrivate curve key = .ok entry.publicKey
  port : endpoint = none → ∃ host,
    config.peer.lookup "Endpoint" = some (host ++ ":" ++ toString iface.listenPort.toNat)

/-- The topology with a client added to the pool of a name. -/
def addClient (mesh : MeshConfig) (poolName : String) (client : RoadwarriorClient) : MeshConfig :=
  { mesh with
    roadwarriors := mesh.roadwarriors.map fun pool =>
      if pool.name = poolName then { pool with clients := pool.clients ++ [client] } else pool }

/-- On every node of a pool, the pool has one interface, the same on each of them, which
the configs of the pool's clients fit: those of clients there are, and of those added. -/
structure PoolFits (curve : Curve) (draws : Draws) (mesh : MeshConfig) (pool : RoadwarriorPool) : Prop where
  same : ∃ iface, ∀ nodeName ∈ pool.nodeHostnames, ∀ cfg,
    renderAwgConfig curve mesh nodeName (resolve curve draws mesh).1 = .ok cfg →
    cfg.interfaces.filter (·.name = "rw-" ++ pool.name) = [iface]
  inspected : ∀ name privateKey endpoint config,
    inspect curve mesh (resolve curve draws mesh).1 pool.name name privateKey endpoint = .ok config →
    ∃ index, ∀ nodeName ∈ pool.nodeHostnames, ∀ cfg,
      renderAwgConfig curve mesh nodeName (resolve curve draws mesh).1 = .ok cfg →
      ∃ iface, cfg.interfaces.filter (·.name = "rw-" ++ pool.name) = [iface] ∧
        ConfigFits curve iface index name endpoint config
  added : ∀ secret request added key config, request.pool = pool.name →
    add curve mesh (resolve curve draws mesh).1 secret request = .ok added → added.config = some (key, config) →
    ∀ nodeName ∈ pool.nodeHostnames, ∀ cfg,
      renderAwgConfig curve (addClient mesh pool.name added.client) nodeName
        (resolve curve draws (addClient mesh pool.name added.client)).1 = .ok cfg →
      ∃ iface, cfg.interfaces.filter (·.name = "rw-" ++ pool.name) = [iface] ∧
        ConfigFits curve iface pool.clients.length request.name request.endpoint config

theorem poolEndpoint_port {text : String} (ok : poolEndpoint mesh pool none = .ok text) :
    ∃ host, text = host ++ ":" ++ toString pool.listenPort.toNat := by
  cases hosts : pool.nodeHostnames with
  | nil => simp [poolEndpoint, hosts] at ok
  | cons first rest =>
    simp only [poolEndpoint, hosts, nodeEndpoint, bind_ok, pure_ok, elim_ok] at ok
    obtain ⟨node, _, host, _, rfl⟩ := ok
    exact ⟨host, rfl⟩

/-- The client at an index of a pool, with a key that is its own, against the pool's interface. -/
theorem configFits {endpoint : Option String} {server : ServerSide} {hosted : RoadwarriorPool}
    (side : serverSide curve mesh resolved pool endpoint = .ok server)
    (keys : (roadwarriorInterface resolved hosted).privateKey = (roadwarriorInterface resolved pool).privateKey)
    (ports : hosted.listenPort = pool.listenPort) {client : RoadwarriorClient} {index : Nat}
    (listed : hosted.clients[index]? = some client) {key : ClientPrivateKey} (known : KeyOf curve client.publicKey key)
    (dns : Option String) :
    ConfigFits curve (roadwarriorInterface resolved hosted) index client.name endpoint
      (renderClientConfig key client.allowedIps dns server.publicKey server.endpoint server.obfuscation) := by
  obtain ⟨derived, placed, _⟩ := serverSide_ok side
  have entry : (roadwarriorInterface resolved hosted).peers[index]? = some {
      publicKey := client.publicKey
      name := some client.name
      allowedIps := some client.allowedIps
      advancedSecurity := client.advancedSecurity } := by
    rw [roadwarriorInterface, List.getElem?_map, listed]
    rfl
  refine ⟨⟨server.publicKey, keys ▸ derived, rfl⟩, ⟨_, client.allowedIps, entry, rfl, rfl, rfl, ?_⟩, ?_⟩
  · intro text line
    cases key with
    | known key =>
      cases line
      exact .inr known
    | unknown =>
      cases line
      exact .inl rfl
  · intro unchosen
    rw [unchosen] at placed
    obtain ⟨host, text⟩ := poolEndpoint_port placed
    exact ⟨host, by rw [roadwarriorInterface, ports, ← text]; rfl⟩

/-! ### A client added -/

/-- The clients of a pool in the topology that a client is added to. -/
def clientsWith (poolName : String) (client : RoadwarriorClient) (pool : RoadwarriorPool) : List RoadwarriorClient :=
  if pool.name = poolName then pool.clients ++ [client] else pool.clients

theorem roadwarriors_addClient (poolName : String) (client : RoadwarriorClient) :
    (addClient mesh poolName client).roadwarriors =
      mesh.roadwarriors.map fun pool => { pool with clients := clientsWith poolName client pool } := by
  apply List.map_congr_left
  intro pool _
  rw [clientsWith]
  split <;> rfl

theorem names_addClient (poolName : String) (client : RoadwarriorClient) :
    (addClient mesh poolName client).roadwarriors.map (·.name) = mesh.roadwarriors.map (·.name) := by
  rw [roadwarriors_addClient, List.map_map]
  rfl

/-- Clients have no part in the secrets. -/
theorem resolve_addClient (draws : Draws) (poolName : String) (client : RoadwarriorClient) :
    (resolve curve draws (addClient mesh poolName client)).1 = (resolve curve draws mesh).1 := by
  have unseen {α : Type} (value : RoadwarriorPool → Nat → α)
      (blind : ∀ pool clients index, value { pool with clients } index = value pool index) :
      ((addClient mesh poolName client).roadwarriors.zipIdx.map fun entry => (entry.1.name, value entry.1 entry.2)) =
        mesh.roadwarriors.zipIdx.map fun entry => (entry.1.name, value entry.1 entry.2) := by
    rw [roadwarriors_addClient, List.zipIdx_map, List.map_map]
    apply List.map_congr_left
    intro entry _
    obtain ⟨pool, index⟩ := entry
    exact congrArg (Prod.mk pool.name) (blind pool _ index)
  have keys := unseen (fun pool index => (resolvePoolKey curve draws pool index).1) fun _ _ _ => rfl
  have obfuscation := unseen (fun pool index => (resolvePoolObfuscation draws mesh pool index).1) fun _ _ _ => rfl
  have both := congrArg₂ (fun keys obfuscation => { (resolve curve draws mesh).1 with
    roadwarriorPrivateKeys := SortedMap.ofPairs keys, roadwarriorObfuscation := SortedMap.ofPairs obfuscation }) keys obfuscation
  exact both

theorem mem_addClient (listed : pool ∈ mesh.roadwarriors) (client : RoadwarriorClient) :
    { pool with clients := pool.clients ++ [client] } ∈ (addClient mesh pool.name client).roadwarriors :=
  List.mem_map.mpr ⟨pool, listed, if_pos rfl⟩

theorem findPool_eq (names : (mesh.roadwarriors.map (·.name)).Nodup) (listed : pool ∈ mesh.roadwarriors)
    {found : RoadwarriorPool} (ok : findPool mesh pool.name = .ok found) : found = pool := by
  obtain ⟨member, named⟩ := findPool_ok ok
  exact List.inj_on_of_nodup_map names member listed named

/-- The clients of a topology as they are read: each is written down by one of its keys. -/
def ClientsRead (curve : Curve) (mesh : MeshConfig) : Prop :=
  ∀ pool ∈ mesh.roadwarriors, ∀ client ∈ pool.clients, ∃ entry, RoadwarriorClient.tryFrom curve entry = .ok client

/-- Of a validated topology with secrets resolved once: the configs that a pool's
clients are handed fit the interface that each of the pool's nodes has. -/
theorem pool_fits (accepted : validate mesh = .ok ()) (draws : Draws) (read : ClientsRead curve mesh)
    (listed : pool ∈ mesh.roadwarriors) : PoolFits curve draws mesh pool where
  same := ⟨_, fun nodeName hosts cfg rendered => pool_interface (validate_ok accepted).pools listed hosts rendered⟩
  inspected := by
    intro name privateKey endpoint config ok
    have names := (validate_ok accepted).pools
    obtain ⟨found, index, client, server, key, isPool, here, named, side, known, rfl⟩ := inspect_ok ok
    cases findPool_eq names listed isPool
    obtain ⟨entry, written⟩ := read pool listed client (List.mem_of_getElem? here)
    refine ⟨index, fun nodeName hosts cfg rendered => ⟨_, pool_interface names listed hosts rendered, ?_⟩⟩
    rw [← named]
    exact configFits side rfl rfl here (keyOf_inspected (keyOf_tryFrom written) known) _
  added := by
    intro secret request added key config asked ok exported nodeName hosts cfg rendered
    have names := (validate_ok accepted).pools
    obtain ⟨found, privateKey, steps⟩ := add_ok ok
    obtain ⟨server, side, rfl⟩ := steps.config key config exported
    have isPool := steps.found
    rw [asked] at isPool
    cases findPool_eq names listed isPool
    rw [resolve_addClient] at rendered
    have names' : ((addClient mesh pool.name added.client).roadwarriors.map (·.name)).Nodup := by
      rw [names_addClient]
      exact names
    refine ⟨_, pool_interface names' (mem_addClient listed added.client) hosts rendered, ?_⟩
    have last : (pool.clients ++ [added.client])[pool.clients.length]? = some added.client := List.getElem?_concat_length
    rw [← steps.name]
    apply configFits side
    · rfl
    · rfl
    · exact last
    · exact keyOf_clientKeys steps.keys

/-! ### A pool on two nodes, whose client has its key kept -/

def laptopEntry : ClientEntry where
  name := "laptop"
  privateKey := some setText
  allowedIps := ["10.63.0.2/32"]

def laptop : RoadwarriorClient where
  name := "laptop"
  publicKey := "zo060cy2M+x7cMF4FKXHbs0CloUFDTRHRboFhw5YfVk="
  privateKey := laptopEntry.privateKey
  allowedIps := ["10.63.0.2/32"]

def phones : RoadwarriorPool where
  name := "phones"
  nodeHostnames := ["node-a", "node-b"]
  address := "10.63.0.1/24"
  listenPort := 51900
  clients := [laptop]

def phonesMesh : MeshConfig :=
  { cluster := { loopbackNetworks := ⟨"10.62.0.0/16", "fd00:62::/32"⟩ }
    nodes := [
      { name := "node-a", nodeId := "10.62.0.1", endpoint := some "192.0.2.1" }, { name := "node-b", nodeId := "10.62.0.2" }]
    roadwarriors := [phones] }

/-- Both nodes render, and the laptop is handed its config. -/
theorem pool_fits_phones :
    (∀ nodeName ∈ phones.nodeHostnames, (renderAwgConfig twoKeys phonesMesh nodeName (resolve twoKeys twoDraws phonesMesh).1).isOk) ∧
      (inspect twoKeys phonesMesh (resolve twoKeys twoDraws phonesMesh).1 "phones" "laptop" none none).isOk ∧
      PoolFits twoKeys twoDraws phonesMesh phones := by
  refine ⟨by decide +kernel, by decide +kernel, pool_fits (by decide) twoDraws ?_ (List.mem_singleton_self _)⟩
  intro pool listed client member
  cases List.mem_singleton.mp listed
  cases List.mem_singleton.mp member
  exact ⟨laptopEntry, by decide +kernel⟩

end Slipmesh.Taloscfg
