import Slipmesh.Taloscfg.Addressing
import Slipmesh.Taloscfg.Secrets
import Slipmesh.Text

/-! `taloscfg::roadwarrior`: the clients of a pool, and the config that one of them
connects with. -/

namespace Slipmesh.Taloscfg
open Net Common Library

/-- A private key that was just generated or was given, or one that was never known. -/
inductive ClientPrivateKey where
  | known (key : String)
  | unknown
deriving DecidableEq, Repr

inductive RoadwarriorError where
  | nothingToKeep
  | keyLost
  | unknownPool (name : String) (known : List String)
  | unknownClient (name pool : String) (known : List String)
  | allowedCidr (entry : String) (reason : CidrError)
  | allowedAddress (entry : String)
  | noAllowedIps
  | duplicateName (name pool : String)
  | duplicateKey (publicKey pool : String)
  | noPrivateKey (pool : String)
  | privateKey (reason : KeyError)
  | otherKey (name derived stored : String)
  | noEndpoint (node : String)
  /-- What the source takes the topology's validation to exclude. -/
  | expected (promise : String)
deriving DecidableEq, Repr

def findPool (mesh : MeshConfig) (name : String) : Except RoadwarriorError RoadwarriorPool :=
  (mesh.roadwarriors.find? (·.name = name)).elim (.error (.unknownPool name (mesh.roadwarriors.map (·.name)))) .ok

def findClientIndex (pool : RoadwarriorPool) (name : String) : Except RoadwarriorError Nat :=
  (pool.clients.findIdx? (·.name = name)).elim
    (.error (.unknownClient name pool.name (pool.clients.map (·.name)))) .ok

/-- The client with its position. -/
def findClient (mesh : MeshConfig) (poolName name : String) : Except RoadwarriorError (Nat × RoadwarriorClient) := do
  let pool ← findPool mesh poolName
  let index ← findClientIndex pool name
  match pool.clients[index]? with
  | some client => return (index, client)
  | none => throw (.expected "index out of bounds")

/-- A network as it is written, a bare address as the network of it alone. -/
def parseAllowedIp (input : String) : Except RoadwarriorError String := do
  let input := Text.trim input
  if '/' ∈ input.toList then
    let net ← (parseCidr input).mapError (.allowedCidr input)
    return IpAddr.text net.addr ++ "/" ++ toString net.len
  else
    let addr ← (parseIpAddr input).elim (.error (.allowedAddress input)) .ok
    return IpAddr.text addr ++ "/" ++ toString (if addr.isIpv4 then 32 else 128)

def checkNotDuplicate (pool : RoadwarriorPool) (name publicKey : String) : Except RoadwarriorError Unit := do
  if pool.clients.any (·.name = name) then throw (.duplicateName name pool.name)
  if pool.clients.any (·.publicKey = publicKey) then throw (.duplicateKey publicKey pool.name)

/-- The pool's server identity, from the secrets that its interfaces are rendered from. -/
def poolIdentity (pool : RoadwarriorPool) (secrets : ResolvedSecrets) : Except RoadwarriorError (String × Obfuscation) := do
  let privateKey ← (secrets.roadwarriorPrivateKeys.find? pool.name).elim (.error (.noPrivateKey pool.name)) .ok
  return (privateKey, (secrets.roadwarriorObfuscation.find? pool.name).getD {})

/-- An address or a host, with the port where it has none. -/
def literalEndpoint (endpoint : String) (port : UInt16) : String :=
  match parseIpAddr endpoint with
  | some (.v6 v6) => "[" ++ Ipv6Addr.text v6 ++ "]:" ++ toString port.toNat
  | _ =>
    match Text.rsplitOnce ':' endpoint with
    | some (_, given) => if (parseU16 given).isSome then endpoint else endpoint ++ ":" ++ toString port.toNat
    | none => endpoint ++ ":" ++ toString port.toNat

def nodeEndpoint (mesh : MeshConfig) (pool : RoadwarriorPool) (host : String) : Except RoadwarriorError String := do
  let node ← (mesh.nodes.find? (·.name = host)).elim
    (.error (.expected "mesh_config::validate: node_hostnames name known nodes")) .ok
  let endpoint ← node.endpoint.elim (.error (.noEndpoint host)) .ok
  return endpoint ++ ":" ++ toString pool.listenPort.toNat

/-- The pool's node that is chosen, or the first of them; another choice stands for itself. -/
def poolEndpoint (mesh : MeshConfig) (pool : RoadwarriorPool) (chosen : Option String) : Except RoadwarriorError String :=
  match chosen with
  | some chosen =>
    if chosen ∈ pool.nodeHostnames then nodeEndpoint mesh pool chosen else .ok (literalEndpoint chosen pool.listenPort)
  | none =>
    match pool.nodeHostnames with
    | host :: _ => nodeEndpoint mesh pool host
    | [] => .error (.expected "mesh_config::validate: node_hostnames is non-empty")

def dnsHostId : Ipv4Addr := 10

/-- The pool's resolver, or else the service subnet's. -/
def resolveDns (mesh : MeshConfig) (pool : RoadwarriorPool) : Option String :=
  match pool.dns with
  | some dns => some dns
  | none => do
    let subnet ← mesh.cluster.serviceSubnet
    match parseCidr subnet with
    | .ok ⟨.v4 network, len, _⟩ => some (Ipv4Addr.text (ipv4Loopback network len dnsHostId))
    | _ => none

/-! ### The client's config -/

/-- The settings of the two sections, each with its value. -/
structure ClientConfig where
  interface : List (String × String)
  obfuscation : List (String × String)
  peer : List (String × String)
deriving DecidableEq, Repr

def ClientConfig.text (config : ClientConfig) : String :=
  let lines (settings : List (String × String)) :=
    String.join (settings.map fun (label, value) => label ++ " = " ++ value ++ "\n")
  "[Interface]\n" ++ lines config.interface ++ lines config.obfuscation ++ "\n[Peer]\n" ++ lines config.peer

/-- What stands where the private key is not known. -/
def keyPlaceholder : String := "<enter your private key here>"

/-- The fields that a client is told, under their labels. -/
def clientFields (o : Obfuscation) : List (String × Option Nat) :=
  [("Jc", o.jc.map (·.toNat)), ("Jmin", o.jmin.map (·.toNat)), ("Jmax", o.jmax.map (·.toNat)),
    ("S1", o.s1.map (·.toNat)), ("S2", o.s2.map (·.toNat)),
    ("H1", o.h1.map (·.toNat)), ("H2", o.h2.map (·.toNat)), ("H3", o.h3.map (·.toNat)), ("H4", o.h4.map (·.toNat))]

def obfuscationLines (o : Obfuscation) : List (String × String) :=
  if o = {} then [] else (clientFields o).filterMap fun (label, value) => value.map fun value => (label, toString value)

def renderClientConfig (privateKey : ClientPrivateKey) (address : List String) (dns : Option String)
    (serverPublicKey endpoint : String) (obfuscation : Obfuscation) : ClientConfig :=
  let keyLine := match privateKey with
    | .known key => key
    | .unknown => keyPlaceholder
  { interface := [("PrivateKey", keyLine), ("Address", ", ".intercalate address)] ++ (dns.map ("DNS", ·)).toList
    obfuscation := obfuscationLines obfuscation
    peer := [("PublicKey", serverPublicKey), ("Endpoint", endpoint), ("AllowedIPs", "0.0.0.0/0, ::/0"),
      ("PersistentKeepalive", "25")] }

/-- What a client's config says of the server: its public key, its endpoint and its obfuscation. -/
structure ServerSide where
  publicKey : String
  endpoint : String
  obfuscation : Obfuscation

def serverSide (curve : Curve) (mesh : MeshConfig) (secrets : ResolvedSecrets) (pool : RoadwarriorPool)
    (endpoint : Option String) : Except RoadwarriorError ServerSide := do
  let (serverPrivateKey, obfuscation) ← poolIdentity pool secrets
  let publicKey ← (publicKeyFromPrivate curve serverPrivateKey).mapError .privateKey
  let endpoint ← poolEndpoint mesh pool endpoint
  return { publicKey, endpoint, obfuscation }

/-! ### `rw-add` and `rw-inspect` -/

structure Added where
  client : RoadwarriorClient
  config : Option (ClientPrivateKey × ClientConfig)

/-- What `rw-add` was asked for; `showConfig` is its `--export`. -/
structure AddRequest where
  pool : String
  name : String
  allowedIps : String
  publicKey : Option String := none
  endpoint : Option String := none
  showConfig : Bool := false
  qr : Bool := false
  keepPrivate : Bool := false
deriving DecidableEq, Repr

def AddRequest.keptKey (request : AddRequest) : ClientPrivateKey → Option String
  | .known key => if request.keepPrivate then some key else none
  | .unknown => none

/-- The client's keys: the public one that was given, or a pair from the secret drawn. -/
def clientKeys (curve : Curve) (secret : Key) (publicKey : Option String) :
    Except RoadwarriorError (ClientPrivateKey × String) :=
  match publicKey with
  | some publicKey => .ok (.unknown, publicKey)
  | none => do
    let privateKey := generatePrivateKey curve secret
    let publicKey ← (publicKeyFromPrivate curve privateKey).mapError .privateKey
    return (.known privateKey, publicKey)

def add (curve : Curve) (mesh : MeshConfig) (secrets : ResolvedSecrets) (secret : Key) (request : AddRequest) :
    Except RoadwarriorError Added := do
  if request.keepPrivate ∧ request.publicKey.isSome then throw .nothingToKeep
  if request.publicKey.isNone ∧ ¬ request.keepPrivate ∧ ¬ request.showConfig ∧ ¬ request.qr then throw .keyLost
  let pool ← findPool mesh request.pool
  let allowedIps ← (Text.split ',' request.allowedIps).mapM parseAllowedIp
  if allowedIps = [] then throw .noAllowedIps
  let (privateKey, publicKey) ← clientKeys curve secret request.publicKey
  checkNotDuplicate pool request.name publicKey
  let client : RoadwarriorClient :=
    { name := request.name, publicKey, privateKey := request.keptKey privateKey, allowedIps, advancedSecurity := false }
  if ¬ request.showConfig ∧ ¬ request.qr then return ⟨client, none⟩
  let server ← serverSide curve mesh secrets pool request.endpoint
  let config := renderClientConfig privateKey client.allowedIps (resolveDns mesh pool) server.publicKey server.endpoint
    server.obfuscation
  return ⟨client, some (privateKey, config)⟩

/-- The key passed in, if it is the client's, or else the one kept with the client. -/
def inspectedKey (curve : Curve) (client : RoadwarriorClient) (name : String) :
    Option String → Except RoadwarriorError ClientPrivateKey
  | some given => do
    let derived ← (publicKeyFromPrivate curve given).mapError .privateKey
    unless derived = client.publicKey do throw (.otherKey name derived client.publicKey)
    return .known given
  | none => .ok (client.privateKey.elim .unknown .known)

def inspect (curve : Curve) (mesh : MeshConfig) (secrets : ResolvedSecrets) (poolName name : String)
    (privateKey endpoint : Option String) : Except RoadwarriorError ClientConfig := do
  let pool ← findPool mesh poolName
  let (_, client) ← findClient mesh poolName name
  let server ← serverSide curve mesh secrets pool endpoint
  let clientPrivateKey ← inspectedKey curve client name privateKey
  return renderClientConfig clientPrivateKey client.allowedIps (resolveDns mesh pool) server.publicKey server.endpoint
    server.obfuscation

end Slipmesh.Taloscfg
