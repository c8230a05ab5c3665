import Slipmesh.Common.Config
import Slipmesh.Router.Config
import Slipmesh.Taloscfg.Keys

/-! `slipmesh.yaml`: the topology that every node's configs are rendered from, and
its validation. -/

namespace Slipmesh.Taloscfg
open Net Common
open Router (BfdSettings)

structure BfdConfig where
  enable : Bool := false
  settings : BfdSettings := {}
deriving DecidableEq, Repr

structure LoopbackNetworks where
  ipv4 : String := ""
  ipv6 : String := ""
deriving DecidableEq, Repr

structure TunnelNetworks where
  ipv4 : String := ""
  ipv6 : String := ""
deriving DecidableEq, Repr

structure ClusterConfig where
  bgpAs : UInt32 := 0
  loopbackNetworks : LoopbackNetworks := {}
  bypassRefreshIntervalSecs : Option Nat := none
  awgMetricsPort : Option UInt16 := none
  routerMetricsPort : Option UInt16 := none
  directInterfaces : List String := []
  serviceSubnet : Option String := none
  podSubnet : Option String := none
  tunnelNetworks : Option TunnelNetworks := none
deriving DecidableEq, Repr

structure NodeEntry where
  name : String
  /-- An IPv4-shaped text, whose bits fill the host portion of the node's networks. -/
  nodeId : String
  endpoint : Option String := none
  meshPrivateKey : Option String := none
  directInterfaces : Option (List String) := none
deriving DecidableEq, Repr

structure MeshLink where
  pair : String × String
  port : UInt16
  obfuscation : Obfuscation := {}
  plain : Bool := false
deriving DecidableEq, Repr

structure RoadwarriorClient where
  name : String
  publicKey : String
  privateKey : Option String := none
  allowedIps : List String := []
  advancedSecurity : Bool := false
deriving DecidableEq, Repr

structure ClientEntry where
  name : String
  publicKey : Option String := none
  privateKey : Option String := none
  allowedIps : List String := []
  advancedSecurity : Bool := false
deriving DecidableEq, Repr

inductive ClientError where
  | privateKey (client : String) (reason : KeyError)
  | noKey (client : String)
  | bothKeys (client : String)
deriving DecidableEq, Repr

/-- A client is written down by one of its keys, the public one being derived from the private. -/
def RoadwarriorClient.tryFrom (curve : Curve) (entry : ClientEntry) : Except ClientError RoadwarriorClient := do
  let publicKey ← match entry.publicKey, entry.privateKey with
    | some publicKey, none => .ok publicKey
    | none, some privateKey => (publicKeyFromPrivate curve privateKey).mapError (.privateKey entry.name)
    | none, none => throw (.noKey entry.name)
    | some _, some _ => throw (.bothKeys entry.name)
  return {
    name := entry.name
    publicKey
    privateKey := entry.privateKey
    allowedIps := entry.allowedIps
    advancedSecurity := entry.advancedSecurity }

structure RoadwarriorPool where
  name : String
  nodeHostnames : List String
  address : String
  address6 : Option String := none
  listenPort : UInt16
  handshakeStaleSecs : Option Nat := none
  privateKey : Option String := none
  plain : Bool := false
  obfuscation : Obfuscation := {}
  dns : Option String := none
  clients : List RoadwarriorClient := []
deriving DecidableEq, Repr

structure LabeledPrefix where
  net : String
  label : Option String := none
deriving DecidableEq, Repr

structure BypassSourceEntry where
  kind : String
  label : Option String := none
  asns : Option (List String) := none
  prefixes : Option (List LabeledPrefix) := none
  country : Option String := none
  hostnames : Option (List String) := none
deriving DecidableEq, Repr

structure BypassEntry where
  node : String
  includes : List BypassSourceEntry := []
  excludes : List BypassSourceEntry := []
deriving DecidableEq, Repr

structure MeshConfig where
  cluster : ClusterConfig
  bfd : BfdConfig := {}
  obfuscation : Obfuscation := {}
  nodes : List NodeEntry := []
  links : List MeshLink := []
  roadwarriors : List RoadwarriorPool := []
  bypass : List BypassEntry := []
deriving DecidableEq, Repr

/-- What `validate` reports; a `list` names the part of the document that the
reference stands in. -/
inductive TopologyError where
  | noNodes
  | emptyNodeName
  | duplicateNode (name : String)
  | nodeId (name nodeId : String)
  | takenNodeId (name nodeId : String)
  | unknownNode (list name : String)
  | unknownHostname (pool name : String)
  | selfLink (pair : String × String)
  | takenPort (name : String) (port : UInt16)
  | duplicatePool (name : String)
  | noHostnames (pool : String)
  | duplicateClientKey (pool key : String)
deriving DecidableEq, Repr

/-- The nodes, checked in order against the names and the identities seen so far. -/
def validateNodes : List String → List Ipv4Addr → List NodeEntry → Except TopologyError Unit
  | _, _, [] => .ok ()
  | names, ids, node :: rest => do
    if node.name = "" then throw .emptyNodeName
    if node.name ∈ names then throw (.duplicateNode node.name)
    match parseIpv4Addr node.nodeId with
    | none => throw (.nodeId node.name node.nodeId)
    | some nodeId => do
      if nodeId ∈ ids then throw (.takenNodeId node.name node.nodeId)
      validateNodes (node.name :: names) (nodeId :: ids) rest

/-- The ports in use, by the node. -/
abbrev PortsByNode := List (String × UInt16)

def takePort (ports : PortsByNode) (name : String) (port : UInt16) : Except TopologyError PortsByNode :=
  if (name, port) ∈ ports then throw (.takenPort name port) else .ok ((name, port) :: ports)

def validateLink (known : List String) (ports : PortsByNode) (link : MeshLink) : Except TopologyError PortsByNode := do
  unless link.pair.1 ∈ known do throw (.unknownNode "mesh.links" link.pair.1)
  unless link.pair.2 ∈ known do throw (.unknownNode "mesh.links" link.pair.2)
  unless link.pair.1 ≠ link.pair.2 do throw (.selfLink link.pair)
  let ports ← takePort ports link.pair.1 link.port
  takePort ports link.pair.2 link.port

def validateLinks (known : List String) : PortsByNode → List MeshLink → Except TopologyError PortsByNode
  | ports, [] => .ok ports
  | ports, link :: rest => do
    let ports ← validateLink known ports link
    validateLinks known ports rest

def validateHostnames (known : List String) (port : UInt16) (pool : String) :
    PortsByNode → List String → Except TopologyError PortsByNode
  | ports, [] => .ok ports
  | ports, name :: rest => do
    unless name ∈ known do throw (.unknownHostname pool name)
    let ports ← takePort ports name port
    validateHostnames known port pool ports rest

def validateClients (pool : String) : List String → List RoadwarriorClient → Except TopologyError Unit
  | _, [] => .ok ()
  | keys, client :: rest => do
    if client.publicKey ∈ keys then throw (.duplicateClientKey pool client.publicKey)
    validateClients pool (client.publicKey :: keys) rest

def validatePools (known : List String) : List String → PortsByNode → List RoadwarriorPool → Except TopologyError Unit
  | _, _, [] => .ok ()
  | names, ports, pool :: rest => do
    if pool.name ∈ names then throw (.duplicatePool pool.name)
    if pool.nodeHostnames = [] then throw (.noHostnames pool.name)
    let ports ← validateHostnames known pool.listenPort pool.name ports pool.nodeHostnames
    validateClients pool.name [] pool.clients
    validatePools known (pool.name :: names) ports rest

def validateBypassNode (known : List String) (entry : BypassEntry) : Except TopologyError Unit :=
  if entry.node ∈ known then .ok () else throw (.unknownNode "bypass" entry.node)

def validate (cfg : MeshConfig) : Except TopologyError Unit := do
  if cfg.nodes = [] then throw .noNodes
  validateNodes [] [] cfg.nodes
  let known := cfg.nodes.map (·.name)
  let ports ← validateLinks known [] cfg.links
  validatePools known [] ports cfg.roadwarriors
  cfg.bypass.forM (validateBypassNode known)

end Slipmesh.Taloscfg
