import Slipmesh.Awg.Config
import Slipmesh.Router.Cidr
import Slipmesh.Taloscfg.Addressing
import Slipmesh.Taloscfg.Secrets

/-! `taloscfg::render`: one node's `awg.yaml` and `router.yaml` from the topology and
its resolved secrets. -/

namespace Slipmesh.Taloscfg
open Net Common Library
open Awg (AwgConfig InterfaceEntry PeerEntry)
open Router (AnnounceEntry BgpPeerEntry BypassConfig NodeIdentity RouterConfig linkLocalFromLoopback)

inductive RenderError where
  | network (field : String) (reason : CidrError)
  | notIpv4 (field : String)
  | notIpv6 (field : String)
  | unknownNode (name : String)
  | nodeId (name : String)
  | noPrivateKey (name : String)
  | privateKey (reason : KeyError)
  | tunnelNotAnnounced (name : String)
  | zeroPort (field : String)
deriving DecidableEq, Repr

/-- A network of each family, as far as it has been parsed. -/
structure Networks where
  ipv4 : Ipv4Addr
  ipv4Prefix : Nat
  ipv6 : Ipv6Addr
  ipv6Prefix : Nat
  bounded : ipv4Prefix ≤ 32 ∧ ipv6Prefix ≤ 128
deriving DecidableEq, Repr

def parseIpv4Network (field text : String) : Except RenderError { net : Ipv4Addr × Nat // net.2 ≤ 32 } :=
  match parseCidr text with
  | .error reason => .error (.network field reason)
  | .ok ⟨.v4 addr, len, bounded⟩ => .ok ⟨(addr, len), bounded⟩
  | .ok ⟨.v6 _, _, _⟩ => .error (.notIpv4 field)

def parseIpv6Network (field text : String) : Except RenderError { net : Ipv6Addr × Nat // net.2 ≤ 128 } :=
  match parseCidr text with
  | .error reason => .error (.network field reason)
  | .ok ⟨.v4 _, _, _⟩ => .error (.notIpv6 field)
  | .ok ⟨.v6 addr, len, bounded⟩ => .ok ⟨(addr, len), bounded⟩

def parseNetworks (field ipv4 ipv6 : String) : Except RenderError Networks := do
  let v4 ← parseIpv4Network (field ++ ".ipv4") ipv4
  let v6 ← parseIpv6Network (field ++ ".ipv6") ipv6
  return ⟨v4.1.1, v4.1.2, v6.1.1, v6.1.2, v4.2, v6.2⟩

def parseLoopbackNetworks (mesh : MeshConfig) : Except RenderError Networks :=
  parseNetworks "cluster.loopback_networks" mesh.cluster.loopbackNetworks.ipv4 mesh.cluster.loopbackNetworks.ipv6

def parseTunnelNetworks (mesh : MeshConfig) : Except RenderError (Option Networks) :=
  match mesh.cluster.tunnelNetworks with
  | none => .ok none
  | some networks => (parseNetworks "cluster.tunnel_networks" networks.ipv4 networks.ipv6).map some

def findNode (mesh : MeshConfig) (name : String) : Except RenderError NodeEntry :=
  (mesh.nodes.find? (·.name = name)).elim (.error (.unknownNode name)) .ok

def nodeIdOf (mesh : MeshConfig) (nodeName : String) : Except RenderError Ipv4Addr := do
  let node ← findNode mesh nodeName
  (parseIpv4Addr node.nodeId).elim (.error (.nodeId nodeName)) .ok

def Networks.addresses (networks : Networks) (nodeId : Ipv4Addr) : Ipv4Addr × Ipv6Addr :=
  (ipv4Loopback networks.ipv4 networks.ipv4Prefix nodeId, ipv6Loopback networks.ipv6 networks.ipv6Prefix nodeId)

def nodeLoopbacks (mesh : MeshConfig) (nodeName : String) : Except RenderError (Ipv4Addr × Ipv6Addr) := do
  let networks ← parseLoopbackNetworks mesh
  let nodeId ← nodeIdOf mesh nodeName
  return networks.addresses nodeId

def nodeTunnelAddresses (mesh : MeshConfig) (nodeName : String) : Except RenderError (Option (Ipv4Addr × Ipv6Addr)) := do
  match ← parseTunnelNetworks mesh with
  | none => return none
  | some networks => do
    let nodeId ← nodeIdOf mesh nodeName
    return some (networks.addresses nodeId)

/-! ### `router.yaml` -/

def bgpPeersFor (mesh : MeshConfig) (nodeName : String) : Except RenderError (List BgpPeerEntry) :=
  (mesh.nodes.filter (·.name ≠ nodeName)).mapM fun node => do
    let (_, v6) ← nodeLoopbacks mesh node.name
    return ⟨node.name, Ipv6Addr.text v6⟩

def convertBypassSource (entry : BypassSourceEntry) : Router.BypassSourceEntry :=
  { kind := entry.kind
    label := entry.label
    asns := entry.asns
    prefixes := entry.prefixes.map fun prefixes => prefixes.map fun p => ⟨p.net, p.label⟩
    country := entry.country
    hostnames := entry.hostnames }

def defaultBypassRefreshIntervalSecs : Nat := 24 * 60 * 60

def bypassFor (mesh : MeshConfig) (nodeName : String) : Option BypassConfig :=
  match mesh.bypass.filter (·.node = nodeName) with
  | [] => none
  | entries => some
    { refreshIntervalSecs := mesh.cluster.bypassRefreshIntervalSecs.getD defaultBypassRefreshIntervalSecs
      includes := entries.flatMap fun entry => entry.includes.map convertBypassSource
      excludes := entries.flatMap fun entry => entry.excludes.map convertBypassSource }

def ospfInterfaces : List String := ["mesh-*", "router-lo"]

/-- The node's own list replaces the cluster's. -/
def directInterfacesFor (mesh : MeshConfig) (nodeName : String) : Except RenderError (List String) := do
  let node ← findNode mesh nodeName
  return node.directInterfaces.getD mesh.cluster.directInterfaces

def announceFor (mesh : MeshConfig) : List AnnounceEntry :=
  (mesh.cluster.serviceSubnet.map fun net => ⟨net, some "k8s-services"⟩).toList

def learnFor (mesh : MeshConfig) : List String := mesh.cluster.podSubnet.toList

def metricsFor (mesh : MeshConfig) (nodeName : String) (port : Option UInt16) (field : String) :
    Except RenderError (Option MetricsConfig) :=
  match port with
  | none => .ok none
  | some port => do
    if port = 0 then throw (.zeroPort field)
    let (v4, _) ← nodeLoopbacks mesh nodeName
    return some ⟨Ipv4Addr.text v4 ++ ":" ++ toString port.toNat⟩

def renderRouterConfig (mesh : MeshConfig) (nodeName : String) : Except RenderError RouterConfig := do
  let (v4, v6) ← nodeLoopbacks mesh nodeName
  let directInterfaces ← directInterfacesFor mesh nodeName
  let tunnel ← nodeTunnelAddresses mesh nodeName
  if tunnel.isSome ∧ "mesh-*" ∉ directInterfaces then throw (.tunnelNotAnnounced nodeName)
  let bgpPeers ← bgpPeersFor mesh nodeName
  let metrics ← metricsFor mesh nodeName mesh.cluster.routerMetricsPort "router_metrics_port"
  return {
    node := ⟨[Ipv4Addr.text v4 ++ "/32", Ipv6Addr.text v6 ++ "/128"]⟩
    bgpAs := mesh.cluster.bgpAs
    bgpPeers
    bfd := if mesh.bfd.enable then some mesh.bfd.settings else none
    ospfInterfaces
    directInterfaces
    learn := learnFor mesh
    announce := announceFor mesh
    bypass := bypassFor mesh nodeName
    metrics }

/-! ### `awg.yaml` -/

/-- The other end of a link that the node is an end of. -/
def peerOf (nodeName : String) (link : MeshLink) : Option String :=
  if link.pair.1 = nodeName then some link.pair.2
  else if link.pair.2 = nodeName then some link.pair.1
  else none

/-- What a node puts on each of its links. -/
structure OwnEnd where
  addresses : List String
  privateKey : String

def ownEnd (mesh : MeshConfig) (nodeName : String) (resolved : ResolvedSecrets) : Except RenderError OwnEnd := do
  let (_, ownLoopback) ← nodeLoopbacks mesh nodeName
  let ownLinkLocal := linkLocalFromLoopback ownLoopback
  let ownTunnel ← nodeTunnelAddresses mesh nodeName
  let (interfaceLinkLocal, tunnelV4) := match ownTunnel with
    | some (v4, v6) => (v6, some v4)
    | none => (ownLinkLocal, none)
  let privateKey ← (resolved.meshPrivateKeys.find? nodeName).elim (.error (.noPrivateKey nodeName)) .ok
  let addresses := (Ipv6Addr.text interfaceLinkLocal ++ "/64") :: (tunnelV4.map (Ipv4Addr.text · ++ "/32")).toList
  return ⟨addresses, privateKey⟩

def meshInterface (curve : Curve) (mesh : MeshConfig) (resolved : ResolvedSecrets) (own : OwnEnd) (link : MeshLink)
    (peerName : String) : Except RenderError InterfaceEntry := do
  let peerNode ← findNode mesh peerName
  let peerPrivateKey ← (resolved.meshPrivateKeys.find? peerName).elim (.error (.noPrivateKey peerName)) .ok
  let obfuscation := (resolved.meshLinkObfuscation.find? (linkKey link.pair)).getD {}
  let publicKey ← (publicKeyFromPrivate curve peerPrivateKey).mapError .privateKey
  return {
    name := "mesh-" ++ peerName
    listenPort := link.port
    addresses := own.addresses
    privateKey := own.privateKey
    obfuscation
    handshakeStaleSecs := none
    peers := [{
      publicKey
      name := some peerName
      endpoint := peerNode.endpoint.map fun host => host ++ ":" ++ toString link.port.toNat
      allowedIps := none
      advancedSecurity := false }] }

/-- An interface for every link that has the node as an end, in their order. -/
def linkInterfaces (curve : Curve) (mesh : MeshConfig) (nodeName : String) (resolved : ResolvedSecrets) (own : OwnEnd) :
    List MeshLink → Except RenderError (List InterfaceEntry)
  | [] => .ok []
  | link :: rest =>
    match peerOf nodeName link with
    | none => linkInterfaces curve mesh nodeName resolved own rest
    | some peerName => do
      let iface ← meshInterface curve mesh resolved own link peerName
      let others ← linkInterfaces curve mesh nodeName resolved own rest
      return iface :: others

def meshInterfacesFor (curve : Curve) (mesh : MeshConfig) (nodeName : String) (resolved : ResolvedSecrets) :
    Except RenderError (List InterfaceEntry) := do
  let own ← ownEnd mesh nodeName resolved
  linkInterfaces curve mesh nodeName resolved own mesh.links

def roadwarriorInterface (resolved : ResolvedSecrets) (pool : RoadwarriorPool) : InterfaceEntry :=
  { name := "rw-" ++ pool.name
    listenPort := pool.listenPort
    addresses := pool.address :: pool.address6.toList
    privateKey := (resolved.roadwarriorPrivateKeys.find? pool.name).getD ""
    obfuscation := (resolved.roadwarriorObfuscation.find? pool.name).getD {}
    handshakeStaleSecs := pool.handshakeStaleSecs
    peers := pool.clients.map fun client =>
      { publicKey := client.publicKey
        name := some client.name
        endpoint := none
        allowedIps := some client.allowedIps
        advancedSecurity := client.advancedSecurity } }

def roadwarriorInterfacesFor (mesh : MeshConfig) (nodeName : String) (resolved : ResolvedSecrets) : List InterfaceEntry :=
  (mesh.roadwarriors.filter fun pool => nodeName ∈ pool.nodeHostnames).map (roadwarriorInterface resolved)

def renderAwgConfig (curve : Curve) (mesh : MeshConfig) (nodeName : String) (resolved : ResolvedSecrets) :
    Except RenderError AwgConfig := do
  let interfaces ← meshInterfacesFor curve mesh nodeName resolved
  let metrics ← metricsFor mesh nodeName mesh.cluster.awgMetricsPort "awg_metrics_port"
  return ⟨interfaces ++ roadwarriorInterfacesFor mesh nodeName resolved, metrics⟩

end Slipmesh.Taloscfg
