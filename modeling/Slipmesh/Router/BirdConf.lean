import Slipmesh.Router.Config

/-! `router::bird_conf`: the context that a template of `bird.conf` reads, and what the
reference template makes of it. -/

namespace Slipmesh.Router
open Net Common

def routerLoopbackIface : String := "router-lo"

/-- The protocol number of the routes that `awg` installs. -/
def routeProtocolId : UInt8 := 200

structure RouterIdentity where
  loopback : Ipv4Addr
  ipv6Loopback : Ipv6Addr
deriving DecidableEq, Repr

structure BgpPeer where
  name : String
  address : Ipv6Addr
deriving DecidableEq, Repr

/-- Also the shape of what is announced. -/
structure BypassRoute where
  net : String
  label : String
deriving DecidableEq, Repr

/-- The routes of a resolution. -/
def bypassRoutes (routes : List (String × String)) : List BypassRoute := routes.map fun route => ⟨route.1, route.2⟩

/-! ### Texts of the config, made safe where the template puts them -/

def sanitizeQuoted (raw : String) : String := String.ofList (raw.toList.filter fun c => c ≠ '"' ∧ c ≠ '\n' ∧ c ≠ '\r')

def sanitizeComment (raw : String) : String :=
  String.ofList (raw.toList.map fun c => if c = '\n' ∨ c = '\r' then ' ' else c)

def protocolChar (c : Char) : Char := if c.isAlphanum ∨ c = '_' then c else '_'

def sanitizeProtocolId (raw : String) : String :=
  let out := raw.toList.map protocolChar
  String.ofList (if out.head?.all Char.isDigit then '_' :: out else out)

structure SanitizedRoute where
  net : String
  label : String
deriving DecidableEq, Repr

def SanitizedRoute.fromRoutes (routes : List BypassRoute) : List SanitizedRoute :=
  routes.map fun route => ⟨route.net, sanitizeComment route.label⟩

/-- A CIDR is written bare, anything else as a quoted name or glob. -/
def renderIfacePattern (entry : String) : String :=
  if (parseCidr entry).isOk then entry else "\"" ++ sanitizeQuoted entry ++ "\""

/-! ### The context -/

structure RenderInputs where
  ospfInterfaces : List String
  bgpPeers : List BgpPeer
  bypass : List BypassRoute
  announce : List BypassRoute
  learn : List String
  directInterfaces : List String
  bfd : Option BfdSettings
deriving DecidableEq, Repr

structure RenderedBgpPeer where
  protocolId : String
  address : Ipv6Addr
deriving DecidableEq, Repr

structure RenderedDirectIface where
  protocolId : String
  pattern : String
deriving DecidableEq, Repr

structure RenderedOspfIface where
  pattern : String
  bfd : Bool
deriving DecidableEq, Repr

structure BirdConfigContext where
  loopback : Ipv4Addr
  ipv6Loopback : Ipv6Addr
  asNumber : UInt32
  routerLoopbackIface : String
  ospfInterfaces : List RenderedOspfIface
  bgpPeers : List RenderedBgpPeer
  bypass : List SanitizedRoute
  announce : List SanitizedRoute
  learn : List String
  directInterfaces : List RenderedDirectIface
  bfd : Option BfdSettings
  awgRouteProtocol : UInt8
deriving DecidableEq, Repr

def BirdConfigContext.new (identity : RouterIdentity) (asNumber : UInt32) (inputs : RenderInputs) : BirdConfigContext where
  loopback := identity.loopback
  ipv6Loopback := identity.ipv6Loopback
  asNumber
  routerLoopbackIface := Router.routerLoopbackIface
  ospfInterfaces := inputs.ospfInterfaces.map fun entry =>
    -- A dummy interface has no neighbour for a session.
    ⟨renderIfacePattern entry, inputs.bfd.isSome && entry ≠ Router.routerLoopbackIface⟩
  bgpPeers := inputs.bgpPeers.map fun peer => ⟨sanitizeProtocolId peer.name, peer.address⟩
  bypass := SanitizedRoute.fromRoutes inputs.bypass
  announce := SanitizedRoute.fromRoutes inputs.announce
  learn := inputs.learn.map (· ++ "+")
  directInterfaces := inputs.directInterfaces.map fun entry => ⟨sanitizeProtocolId entry, renderIfacePattern entry⟩
  bfd := inputs.bfd
  awgRouteProtocol := routeProtocolId

/-- All that `router.yaml` fixes, which is all but the bypass. -/
structure StaticInputs where
  identity : RouterIdentity
  asNumber : UInt32
  ospfInterfaces : List String
  directInterfaces : List String
  bgpPeers : List BgpPeer
  announce : List BypassRoute
  learn : List String
  bfd : Option BfdSettings
deriving DecidableEq, Repr

inductive InputsError where
  | loopbackAddress (reason : ConfigError)
  | noIpv4
  | noIpv6
  | peerAddress (address : String)
deriving DecidableEq, Repr

/-- The last address of either family so far. -/
def keepLoopback (found : Option Ipv4Addr × Option Ipv6Addr) (cidr : IpCidr) : Option Ipv4Addr × Option Ipv6Addr :=
  match cidr.addr with
  | .v4 addr => (some addr, found.2)
  | .v6 addr => (found.1, some addr)

def BgpPeer.fromEntry (peer : BgpPeerEntry) : Except InputsError BgpPeer :=
  match parseIpv6Addr peer.address with
  | some address => .ok ⟨peer.name, address⟩
  | none => .error (.peerAddress peer.address)

def StaticInputs.fromConfig (cfg : RouterConfig) : Except InputsError StaticInputs := do
  let loopbacks ← (cfg.node.loopbackAddresses.mapM parseLoopbackAddress).mapError .loopbackAddress
  let (v4, v6) := loopbacks.foldl keepLoopback (none, none)
  let loopback ← v4.elim (.error .noIpv4) .ok
  let ipv6Loopback ← v6.elim (.error .noIpv6) .ok
  let bgpPeers ← cfg.bgpPeers.mapM BgpPeer.fromEntry
  return {
    identity := ⟨loopback, ipv6Loopback⟩
    asNumber := cfg.bgpAs
    ospfInterfaces := cfg.ospfInterfaces
    directInterfaces := cfg.directInterfaces
    bgpPeers
    announce := cfg.announce.map fun entry => ⟨entry.net, entry.label.getD ""⟩
    learn := cfg.learn
    bfd := cfg.bfd }

/-- What a template is rendered with. -/
def StaticInputs.context (inputs : StaticInputs) (bypass : List BypassRoute) : BirdConfigContext :=
  .new inputs.identity inputs.asNumber {
    ospfInterfaces := inputs.ospfInterfaces
    bgpPeers := inputs.bgpPeers
    bypass
    announce := inputs.announce
    learn := inputs.learn
    directInterfaces := inputs.directInterfaces
    bfd := inputs.bfd }

/-! ### The reference template -/

def indent (lines : List String) : List String := lines.map ("    " ++ ·)

def braced (head : String) (lines : List String) (close : String) : List String :=
  (head ++ " \x7b") :: indent lines ++ ["\x7d" ++ close]

def inBraces (head content : String) : String := head ++ " \x7b " ++ content ++ " \x7d;"

def quoted (text : String) : String := "\"" ++ text ++ "\""

/-- A block of `bird.conf` that defines a protocol, with what is left before it of the
template's blank space. -/
structure Protocol where
  before : String := "\n"
  kind : String
  name : Option String := none
  body : List String := []
deriving DecidableEq, Repr

def Protocol.lines (protocol : Protocol) : List String :=
  braced ("protocol " ++ protocol.kind ++ protocol.name.elim "" (" " ++ ·)) protocol.body ""

def Protocol.text (protocol : Protocol) : String := protocol.before ++ "\n".intercalate protocol.lines

namespace BirdConfigContext

variable (context : BirdConfigContext)

def directProtocol (iface : RenderedDirectIface) : Protocol where
  kind := "direct"
  name := some ("direct_" ++ iface.protocolId)
  body := ["interface " ++ iface.pattern ++ ";", inBraces "ipv4" "import all;"]

def preferred (condition : String) : List String :=
  braced ("if " ++ condition ++ " then") ["krt_prefsrc = " ++ Ipv4Addr.text context.loopback ++ ";", "accept;"] ""

def kernelIpv4 : Protocol where
  kind := "kernel"
  body :=
    braced "ipv4" (
      braced "import filter" (
        (if context.learn = [] then [] else ["if net ~ [ " ++ ", ".intercalate context.learn ++ " ] then accept;"]) ++
          ["if krt_source = " ++ toString context.awgRouteProtocol.toNat ++ " then accept;", "reject;"]) ";" ++
      braced "export filter" (
        context.preferred "source = RTS_BGP" ++ context.preferred ("proto = " ++ quoted "ANNOUNCE") ++ ["reject;"]) ";") ";" ++
    [if context.learn = [] then "learn;" else "learn all;"]

def kernelIpv6 : Protocol where
  kind := "kernel"
  body := braced "ipv6" (braced "export filter" ["if source = RTS_OSPF then accept;", "reject;"] ";") ";"

def bfdProtocol (bfd : BfdSettings) : Protocol where
  before := ""
  kind := "bfd"
  body := (context.ospfInterfaces.filter (·.bfd)).flatMap fun iface =>
    braced ("interface " ++ iface.pattern) [
      "min rx interval " ++ toString bfd.minRxMs.toNat ++ " ms;",
      "min tx interval " ++ toString bfd.minTxMs.toNat ++ " ms;",
      "multiplier " ++ toString bfd.multiplier.toNat ++ ";"] ";"

def mesh6 : Protocol where
  kind := "ospf v3"
  name := some "mesh6"
  body :=
    braced "ipv6" ["import all;", "export none;"] ";" ++
    braced "area 0" (
      inBraces ("interface " ++ quoted context.routerLoopbackIface) "stub yes;" ::
      context.ospfInterfaces.map fun iface =>
        inBraces ("interface " ++ iface.pattern) ("type ptp;" ++ if iface.bfd then " bfd on;" else "")) ";"

/-- A protocol of static routes, which is left out where there are none. -/
def staticProtocol (name target : String) (routes : List SanitizedRoute) : List Protocol :=
  if routes = [] then []
  else [{
    kind := "static"
    name := some name
    body := inBraces "ipv4" "import all;" ::
      routes.map fun route => "route " ++ route.net ++ " " ++ target ++ "; # " ++ route.label }]

def ibgpProtocol (peer : RenderedBgpPeer) : Protocol where
  kind := "bgp"
  name := some ("ibgp6_" ++ peer.protocolId)
  body :=
    let asNumber := toString context.asNumber.toNat
    ["local " ++ Ipv6Addr.text context.ipv6Loopback ++ " as " ++ asNumber ++ ";",
      "neighbor " ++ Ipv6Addr.text peer.address ++ " as " ++ asNumber ++ ";", "multihop;"] ++
    braced "ipv4" (
      ["extended next hop on;", "import all;"] ++
      braced "export filter" [
        "if source = RTS_DEVICE then accept;", "if source = RTS_STATIC then accept;",
        "if source = RTS_INHERIT then accept;", "reject;"] ";" ++
      ["next hop self;"]) ";"

def preamble : List String := [
  "timeformat protocol iso long;",
  inBraces "log stderr" "info, remote, warning, error, auth, fatal, bug",
  "router id " ++ Ipv4Addr.text context.loopback ++ ";"]

def direct1 : Protocol where
  kind := "direct"
  name := some "direct1"
  body := ["interface " ++ quoted context.routerLoopbackIface ++ ";", inBraces "ipv4" "import all;"]

/-- The protocols of the file, in their order. -/
def protocols : List Protocol :=
  [{ kind := "device" }, context.direct1] ++
  context.directInterfaces.map directProtocol ++ [context.kernelIpv4, kernelIpv6] ++
  (context.bfd.map context.bfdProtocol).toList ++ [context.mesh6] ++
  staticProtocol "BYPASS" "blackhole" context.bypass ++
  staticProtocol "ANNOUNCE" ("via " ++ quoted context.routerLoopbackIface) context.announce ++
  context.bgpPeers.map context.ibgpProtocol

/-- The file that the reference template renders. -/
def referenceConf : String :=
  "\n".intercalate context.preamble ++ String.join (context.protocols.map Protocol.text) ++ "\n"

def protocolNames : List String := context.protocols.filterMap (·.name)

end BirdConfigContext

end Slipmesh.Router
