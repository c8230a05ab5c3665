import Slipmesh.Common.Config
import Slipmesh.Router.Cidr

/-! `router.yaml` and its validation. -/

namespace Slipmesh.Router
open Net Common

structure LabeledPrefix where
  net : String
  label : Option String
deriving DecidableEq, Repr

/-- One source of bypass prefixes. Which of the fields it needs depends on `kind`,
which stays a text here as it does in the document. -/
structure BypassSourceEntry where
  kind : String
  label : Option String := none
  asns : Option (List String) := none
  prefixes : Option (List LabeledPrefix) := none
  country : Option String := none
  hostnames : Option (List String) := none
deriving DecidableEq, Repr

structure BypassConfig where
  refreshIntervalSecs : Nat := 24 * 60 * 60
  includes : List BypassSourceEntry
  excludes : List BypassSourceEntry := []
deriving DecidableEq, Repr

structure BfdSettings where
  minRxMs : UInt32 := 300
  minTxMs : UInt32 := 300
  multiplier : UInt8 := 5
deriving DecidableEq, Repr

structure BgpPeerEntry where
  name : String
  address : String
deriving DecidableEq, Repr

structure AnnounceEntry where
  net : String
  label : Option String
deriving DecidableEq, Repr

structure NodeIdentity where
  loopbackAddresses : List String
deriving DecidableEq, Repr

structure RouterConfig where
  node : NodeIdentity
  bgpAs : UInt32
  bgpPeers : List BgpPeerEntry := []
  bfd : Option BfdSettings := none
  ospfInterfaces : List String := []
  directInterfaces : List String := []
  learn : List String := []
  announce : List AnnounceEntry := []
  bypass : Option BypassConfig := none
  metrics : Option MetricsConfig := none
deriving DecidableEq, Repr

/-- What `validate` reports, under the field it stands in. -/
inductive ConfigError where
  | reservedAs
  | loopbackAddress (text : String) (reason : Option CidrError)
  | ipv4Count (found : Nat)
  | ipv6Count (found : Nat)
  | metrics (reason : MetricsError)
  | bfdIntervals
  | bfdMultiplier
  | emptyPeerName
  | duplicatePeerName (name : String)
  | peerAddress (name address : String)
  | emptyOspfInterface
  | learn (cidr : String) (reason : CidrError)
  | announce (cidr : String) (reason : CidrError)
  | refreshInterval
  | literalPrefix (net : String) (reason : CidrError)
  /-- A source of the kind lacks the field. -/
  | missingField (kind field : String)
  | unknownKind (kind : String)
deriving DecidableEq, Repr

/-- A loopback identity: a CIDR, or a bare address with the whole width as its prefix. -/
def parseLoopbackAddress (text : String) : Except ConfigError IpCidr :=
  if '/' ∈ text.toList then (parseCidr text).mapError (.loopbackAddress text ∘ some)
  else match parseIpAddr text with
    | some addr => .ok ⟨addr, maxPrefix addr, Nat.le_refl _⟩
    | none => .error (.loopbackAddress text none)

def requireField {α : Type} (kind field : String) (value : Option α) : Except ConfigError α :=
  value.elim (.error (.missingField kind field)) .ok

def validateBypassEntry (entry : BypassSourceEntry) : Except ConfigError Unit :=
  match entry.kind with
  | "literal" => do
    let prefixes ← requireField "literal" "prefixes" entry.prefixes
    prefixes.forM fun p => do
      let _ ← (Cidr.parseCidr p.net).mapError (.literalPrefix p.net)
  | "asn" => do
    let _ ← requireField "asn" "label" entry.label
    let _ ← requireField "asn" "asns" entry.asns
  | "dns" => do
    let _ ← requireField "dns" "label" entry.label
    let _ ← requireField "dns" "hostnames" entry.hostnames
  | "geoip" => do
    let _ ← requireField "geoip" "country" entry.country
  | other => .error (.unknownKind other)

def validateBypass (bypass : BypassConfig) : Except ConfigError Unit := do
  unless 0 < bypass.refreshIntervalSecs do throw .refreshInterval
  (bypass.includes ++ bypass.excludes).forM validateBypassEntry

/-- The peers, checked in order against the names seen so far. -/
def validatePeers : List String → List BgpPeerEntry → Except ConfigError Unit
  | _, [] => .ok ()
  | seen, peer :: rest => do
    if peer.name = "" then throw .emptyPeerName
    if peer.name ∈ seen then throw (.duplicatePeerName peer.name)
    if (parseIpv6Addr peer.address).isNone then throw (.peerAddress peer.name peer.address)
    validatePeers (peer.name :: seen) rest

def validate (cfg : RouterConfig) : Except ConfigError Unit := do
  unless cfg.bgpAs ≠ 0 do throw .reservedAs
  let loopbacks ← cfg.node.loopbackAddresses.mapM parseLoopbackAddress
  let ipv4 := (loopbacks.filter (·.addr.isIpv4)).length
  let ipv6 := (loopbacks.filter (!·.addr.isIpv4)).length
  unless ipv4 = 1 do throw (.ipv4Count ipv4)
  unless ipv6 = 1 do throw (.ipv6Count ipv6)
  if let some metrics := cfg.metrics then (metrics.validate "metrics.listen").mapError .metrics
  if let some bfd := cfg.bfd then
    unless 0 < bfd.minRxMs ∧ 0 < bfd.minTxMs do throw .bfdIntervals
    unless 0 < bfd.multiplier do throw .bfdMultiplier
  validatePeers [] cfg.bgpPeers
  if "" ∈ cfg.ospfInterfaces then throw .emptyOspfInterface
  cfg.learn.forM fun cidr => do
    let _ ← (Cidr.parseCidr cidr).mapError (.learn cidr)
  cfg.announce.forM fun entry => do
    let _ ← (Cidr.parseCidr entry.net).mapError (.announce entry.net)
  if let some bypass := cfg.bypass then validateBypass bypass

end Slipmesh.Router
