import Slipmesh.Common.Cidr
import Slipmesh.Common.Config

/-! `awg.yaml` and its validation. -/

namespace Slipmesh.Awg
open Common

structure PeerEntry where
  publicKey : String
  name : Option String := none
  endpoint : Option String := none
  /-- Absent for a full-tunnel peer, whose handshake is not tracked. -/
  allowedIps : Option (List String) := none
  advancedSecurity : Bool := false
deriving DecidableEq, Repr

structure InterfaceEntry where
  name : String
  listenPort : UInt16
  addresses : List String := []
  privateKey : String
  obfuscation : Obfuscation := {}
  handshakeStaleSecs : Option Nat := none
  peers : List PeerEntry := []
deriving DecidableEq, Repr

structure AwgConfig where
  interfaces : List InterfaceEntry := []
  metrics : Option MetricsConfig := none
deriving DecidableEq, Repr

inductive ConfigError where
  | metrics (reason : MetricsError)
  | emptyName
  | longName (iface : String)
  | duplicateName (iface : String)
  | address (iface cidr : String) (reason : CidrError)
  | duplicateKey (iface key : String)
  | advancedSecurity (iface key : String)
  | allowedIp (iface key cidr : String) (reason : CidrError)
deriving DecidableEq, Repr

def defaultHandshakeStaleSecs : Nat := 180

def checkCidr (reason : String → CidrError → ConfigError) (cidr : String) : Except ConfigError Unit :=
  match parseCidr cidr with
  | .ok _ => .ok ()
  | .error e => .error (reason cidr e)

/-- The peers of an interface, checked in order against the keys seen so far. -/
def validatePeers (iface : InterfaceEntry) : List String → List PeerEntry → Except ConfigError Unit
  | _, [] => .ok ()
  | seen, peer :: rest => do
    if peer.publicKey ∈ seen then throw (.duplicateKey iface.name peer.publicKey)
    if peer.advancedSecurity ∧ iface.obfuscation.headerProtectionKey.isNone then
      throw (.advancedSecurity iface.name peer.publicKey)
    (peer.allowedIps.getD []).forM (checkCidr (.allowedIp iface.name peer.publicKey))
    validatePeers iface (peer.publicKey :: seen) rest

def validateInterfaces : List String → List InterfaceEntry → Except ConfigError Unit
  | _, [] => .ok ()
  | seen, iface :: rest => do
    if iface.name = "" then throw .emptyName
    if 15 < iface.name.utf8ByteSize then throw (.longName iface.name)
    if iface.name ∈ seen then throw (.duplicateName iface.name)
    iface.addresses.forM (checkCidr (.address iface.name))
    validatePeers iface [] iface.peers
    validateInterfaces (iface.name :: seen) rest

def validate (cfg : AwgConfig) : Except ConfigError Unit := do
  if let some metrics := cfg.metrics then (metrics.validate "metrics.listen").mapError .metrics
  validateInterfaces [] cfg.interfaces

end Slipmesh.Awg
