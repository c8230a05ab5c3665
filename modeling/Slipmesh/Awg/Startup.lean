import Slipmesh.Awg.Handshake
import Slipmesh.Awg.Identity
import Slipmesh.Common.Links

/-! `awg`'s start, request by request: links that are not in the config go, and those that
are in it are brought up to date one after the other, up to where handshakes are tracked. -/

namespace Slipmesh.Awg.Startup
open Common Host Library

inductive StartError where
  | config (reason : ConfigError)
  | gc (reason : LinkError)
  | link (reason : LinkError)
  | key (reason : KeyError)
  | setDevice (iface : String)
  | getDevice (iface : String)
  | setPeers (iface : String)
  | notConverged (failed : List String)
  | missing (iface : String)
deriving DecidableEq, Repr

/-! ### One interface -/

/-- A module older than 3.1 refuses what it does not know. -/
def setDevice (name : String) (attrs : List DeviceAttribute) : Netlink StartError Unit :=
  tryCatch (call (.setDevice name attrs) (.setDevice name)) fun error =>
    match without31Attributes attrs with
    | some older => call (.setDevice name older) (.setDevice name)
    | none => throw error

def setIdentity (engine : Engine) (iface : InterfaceEntry) : Netlink StartError Unit :=
  match identityAttributes engine iface with
  | .error reason => throw (.key reason)
  | .ok attrs => setDevice iface.name attrs

def currentPeers (engine : Engine) (name : String) : Netlink StartError (List Peer) := do
  let device ← call (.getDevice name) (.getDevice name)
  return Awg.currentPeers engine device

def syncPeers (engine : Engine) (name : String) (previous desired : List Peer) : Netlink StartError Unit :=
  let updates := (diffPeers previous desired).filterMap (peerUpdate engine)
  if updates.isEmpty then return () else call (.setPeers name updates) (.setPeers name)

/-- The names resolve as they do at this start. -/
def ensureInterface (engine : Engine) (resolver : Resolver) (iface : InterfaceEntry) : Netlink StartError Unit := do
  let (index, _) ← (ensureLink iface.name amneziawg).mapError .link
  (ensureAddresses index iface.addresses).mapError .link
  (setUp index).mapError .link
  setIdentity engine iface
  let previous ← currentPeers engine iface.name
  syncPeers engine iface.name previous (desiredPeers resolver previous iface.peers)

/-! ### All of them -/

def gc (desiredNames : List String) : Netlink LinkError Unit := do
  let links ← listLinksByKind amneziawg
  links.forM fun link => if link.1 ∈ desiredNames then return () else deleteLink link.2

/-- An interface that fails is noted, and the others have their turn. -/
def convergeInterface (engine : Engine) (resolver : Resolver) (failed : List String) (iface : InterfaceEntry) :
    Netlink StartError (List String) :=
  tryCatch (do ensureInterface engine resolver iface; return failed) fun _ => return failed ++ [iface.name]

/-- What it reads is only logged. -/
def logHandshakeSummary (cfg : AwgConfig) : Netlink StartError Unit :=
  cfg.interfaces.forM fun iface =>
    tryCatch (do let _ ← call (.getDevice iface.name) (StartError.getDevice iface.name)) fun _ => return ()

def trackInterface (tracked : List TrackedInterface) (iface : InterfaceEntry) :
    Netlink StartError (List TrackedInterface) := do
  match ← (linkIndex iface.name).mapError .link with
  | some index =>
    return tracked ++
      [⟨iface.name, index, iface.handshakeStaleSecs.getD defaultHandshakeStaleSecs, trackedPeers iface.peers⟩]
  | none => throw (.missing iface.name)

def buildTrackedInterfaces (cfg : AwgConfig) : Netlink StartError (List TrackedInterface) :=
  cfg.interfaces.foldlM trackInterface []

/-- `main::run` up to the loop that it ends in. -/
def run (engine : Engine) (resolver : Resolver) (cfg : AwgConfig) : Netlink StartError (List TrackedInterface) :=
  match validate cfg with
  | .error reason => throw (.config reason)
  | .ok () => do
    (gc (cfg.interfaces.map (·.name))).mapError .gc
    match ← cfg.interfaces.foldlM (convergeInterface engine resolver) [] with
    | [] =>
      logHandshakeSummary cfg
      buildTrackedInterfaces cfg
    | failed => throw (.notConverged failed)

end Slipmesh.Awg.Startup
