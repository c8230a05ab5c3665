import Slipmesh.Awg.Handshake
import Slipmesh.Library.IndexMap

/-! `awg::metrics`: the exposition of one scrape, from the config, the dumps of the
interfaces and what the routing loop has last published. -/

namespace Slipmesh.Awg
open Library

def snapshotMaxAgeSecs : Nat := 5

/-- The peers of an interface as its dump has them; the inner `none` is a dump that failed. -/
abbrev Dumps := String → Option (Option (String → Option PeerStats))

structure PeerLabels where
  interface : String
  kind : String
  peer : String
  peerName : String
deriving DecidableEq, Repr

structure InterfaceKindLabels where
  interface : String
  kind : String
deriving DecidableEq, Repr

structure InterfaceLabels where
  interface : String
deriving DecidableEq, Repr

structure BuildLabels where
  component : String
  version : String
deriving DecidableEq, Repr

def kindOf (peer : PeerEntry) : String := if peer.allowedIps.isSome then "roadwarrior" else "mesh"

/-- A gauge holds an `i64`, a counter a `u64`. -/
inductive Value where
  | gauge (value : Int)
  | counter (value : UInt64)
deriving DecidableEq, Repr

structure Series where
  labels : List (String × String)
  value : Value
deriving DecidableEq, Repr

structure Registered where
  name : String
  help : String
  series : List Series
deriving DecidableEq, Repr

/-! ### Labels, as they are encoded -/

def PeerLabels.encode (labels : PeerLabels) : List (String × String) :=
  [("interface", labels.interface), ("kind", labels.kind), ("peer", labels.peer), ("peer_name", labels.peerName)]

def InterfaceKindLabels.encode (labels : InterfaceKindLabels) : List (String × String) :=
  [("interface", labels.interface), ("kind", labels.kind)]

def InterfaceLabels.encode (labels : InterfaceLabels) : List (String × String) := [("interface", labels.interface)]

def BuildLabels.encode (labels : BuildLabels) : List (String × String) :=
  [("component", labels.component), ("version", labels.version)]

/-! ### The families of one scrape -/

/-- A metric of every set of labels that has been asked for. -/
abbrev Family (κ ν : Type) := List (κ × ν)

structure Families where
  lastHandshake : Family PeerLabels Int := []
  rxBytes : Family PeerLabels UInt64 := []
  txBytes : Family PeerLabels UInt64 := []
  connected : Family PeerLabels Int := []
  interfacePeers : Family InterfaceKindLabels Int := []
  dumpOk : Family InterfaceLabels Int := []

/-- A `u64` as an `i64`. -/
def asI64 (value : Nat) : Int := Int.bmod value (2 ^ 64)

def verdictIsFresh (snapshot : ReconcileSnapshot) (now : Nat) : Bool :=
  0 < snapshot.takenUnix && now - snapshot.takenUnix ≤ snapshotMaxAgeSecs

def peerLabels (iface : InterfaceEntry) (peer : PeerEntry) : PeerLabels where
  interface := iface.name
  kind := kindOf peer
  peer := peer.publicKey
  peerName := peer.name.getD ""

/-- What the dump of the interface says of the peer. -/
def dumpedStats (dumps : Dumps) (iface : InterfaceEntry) (peer : PeerEntry) : Option PeerStats := do
  let dump ← (dumps iface.name).join
  dump peer.publicKey

section
variable (dumps : Dumps) (snapshot : ReconcileSnapshot) (now : Nat) (iface : InterfaceEntry)

/-- The turn of the loop for one peer. -/
def observePeer (families : Families) (peer : PeerEntry) : Families :=
  let labels := peerLabels iface peer
  let kind := kindOf peer
  let counted := { families with
    interfacePeers := IndexMap.touch 0 families.interfacePeers ⟨iface.name, kind⟩ (· + 1) }
  let judged :=
    if kind = "roadwarrior" ∧ verdictIsFresh snapshot now then
      let isConnected := snapshot.connected.contains (iface.name, peer.publicKey)
      { counted with connected := IndexMap.touch 0 counted.connected labels fun _ => if isConnected then 1 else 0 }
    else counted
  match dumpedStats dumps iface peer with
  | none => judged
  | some stats =>
    let shaken :=
      if 0 < stats.lastHandshake then
        { judged with lastHandshake := IndexMap.touch 0 judged.lastHandshake labels fun _ => asI64 stats.lastHandshake }
      else judged
    { shaken with
      rxBytes := IndexMap.touch 0 shaken.rxBytes labels (· + UInt64.ofNat stats.rxBytes)
      txBytes := IndexMap.touch 0 shaken.txBytes labels (· + UInt64.ofNat stats.txBytes) }

def observeInterface (families : Families) : Families :=
  let ok := ((dumps iface.name).join).isSome
  iface.peers.foldl (observePeer dumps snapshot now iface)
    { families with dumpOk := IndexMap.touch 0 families.dumpOk ⟨iface.name⟩ fun _ => if ok then 1 else 0 }

end

def observe (cfg : AwgConfig) (dumps : Dumps) (snapshot : ReconcileSnapshot) (now : Nat) : Families :=
  cfg.interfaces.foldl (fun families iface => observeInterface dumps snapshot now iface families) {}

/-! ### The registry -/

def gauges {κ : Type} (encode : κ → List (String × String)) (family : Family κ Int) : List Series :=
  family.map fun entry => ⟨encode entry.1, .gauge entry.2⟩

def counters {κ : Type} (encode : κ → List (String × String)) (family : Family κ UInt64) : List Series :=
  family.map fun entry => ⟨encode entry.1, .counter entry.2⟩

/-- Every metric under its full name. The text of the exposition is left to the encoder. -/
def render (version : String) (cfg : AwgConfig) (dumps : Dumps) (snapshot : ReconcileSnapshot) (now : Nat) :
    List Registered :=
  let families := observe cfg dumps snapshot now
  [⟨"slipmesh_build_info", "Version of the running daemon, by component",
      gauges BuildLabels.encode [(⟨"awg", version⟩, 1)]⟩,
    ⟨"slipmesh_awg_peer_last_handshake_seconds", "Unix time of a peer's last completed handshake",
      gauges PeerLabels.encode families.lastHandshake⟩,
    ⟨"slipmesh_awg_peer_rx_bytes", "Bytes received from a peer", counters PeerLabels.encode families.rxBytes⟩,
    ⟨"slipmesh_awg_peer_tx_bytes", "Bytes sent to a peer", counters PeerLabels.encode families.txBytes⟩,
    ⟨"slipmesh_awg_peer_connected", "Whether this daemon currently has routes installed for a tracked peer",
      gauges PeerLabels.encode families.connected⟩,
    ⟨"slipmesh_awg_interface_peers", "Peers this interface is configured with",
      gauges InterfaceKindLabels.encode families.interfacePeers⟩,
    ⟨"slipmesh_awg_interface_dump_ok", "Whether this scrape could read the interface from the kernel",
      gauges InterfaceLabels.encode families.dumpOk⟩] ++
  if 0 < snapshot.takenUnix then
    [⟨"slipmesh_awg_reconcile_last_success_seconds", "Unix time of the routing loop's last completed pass",
      [⟨[], .gauge (asI64 snapshot.takenUnix)⟩]⟩]
  else []

end Slipmesh.Awg
