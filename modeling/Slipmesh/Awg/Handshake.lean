import Slipmesh.Awg.Config
import Slipmesh.Library.Ordered
import Slipmesh.Library.Runs
import Mathlib.Data.String.Basic
import Mathlib.Logic.Function.Basic

/-! `awg::handshake`: one kernel route for each allowed IP of a peer whose
handshake is fresh. What a CIDR text stands for in the kernel is a parameter, as
is the outcome of every call. -/

namespace Slipmesh.Awg
open Library

structure TrackedInterface where
  name : String
  index : UInt32
  staleSecs : Nat
  /-- The allowed IPs of every tracked peer, by its public key. -/
  peers : SortedMap String (List String)

/-- The interface indices the kernel gave out, no two names sharing one. -/
structure LinkTable where
  index : String → Option UInt32
  distinct : ∀ first second i, index first = some i → index second = some i → first = second

def trackPeer (map : SortedMap String (List String)) (peer : PeerEntry) : SortedMap String (List String) :=
  match peer.allowedIps with
  | some allowedIps => map.insert peer.publicKey allowedIps
  | none => map

def trackedPeers (peers : List PeerEntry) : SortedMap String (List String) := peers.foldl trackPeer .empty

/-- Fails where an interface is missing from the kernel. -/
def buildTrackedInterfaces (links : LinkTable) (cfg : AwgConfig) : Option (List TrackedInterface) :=
  cfg.interfaces.mapM fun iface => do
    let index ← links.index iface.name
    some ⟨iface.name, index, iface.handshakeStaleSecs.getD defaultHandshakeStaleSecs, trackedPeers iface.peers⟩

structure PeerStats where
  lastHandshake : Nat
  rxBytes : Nat
  txBytes : Nat
deriving DecidableEq, Repr

/-- How texts name kernel routes: the route a text stands for, if it parses, and
the text a route is reported as, if it is. -/
structure Naming (ν : Type) where
  name : String → Option ν
  text : ν → Option String
  name_text : ∀ route cidr, text route = some cidr → name cidr = some route

/-- The kernel's tagged routes and the daemon's record of them, by interface
index, and whether a call for the interface has failed in this pass. -/
structure World (ν : Type) where
  routes : UInt32 → List ν
  installed : UInt32 → List String
  failed : UInt32 → Bool

variable {ν : Type} [DecidableEq ν]

namespace World

def fail (world : World ν) (index : UInt32) : World ν :=
  { world with failed := Function.update world.failed index true }

def add (world : World ν) (index : UInt32) (route : ν) (cidr : String) : World ν :=
  { world with
    routes := Function.update world.routes index ((world.routes index).insert route)
    installed := Function.update world.installed index ((world.installed index).insert cidr) }

def remove (world : World ν) (index : UInt32) (route : ν) (cidr : String) : World ν :=
  { world with
    routes := Function.update world.routes index ((world.routes index).filter (· ≠ route))
    installed := Function.update world.installed index ((world.installed index).filter (· ≠ cidr)) }

end World

/-- What one pass meets on one interface. `none` is a dump that failed; the two
orders are those in which the hash map and the set difference are visited. -/
structure Encounter (iface : TrackedInterface) where
  dump : Option (String → Option PeerStats)
  visits : List (String × List String)
  visited : visits.Perm iface.peers.entries
  addOk : Nat → Bool
  delOk : Nat → Bool
  ordered : List String → List String
  reordered : ∀ cidrs, (ordered cidrs).Perm cidrs

/-- The kernel state, the daemon's record and the texts still fresh, inside a pass. -/
structure Progress (ν : Type) where
  world : World ν
  stillFresh : List String

def isFresh (now : Nat) (iface : TrackedInterface) (dump : String → Option PeerStats) (publicKey : String) : Bool :=
  match dump publicKey with
  | some stats => 0 < stats.lastHandshake && now - stats.lastHandshake < iface.staleSecs
  | none => false

/-- The allowed IPs of the fresh peers, as the loops come to them. -/
def freshCidrs (now : Nat) (iface : TrackedInterface) (dump : String → Option PeerStats)
    (visits : List (String × List String)) : List String :=
  (visits.filter fun peer => isFresh now iface dump peer.1).flatMap Prod.snd

/-- One turn of the inner loop. A call that fails, or a text that does not parse,
leaves both sides as they were and the text out of the fresh ones. -/
def visit (naming : Naming ν) (index : UInt32) (ok : Nat → Bool) (state : Progress ν) (turn : String × Nat) : Progress ν :=
  if turn.1 ∈ state.world.installed index then { state with stillFresh := state.stillFresh.insert turn.1 }
  else match naming.name turn.1, ok turn.2 with
    | some route, true => ⟨state.world.add index route turn.1, state.stillFresh.insert turn.1⟩
    | _, _ => { state with world := state.world.fail index }

/-- The removal of one stale text. -/
def removeStale (naming : Naming ν) (index : UInt32) (ok : Nat → Bool) (world : World ν) (turn : String × Nat) : World ν :=
  match naming.name turn.1, ok turn.2 with
  | some route, true => world.remove index route turn.1
  | _, _ => world.fail index

section
variable (naming : Naming ν) (now : Nat) (iface : TrackedInterface) (met : Encounter iface)

def visitFresh (dump : String → Option PeerStats) (world : World ν) : Progress ν :=
  (freshCidrs now iface dump met.visits).zipIdx.foldl (visit naming iface.index met.addOk) ⟨world, []⟩

def stale (state : Progress ν) : List String :=
  met.ordered ((state.world.installed iface.index).filter (· ∉ state.stillFresh))

def reconcileInterface (world : World ν) : World ν :=
  match met.dump with
  | none => world.fail iface.index
  | some dump =>
    let state := visitFresh naming now iface met dump world
    (stale iface met state).zipIdx.foldl (removeStale naming iface.index met.delOk) state.world

/-- Every state on the way: after the dump, each addition and each removal. -/
def interfaceStates (world : World ν) : List (World ν) :=
  match met.dump with
  | none => [world.fail iface.index]
  | some dump =>
    let state := visitFresh naming now iface met dump world
    (states (visit naming iface.index met.addOk) ⟨world, []⟩ (freshCidrs now iface dump met.visits).zipIdx).map (·.world) ++
      states (removeStale naming iface.index met.delOk) state.world (stale iface met state).zipIdx

end

/-- What one pass meets: its time, and an encounter for every interface. -/
structure Pass where
  now : Nat
  meets : (iface : TrackedInterface) → Encounter iface

def reconcilePass (naming : Naming ν) (tracked : List TrackedInterface) (world : World ν) (pass : Pass) : World ν :=
  tracked.foldl (fun world iface => reconcileInterface naming pass.now iface (pass.meets iface) world)
    { world with failed := fun _ => false }

/-- Every state inside a pass, interface by interface. -/
def passStates (naming : Naming ν) (pass : Pass) : List TrackedInterface → World ν → List (World ν)
  | [], _ => []
  | iface :: rest, world =>
    interfaceStates naming pass.now iface (pass.meets iface) world ++
      passStates naming pass rest (reconcileInterface naming pass.now iface (pass.meets iface) world)

/-- Every state of a run of passes, the inside of each pass included. -/
def runStates (naming : Naming ν) (tracked : List TrackedInterface) : World ν → List Pass → List (World ν)
  | world, [] => [world]
  | world, pass :: rest =>
    world :: passStates naming pass tracked { world with failed := fun _ => false } ++
      runStates naming tracked (reconcilePass naming tracked world pass) rest

/-- The start of `run`: the record holds what the kernel reports for every tracked interface. -/
def seed (naming : Naming ν) (tracked : List TrackedInterface) (world : World ν) : World ν :=
  { world with
    installed := fun index =>
      if index ∈ tracked.map (·.index) then (world.routes index).filterMap naming.text else [] }

/-- What the loop publishes after a pass. -/
structure ReconcileSnapshot where
  takenUnix : Nat
  connected : List (String × String)
deriving DecidableEq, Repr

/-- A peer is connected when every one of its allowed IPs is on record, and there is one. -/
def allInstalled (installed : List String) (allowedIps : List String) : Bool :=
  !allowedIps.isEmpty && allowedIps.all (· ∈ installed)

def snapshotFrom (tracked : List TrackedInterface) (installed : UInt32 → List String) (now : Nat) : ReconcileSnapshot where
  takenUnix := now
  connected := tracked.flatMap fun iface =>
    (iface.peers.entries.filter fun peer => allInstalled (installed iface.index) peer.2).map fun peer => (iface.name, peer.1)

end Slipmesh.Awg
