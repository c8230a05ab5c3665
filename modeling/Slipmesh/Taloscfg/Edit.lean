import Slipmesh.Library.Positions
import Slipmesh.Taloscfg.Secrets

/-! `taloscfg::edit`: what a run drew, written into the entries it belongs to. An
overlay writes the fields set in it and leaves every other field of the document. -/

namespace Slipmesh.Taloscfg
open Common Library

inductive EditError where
  | noNode
  | noLink
  | noPool (name : String)
  | noClients
deriving DecidableEq, Repr

/-- `GeneratedObfuscation::fill`, read from the entry and written back to it: the nine
fields of the overlay are those that the generator draws. -/
def fill (entry generated : Obfuscation) : Obfuscation :=
  { entry with
    jc := generated.jc.or entry.jc
    jmin := generated.jmin.or entry.jmin
    jmax := generated.jmax.or entry.jmax
    s1 := generated.s1.or entry.s1
    s2 := generated.s2.or entry.s2
    h1 := generated.h1.or entry.h1
    h2 := generated.h2.or entry.h2
    h3 := generated.h3.or entry.h3
    h4 := generated.h4.or entry.h4 }

def recordNode (key : String) (node : NodeEntry) : NodeEntry := { node with meshPrivateKey := some key }

def recordLink (generated : Obfuscation) (link : MeshLink) : MeshLink :=
  { link with obfuscation := fill link.obfuscation generated }

def recordPool (minted : PoolMinted) (pool : RoadwarriorPool) : RoadwarriorPool :=
  { pool with
    privateKey := minted.privateKey.or pool.privateKey
    obfuscation := minted.obfuscation.elim pool.obfuscation (fill pool.obfuscation) }

def recordNodeAt (nodes : List NodeEntry) (minted : Nat × String) : Except EditError (List NodeEntry) :=
  modifyAt .noNode nodes minted.1 (recordNode minted.2)

def recordLinkAt (links : List MeshLink) (minted : Nat × Obfuscation) : Except EditError (List MeshLink) :=
  modifyAt .noLink links minted.1 (recordLink minted.2)

/-- The pool is found by its name, in the first document that has it. -/
def recordPoolNamed (pools : List RoadwarriorPool) (minted : PoolMinted) : Except EditError (List RoadwarriorPool) :=
  match pools.findIdx? (·.name = minted.name) with
  | none => .error (.noPool minted.name)
  | some position => modifyAt (.noPool minted.name) pools position (recordPool minted)

def record (topology : MeshConfig) (minted : Minted) : Except EditError MeshConfig := do
  let nodes ← minted.nodeKeys.foldlM recordNodeAt topology.nodes
  let links ← minted.linkObfuscation.foldlM recordLinkAt topology.links
  let roadwarriors ← minted.pools.foldlM recordPoolNamed topology.roadwarriors
  return { topology with nodes, links, roadwarriors }

/-! ### Clients -/

/-- A client as `rw-add` writes it down. -/
structure ClientFields where
  name : String
  publicKey : Option String
  privateKey : Option String
  allowedIps : List String
deriving DecidableEq, Repr

/-- By its private key where that was kept, or else by the public one. -/
def ClientFields.ofClient (client : RoadwarriorClient) : ClientFields where
  name := client.name
  publicKey := if client.privateKey.isNone then some client.publicKey else none
  privateKey := client.privateKey
  allowedIps := client.allowedIps

/-- The entry that is read of the fields. -/
def ClientFields.entry (fields : ClientFields) : ClientEntry where
  name := fields.name
  publicKey := fields.publicKey
  privateKey := fields.privateKey
  allowedIps := fields.allowedIps

/-- A pool document as far as its clients go. -/
structure PoolClients where
  clients : Option (List ClientEntry) := none
deriving DecidableEq, Repr

def PoolClients.addClient (pool : PoolClients) (client : RoadwarriorClient) : PoolClients where
  clients := some (pool.clients.getD [] ++ [(ClientFields.ofClient client).entry])

def PoolClients.removeClient (pool : PoolClients) (clientIndex : Nat) : Except EditError PoolClients := do
  let clients ← pool.clients.elim (.error .noClients) .ok
  return { clients := some (retainOthers clients clientIndex) }

end Slipmesh.Taloscfg
