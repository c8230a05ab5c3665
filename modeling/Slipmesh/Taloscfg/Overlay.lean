import Slipmesh.Taloscfg.Edit
import Slipmesh.Taloscfg.SlipmeshFile

/-! `taloscfg::edit` on the documents of a parsed text: each is read into a struct that
names only the fields written here, and written back. -/

namespace Slipmesh.Taloscfg
open Common Library

/-- The obfuscation fields that the generator draws. -/
structure GeneratedObfuscation where
  jc : Option UInt16 := none
  jmin : Option UInt16 := none
  jmax : Option UInt16 := none
  s1 : Option UInt16 := none
  s2 : Option UInt16 := none
  h1 : Option UInt32 := none
  h2 : Option UInt32 := none
  h3 : Option UInt32 := none
  h4 : Option UInt32 := none
deriving DecidableEq, Repr

/-- With every field that was drawn taken from the draw. -/
def GeneratedObfuscation.fill (fields : GeneratedObfuscation) (generated : Obfuscation) : GeneratedObfuscation where
  jc := generated.jc.or fields.jc
  jmin := generated.jmin.or fields.jmin
  jmax := generated.jmax.or fields.jmax
  s1 := generated.s1.or fields.s1
  s2 := generated.s2.or fields.s2
  h1 := generated.h1.or fields.h1
  h2 := generated.h2.or fields.h2
  h3 := generated.h3.or fields.h3
  h4 := generated.h4.or fields.h4

structure NodeFields where
  meshPrivateKey : Option String
deriving DecidableEq, Repr

structure LinkFields where
  obfuscation : Option GeneratedObfuscation
deriving DecidableEq, Repr

structure MeshFields where
  links : List LinkFields
deriving DecidableEq, Repr

structure NetworkDocument where
  nodes : List NodeFields
  mesh : Option MeshFields
deriving DecidableEq, Repr

structure PoolDocument where
  privateKey : Option String
  obfuscation : Option GeneratedObfuscation
deriving DecidableEq, Repr

/-- How the YAML library reads a document as a struct, and writes it back. -/
structure Overlay (Doc Fields : Type) where
  read : Doc → Nat → Except String Fields
  write : Doc → Nat → Fields → Except String Doc

/-- The YAML library, as far as it edits. -/
structure Editor (Doc : Type) where
  network : Overlay Doc NetworkDocument
  pool : Overlay Doc PoolDocument
  clients : Overlay Doc PoolClients
  /-- The items to keep of a document's `clients`, if it has such a list. -/
  retainClients : Doc → Nat → (Nat → Bool) → Except String (Option Doc)
  commit : Doc → Except String Doc

inductive EditorError where
  | yaml (reason : String)
  | edit (reason : EditError)
deriving DecidableEq, Repr

/-! ### What was minted -/

def fillNode (nodes : List NodeFields) (minted : Nat × String) : Except EditError (List NodeFields) :=
  modifyAt .noNode nodes minted.1 fun node => { node with meshPrivateKey := some minted.2 }

def LinkFields.fill (generated : Obfuscation) (link : LinkFields) : LinkFields :=
  { link with obfuscation := some ((link.obfuscation.getD {}).fill generated) }

def fillLink (mesh : Option MeshFields) (minted : Nat × Obfuscation) : Except EditError (Option MeshFields) := do
  let fields ← mesh.elim (.error .noLink) .ok
  let links ← modifyAt .noLink fields.links minted.1 (LinkFields.fill minted.2)
  return some { fields with links }

def PoolDocument.fill (minted : PoolMinted) (pool : PoolDocument) : PoolDocument where
  privateKey := minted.privateKey.or pool.privateKey
  obfuscation := match minted.obfuscation with
    | some generated => some ((pool.obfuscation.getD {}).fill generated)
    | none => pool.obfuscation

variable {Doc : Type} (editor : Editor Doc)

def Editor.recordNetwork (file : SlipmeshFile) (minted : Minted) (yaml : Doc) : Except EditorError Doc :=
  if minted.nodeKeys = [] ∧ minted.linkObfuscation = [] then .ok yaml
  else do
    let network ← (editor.network.read yaml file.networkIndex).mapError .yaml
    let nodes ← (minted.nodeKeys.foldlM fillNode network.nodes).mapError .edit
    let mesh ← (minted.linkObfuscation.foldlM fillLink network.mesh).mapError .edit
    (editor.network.write yaml file.networkIndex { nodes, mesh }).mapError .yaml

def Editor.recordPool (file : SlipmeshFile) (yaml : Doc) (minted : PoolMinted) : Except EditorError Doc := do
  let index ← (file.poolDocument minted.name).elim (.error (.edit (.noPool minted.name))) .ok
  let pool ← (editor.pool.read yaml index).mapError .yaml
  (editor.pool.write yaml index (pool.fill minted)).mapError .yaml

/-- Every value that was minted, in the document it belongs to. -/
def Editor.record (yaml : Doc) (file : SlipmeshFile) (minted : Minted) : Except EditorError Doc := do
  let yaml ← editor.recordNetwork file minted yaml
  minted.pools.foldlM (editor.recordPool file) yaml

/-! ### Clients -/

def Editor.addClient (yaml : Doc) (document : Nat) (client : RoadwarriorClient) : Except EditorError Doc := do
  let pool ← (editor.clients.read yaml document).mapError .yaml
  (editor.clients.write yaml document (pool.addClient client)).mapError .yaml

def Editor.removeClient (yaml : Doc) (document clientIndex : Nat) : Except EditorError Doc := do
  let retained ← (editor.retainClients yaml document (· ≠ clientIndex)).mapError .yaml
  retained.elim (.error (.edit .noClients)) .ok

end Slipmesh.Taloscfg
