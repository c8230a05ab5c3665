import Slipmesh.Library.Guard
import Slipmesh.Taloscfg.MeshConfig
import Slipmesh.Taloscfg.Merge

/-! `taloscfg::slipmesh_file`: what each document of `slipmesh.yaml` is for, which hosts
it reaches, and what one host ends up with. -/

namespace Slipmesh.Taloscfg
open Yaml

def metaKey : String := "slipmesh"

/-- The services whose document is rendered from the network, with the file that each
one mounts. -/
def generated : List (String × String) :=
  [("awg", "/etc/talos-extensions/awg.yaml"), ("router", "/etc/talos-extensions/router.yaml")]

inductive Kind where
  | network
  | roadwarriors
  | nftables
  | patch
deriving DecidableEq, Repr

structure Meta where
  kind : Kind
  included : Option (List String) := none
  excluded : Option (List String) := none
deriving DecidableEq, Repr

/-- One document of a text, as the YAML libraries give it: its tree, which has no key
twice, and what its text deserializes to as each of the types asked of it. -/
structure RawDocument where
  index : Nat
  line : Nat
  value : Except String { value : Value // value.keys.Nodup }
  mesh : Except String MeshConfig
  pool : Except String RoadwarriorPool
deriving DecidableEq

/-- The block of a document for every host. -/
def patchBlock : Value := .mapping none [(.ofString "kind", .ofString "patch")]

/-- The YAML libraries: the documents of a text, those of only comments left out, the
values read as types, and the text of a value. -/
structure Serde where
  documents : String → Except String (List RawDocument)
  readMeta : Value → Except String Meta
  readMesh : Value → Except String MeshConfig
  text : Value → String
  readMeta_patchBlock : readMeta patchBlock = .ok { kind := .patch }

/-- Where a document stands, as an error says it. -/
structure Place where
  kind : Kind
  line : Nat
deriving DecidableEq, Repr

inductive ReadError where
  | notYaml (reason : String)
  | documentNotYaml (line : Nat) (reason : String)
  | noBlock (line : Nat)
  | block (line : Nat) (reason : String)
  | nftablesKind (place : Place)
  | networks (found : Nat)
  | notAimed (place : Place)
  | roadwarriorsInNetwork (place : Place)
  | deserialize (place : Place) (reason : String)
  | reachesNone (place : Place)
  | unknownHost (place : Place) (host : String)
  | noTalosKind (place : Place)
  | generatedFields (place : Place) (name : String) (others : List String)
  | overGenerated (place : Place) (name file : String)
  | networkNotMapping
  | assembling (reason : String)
  | topology (reason : TopologyError)
deriving DecidableEq, Repr

structure Document where
  index : Nat
  line : Nat
  block : Meta
  value : Value
  distinct : value.keys.Nodup
  mesh : Except String MeshConfig
  pool : Except String RoadwarriorPool
deriving DecidableEq

def Document.at (document : Document) : Place := ⟨document.block.kind, document.line⟩

def Document.read (serde : Serde) (raw : RawDocument) : Except ReadError Document :=
  match raw.value with
  | .error reason => .error (.documentNotYaml raw.line reason)
  | .ok ⟨value, distinct⟩ =>
    match value.get metaKey with
    | none => .error (.noBlock raw.line)
    | some block => do
      let block ← (serde.readMeta block).mapError (.block raw.line)
      return {
        index := raw.index
        line := raw.line
        block
        value := value.remove metaKey
        distinct := Value.keys_remove value metaKey distinct
        mesh := raw.mesh
        pool := raw.pool }

/-- A document of the kind whose ruleset has moved is refused as it is met. -/
def Document.route (serde : Serde) (raw : RawDocument) : Except ReadError Document := do
  let document ← Document.read serde raw
  if document.block.kind = .nftables then throw (.nftablesKind document.at)
  return document

def Document.reaches (document : Document) (host : String) : Bool :=
  document.block.included.all (host ∈ ·) && host ∉ document.block.excluded.getD []

/-- What Talos keys a document by. -/
structure Identity where
  apiVersion : Option String
  kind : Option String
  name : Option String
deriving DecidableEq, Repr

def Identity.of (value : Value) : Identity :=
  let field key := (value.get key).bind Value.asStr
  ⟨field "apiVersion", field "kind", field "name"⟩

def Identity.text (identity : Identity) : String :=
  identity.kind.getD "" ++ identity.name.elim "" ("/" ++ ·)

/-- The files of a document. -/
def configFiles (document : Value) : List Value := ((document.get "configFiles").bind Value.asSequence).getD []

def mountPath (file : Value) : Option String := (file.get "mountPath").bind Value.asStr

def mounts (document : Value) (path : String) : Bool := (configFiles document).any (mountPath · = some path)

structure SlipmeshFile where
  network : Value
  networkIndex : Nat
  hosts : List String
  pools : List Document
  patches : List Document
  topology : MeshConfig
deriving DecidableEq

/-! ### Reading -/

def checkUntargeted (document : Document) : Except ReadError Unit :=
  if document.block.included = none ∧ document.block.excluded = none then .ok () else throw (.notAimed document.at)

def checkTargets (hosts : List String) (document : Document) : Except ReadError Unit := do
  if document.block.included = some [] then throw (.reachesNone document.at)
  (document.block.included.getD [] ++ document.block.excluded.getD []).forM fun host =>
    if host ∈ hosts then .ok () else throw (.unknownHost document.at host)

def checkPool (document : Document) : Except ReadError Unit :=
  (document.pool.mapError (.deserialize document.at)).map fun _ => ()

/-- A patch of a generated document may add files to it, and nothing else. -/
def checkGenerated (document : Document) (name file : String) : Except ReadError Unit := do
  let others := (document.value.keys.filterMap Value.asStr).filter (· ∉ ["apiVersion", "kind", "name", "configFiles"])
  unless others = [] do throw (.generatedFields document.at name others)
  if mounts document.value file then throw (.overGenerated document.at name file)

def checkPatch (document : Document) : Except ReadError Unit :=
  let identity := Identity.of document.value
  match identity.kind with
  | none => throw (.noTalosKind document.at)
  | some kind =>
    match identity.name.bind fun name => generated.find? (·.1 = name) with
    | some (name, file) =>
      if kind = "ExtensionServiceConfig" then checkGenerated document name file else .ok ()
    | none => .ok ()

/-- The network with every pool, as one validated topology. -/
def model (serde : Serde) (network : Value) (pools : List Document) : Except ReadError MeshConfig :=
  match network with
  | .mapping tag entries => do
    let pools := Value.sequence none (pools.map (·.value))
    let whole := Value.mapping tag (Library.IndexMap.insert entries (.ofString "roadwarriors") pools)
    let mesh ← (serde.readMesh whole).mapError .assembling
    (validate mesh).mapError .topology
    return mesh
  | _ => .error .networkNotMapping

/-- The documents, once each of them has been read. -/
def assemble (serde : Serde) (documents : List Document) : Except ReadError SlipmeshFile := do
  let pools := documents.filter (·.block.kind = .roadwarriors)
  let patches := documents.filter (·.block.kind = .patch)
  match documents.filter (·.block.kind = .network) with
  | [network] => do
    (network :: pools).forM checkUntargeted
    if (network.value.get "roadwarriors").isSome then throw (.roadwarriorsInNetwork network.at)
    let mesh ← network.mesh.mapError (.deserialize network.at)
    let hosts := mesh.nodes.map (·.name)
    patches.forM (checkTargets hosts)
    pools.forM checkPool
    patches.forM checkPatch
    let topology ← model serde network.value pools
    return { network := network.value, networkIndex := network.index, hosts, pools, patches, topology }
  | networks => throw (.networks networks.length)

def SlipmeshFile.read (serde : Serde) (text : String) : Except ReadError SlipmeshFile := do
  let raws ← (serde.documents text).mapError .notYaml
  let documents ← raws.mapM (Document.route serde)
  assemble serde documents

/-- Where the pool of a name stands among the documents. -/
def SlipmeshFile.poolDocument (file : SlipmeshFile) (name : String) : Option Nat :=
  (file.pools.find? fun document => (document.value.get "name").bind Value.asStr = some name).map (·.index)

/-! ### One host -/

structure UnknownHost where
  host : String
deriving DecidableEq, Repr

def SlipmeshFile.ensureHost (file : SlipmeshFile) (host : String) : Except UnknownHost Unit :=
  if host ∈ file.hosts then .ok () else throw ⟨host⟩

inductive HostError where
  | unknownHost (host : String)
  | model (reason : ReadError)
deriving DecidableEq, Repr

/-- The topology as one host sees it. -/
def SlipmeshFile.effectiveFor (serde : Serde) (file : SlipmeshFile) (host : String) : Except HostError MeshConfig := do
  (file.ensureHost host).mapError fun error => .unknownHost error.host
  (model serde file.network file.pools).mapError .model

/-- A file's contents given as YAML become the text of it. -/
def contentAsText (serde : Serde) (content : Value) : Value :=
  if content.asMapping.isSome || content.asSequence.isSome then .ofString (serde.text content) else content

def contentsAsText (serde : Serde) (document : Value) : Value :=
  document.alter "configFiles" fun files => files.mapItems fun file => file.alter "content" (contentAsText serde)

/-- The documents of one identity that reach a host, the ones for every host first and
then those aimed at it, each in the order of the file. -/
def sources (patches : List Document) (host : String) (identity : Identity) : List Value :=
  let reaching := patches.filter (·.reaches host)
  let defaults := reaching.filter (·.block.included.isNone)
  let included := reaching.filter (·.block.included.isSome)
  ((defaults ++ included).map (·.value)).filter (Identity.of · = identity)

def mergeAll : List Value → Value
  | [] => .null
  | first :: rest => rest.foldl mergeDocument first

structure HostDocument where
  identity : String
  text : String
  value : Value

def identities (patches : List Document) (host : String) : List Identity :=
  ((patches.filter (·.reaches host)).map fun patch => Identity.of patch.value).eraseDups

def hostDocument (serde : Serde) (patches : List Document) (host : String) (identity : Identity) : HostDocument :=
  let value := contentsAsText serde (mergeAll (sources patches host identity))
  ⟨identity.text, serde.text value, value⟩

def SlipmeshFile.patchesFor (serde : Serde) (file : SlipmeshFile) (host : String) :
    Except UnknownHost (List HostDocument) := do
  file.ensureHost host
  return (identities file.patches host).map (hostDocument serde file.patches host)

/-- Whether a patch document, for whichever hosts, sets the file of the service. -/
def SlipmeshFile.setsFile (file : SlipmeshFile) (service path : String) : Bool :=
  file.patches.any fun patch =>
    (Identity.of patch.value).kind = some "ExtensionServiceConfig" &&
      (Identity.of patch.value).name = some service && mounts patch.value path

end Slipmesh.Taloscfg
