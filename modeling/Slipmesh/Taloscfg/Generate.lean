import Slipmesh.Taloscfg.Overlay
import Slipmesh.Taloscfg.PatchFile

/-! `taloscfg`'s `generate`: everything is read, minted and rendered in memory, then
`slipmesh.yaml` is replaced, then the patch files are written one by one. -/

namespace Slipmesh.Taloscfg

structure Options where
  node : Option String := none
  check : Bool := false
  diff : Bool := false
  config : String := "slipmesh.yaml"
  patchesDir : String := "patches"
deriving DecidableEq, Repr

/-- `Path::join`: an absolute name stands for itself. -/
def join (dir name : String) : String :=
  if name.toList.head? = some '/' ∨ dir = "" then name
  else if dir.toList.getLast? = some '/' then dir ++ name
  else dir ++ "/" ++ name

def patchPath (options : Options) (host : String) : String := join options.patchesDir (host ++ ".yaml")

inductive ReadFault where
  | notFound
  | other (reason : String)
deriving DecidableEq, Repr

/-- A write that fails, with how much of the text it leaves in the file if it got that far. -/
structure WriteFault where
  reason : String
  leftover : Option Nat
deriving DecidableEq, Repr

/-- The first characters of a text. -/
def cutShort (text : String) (count : Nat) : String := String.ofList (text.toList.take count)

/-- The files, by what their paths name once links and dots are followed. -/
abbrev Disk (Location : Type) := Location → Option String

/-- What a run stands on: its draws, the libraries it renders and edits with, what the
paths name, and which of its reads and writes fail. -/
structure World (Doc Location : Type) where
  renderer : Renderer
  curve : Curve
  draws : Draws
  references : References
  parse : String → Except String Doc
  print : Doc → String
  editor : Editor Doc
  locate : String → Location
  readFault : String → Option String
  replaceFault : Option String
  createFault : Option String
  writeFault : String → Option WriteFault

inductive GenerateError where
  | readConfig (path : String) (reason : ReadFault)
  | parseConfig (path reason : String)
  | slipmesh (path : String) (reason : ReadError)
  | unknownNode (name : String)
  | lacksSecrets (path routes : String)
  | record (reason : EditorError)
  | lacksTemplates (path : String) (services : List String)
  | withTemplates (reason : ReadError)
  | render (host : String) (reason : PatchError)
  | readPatch (path : String) (reason : String)
  | notReadBack (reason : ReadError)
  | replace (path reason : String)
  | createDir (path reason : String)
  | write (path reason : String)
deriving DecidableEq, Repr

/-- A file that a run has written: `slipmesh.yaml` as a whole, or a host's patch file. -/
inductive Write (Location : Type) where
  | slipmesh (location : Location) (content : String)
  | patch (host : String) (location : Location) (content : String)
deriving DecidableEq, Repr

variable {Doc Location : Type}

def Write.location : Write Location → Location
  | .slipmesh location _ => location
  | .patch _ location _ => location

def Write.content : Write Location → String
  | .slipmesh _ content => content
  | .patch _ _ content => content

def Disk.write [DecidableEq Location] (disk : Disk Location) (write : Write Location) : Disk Location :=
  fun location => if location = write.location then some write.content else disk location

section
variable (world : World Doc Location) (options : Options) (disk : Disk Location)

def readFile (path : String) : Except ReadFault String :=
  match world.readFault path with
  | some reason => .error (.other reason)
  | none => (disk (world.locate path)).elim (.error .notFound) .ok

def readSlipmesh : Except GenerateError (Doc × SlipmeshFile) := do
  let raw ← (readFile world disk options.config).mapError (.readConfig options.config)
  let yaml ← (world.parse raw).mapError (.parseConfig options.config)
  let file ← (SlipmeshFile.read world.renderer.toSerde raw).mapError (.slipmesh options.config)
  return (yaml, file)

def routes (minted : Minted) : String := ", ".intercalate minted.names

/-- The secrets of the whole topology, with what was minted recorded in the document;
a dry run mints nothing. -/
def settleSecrets (yaml : Doc) (file : SlipmeshFile) (dryRun : Bool) :
    Except GenerateError (ResolvedSecrets × Minted × Doc) := do
  let (resolved, minted) := resolve world.curve world.draws file.topology
  if minted.isEmpty then return (resolved, minted, yaml)
  if dryRun then throw (.lacksSecrets options.config (routes minted))
  let yaml ← (world.editor.record yaml file minted).mapError .record
  return (resolved, minted, yaml)

structure HostFile where
  host : String
  path : String
  before : String
  after : String
deriving DecidableEq, Repr

/-- A patch file that is missing counts as empty. -/
def renderHost (file : SlipmeshFile) (resolved : ResolvedSecrets) (host : String) : Except GenerateError HostFile := do
  let after ← (render world.renderer world.curve file resolved host).mapError (.render host)
  let path := patchPath options host
  match readFile world disk path with
  | .ok before => return ⟨host, path, before, after⟩
  | .error .notFound => return ⟨host, path, "", after⟩
  | .error (.other reason) => throw (.readPatch path reason)

def targets (file : SlipmeshFile) : List String := options.node.elim file.hosts ([·])

/-- What a run has in memory before it writes. -/
structure Plan where
  minted : Minted
  added : List DefaultFile
  updated : String
  hosts : List HostFile

def checkNode (file : SlipmeshFile) : Except GenerateError Unit :=
  match options.node with
  | none => .ok ()
  | some node => if node ∈ file.hosts then .ok () else throw (.unknownNode node)

def checkTemplates (added : List DefaultFile) : Except GenerateError Unit :=
  if !options.check || added.isEmpty then .ok ()
  else throw (.lacksTemplates options.config (added.map (·.service)))

/-- The file to render from: the one that was read, unless templates were added to it. -/
def withTemplates (file : SlipmeshFile) (added : List DefaultFile) (updated : String) : Except GenerateError SlipmeshFile :=
  if added = [] then .ok file
  else (SlipmeshFile.read world.renderer.toSerde updated).mapError .withTemplates

def prepare : Except GenerateError Plan := do
  let (yaml, file) ← readSlipmesh world options disk
  checkNode options file
  let (resolved, minted, yaml) ← settleSecrets world options yaml file (options.check || options.diff)
  let added := missing world.references file
  checkTemplates options added
  let updated := append (world.print yaml) added
  let file ← withTemplates world file added updated
  let hosts ← (targets options file).mapM (renderHost world options disk file resolved)
  return { minted, added, updated, hosts }

/-- The edited text replaces `slipmesh.yaml`, once it reads. -/
def writeText (updated : String) : Except GenerateError (Write Location) := do
  let _ ← (SlipmeshFile.read world.renderer.toSerde updated).mapError .notReadBack
  match world.replaceFault with
  | some reason => throw (.replace options.config reason)
  | none => return .slipmesh (world.locate options.config) updated

/-- The patch files that change, up to the first write that fails. -/
def writePatches : List HostFile → Except GenerateError Unit × List (Write Location)
  | [] => (.ok (), [])
  | host :: rest =>
    if host.before = host.after then writePatches rest
    else
      let write := Write.patch host.host (world.locate host.path)
      match world.writeFault host.path with
      | some fault => (.error (.write host.path fault.reason), (fault.leftover.map (write ∘ cutShort host.after)).toList)
      | none =>
        let (result, written) := writePatches rest
        (result, write host.after :: written)

def writeHosts (plan : Plan) : Except GenerateError Unit × List (Write Location) :=
  if options.check || options.diff then (.ok (), [])
  else match world.createFault with
    | some reason => (.error (.createDir options.patchesDir reason), [])
    | none => writePatches world plan.hosts

/-- `slipmesh.yaml` lacks something that the patch files hold. -/
def Plan.Replaces (plan : Plan) : Prop := routes plan.minted ≠ "" ∨ plan.added ≠ []

instance (plan : Plan) : Decidable plan.Replaces := inferInstanceAs (Decidable (_ ∨ _))

/-- The default templates are only shown by a diff; otherwise what was minted or added
is written first. -/
def carryOut (plan : Plan) : Except GenerateError Unit × List (Write Location) :=
  if plan.added ≠ [] ∧ options.diff then writeHosts world options plan
  else if plan.Replaces then
    match writeText world options plan.updated with
    | .error error => (.error error, [])
    | .ok write =>
      let (result, written) := writeHosts world options plan
      (result, write :: written)
  else writeHosts world options plan

/-- `generate`: the result of a run, and the files it wrote, in order. -/
def World.generate : Except GenerateError Unit × List (Write Location) :=
  match prepare world options disk with
  | .error error => (.error error, [])
  | .ok plan => carryOut world options plan

end

end Slipmesh.Taloscfg
