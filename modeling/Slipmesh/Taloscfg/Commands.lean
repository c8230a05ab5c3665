import Slipmesh.Taloscfg.Generate
import Slipmesh.Taloscfg.Roadwarrior

/-! `taloscfg`'s commands: `generate`, and those on the clients of a pool, each of which
reads `slipmesh.yaml`, edits it in memory and replaces it as a whole. -/

namespace Slipmesh.Taloscfg
open Common

/-- The libraries that the commands stand on, and what the paths name. -/
structure Tool (Doc Location : Type) where
  renderer : Renderer
  curve : Curve
  references : References
  parse : String → Except String Doc
  print : Doc → String
  editor : Editor Doc
  /-- `render_qr`, whose second argument is its `--invert`. -/
  renderQr : String → Bool → Except String String
  locate : String → Location

/-- What one run of a command draws, and which of its reads and writes fail. -/
structure Chance where
  draws : Draws
  secret : Key
  readFault : String → Option String
  replaceFault : Option String
  createFault : Option String
  writeFault : String → Option WriteFault

variable {Doc Location : Type}

def Tool.world (tool : Tool Doc Location) (chance : Chance) : World Doc Location where
  renderer := tool.renderer
  curve := tool.curve
  draws := chance.draws
  references := tool.references
  parse := tool.parse
  print := tool.print
  editor := tool.editor
  locate := tool.locate
  readFault := chance.readFault
  replaceFault := chance.replaceFault
  createFault := chance.createFault
  writeFault := chance.writeFault

inductive CommandError where
  | generate (reason : GenerateError)
  | roadwarrior (reason : RoadwarriorError)
  | noDocument (pool : String)
  | edit (reason : EditorError)
  | lacksPool (path pool : String)
  | qr (reason : String)
deriving DecidableEq, Repr

/-- The files a command has written, in order, and the clients' configs it has shown. -/
structure Outcome (Location : Type) where
  result : Except CommandError Unit
  writes : List (Write Location) := []
  shown : List String := []

inductive Command where
  | generate (options : Options)
  | rwAdd (request : AddRequest) (invert : Bool)
  | rwDel (pool name : String)
  | rwInspect (pool name : String) (privateKey endpoint : Option String) (showConfig qr invert : Bool)
deriving DecidableEq, Repr

def poolDocument (file : SlipmeshFile) (name : String) : Except CommandError Nat := do
  let _ ← (findPool file.topology name).mapError .roadwarrior
  (file.poolDocument name).elim (.error (.noDocument name)) .ok

section
variable (tool : Tool Doc Location) (config : String) (chance : Chance) (disk : Disk Location)

/-- A client's config, as text and as a QR code, each where it was asked for. -/
def Tool.display (showConfig qr invert : Bool) (text : String) : Except CommandError Unit × List String :=
  let exported := if showConfig then [text] else []
  if qr then
    match tool.renderQr text invert with
    | .error reason => (.error (.qr reason), exported)
    | .ok code => (.ok (), exported ++ [code])
  else (.ok (), exported)

/-- The secrets that are minted are written along with the client. -/
def prepareAdd (request : AddRequest) : Except CommandError (Added × String) := do
  let (yaml, file) ← (readSlipmesh (tool.world chance) { config } disk).mapError .generate
  let document ← poolDocument file request.pool
  let (secrets, _, yaml) ← (settleSecrets (tool.world chance) { config } yaml file false).mapError .generate
  let yaml ← (tool.editor.commit yaml).mapError fun reason => .edit (.yaml reason)
  let added ← (add tool.curve file.topology secrets chance.secret request).mapError .roadwarrior
  let yaml ← (tool.editor.addClient yaml document added.client).mapError .edit
  return (added, tool.print yaml)

/-- The client is written down before its config is shown. -/
def Tool.rwAdd (request : AddRequest) (invert : Bool) : Outcome Location :=
  match prepareAdd tool config chance disk request with
  | .error error => { result := .error error }
  | .ok (added, updated) =>
    match writeText (tool.world chance) { config } updated with
    | .error error => { result := .error (.generate error) }
    | .ok write =>
      match added.config with
      | none => { result := .ok (), writes := [write] }
      | some (_, rendered) =>
        let (result, shown) := tool.display request.showConfig request.qr invert rendered.text
        { result, writes := [write], shown }

def prepareDel (pool name : String) : Except CommandError String := do
  let (yaml, file) ← (readSlipmesh (tool.world chance) { config } disk).mapError .generate
  let document ← poolDocument file pool
  let (index, _) ← (findClient file.topology pool name).mapError .roadwarrior
  let yaml ← (tool.editor.removeClient yaml document index).mapError .edit
  return tool.print yaml

def Tool.rwDel (pool name : String) : Outcome Location :=
  match prepareDel tool config chance disk pool name with
  | .error error => { result := .error error }
  | .ok updated =>
    match writeText (tool.world chance) { config } updated with
    | .error error => { result := .error (.generate error) }
    | .ok write => { result := .ok (), writes := [write] }

/-- A config with a key that is never written down would not connect. -/
def prepareInspect (pool name : String) (privateKey endpoint : Option String) : Except CommandError ClientConfig := do
  let (_, file) ← (readSlipmesh (tool.world chance) { config } disk).mapError .generate
  let (secrets, minted) := resolve tool.curve chance.draws file.topology
  if minted.pools.any (·.name = pool) then throw (.lacksPool config pool)
  (inspect tool.curve file.topology secrets pool name privateKey endpoint).mapError .roadwarrior

/-- The config is shown as text where nothing was asked for. -/
def Tool.rwInspect (pool name : String) (privateKey endpoint : Option String) (showConfig qr invert : Bool) :
    Outcome Location :=
  match prepareInspect tool config chance disk pool name privateKey endpoint with
  | .error error => { result := .error error }
  | .ok rendered =>
    let (result, shown) := tool.display (showConfig || !qr) qr invert rendered.text
    { result, shown }

def Tool.generate (options : Options) : Outcome Location :=
  let (result, writes) := (tool.world chance).generate { options with config } disk
  { result := result.mapError .generate, writes }

def Tool.run : Command → Outcome Location
  | .generate options => tool.generate config chance disk options
  | .rwAdd request invert => tool.rwAdd config chance disk request invert
  | .rwDel pool name => tool.rwDel config chance disk pool name
  | .rwInspect pool name privateKey endpoint showConfig qr invert =>
    tool.rwInspect config chance disk pool name privateKey endpoint showConfig qr invert

end

end Slipmesh.Taloscfg
