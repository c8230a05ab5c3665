import Slipmesh.Taloscfg.Defaults
import Slipmesh.Taloscfg.Render

/-! `taloscfg::patch_file`: one host's patch file, from the patch documents aimed at it
and the two documents that carry its daemons' configs. -/

namespace Slipmesh.Taloscfg
open Yaml Library
open Awg (AwgConfig)
open Router (RouterConfig)

def header : String :=
  "# Generated by slipmesh-taloscfg from slipmesh.yaml - edit that file, not this one.\n"

structure ConfigFile where
  mountPath : String
  content : String
deriving DecidableEq, Repr

def ConfigFile.value (file : ConfigFile) : Value :=
  .mapping none [(.ofString "mountPath", .ofString file.mountPath), (.ofString "content", .ofString file.content)]

/-- What a patch file is rendered with: the YAML libraries, and the daemons' own
compilers of their templates. -/
structure Renderer extends Serde where
  readFiles : Value → Except String (List ConfigFile)
  awgText : AwgConfig → String
  routerText : RouterConfig → String
  checkRouterTemplate : String → RouterConfig → Except String Unit
  checkNftablesTemplate : String → Except String Unit

inductive PatchError where
  | host (reason : HostError)
  | awg (reason : RenderError)
  | awgConfig (reason : Awg.ConfigError)
  | obfuscation (iface : String) (reason : Common.ObfuscationError)
  | router (reason : RenderError)
  | routerConfig (reason : Router.ConfigError)
  | addedFiles (name reason : String)
  | noRouterTemplate
  | routerTemplate (reason : String)
  | nftablesTemplate (reason : String)
deriving DecidableEq, Repr

/-- The generated document of a service: its own file, then the files added to it. -/
def extensionServiceDocument (name innerYaml : String) (added : List ConfigFile) : Value :=
  let own : ConfigFile := ⟨(generated.lookup name).getD "", innerYaml⟩
  .mapping none [
    (.ofString "apiVersion", .ofString "v1alpha1"),
    (.ofString "kind", .ofString "ExtensionServiceConfig"),
    (.ofString "name", .ofString name),
    (.ofString "configFiles", .sequence none ((own :: added).map ConfigFile.value))]

/-- The files that the patches add to a generated document, taken out of the patches. -/
def takeAddedFiles (renderer : Renderer) (patches : List HostDocument) (name : String) :
    Except PatchError (List ConfigFile × List HostDocument) :=
  match patches.findIdx? (·.identity = "ExtensionServiceConfig/" ++ name) with
  | none => .ok ([], patches)
  | some index =>
    match (patches[index]?).bind (·.value.get "configFiles") with
    | none => .ok ([], patches.eraseIdx index)
    | some files => do
      let files ← (renderer.readFiles files).mapError (.addedFiles name)
      return (files, patches.eraseIdx index)

def nftablesIdentity : String := "ExtensionServiceConfig/nftables"

def legacyNftablesPath : String := "/etc/talos-extensions/nftables.yaml"

/-- The ruleset template of a document, if it sets one. -/
def nftablesTemplate (document : Value) : Option String := do
  let files ← (← document.get "configFiles").asSequence
  let file ← files.find? (mountPath · = some nftablesTemplatePath)
  (← file.get "content").asStr

def validateNftablesTemplate (renderer : Renderer) (patches : List HostDocument) : Except PatchError Unit :=
  (patches.filter (·.identity = nftablesIdentity)).forM fun document =>
    match nftablesTemplate document.value with
    | none => .ok ()
    | some template => (renderer.checkNftablesTemplate template).mapError .nftablesTemplate

/-- The ruleset once more, under the name that an older daemon reads. A document that
sets the template has a list of files to add to. -/
def addLegacyNftablesFile (renderer : Renderer) (document : HostDocument) : HostDocument :=
  if document.identity ≠ nftablesIdentity then document
  else match nftablesTemplate document.value with
    | none => document
    | some ruleset =>
      let legacy : ConfigFile :=
        ⟨legacyNftablesPath, renderer.text (.mapping none [(.ofString "ruleset", .ofString ruleset)])⟩
      let value := document.value.alter "configFiles" (Value.push legacy.value)
      { document with value, text := renderer.text value }

def validateRouterTemplate (renderer : Renderer) (files : List ConfigFile) (cfg : RouterConfig) : Except PatchError Unit :=
  match files.find? (·.mountPath = routerTemplatePath) with
  | none => .error .noRouterTemplate
  | some file => (renderer.checkRouterTemplate file.content cfg).mapError .routerTemplate

/-- A document of a patch file, and the tree that its text is of. -/
structure FileDocument where
  text : String
  value : Value

/-- The documents of a host's patch file. -/
def renderDocuments (renderer : Renderer) (curve : Curve) (file : SlipmeshFile) (resolved : ResolvedSecrets) (host : String) :
    Except PatchError (List FileDocument) := do
  let model ← (file.effectiveFor renderer.toSerde host).mapError .host
  let awgCfg ← (renderAwgConfig curve model host resolved).mapError .awg
  (Awg.validate awgCfg).mapError .awgConfig
  awgCfg.interfaces.forM fun iface => iface.obfuscation.validate.mapError (.obfuscation iface.name)
  let routerCfg ← (renderRouterConfig model host).mapError .router
  (Router.validate routerCfg).mapError .routerConfig
  let patches ← (file.patchesFor renderer.toSerde host).mapError fun error => .host (.unknownHost error.host)
  let (awgFiles, patches) ← takeAddedFiles renderer patches "awg"
  let (routerFiles, patches) ← takeAddedFiles renderer patches "router"
  validateRouterTemplate renderer routerFiles routerCfg
  validateNftablesTemplate renderer patches
  let patches := patches.map (addLegacyNftablesFile renderer)
  let generated := [
    extensionServiceDocument "awg" (renderer.awgText awgCfg) awgFiles,
    extensionServiceDocument "router" (renderer.routerText routerCfg) routerFiles]
  return patches.map (fun patch => ⟨patch.text, patch.value⟩) ++ generated.map fun value => ⟨renderer.text value, value⟩

/-- The trees of a host's patch file. -/
def renderValues (renderer : Renderer) (curve : Curve) (file : SlipmeshFile) (resolved : ResolvedSecrets) (host : String) :
    Except PatchError (List Value) := do
  let documents ← renderDocuments renderer curve file resolved host
  return documents.map (·.value)

def render (renderer : Renderer) (curve : Curve) (file : SlipmeshFile) (resolved : ResolvedSecrets) (host : String) :
    Except PatchError String := do
  let documents ← renderDocuments renderer curve file resolved host
  return header ++ "---\n".intercalate (documents.map (·.text))

end Slipmesh.Taloscfg
