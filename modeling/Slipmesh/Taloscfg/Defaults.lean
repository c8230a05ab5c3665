import Slipmesh.Taloscfg.SlipmeshFile
import Slipmesh.Text

/-! `taloscfg::defaults`: the templates a daemon cannot run without, written into
`slipmesh.yaml` where it lacks them. -/

namespace Slipmesh.Taloscfg
open Yaml

structure DefaultFile where
  service : String
  mountPath : String
  content : String
deriving DecidableEq, Repr

/-- The reference text that each template starts from. -/
structure References where
  router : String
  nftables : String

def routerTemplatePath : String := "/etc/talos-extensions/router.conf.j2"

def nftablesTemplatePath : String := "/etc/talos-extensions/nftables.conf.j2"

def defaultFiles (references : References) : List DefaultFile :=
  [⟨"router", routerTemplatePath, references.router⟩, ⟨"nftables", nftablesTemplatePath, references.nftables⟩]

/-- The default files that no patch document sets for any host. -/
def missing (references : References) (file : SlipmeshFile) : List DefaultFile :=
  (defaultFiles references).filter fun default => !file.setsFile default.service default.mountPath

/-- A patch document for every host, with the content as a literal block. -/
def document (default : DefaultFile) : String :=
  let lines := (Text.lines default.content).map fun line => if line = "" then "\n" else "      " ++ line ++ "\n"
  "slipmesh:\n  kind: patch\napiVersion: v1alpha1\nkind: ExtensionServiceConfig\nname: " ++ default.service ++
    "\nconfigFiles:\n  - mountPath: " ++ default.mountPath ++ "\n    content: |\n" ++ String.join lines

def append (text : String) (defaults : List DefaultFile) : String :=
  let out := if text ≠ "" ∧ text.toList.getLast? ≠ some '\n' then text.push '\n' else text
  defaults.foldl (fun out default => out ++ "---\n" ++ document default) out

/-- The one file of a default's document. -/
def DefaultFile.entry (default : DefaultFile) : Value :=
  .mapping none [(.ofString "mountPath", .ofString default.mountPath), (.ofString "content", .ofString default.content)]

/-- What the text of a default's document reads as. -/
def DefaultFile.value (default : DefaultFile) : Value :=
  .mapping none [
    (.ofString metaKey, patchBlock),
    (.ofString "apiVersion", .ofString "v1alpha1"),
    (.ofString "kind", .ofString "ExtensionServiceConfig"),
    (.ofString "name", .ofString default.service),
    (.ofString "configFiles", .sequence none [default.entry])]

theorem DefaultFile.value_distinct (default : DefaultFile) : default.value.keys.Nodup := by
  change ([metaKey, "apiVersion", "kind", "name", "configFiles"].map Value.ofString).Nodup
  exact List.Nodup.map (fun _ _ same => Value.ofString_inj.mp same) (by decide)

/-- A text of whole lines, to which `append` adds no line break of its own. -/
def Ended (text : String) : Prop := text = "" ∨ text.toList.getLast? = some '\n'

/-- The YAML libraries read a text of whole lines with documents added as its own documents
and then those added. A line break at the end of a last line may be part of a block scalar. -/
def Serde.Appends (serde : Serde) (text : String) (defaults : List DefaultFile) : Prop :=
  Ended text → ∀ raws, serde.documents text = .ok raws → ∃ added, serde.documents (append text defaults) = .ok (raws ++ added) ∧
    added.map (·.value) = defaults.map fun default => .ok ⟨default.value, default.value_distinct⟩

end Slipmesh.Taloscfg
