import Slipmesh.Text

/-! `nftables::ruleset` and the watchdog of the daemon: the tables that a ruleset
declares are deleted before it is loaded, and looked for at every event. -/

namespace Slipmesh.Nftables

/-- How a run of `./nft` ends. -/
inductive Ending where
  | notSpawned
  | notWritten
  | notAwaited
  | exited (success : Bool) (status : String)
deriving DecidableEq, Repr

/-- The vendored `./nft`: how its commands end and what they make of the kernel's
tables. How `delete table` ends is not read. -/
structure Nft (κ : Type) where
  deleteTable (family name : String) : κ → κ
  load (ruleset : String) : κ → Ending × κ
  listTables : κ → Ending × String

/-- The two words after `table `: what both scans take of a line. -/
def familyAndName (line : String) : Option (String × String) := do
  let rest ← Text.stripPrefix "table " line
  let parts := Text.words rest
  let family ← parts[0]?
  let name ← parts[1]?
  return (family, name)

def declaredTable (line : String) : Option (String × String) :=
  let line := Text.trimStart line
  if line.toList.head? = some '#' then none else familyAndName line

def declaredTables (ruleset : String) : List (String × String) := (Text.lines ruleset).filterMap declaredTable

def loaded : Ending → Except String Unit
  | .notSpawned => .error "failed to spawn ./nft"
  | .notWritten => .error "failed to write ruleset to nft stdin"
  | .notAwaited => .error "failed waiting on nft"
  | .exited true _ => .ok ()
  | .exited false status => .error ("./nft -f failed with status " ++ status)

variable {κ : Type} (nft : Nft κ)

/-- A run that fails after the deletes has deleted. -/
def apply (ruleset : String) (kernel : κ) : Except String Unit × κ :=
  let cleared := (declaredTables ruleset).foldl (fun kernel table => nft.deleteTable table.1 table.2 kernel) kernel
  let ran := nft.load ruleset cleared
  (loaded ran.1, ran.2)

def existingTable (line : String) : Option (String × String) := familyAndName (Text.trim line)

def existingTables (stdout : String) : List (String × String) := (Text.lines stdout).filterMap existingTable

def allPresent (ruleset : String) (kernel : κ) : Except String Bool :=
  let wanted := declaredTables ruleset
  if wanted.isEmpty then .ok true
  else match nft.listTables kernel with
    | (.exited true _, stdout) => .ok (wanted.all (· ∈ existingTables stdout))
    | (.exited false status, _) => .error ("./nft list tables failed with status " ++ status)
    | _ => .error "failed to run ./nft list tables"

/-- What the watchdog reads of `nft monitor`. -/
inductive MonitorEvent where
  | line (text : String)
  | exited
  | unreadable
deriving DecidableEq, Repr

/-- A line is only a reason to look again; an error is logged, and a monitor that
ends is started anew. -/
def watchdog (rendered : String) (kernel : κ) : MonitorEvent → κ
  | .line _ =>
    match allPresent nft rendered kernel with
    | .ok true => kernel
    | .ok false => (apply nft rendered kernel).2
    | .error _ => kernel
  | .exited => kernel
  | .unreadable => kernel

end Slipmesh.Nftables
