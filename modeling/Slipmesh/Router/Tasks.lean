import Slipmesh.Library.Program
import Slipmesh.Router.Bird
import Slipmesh.Router.Refresh

/-! `router`'s two background tasks, await by await: the refreshes of the bypass and the
watch over BIRD's health, which share the file, BIRD and `render_lock`. -/

namespace Slipmesh.Router.Tasks
open Library

inductive Task where
  | bypassRefreshLoop
  | birdHealthWatchdog
deriving DecidableEq, Repr

/-- The file and BIRD, and how often BIRD may yet read the file unasked: where it has only
been started, and for each `configure` that no answer has come to. -/
structure Site where
  bird : Bird
  late : Nat
deriving DecidableEq, Repr

structure World extends Site where
  /-- Who holds `render_lock`, and what it found when it got it. -/
  held : Option (Task × Site)
  /-- The file is being written. -/
  half : Bool
  /-- A write of the file has failed. -/
  torn : Bool
  /-- BIRD has read the file while it was being written. -/
  mixed : Bool
deriving DecidableEq, Repr

inductive Request where
  | lock (task : Task)
  | unlock
  | readConf
  /-- The first half of a write: the file is there, and empty. -/
  | createConf
  | writeConf (text : String)
  | birdc (command : String)

abbrev Request.Answer : Request → Type
  | .lock _ | .unlock => Unit
  | .readConf => Option String
  | .createConf | .writeConf _ => Bool
  | .birdc _ => Except String Reply

/-- BIRD reads the file anew where it answers without an error. Where no answer comes, it may
have the command all the same. -/
def Site.configured (answer : Except String Reply) (site : Site) : Site :=
  match answer with
  | .error _ => { site with late := site.late + 1 }
  | .ok reply => if reply.isError then site else { site with bird := { site.bird with loaded := site.bird.conf } }

/-- Half of a write goes well, or leaves whatever it leaves. -/
def World.writes (world : World) (conf : Option String) (half done : Bool) (after : World) : Prop :=
  if done then after = { world with bird := { world.bird with conf }, half }
  else ∃ left, after = { world with bird := { world.bird with conf := left }, half := false, torn := true }

/-- A task that asks for the lock waits for as long as another has it. -/
def serves : (request : Request) → World → request.Answer → World → Prop
  | .lock task, world, _, after => world.held = none ∧ after = { world with held := some (task, world.toSite) }
  | .unlock, world, _, after => after = { world with held := none }
  | .readConf, world, text, after => text = world.bird.conf ∧ after = world
  | .createConf, world, done, after => world.writes (some "") true done after
  | .writeConf text, world, done, after => world.writes (some text) false done after
  | .birdc command, world, answer, after =>
    after = if command = "configure" then { world with toSite := world.toSite.configured answer } else world

/-- BIRD comes to read the file unasked. Of a file that is being written it may get anything. -/
def World.reads (world after : World) : Prop :=
  ∃ late loaded, late < world.late ∧ (world.half = false → loaded = world.bird.conf) ∧
    after = { world with bird := { world.bird with loaded }, late, mixed := world.mixed || world.half }

/-! ### The code between the awaits -/

inductive Failure where
  | template (reason : String)
  | bird (reason : BirdError)
deriving DecidableEq, Repr

abbrev Code (α : Type) := Program Request Request.Answer Failure α

def await (request : Request) : Code (request.Answer) := .ask request fun answer => .done (.ok answer)

/-- The guard of the lock is dropped where the body ends, well or not. -/
def locked {α : Type} (task : Task) (body : Code α) : Code α := do
  await (.lock task)
  let value ← tryCatch body fun error => do
    await .unlock
    throw error
  await .unlock
  return value

def ask (command : String) : Code String := do
  match ← await (.birdc command) with
  | .error reason => throw (.bird (.socket reason))
  | .ok reply => if reply.isError then throw (.bird (.refused command reply.text)) else return reply.text

def runBirdcConfigure : Code Unit := do let _ ← ask "configure"

def protocolsHealthy (exactOspfIfaces : List String) : Code Bool := do
  let protocols ← ask "show protocols"
  if hasNoListeningSocket protocols then return false
  if exactOspfIfaces.isEmpty then return true
  let ospf ← ask "show ospf interface mesh6"
  return exactOspfIfaces.all (· ∈ ospfConfiguredInterfaces ospf)

def writeConf (desired : String) : Code Unit := do
  if ← await .createConf then
    if ← await (.writeConf desired) then return ()
    else throw (.bird .write)
  else throw (.bird .write)

/-- `bird::reconcile`. -/
def reconcileConf (desired : String) : Code Unit := do
  let current := (← await .readConf).getD ""
  if current = desired then return ()
  else
    writeConf desired
    runBirdcConfigure

/-- How a template renders. -/
abbrev Template := BirdConfigContext → Except String String

/-- `main::reconcile`: what is rendered is rendered under the lock. -/
def reconcile (template : Template) (inputs : StaticInputs) (bypassRoutes : List BypassRoute) : Code Unit :=
  locked .bypassRefreshLoop do
    match template (inputs.context bypassRoutes) with
    | .error reason => throw (.template reason)
    | .ok desired => reconcileConf desired

/-! ### One turn of each -/

/-- The resolutions of a refresh are its own; only what follows them needs the lock. -/
def refreshTurn (resolver : Resolver) (template : Template) (state : RouterState) : Code RouterState :=
  match currentBypassRoutes resolver state with
  | (some routes, after) => do
    tryCatch (reconcile template after.inputs routes) fun _ => return ()
    return after
  | (none, after) => return after

/-- What is carried is the count of unhealthy turns in a row, which only the log reads. -/
def watchdogTurn (ospfInterfaces : List String) (consecutiveUnhealthy : Nat) : Code Nat :=
  locked .birdHealthWatchdog do
    tryCatch
      (do
        if ← protocolsHealthy (exactIfaceNames ospfInterfaces) then return 0
        else
          tryCatch runBirdcConfigure fun _ => return ()
          return consecutiveUnhealthy + 1)
      fun _ => return consecutiveUnhealthy

abbrev Task.State : Task → Type
  | .bypassRefreshLoop => RouterState
  | .birdHealthWatchdog => Nat

def Task.turn (resolver : Resolver) (template : Template) (ospfInterfaces : List String) : (task : Task) → task.State → Code task.State
  | .bypassRefreshLoop => refreshTurn resolver template
  | .birdHealthWatchdog => watchdogTurn ospfInterfaces

end Slipmesh.Router.Tasks
