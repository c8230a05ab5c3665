import Slipmesh.Router.Loopback
import Slipmesh.Router.Tasks

/-! `router`'s `run`, await by await, up to its two background tasks: the config is read and
checked, the loopback and the file are made ready, and BIRD is started and waited for. -/

namespace Slipmesh.Router.Startup
open Net Common Library

def configPath : String := "/etc/talos-extensions/router.yaml"

def templatePath : String := "/etc/talos-extensions/router.conf.j2"

structure World where
  kernel : Host.Kernel
  /-- The files that are mounted for the daemon. -/
  files : String → Except String String
  shared : Tasks.World
  spawned : Bool

inductive Request where
  | readFile (path : String)
  | connect
  | netlink (request : Host.Request)
  | createDir
  | shared (request : Tasks.Request)
  | spawn
  | tryExists
  | sleep

abbrev Request.Answer : Request → Type
  | .readFile _ => Except String String
  | .connect | .createDir | .spawn => Except String Unit
  | .netlink request => request.Answer
  | .shared request => request.Answer
  | .tryExists => Bool
  | .sleep => Unit

/-- BIRD makes its control socket before it reads the file, and there may be one that an
earlier BIRD has left. -/
def serves : (request : Request) → World → request.Answer → World → Prop
  | .readFile path, world, answer, after => answer = world.files path ∧ after = world
  | .connect, world, _, after | .createDir, world, _, after | .tryExists, world, _, after | .sleep, world, _, after => after = world
  | .netlink request, world, answer, after =>
    ∃ kernel, Host.serves Host.whimsical request world.kernel answer kernel ∧ after = { world with kernel }
  | .shared request, world, answer, after =>
    ∃ shared, Tasks.serves request world.shared answer shared ∧ after = { world with shared }
  | .spawn, world, answer, after =>
    after = if answer = .ok () then
      { world with spawned := true, shared := { world.shared with late := world.shared.late + 1 } } else world

/-! ### The code between the awaits -/

inductive Failure where
  | read (path reason : String)
  | parse (reason : String)
  | config (reason : ConfigError)
  | template (reason : String)
  | inputs (reason : InputsError)
  | connect (reason : String)
  | loopback (reason : LinkError)
  | createDir (reason : String)
  /-- Where the source has `unreachable!`. -/
  | unreachable
  | shared (reason : Tasks.Failure)
  | spawn (reason : String)
  | noSocket
deriving DecidableEq, Repr

abbrev Code (α : Type) := Program Request Request.Answer Failure α

def await (request : Request) : Code (request.Answer) := .ask request fun answer => .done (.ok answer)

def check {ε α : Type} (failure : ε → Failure) (result : Except ε α) : Code α := .done (result.mapError failure)

def readFile (path : String) : Code String := do check (.read path) (← await (.readFile path))

def connect : Code Unit := do check .connect (← await .connect)

def createDir : Code Unit := do check .createDir (← await .createDir)

def spawn : Code Unit := do check .spawn (← await .spawn)

def netlink {α : Type} (code : Host.Netlink LinkError α) : Code α := (code.via .netlink fun _ => id).mapError .loopback

def shared {α : Type} (code : Tasks.Code α) : Code α := (code.via .shared fun _ => id).mapError .shared

/-- The attempts that are left. -/
def waitForControlSocket : Nat → Code Unit
  | 0 => throw .noSocket
  | attempts + 1 => do
    if ← await .tryExists then return ()
    await .sleep
    waitForControlSocket attempts

/-- The libraries that read the two files. -/
structure Readers where
  parse : String → Except String RouterConfig
  compile : String → Except String Tasks.Template

/-- What the two background tasks start from. -/
structure Started where
  template : Tasks.Template
  state : RouterState

def run (readers : Readers) (resolver : Resolver) : Code Started := do
  let raw ← readFile configPath
  let cfg ← check .parse (readers.parse raw)
  check .config (validate cfg)
  let source ← readFile templatePath
  let template ← check .template (readers.compile source)
  let inputs ← check .inputs (StaticInputs.fromConfig cfg)
  connect
  netlink (ensureLoopback inputs.identity.loopback inputs.identity.ipv6Loopback)
  createDir
  match currentBypassRoutes resolver { inputs, bypassCfg := cfg.bypass } with
  | (none, _) => throw .unreachable
  | (some routes, state) => do
    let initialConf ← check (.shared ∘ .template) (template (inputs.context routes))
    shared (Tasks.writeConf initialConf)
    spawn
    waitForControlSocket 100
    shared (Tasks.reconcile template inputs routes)
    return { template, state }

end Slipmesh.Router.Startup
