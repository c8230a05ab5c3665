import Slipmesh.Common.Cidr
import Slipmesh.Text

/-! `router::bird`: writing BIRD's config and having BIRD load it. -/

namespace Slipmesh.Router
open Common

/-- A reply on BIRD's control socket: the final line's code and the text. -/
structure Reply where
  code : Nat
  text : String
deriving DecidableEq, Repr

def Reply.isError (reply : Reply) : Bool := 8000 ≤ reply.code

/-- The text of `BIRD_CONF_PATH`, none where the file cannot be read as text, and
the config BIRD has loaded. -/
structure Bird where
  conf : Option String
  loaded : Option String
deriving DecidableEq, Repr

inductive BirdError where
  | socket (reason : String)
  | refused (command text : String)
  | write
deriving DecidableEq, Repr

/-- What the control socket answers to each command: a reply, or an error of the
connection. -/
abbrev Socket := String → Except String Reply

def ask (socket : Socket) (command : String) : Except BirdError String :=
  match socket command with
  | .error reason => .error (.socket reason)
  | .ok reply => if reply.isError then .error (.refused command reply.text) else .ok reply.text

/-- BIRD reads the file anew where it answers without an error. -/
def runBirdcConfigure (socket : Socket) (bird : Bird) : Except BirdError Unit × Bird :=
  match ask socket "configure" with
  | .error reason => (.error reason, bird)
  | .ok _ => (.ok (), { bird with loaded := bird.conf })

def birdcShow (socket : Socket) (command : String) : Except BirdError String := ask socket command

def exactIfaceNames (ospfInterfaces : List String) : List String :=
  ospfInterfaces.filter fun entry =>
    '*' ∉ entry.toList ∧ '?' ∉ entry.toList ∧ (Common.parseCidr entry).toOption.isNone

def hasNoListeningSocket (showProtocols : String) : Bool := Text.contains showProtocols "No listening socket"

def ospfConfiguredInterfaces (showOspfInterface : String) : List String :=
  ((Text.lines showOspfInterface).filterMap (Text.stripPrefix "Interface ")).filterMap Text.firstWord

def protocolsHealthy (socket : Socket) (exactOspfIfaces : List String) : Except BirdError Bool := do
  let protocols ← birdcShow socket "show protocols"
  if hasNoListeningSocket protocols then return false
  if exactOspfIfaces.isEmpty then return true
  let ospf ← birdcShow socket "show ospf interface mesh6"
  return exactOspfIfaces.all (· ∈ ospfConfiguredInterfaces ospf)

/-- How the write of the file ends. A failed one leaves whatever it leaves. -/
inductive Written where
  | done
  | failed (left : Option String)
deriving DecidableEq, Repr

/-- `bird::reconcile`: a text that the file already has is neither written nor loaded. -/
def reconcile (desired : String) (written : Written) (socket : Socket) (bird : Bird) : Except BirdError Unit × Bird :=
  let current := bird.conf.getD ""
  if current = desired then (.ok (), bird)
  else match written with
    | .failed left => (.error .write, { bird with conf := left })
    | .done => runBirdcConfigure socket { bird with conf := some desired }

def forceReconfigure (socket : Socket) (bird : Bird) : Except BirdError Unit × Bird := runBirdcConfigure socket bird

/-- What happens under `render_lock`, one after the other. -/
inductive Call where
  | reconcile (desired : String) (written : Written) (socket : Socket)
  /-- A tick of `bird_health_watchdog`. -/
  | watchdog (socket : Socket)

/-- The watchdog nudges BIRD where it finds the protocols unhealthy; it only logs an error. -/
def birdHealthWatchdog (ospfInterfaces : List String) (socket : Socket) (bird : Bird) : Bird :=
  match protocolsHealthy socket (exactIfaceNames ospfInterfaces) with
  | .ok false => (forceReconfigure socket bird).2
  | .ok true => bird
  | .error _ => bird

def serve (ospfInterfaces : List String) (bird : Bird) : Call → Bird
  | .reconcile desired written socket => (reconcile desired written socket bird).2
  | .watchdog socket => birdHealthWatchdog ospfInterfaces socket bird

end Slipmesh.Router
