import Mathlib.Logic.Function.Basic
import Slipmesh.Common.Config
import Slipmesh.Common.Keys

/-! `common::netlink::awg`: the attributes of a `SetDevice`, and the device they change. -/

namespace Slipmesh.Common

/-- The obfuscation parameters of a device. -/
inductive Parameter where
  | jc | jmin | jmax | s1 | s2 | s3 | s4
  | h1 | h2 | h3 | h4
  | i1 | i2 | i3 | i4 | i5
  | headerProtectionKey
  | contentPaddingAddition | rekeyAfterTime | rekeyTimeout | rejectAfterTime | keepaliveTimeout | maxHandshakeAttempts
  | randomTrailers | disableCookies
deriving DecidableEq, Repr

/-- What a parameter holds; a magic header is a range of values. -/
abbrev Parameter.Value : Parameter → Type
  | .jc | .jmin | .jmax | .s1 | .s2 | .s3 | .s4 => UInt16
  | .h1 | .h2 | .h3 | .h4 => UInt32 × UInt32
  | .i1 | .i2 | .i3 | .i4 | .i5 => String
  | .headerProtectionKey => Key
  | .contentPaddingAddition | .rekeyAfterTime | .rekeyTimeout | .rejectAfterTime | .keepaliveTimeout
  | .maxHandshakeAttempts => UInt32
  | .randomTrailers | .disableCookies => Bool

inductive DeviceAttribute where
  | ifName (name : String)
  | privateKey (key : Key)
  | listenPort (port : UInt16)
  | parameter (parameter : Parameter) (value : parameter.Value)

/-! ### The kernel's side -/

structure DeviceIdentity where
  privateKey : Key
  listenPort : UInt16
  parameters : (parameter : Parameter) → parameter.Value

/-- An attribute overwrites what it is about, and leaves the rest. -/
def DeviceIdentity.set (device : DeviceIdentity) : DeviceAttribute → DeviceIdentity
  | .ifName _ => device
  | .privateKey key => { device with privateKey := key }
  | .listenPort port => { device with listenPort := port }
  | .parameter parameter value => { device with parameters := Function.update device.parameters parameter value }

/-! ### The daemon's side -/

/-- A range of the one value. -/
def headerRange (header : UInt32) : UInt32 × UInt32 := (header, header)

def optional (parameter : Parameter) (value : Option parameter.Value) : List DeviceAttribute :=
  (value.map (DeviceAttribute.parameter parameter)).toList

def decodeOptional (engine : Engine) : Option String → Except KeyError (Option Key)
  | none => .ok none
  | some key => (decodeKey engine key).map some

/-- The parameters that are sent with a default where they are unset, and those that
are then left out. -/
def pushObfuscationAttrs (engine : Engine) (attrs : List DeviceAttribute) (o : Obfuscation) :
    Except KeyError (List DeviceAttribute) := do
  let protection ← decodeOptional engine o.headerProtectionKey
  let header (index : Fin 4) := headerRange (o.magicHeaders.get index)
  return attrs ++ [
    .parameter .jc (o.jc.getD 0),
    .parameter .jmin (o.jmin.getD 0),
    .parameter .jmax (o.jmax.getD 0),
    .parameter .s1 (o.s1.getD 0),
    .parameter .s2 (o.s2.getD 0),
    .parameter .s3 (o.s3.getD 0),
    .parameter .s4 (o.s4.getD 0),
    .parameter .h1 (header 0),
    .parameter .h2 (header 1),
    .parameter .h3 (header 2),
    .parameter .h4 (header 3)] ++
    optional .i1 o.i1 ++ optional .i2 o.i2 ++ optional .i3 o.i3 ++ optional .i4 o.i4 ++ optional .i5 o.i5 ++
    optional .headerProtectionKey protection ++
    optional .contentPaddingAddition o.contentPaddingAddition ++
    optional .rekeyAfterTime o.rekeyAfterTime ++
    optional .rekeyTimeout o.rekeyTimeout ++
    optional .rejectAfterTime o.rejectAfterTime ++
    optional .keepaliveTimeout o.keepaliveTimeout ++
    optional .maxHandshakeAttempts o.maxHandshakeAttempts ++ [
    .parameter .randomTrailers (o.randomTrailers.getD false),
    .parameter .disableCookies (o.disableCookies.getD false)]

def DeviceAttribute.is31 : DeviceAttribute → Bool
  | .parameter .randomTrailers _ | .parameter .disableCookies _ => true
  | _ => false

/-- The attributes that a module older than 3.1 knows, if there are others. -/
def without31Attributes (attrs : List DeviceAttribute) : Option (List DeviceAttribute) :=
  if attrs.any (·.is31) then some (attrs.filter (!·.is31)) else none

/-- What the kernel module makes of a `SetDevice`: it takes all of it or refuses it. -/
abbrev KernelModule := List DeviceAttribute → Bool

def setDeviceOnce (accepts : KernelModule) (attrs : List DeviceAttribute) (device : DeviceIdentity) : Option DeviceIdentity :=
  if accepts attrs then some (attrs.foldl DeviceIdentity.set device) else none

def setDevice (accepts : KernelModule) (attrs : List DeviceAttribute) (device : DeviceIdentity) : Option DeviceIdentity :=
  (setDeviceOnce accepts attrs device).orElse fun _ => do
    setDeviceOnce accepts (← without31Attributes attrs) device

end Slipmesh.Common
