import Slipmesh.Net

/-! The parts of the config documents that more than one daemon reads: the
metrics listener and AmneziaWG's device-level obfuscation. -/

namespace Slipmesh.Common
open Net

structure MetricsConfig where
  listen : String
deriving DecidableEq, Repr

/-- Why a listener is refused; each names the field it stands in and its text. -/
inductive MetricsError where
  | notIpPort (field listen : String)
  | notIpv4 (field listen : String)
  | wildcard (field listen : String)
  | noPort (field listen : String)
deriving DecidableEq, Repr

def IpAddr.isUnspecified : IpAddr → Bool
  | .v4 addr => addr == 0
  | .v6 addr => addr == 0

def MetricsConfig.validate (metrics : MetricsConfig) (field : String) : Except MetricsError Unit := do
  let some listen := parseSocketAddr metrics.listen | throw (.notIpPort field metrics.listen)
  unless listen.ip.isIpv4 do throw (.notIpv4 field metrics.listen)
  if IpAddr.isUnspecified listen.ip then throw (.wildcard field metrics.listen)
  if listen.port = 0 then throw (.noPort field metrics.listen)

structure Obfuscation where
  jc : Option UInt16 := none
  jmin : Option UInt16 := none
  jmax : Option UInt16 := none
  s1 : Option UInt16 := none
  s2 : Option UInt16 := none
  s3 : Option UInt16 := none
  s4 : Option UInt16 := none
  h1 : Option UInt32 := none
  h2 : Option UInt32 := none
  h3 : Option UInt32 := none
  h4 : Option UInt32 := none
  i1 : Option String := none
  i2 : Option String := none
  i3 : Option String := none
  i4 : Option String := none
  i5 : Option String := none
  headerProtectionKey : Option String := none
  contentPaddingAddition : Option UInt32 := none
  rekeyAfterTime : Option UInt32 := none
  rekeyTimeout : Option UInt32 := none
  rejectAfterTime : Option UInt32 := none
  keepaliveTimeout : Option UInt32 := none
  maxHandshakeAttempts : Option UInt32 := none
  randomTrailers : Option Bool := none
  disableCookies : Option Bool := none
deriving DecidableEq, Repr

inductive ObfuscationError where
  /-- The junk sizes that cannot hold the nonce. -/
  | junkBelowNonce (fields : List String)
  | equalHeaders (first second : Nat) (value : UInt32)
  | jminAboveJmax (jmin jmax : UInt16)
deriving DecidableEq, Repr

namespace Obfuscation

def headerProtectionNonceSize : UInt16 := 12

def defaultMagicHeaders : List UInt32 := [1, 2, 3, 4]

/-- The headers the kernel module ends up with, unset ones at WireGuard's message types. -/
def magicHeaders (o : Obfuscation) : List UInt32 :=
  List.zipWith Option.getD [o.h1, o.h2, o.h3, o.h4] defaultMagicHeaders

def tooSmall (o : Obfuscation) : List String :=
  ([("s1", o.s1), ("s2", o.s2), ("s3", o.s3), ("s4", o.s4)].filter
    fun (_, size) => size.getD 0 < headerProtectionNonceSize).map Prod.fst

/-- The first pair of equal headers, in the order of the two loops. -/
def equalPair (headers : List UInt32) : Option (Nat × Nat × UInt32) :=
  headers.zipIdx.findSome? fun (first, i) =>
    (headers.zipIdx.drop (i + 1)).findSome? fun (second, j) =>
      if first = second then some (i + 1, j + 1, first) else none

def validate (o : Obfuscation) : Except ObfuscationError Unit := do
  if o.headerProtectionKey.isSome ∧ o.tooSmall ≠ [] then throw (.junkBelowNonce o.tooSmall)
  if let some (first, second, value) := equalPair o.magicHeaders then throw (.equalHeaders first second value)
  let jc := o.jc.getD 0
  let jmin := o.jmin.getD 0
  let jmax := o.jmax.getD 0
  unless jc = 0 ∨ jmax = 0 ∨ jmin ≤ jmax do throw (.jminAboveJmax jmin jmax)

end Obfuscation

end Slipmesh.Common
