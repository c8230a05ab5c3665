import Slipmesh.Awg.Interface
import Slipmesh.Common.Netlink

/-! `awg::interface::set_identity`: the key, the port and the obfuscation of a device. -/

namespace Slipmesh.Awg
open Common

inductive IdentityError where
  | key (reason : KeyError)
  | refused
deriving DecidableEq, Repr

def identityAttributes (engine : Engine) (iface : InterfaceEntry) : Except KeyError (List DeviceAttribute) := do
  let privateKey ← decodeKey engine iface.privateKey
  pushObfuscationAttrs engine [.ifName iface.name, .privateKey privateKey, .listenPort iface.listenPort] iface.obfuscation

def applyIdentity (engine : Engine) (accepts : KernelModule) (iface : InterfaceEntry) (device : DeviceIdentity) :
    Except IdentityError DeviceIdentity := do
  let attrs ← (identityAttributes engine iface).mapError .key
  (setDevice accepts attrs device).elim (.error .refused) .ok

end Slipmesh.Awg
