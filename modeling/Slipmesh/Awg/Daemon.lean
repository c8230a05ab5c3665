import Slipmesh.Awg.Interface
import Mathlib.Logic.Function.Basic

/-! `awg::main::run` as far as the peers go: the links that are not in the config are
taken down, and each interface of it is brought up to date. The kernel keeps a flag of
each peer that no dump shows. -/

namespace Slipmesh.Awg
open Library Common

/-! ### The kernel's side -/

/-- A device with the peers whose headers it protects. -/
structure SecuredDevice where
  device : Device
  secured : Key → Bool
  peersOnly : ∀ key, secured key = true → key ∈ device.peers

/-- The attribute turns the flag on; without it the flag stays. -/
def secure (secured : Key → Bool) : PeerUpdate → Key → Bool
  | .replace key _ _ advancedSecurity => Function.update secured key (advancedSecurity || secured key)
  | .removeMe key => Function.update secured key false

theorem secure_peers (state : SecuredDevice) (update : PeerUpdate) (key : Key)
    (on : secure state.secured update key = true) : key ∈ (state.device.update update).peers := by
  cases update with
  | replace other allowedIps endpoint advancedSecurity =>
    rw [secure, Function.update_apply] at on
    apply (AList.mem_insert ..).mpr
    split at on
    · rename_i same
      exact .inl same
    · exact .inr (state.peersOnly key on)
  | removeMe other =>
    rw [secure, Function.update_apply] at on
    apply AList.mem_erase.mpr
    split at on
    · cases on
    · rename_i different
      exact ⟨different, state.peersOnly key on⟩

def SecuredDevice.update (state : SecuredDevice) (update : PeerUpdate) : SecuredDevice :=
  ⟨state.device.update update, secure state.secured update, secure_peers state update⟩

def SecuredDevice.set (state : SecuredDevice) (updates : List PeerUpdate) : SecuredDevice :=
  updates.foldl SecuredDevice.update state

/-- A link that has just been made. -/
def SecuredDevice.new : SecuredDevice := ⟨⟨∅, ⟨∅⟩⟩, fun _ => false, fun _ on => absurd on Bool.false_ne_true⟩

/-- The links of the kind, by their names. -/
abbrev Kernel := String → Option SecuredDevice

/-! ### The daemon's side -/

/-- `ensureInterface` on a device with its flags, which it does not see. -/
def ensureSecured (engine : Engine) (resolver : Resolver) (iface : InterfaceEntry) (state : SecuredDevice) :
    Except KeyError SecuredDevice := do
  setIdentity engine iface
  let previous := currentPeers engine state.device
  let desired := desiredPeers resolver previous iface.peers
  return state.set ((diffPeers previous desired).filterMap (peerUpdate engine))

def gc (desiredNames : List String) (kernel : Kernel) : Kernel :=
  fun name => if name ∈ desiredNames then kernel name else none

/-- The link is made where there is none. An interface that fails stays as far as it got. -/
def convergeInterface (engine : Engine) (resolver : Resolver) (kernel : Kernel) (iface : InterfaceEntry) : Kernel :=
  let found := (kernel iface.name).getD .new
  let after := (ensureSecured engine resolver iface found).toOption.getD found
  Function.update kernel iface.name (some after)

/-- One start of the daemon, up to where it begins to track handshakes. -/
def run (engine : Engine) (resolver : Resolver) (cfg : AwgConfig) (kernel : Kernel) : Kernel :=
  cfg.interfaces.foldl (convergeInterface engine resolver) (gc (cfg.interfaces.map (·.name)) kernel)

end Slipmesh.Awg
