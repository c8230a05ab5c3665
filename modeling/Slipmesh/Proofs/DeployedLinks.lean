import Slipmesh.Proofs.HeaderProtection
import Slipmesh.Proofs.Links
import Slipmesh.Proofs.Settlements
import Slipmesh.Proofs.StartRuns

/-! A link of the mesh on the two hosts that it joins: what their kernels hold once `awg`
has started on each of them with the config that was rendered for it. -/

namespace Slipmesh.Common
open Library

variable {engine : Engine} {attrs : List DeviceAttribute} {device : DeviceIdentity} {o : Obfuscation}

/-! ### What an identity is after its attributes -/

def privateKeyOf : DeviceAttribute → Option Key
  | .privateKey key => some key
  | _ => none

def listenPortOf : DeviceAttribute → Option UInt16
  | .listenPort port => some port
  | _ => none

def valueOf (parameter : Parameter) : DeviceAttribute → Option parameter.Value
  | .parameter other value => if same : other = parameter then some (same ▸ value) else none
  | _ => none

theorem set_privateKey (attrs : List DeviceAttribute) (device : DeviceIdentity) :
    (attrs.foldl DeviceIdentity.set device).privateKey = (attrs.filterMap privateKeyOf).getLast?.getD device.privateKey := by
  refine run_last (fun device attr => ?_) attrs device
  cases attr <;> rfl

theorem set_listenPort (attrs : List DeviceAttribute) (device : DeviceIdentity) :
    (attrs.foldl DeviceIdentity.set device).listenPort = (attrs.filterMap listenPortOf).getLast?.getD device.listenPort := by
  refine run_last (fun device attr => ?_) attrs device
  cases attr <;> rfl

theorem set_parameter (parameter : Parameter) (attrs : List DeviceAttribute) (device : DeviceIdentity) :
    (attrs.foldl DeviceIdentity.set device).parameters parameter =
      (attrs.filterMap (valueOf parameter)).getLast?.getD (device.parameters parameter) := by
  refine @run_last _ _ _ _ (fun device => device.parameters parameter) _ (fun device attr => ?_) attrs device
  cases attr with
  | parameter other value =>
    by_cases same : other = parameter
    · subst same
      simp [valueOf, DeviceIdentity.set]
    · simp [valueOf, DeviceIdentity.set, same, Function.update_of_ne (Ne.symm same)]
  | _ => rfl

/-- The parameters that are pushed do not depend on what is there already. -/
theorem pushObfuscationAttrs_append (attrs : List DeviceAttribute) :
    pushObfuscationAttrs engine attrs o = (pushObfuscationAttrs engine [] o).map (attrs ++ ·) := by
  unfold pushObfuscationAttrs
  cases decodeOptional engine o.headerProtectionKey with
  | error reason => rfl
  | ok protection =>
    refine congrArg Except.ok ?_
    simp only [List.nil_append, List.append_assoc]

theorem optional_parameters {parameter : Parameter} {value : Option parameter.Value} {f : DeviceAttribute → Option α}
    (blind : ∀ other value, f (.parameter other value) = none) : (optional parameter value).filterMap f = [] := by
  cases value <;> simp [optional, blind]

/-- Nothing but parameters is pushed. -/
theorem pushed_parameters {f : DeviceAttribute → Option α} (blind : ∀ other value, f (.parameter other value) = none)
    (pushed : pushObfuscationAttrs engine [] o = .ok attrs) : attrs.filterMap f = [] := by
  simp only [pushObfuscationAttrs, bind_ok, pure_ok] at pushed
  obtain ⟨protection, _, rfl⟩ := pushed
  simp [optional_parameters blind, blind]

end Slipmesh.Common

namespace Slipmesh.Awg.Startup
open Common Library

variable {engine : Engine} {iface other : InterfaceEntry} {identity : DeviceIdentity} {attrs sent : List DeviceAttribute}

theorem identityAttributes_split (built : identityAttributes engine iface = .ok attrs) : ∃ key pushed,
    decodeKey engine iface.privateKey = .ok key ∧ pushObfuscationAttrs engine [] iface.obfuscation = .ok pushed ∧
      attrs = [.ifName iface.name, .privateKey key, .listenPort iface.listenPort] ++ pushed := by
  simp only [identityAttributes, bind_ok] at built
  obtain ⟨key, decoded, built⟩ := built
  rw [pushObfuscationAttrs_append] at built
  cases pushed : pushObfuscationAttrs engine [] iface.obfuscation with
  | error reason =>
    rw [pushed] at built
    cases built
  | ok pushed' =>
    rw [pushed] at built
    cases built
    exact ⟨key, pushed', decoded, rfl, rfl⟩

/-- What an older module does not know is all that is left out. -/
theorem Sendable.filterMap {f : DeviceAttribute → Option α} (sendable : Sendable attrs sent)
    (blind : ∀ attr, attr.is31 = true → f attr = none) : sent.filterMap f = attrs.filterMap f := by
  rcases sendable with rfl | older
  · rfl
  · unfold without31Attributes at older
    split at older
    · cases older
      rw [List.filterMap_filter]
      refine List.filterMap_congr fun attr _ => ?_
      cases newer : attr.is31 with
      | false => simp
      | true => simp [blind attr newer]
    · cases older

theorem Identified.privateKey (identified : Identified engine iface identity) :
    decodeKey engine iface.privateKey = .ok identity.privateKey := by
  obtain ⟨attrs, sent, before, built, sendable, rfl⟩ := identified
  obtain ⟨key, pushed, decoded, rest, rfl⟩ := identityAttributes_split built
  have blind (attr : DeviceAttribute) (newer : attr.is31 = true) : privateKeyOf attr = none := by
    cases attr with
    | privateKey key => cases newer
    | _ => rfl
  rw [set_privateKey, sendable.filterMap blind, List.filterMap_append, pushed_parameters (fun _ _ => rfl) rest, decoded]
  rfl

theorem Identified.listenPort (identified : Identified engine iface identity) : identity.listenPort = iface.listenPort := by
  obtain ⟨attrs, sent, before, built, sendable, rfl⟩ := identified
  obtain ⟨key, pushed, decoded, rest, rfl⟩ := identityAttributes_split built
  have blind (attr : DeviceAttribute) (newer : attr.is31 = true) : listenPortOf attr = none := by
    cases attr with
    | listenPort port => cases newer
    | _ => rfl
  rw [set_listenPort, sendable.filterMap blind, List.filterMap_append, pushed_parameters (fun _ _ => rfl) rest]
  rfl

/-- A parameter that only modules since 3.1 know. -/
def since31 : Parameter → Bool
  | .randomTrailers | .disableCookies => true
  | _ => false

theorem is31_parameter (parameter : Parameter) (value : parameter.Value) :
    (DeviceAttribute.parameter parameter value).is31 = since31 parameter := by
  cases parameter <;> rfl

theorem valueOf_since31 {parameter : Parameter} (older : since31 parameter = false) (attr : DeviceAttribute)
    (newer : attr.is31 = true) : valueOf parameter attr = none := by
  cases attr with
  | parameter other value =>
    refine dif_neg ?_
    rintro rfl
    rw [is31_parameter, older] at newer
    cases newer
  | _ => rfl

/-- Two devices that are given the same obfuscation have the same value of whatever it
decides, whatever they had before and whichever of them has the older module. -/
theorem Identified.agree {otherIdentity : DeviceIdentity} (one : Identified engine iface identity)
    (two : Identified engine other otherIdentity) (same : iface.obfuscation = other.obfuscation) {parameter : Parameter}
    (decided : iface.obfuscation.decides parameter = true) (older : since31 parameter = false) :
    identity.parameters parameter = otherIdentity.parameters parameter := by
  obtain ⟨_, sentOne, beforeOne, builtOne, sendableOne, rfl⟩ := one
  obtain ⟨_, sentTwo, beforeTwo, builtTwo, sendableTwo, rfl⟩ := two
  obtain ⟨_, pushed, _, rest, rfl⟩ := identityAttributes_split builtOne
  obtain ⟨_, _, _, again, rfl⟩ := identityAttributes_split builtTwo
  rw [← same, rest] at again
  cases again
  obtain ⟨value, member⟩ := (sends_pushed rest fun _ => sends_nil).mpr decided
  have kept : value ∈ pushed.filterMap (valueOf parameter) := List.mem_filterMap.mpr ⟨_, member, dif_pos rfl⟩
  have ends := List.getLast?_eq_some_getLast (List.ne_nil_of_mem kept)
  simp only [set_parameter, sendableOne.filterMap (valueOf_since31 older), sendableTwo.filterMap (valueOf_since31 older),
    List.filterMap_append, List.getLast?_append, ends, Option.some_or, Option.getD_some]

/-! ### The one peer of an interface -/

variable {resolver : Resolver} {cfg : AwgConfig} {peer : PeerEntry} {key : Key} {before : Option Host.Link} {link : Host.Link}

/-- An interface with one peer, as `awg` sees it. -/
def onePeerTunnel (accepted : validate cfg = .ok ()) (listed : iface ∈ cfg.interfaces) (only : iface.peers = [peer])
    (decoded : decodeKey engine peer.publicKey = .ok key) : Awg.Tunnel engine where
  cfg := cfg
  accepted := accepted
  iface := iface
  listed := listed
  decoded := by
    rw [only]
    simpa using ⟨key, decoded⟩
  distinct := by
    rw [only]
    simp
  disjoint := by
    rw [only]
    simp

/-- A peer whose endpoint resolves is the only one at the end, with its networks. -/
theorem UpToDate.onePeer (upToDate : UpToDate engine resolver iface before link) (accepted : validate cfg = .ok ())
    (listed : iface ∈ cfg.interfaces) (only : iface.peers = [peer]) (spelled : peer.publicKey = encodeKey engine key)
    (resolves : ∀ host ∈ peer.endpoint, (resolver host).isSome) :
    ∃ tunnel, link.tunnel = some tunnel ∧ Identified engine iface tunnel.identity ∧
      (∀ other, other ∈ tunnel.peers.device.peers ↔ other = key) ∧
      ∀ network, network ∈ tunnel.peers.device.allowed.held key ↔ Allows peer network := by
  obtain ⟨tunnel, has, identified, made⟩ := upToDate.device
  have decoded : decodeKey engine peer.publicKey = .ok key := by rw [spelled, decodeKey_encodeKey]
  let start : Awg.Start iface := ⟨resolver, by rw [only]; simpa using resolves⟩
  let one := onePeerTunnel accepted listed only decoded
  have identity : Awg.setIdentity engine iface = .ok () := by
    obtain ⟨attrs, _, _, built, _⟩ := identified
    exact identityAttributes_ok_iff.mp ⟨attrs, built⟩
  obtain ⟨replaces, removes, batch, sent⟩ := ensureInterface_batch one start (peersBefore before).device identity
  have same : tunnel.peers.device = (peersBefore before).device.set (replaces ++ removes) := by
    have device := ensureSecured_device engine resolver iface (peersBefore before)
    rw [made] at device
    exact Except.ok.inj (device.trans sent)
  have converged : Converged one tunnel.peers.device := by
    rw [same]
    refine batch.converged_iff.mpr ?_
    intro other member found _ reads
    cases List.mem_singleton.mp (only ▸ member)
    rw [decoded] at reads
    cases reads
    exact spelled
  have member : peer ∈ iface.peers := only ▸ List.mem_singleton_self peer
  refine ⟨tunnel, has, identified, ?_, converged.networks peer member key decoded⟩
  intro other
  rw [converged.keys other]
  constructor
  · intro given
    obtain ⟨found, listed, reads⟩ := given
    cases List.mem_singleton.mp (only ▸ listed)
    exact Except.ok.inj (reads.symm.trans decoded)
  · rintro rfl
    exact ⟨peer, member, decoded⟩

end Slipmesh.Awg.Startup

namespace Slipmesh.Taloscfg
open Library Common Host
open Awg (AwgConfig InterfaceEntry fullTunnelAllowedIps)
open Awg.Startup (Identified UpToDate Succeeds starting namesOf since31)

variable {curve : Curve} {mesh : MeshConfig} {draws : Draws} {resolved : ResolvedSecrets} {cfgA cfgB : AwgConfig}
  {resolverA resolverB : Awg.Resolver}

/-! ### The two ends -/

/-- What a device makes of a peer that it was given: it passes over one of its own key. -/
def Takes (curve : Curve) (own : Host.Tunnel) (key : Key) : Prop :=
  key ∈ own.peers.device.peers ∧ key ≠ curve.publicKey own.identity.privateKey

/-- The module's device at one end of a link, next to that at the other. -/
structure Talks (curve : Curve) (link : MeshLink) (own other : Host.Tunnel) : Prop where
  port : own.identity.listenPort = link.port
  peer : ∀ key, Takes curve own key ↔ key = curve.publicKey other.identity.privateKey
  carries : ∀ cidr ∈ fullTunnelAllowedIps, ∃ network, networkOf cidr = some network ∧
    own.peers.device.allowed.owner network = some (curve.publicKey other.identity.privateKey)

/-- The devices at the two ends talk to each other, and understand each other. -/
structure Linked (curve : Curve) (link : MeshLink) (o : Obfuscation) (first second : Host.Kernel) : Prop where
  ends : ∃ a b, (first.links ("mesh-" ++ link.pair.2)).bind (·.tunnel) = some a ∧
    (second.links ("mesh-" ++ link.pair.1)).bind (·.tunnel) = some b ∧ Talks curve link a b ∧ Talks curve link b a ∧
    ∀ parameter, o.decides parameter = true → since31 parameter = false →
      a.identity.parameters parameter = b.identity.parameters parameter

/-- Whatever was on a host before and whatever else goes on there, a start of `awg` that
ends well brings it about. -/
def Brings (engine : Engine) (resolver : Awg.Resolver) (cfg : AwgConfig) (about : Host.Kernel → Prop) : Prop :=
  ∀ kernel, Library.Meets (serves whimsical) (starting cfg) (fun _ now => about now) (fun _ _ => True)
    (Awg.Startup.run engine resolver cfg) kernel

/-- The secrets of the two ends are of two public keys. -/
def KeysApart (curve : Curve) (resolved : ResolvedSecrets) (link : MeshLink) : Prop :=
  ∀ first second a b, resolved.meshPrivateKeys.find? link.pair.1 = some first →
    resolved.meshPrivateKeys.find? link.pair.2 = some second → decodeKey curve.engine first = .ok a →
    decodeKey curve.engine second = .ok b → curve.publicKey a ≠ curve.publicKey b

/-- Every endpoint of the config resolves. -/
def Resolves (resolver : Awg.Resolver) (cfg : AwgConfig) : Prop :=
  ∀ iface ∈ cfg.interfaces, ∀ peer ∈ iface.peers, ∀ host ∈ peer.endpoint, (resolver host).isSome

variable {link : MeshLink} {nodeName peerName : String} {cfg : AwgConfig} {resolver : Awg.Resolver} {kernel now : Host.Kernel}
  {tracked : List Awg.TrackedInterface} {position : Nat}

theorem meshInterface_fullTunnel {own : OwnEnd} {iface : InterfaceEntry}
    (rendered : meshInterface curve mesh resolved own link peerName = .ok iface) :
    ∀ peer ∈ iface.peers, peer.allowedIps = none := by
  simp only [meshInterface, bind_ok, pure_ok] at rendered
  obtain ⟨_, _, _, _, _, _, rfl⟩ := rendered
  simp

/-- One end, with the secret of the other that it has its peer's key from. -/
structure Deployed (curve : Curve) (resolved : ResolvedSecrets) (link : MeshLink) (nodeName peerName : String) (tunnel : Host.Tunnel) :
    Prop where
  identified : ∃ iface, EndOf curve resolved link nodeName peerName iface ∧ Identified curve.engine iface tunnel.identity
  peer : ∃ secret key, resolved.meshPrivateKeys.find? peerName = some secret ∧ decodeKey curve.engine secret = .ok key ∧
    (∀ other, other ∈ tunnel.peers.device.peers ↔ other = curve.publicKey key) ∧
    ∀ cidr ∈ fullTunnelAllowedIps, ∃ network, networkOf cidr = some network ∧
      tunnel.peers.device.allowed.owner network = some (curve.publicKey key)

theorem Succeeds.deployed (rendered : renderAwgConfig curve mesh nodeName resolved = .ok cfg)
    (listed : mesh.links[position]? = some link) (isEnd : peerOf nodeName link = some peerName) (resolves : Resolves resolver cfg)
    (succeeds : Succeeds curve.engine resolver cfg kernel tracked now) :
    ∃ tunnel, (now.links ("mesh-" ++ peerName)).bind (·.tunnel) = some tunnel ∧
      Deployed curve resolved link nodeName peerName tunnel := by
  obtain ⟨own, iface, ended, place, here⟩ := renderAwgConfig_at rendered listed isEnd
  have oneEnd := meshInterface_endOf (ownEnd_privateKey ended) here
  obtain ⟨peer, secret, key, only, found, decoded, spelled⟩ := oneEnd.peer
  have member : iface ∈ cfg.interfaces := List.mem_of_getElem? place
  have inside : peer ∈ iface.peers := only ▸ List.mem_singleton_self peer
  obtain ⟨up, present, upToDate⟩ := succeeds.started.upToDate iface member List.not_mem_nil
  obtain ⟨tunnel, has, identified, keys, networks⟩ :=
    upToDate.onePeer succeeds.valid member only spelled (resolves iface member peer inside)
  rw [meshInterface_name here] at present
  refine ⟨tunnel, by rw [present, Option.bind_some, has], ⟨iface, oneEnd, identified⟩, secret, key, found, decoded, keys, ?_⟩
  intro cidr full
  have known : ∀ cidr ∈ fullTunnelAllowedIps, (networkOf cidr).isSome := by decide
  obtain ⟨network, named⟩ := Option.isSome_iff_exists.mp (known cidr full)
  refine ⟨network, named, Ownership.mem_held.mp ((networks network).mpr ⟨cidr, ?_, named⟩)⟩
  rw [Awg.allowedTexts, meshInterface_fullTunnel here peer inside]
  exact full

/-- The secret that an end was rendered with is what its device has. -/
theorem Deployed.own {tunnel : Host.Tunnel} (here : Deployed curve resolved link nodeName peerName tunnel) :
    ∃ secret, resolved.meshPrivateKeys.find? nodeName = some secret ∧
      decodeKey curve.engine secret = .ok tunnel.identity.privateKey := by
  obtain ⟨iface, oneEnd, identified⟩ := here.identified
  exact ⟨iface.privateKey, oneEnd.own, identified.privateKey⟩

theorem Deployed.talks {own other : Host.Tunnel} (here : Deployed curve resolved link nodeName peerName own)
    (there : Deployed curve resolved link peerName nodeName other)
    (apart : curve.publicKey own.identity.privateKey ≠ curve.publicKey other.identity.privateKey) :
    Talks curve link own other := by
  obtain ⟨iface, oneEnd, identified⟩ := here.identified
  obtain ⟨secret, key, found, decoded, keys, networks⟩ := here.peer
  obtain ⟨across, held, read⟩ := there.own
  have same : key = other.identity.privateKey := by
    cases held.symm.trans found
    exact Except.ok.inj (decoded.symm.trans read)
  subst same
  refine ⟨identified.listenPort.trans oneEnd.port, ?_, networks⟩
  intro peer
  rw [Takes, keys]
  constructor
  · exact And.left
  · rintro rfl
    exact ⟨rfl, apart.symm⟩

/-- The two devices have two public keys. -/
theorem KeysApart.devices {a b : Host.Tunnel} (apart : KeysApart curve resolved link)
    (first : Deployed curve resolved link link.pair.1 link.pair.2 a)
    (second : Deployed curve resolved link link.pair.2 link.pair.1 b) :
    curve.publicKey a.identity.privateKey ≠ curve.publicKey b.identity.privateKey := by
  obtain ⟨_, heldA, readA⟩ := first.own
  obtain ⟨_, heldB, readB⟩ := second.own
  exact apart _ _ _ _ heldA heldB readA readB

/-- Of an accepted topology, its secrets resolved once and those of a link's ends not of one
public key: whatever the two hosts of the link had before, once `awg` has started well on
both with what was rendered for each, the two kernels have the link's port, each only the
other's key to talk to and all traffic for it, and one value of every parameter that the
link's obfuscation decides. -/
theorem deployed_links (accepted : validate mesh = .ok ()) (draws : Draws) (listed : mesh.links[position]? = some link)
    (apart : KeysApart curve (resolve curve draws mesh).1 link)
    (rendersA : renderAwgConfig curve mesh link.pair.1 (resolve curve draws mesh).1 = .ok cfgA)
    (rendersB : renderAwgConfig curve mesh link.pair.2 (resolve curve draws mesh).1 = .ok cfgB)
    (resolvesA : Resolves resolverA cfgA) (resolvesB : Resolves resolverB cfgB) :
    Brings curve.engine resolverA cfgA fun first => Brings curve.engine resolverB cfgB fun second =>
      Linked curve link (((resolve curve draws mesh).1.meshLinkObfuscation.find? (linkKey link.pair)).getD {}) first second := by
  have twoNodes := (validate_ok accepted).links link (List.mem_of_getElem? listed)
  have endA : peerOf link.pair.1 link = some link.pair.2 := if_pos rfl
  have endB : peerOf link.pair.2 link = some link.pair.1 := (if_neg twoNodes).trans (if_pos rfl)
  intro kernelA
  refine (Awg.Startup.run_meets Awg.Startup.whimsical_reasons (.inl trivial)).mono ?_ fun _ _ _ => trivial
  intro trackedA first startedA kernelB
  refine (Awg.Startup.run_meets Awg.Startup.whimsical_reasons (.inl trivial)).mono ?_ fun _ _ _ => trivial
  intro trackedB second startedB
  obtain ⟨a, hereA, first⟩ := Succeeds.deployed rendersA listed endA resolvesA startedA
  obtain ⟨b, hereB, second⟩ := Succeeds.deployed rendersB listed endB resolvesB startedB
  have devices := apart.devices first second
  refine ⟨a, b, hereA, hereB, first.talks second devices, second.talks first devices.symm, ?_⟩
  obtain ⟨ifaceA, oneEnd, identifiedA⟩ := first.identified
  obtain ⟨ifaceB, otherEnd, identifiedB⟩ := second.identified
  intro parameter decided older
  refine identifiedA.agree identifiedB (oneEnd.obfuscation.trans otherEnd.obfuscation.symm) ?_ older
  rw [oneEnd.obfuscation]
  exact decided

/-- Every host has the same address. -/
def oneAddress : Awg.Resolver := fun _ => some ⟨.v4 0x0a3e0001, 0, 51820⟩

theorem oneAddress_resolves (cfg : AwgConfig) : Resolves oneAddress cfg := fun _ _ _ _ _ _ => rfl

/-- An obfuscated link between two of four nodes. -/
theorem deployed_links_four : ∃ cfgA cfgB,
    renderAwgConfig twoKeys (fourNodes "-") "a" (resolve twoKeys twoDraws (fourNodes "-")).1 = .ok cfgA ∧
    renderAwgConfig twoKeys (fourNodes "-") "b-c" (resolve twoKeys twoDraws (fourNodes "-")).1 = .ok cfgB ∧
    Brings twoKeys.engine oneAddress cfgA fun first => Brings twoKeys.engine oneAddress cfgB fun second =>
      Linked twoKeys { pair := ("a", "b-c"), port := 51820 }
        (((resolve twoKeys twoDraws (fourNodes "-")).1.meshLinkObfuscation.find? (linkKey ("a", "b-c"))).getD {}) first second := by
  have accepted : validate (fourNodes "-") = .ok () := by decide +kernel
  obtain ⟨cfgA, rendersA⟩ := exists_of_isOk (by decide +kernel :
    (renderAwgConfig twoKeys (fourNodes "-") "a" (resolve twoKeys twoDraws (fourNodes "-")).1).isOk = true)
  obtain ⟨cfgB, rendersB⟩ := exists_of_isOk (by decide +kernel :
    (renderAwgConfig twoKeys (fourNodes "-") "b-c" (resolve twoKeys twoDraws (fourNodes "-")).1).isOk = true)
  have listed : (fourNodes "-").links[1]? = some { pair := ("a", "b-c"), port := 51820 } := by decide
  have apart : KeysApart twoKeys (resolve twoKeys twoDraws (fourNodes "-")).1 { pair := ("a", "b-c"), port := 51820 } := by
    intro first second a b drawn set readA readB
    have drawnA : (resolve twoKeys twoDraws (fourNodes "-")).1.meshPrivateKeys.find? "a" = some drawnText := by decide +kernel
    have setB : (resolve twoKeys twoDraws (fourNodes "-")).1.meshPrivateKeys.find? "b-c" = some setText := by decide +kernel
    cases drawnA.symm.trans drawn
    cases setB.symm.trans set
    have decodesA : decodeKey twoKeys.engine drawnText = .ok drawnKey := by decide +kernel
    have decodesB : decodeKey twoKeys.engine setText = .ok setKey := by decide +kernel
    cases decodesA.symm.trans readA
    cases decodesB.symm.trans readB
    decide
  exact ⟨cfgA, cfgB, rendersA, rendersB,
    deployed_links accepted twoDraws listed apart rendersA rendersB (oneAddress_resolves cfgA) (oneAddress_resolves cfgB)⟩

end Slipmesh.Taloscfg
