import Slipmesh.Awg.Startup
import Slipmesh.Proofs.AwgConfig
import Slipmesh.Proofs.Identity
import Slipmesh.Proofs.NodeLinks

/-! A start of `awg` among other daemons: what it leaves behind when it ends, well or not,
and what it never does on the way. -/

namespace Slipmesh.Host
open Common

variable {kernel after : Kernel} {name kind : String} {link : Link} {tunnel : Tunnel} {wanted : IpCidr → Prop}

@[simp] theorem Link.drive_tunnel (link : Link) (change : Tunnel → Tunnel) : (link.drive change).tunnel = link.tunnel.map change :=
  rfl

theorem Link.drive_drive (link : Link) (first second : Tunnel → Tunnel) :
    (link.drive first).drive second = link.drive (second ∘ first) := by
  simp only [Link.drive, Option.map_map]

theorem Link.drive_congr {first second : Tunnel → Tunnel} (has : link.tunnel = some tunnel)
    (same : first tunnel = second tunnel) :
    link.drive first = link.drive second := by
  simp only [Link.drive, has, Option.map_some, same]

theorem Link.drive_self {change : Tunnel → Tunnel} (has : link.tunnel = some tunnel) (same : change tunnel = tunnel) :
    link.drive change = link := by
  obtain ⟨index, kind, up, addresses, found, driven⟩ := link
  cases has
  simp only [Link.drive, Option.map_some, same]

theorem Evolves.drive (change : Tunnel → Tunnel) : Evolves wanted link (link.drive change) where
  index := rfl
  kind := rfl
  up := id
  kept := fun _ member _ => .inl member
  gained := fun _ member => .inl member

theorem Kernel.Drives.tends {change : Tunnel → Tunnel} (drives : kernel.Drives after name change)
    (found : kernel.links name = some link) : Tends name kind wanted kernel after ∧ link.tunnel.isSome = true ∧
      after.links name = some (link.drive change) := by
  obtain ⟨same, present, has, alters⟩ := drives
  rw [found] at present
  cases present
  exact ⟨alters.tends found (.drive change), has, alters.same⟩

theorem FoundOrFresh.driven {before : Option Link} (found : FoundOrFresh amneziawg before link)
    (kind : ∀ link, before = some link → link.kind = some amneziawg) : link.tunnel.isSome = true := by
  rcases found with same | ⟨_, fresh⟩
  · exact link.driven.mpr (kind link same)
  · exact link.driven.mpr fresh.kind

/-- The link with another identity. -/
def Link.identified (link : Link) (identity : DeviceIdentity) : Link := link.drive ({ · with identity })

end Slipmesh.Host

namespace Slipmesh.Awg.Startup
open Common Host Library

variable {engine : Engine} {resolver : Resolver} {iface : InterfaceEntry} {kernel now : Host.Kernel} {name kind : String}
  {link : Link} {tunnel : Host.Tunnel} {wanted : IpCidr → Prop} {attrs : List DeviceAttribute}

/-! ### One interface -/

/-- The link, if for the identity of its device. -/
def Spoiled (link base : Link) : Prop := base = link ∨ ∃ identity, base = link.identified identity

theorem Spoiled.identified {base : Link} (spoiled : Spoiled link base) (identity : DeviceIdentity) :
    base.identified identity = link.identified identity := by
  rcases spoiled with rfl | ⟨before, rfl⟩
  · rfl
  · rw [Link.identified, Link.identified, Link.drive_drive]
    rfl

theorem Spoiled.driven {base : Link} (spoiled : Spoiled link base) : base.tunnel.isSome = link.tunnel.isSome := by
  rcases spoiled with rfl | ⟨before, rfl⟩
  · rfl
  · rw [Link.identified, Link.drive_tunnel, Option.isSome_map]

/-- The device has taken the attributes over whatever it had. -/
def SetTo (name : String) (link : Link) (sent : List DeviceAttribute) (now : Host.Kernel) : Prop :=
  link.tunnel.isSome = true ∧ ∃ before, now.links name = some (link.identified (sent.foldl DeviceIdentity.set before))

/-- All of the attributes, or those that an older module knows. -/
def Sendable (attrs sent : List DeviceAttribute) : Prop := sent = attrs ∨ without31Attributes attrs = some sent

/-- The identity is the one that the entry sets over another. -/
def Identified (engine : Engine) (iface : InterfaceEntry) (identity : DeviceIdentity) : Prop :=
  ∃ attrs sent before, identityAttributes engine iface = .ok attrs ∧ Sendable attrs sent ∧
    identity = sent.foldl DeviceIdentity.set before

/-- The addresses that the entry names. -/
def Wanted (iface : InterfaceEntry) (address : IpCidr) : Prop := ∃ cidr ∈ iface.addresses, parseCidr cidr = .ok address

/-- Nothing about the entry or the link stands in its way. -/
structure Ready (engine : Engine) (iface : InterfaceEntry) (before : Option Link) : Prop where
  decodes : ∃ attrs, identityAttributes engine iface = .ok attrs
  kind : ∀ link, before = some link → link.kind = some amneziawg
  parses : ∀ cidr ∈ iface.addresses, ∃ address, parseCidr cidr = .ok address
  roomy : Roomy (Wanted iface) (addressesOf before)

variable {refusable : Host.Kernel → Request → Prop} {excused : Prop}
  (reasons : ∀ now request, refusable now request → excused ∨ now.Reason request)

section
include reasons

theorem setDeviceOnce_meets {base : Link} {error : StartError} (spoiled : Spoiled link base)
    (found : kernel.links name = some base) (driven : excused ∨ link.tunnel.isSome = true) :
    Meets (serves refusable) (tending name kind wanted) (fun _ => SetTo name link attrs)
      (fun _ now => (excused ∨ attrs.any (·.is31) = true) ∧ ∃ base, Spoiled link base ∧ now.links name = some base)
      (call (.setDevice name attrs) error) kernel := by
  apply meets_call
  · intro now moves _ after drives
    obtain ⟨tends, has, set⟩ := drives.tends (moves.trans found)
    obtain ⟨tunnel, known⟩ := Option.isSome_iff_exists.mp has
    have same : base.drive (Host.Tunnel.setDevice attrs) = base.identified (attrs.foldl DeviceIdentity.set tunnel.identity) :=
      Link.drive_congr known rfl
    refine ⟨tends, fun later more => ⟨spoiled.driven.symm.trans has, tunnel.identity, ?_⟩⟩
    rw [more.trans set, same, spoiled.identified]
  · intro now moves may after refuses
    have why : excused ∨ attrs.any (·.is31) = true := by
      rcases reasons now _ may with excuse | bare | newer
      · exact .inl excuse
      · refine .inl (driven.resolve_right fun has => ?_)
        rw [← spoiled.driven, bare base (moves.trans found)] at has
        cases has
      · exact .inr newer
    rcases refuses with rfl | ⟨identity, drives⟩
    · exact ⟨.refl .., fun later more => ⟨why, base, spoiled, more.trans (moves.trans found)⟩⟩
    · obtain ⟨tends, _, set⟩ := drives.tends (moves.trans found)
      exact ⟨tends, fun later more => ⟨why, _, .inr ⟨identity, spoiled.identified identity⟩, more.trans set⟩⟩

omit reasons in
theorem without31_old {older : List DeviceAttribute} (known : without31Attributes attrs = some older) :
    older.any (·.is31) = false := by
  unfold without31Attributes at known
  split at known
  · cases known
    simp
  · cases known

/-- What an older module refuses is sent again without what it does not know. -/
theorem setDevice_meets (found : kernel.links name = some link) (driven : excused ∨ link.tunnel.isSome = true) :
    Meets (serves refusable) (tending name kind wanted) (fun _ now => ∃ sent, Sendable attrs sent ∧ SetTo name link sent now)
      (fun _ _ => excused) (setDevice name attrs) kernel := by
  apply meets_catch
  refine (setDeviceOnce_meets reasons (.inl rfl) found driven).mono (fun _ now set => ⟨attrs, .inl rfl, set⟩) ?_
  intro error now given
  obtain ⟨why, base, spoiled, found⟩ := given
  cases known : without31Attributes attrs with
  | none =>
    refine meets_throw fun _ _ => why.resolve_right fun newer => ?_
    rw [without31Attributes, if_pos newer] at known
    cases known
  | some older =>
    refine (setDeviceOnce_meets reasons spoiled found driven).mono (fun _ now set => ⟨older, .inr known, set⟩) ?_
    intro _ _ given
    refine given.1.resolve_right ?_
    rw [without31_old known]
    exact Bool.false_ne_true

theorem setIdentity_meets (found : kernel.links iface.name = some link) (driven : excused ∨ link.tunnel.isSome = true)
    (decodes : excused ∨ ∃ attrs, identityAttributes engine iface = .ok attrs) :
    Meets (serves refusable) (tending iface.name kind wanted)
      (fun _ now => link.tunnel.isSome = true ∧ ∃ identity, Identified engine iface identity ∧
        now.links iface.name = some (link.identified identity)) (fun _ _ => excused) (setIdentity engine iface) kernel := by
  unfold setIdentity
  cases built : identityAttributes engine iface with
  | error reason =>
    refine meets_throw fun _ _ => decodes.resolve_right fun given => ?_
    obtain ⟨attrs, decoded⟩ := given
    rw [built] at decoded
    cases decoded
  | ok attrs =>
    refine (setDevice_meets reasons found driven).imp ?_
    intro _ now given
    obtain ⟨sent, sendable, driven, before, set⟩ := given
    exact ⟨driven, _, ⟨attrs, sent, before, built, sendable, rfl⟩, set⟩

theorem currentPeers_meets (found : kernel.links name = some link) (has : link.tunnel = some tunnel) :
    Meets (serves refusable) (tending name kind wanted)
      (fun previous now => previous = Awg.currentPeers engine tunnel.peers.device ∧ now.links name = some link)
      (fun _ _ => excused) (currentPeers engine name) kernel := by
  apply meets_bind
  refine (meets_reads rfl (Tends.refl name kind wanted)).mono ?_ ?_
  · intro device later given
    obtain ⟨seen, moves, ⟨_, same, driven, present, known, rfl⟩, more⟩ := given
    have there := moves.trans found
    rw [present] at there
    cases there
    rw [has] at known
    cases known
    exact meets_pure fun last further => ⟨rfl, further.trans (more.trans present)⟩
  · intro _ later given
    obtain ⟨_, seen, moves, may⟩ := given
    refine (reasons seen _ may).resolve_right fun bare => ?_
    rw [bare link (moves.trans found)] at has
    cases has

theorem syncPeers_meets {previous desired : List Peer} (found : kernel.links name = some link) (has : link.tunnel = some tunnel) :
    Meets (serves refusable) (tending name kind wanted)
      (fun _ now => now.links name =
        some (link.drive (Host.Tunnel.setPeers ((diffPeers previous desired).filterMap (peerUpdate engine)))))
      (fun _ _ => excused) (syncPeers engine name previous desired) kernel := by
  unfold syncPeers
  generalize (diffPeers previous desired).filterMap (peerUpdate engine) = updates
  cases updates with
  | nil =>
    refine meets_pure fun later moves => ?_
    rw [moves.trans found, Link.drive_self has rfl]
  | cons update rest =>
    apply meets_call
    · intro now moves _ after drives
      obtain ⟨tends, _, set⟩ := drives.tends (moves.trans found)
      exact ⟨tends, fun later more => more.trans set⟩
    · intro now moves may after refuses
      have why : excused := by
        refine (reasons now _ may).resolve_right fun bare => ?_
        rw [bare link (moves.trans found)] at has
        cases has
      rcases refuses with rfl | ⟨peers, drives⟩
      · exact ⟨.refl .., fun _ _ => why⟩
      · exact ⟨(drives.tends (moves.trans found)).1, fun _ _ => why⟩

end

/-- The peers of a link, and none where there is no link yet. -/
def peersBefore (before : Option Link) : SecuredDevice := ((before.bind (·.tunnel)).map (·.peers)).getD .new

/-- The link is what the config says of the interface. -/
structure UpToDate (engine : Engine) (resolver : Resolver) (iface : InterfaceEntry) (before : Option Link) (link : Link) : Prop where
  index : ∀ old, before = some old → link.index = old.index
  kind : link.kind = some amneziawg
  up : link.up = true
  addresses : Furnished (Wanted iface) link.addresses
  device : ∃ tunnel, link.tunnel = some tunnel ∧ Identified engine iface tunnel.identity ∧
    ensureSecured engine resolver iface (peersBefore before) = .ok tunnel.peers

theorem peersBefore_found {before : Option Link} (found : FoundOrFresh amneziawg before link) (has : link.tunnel = some tunnel) :
    peersBefore before = tunnel.peers := by
  rcases found with rfl | ⟨rfl, fresh⟩
  · simp [peersBefore, has]
  · exact (fresh.peers tunnel has).symm

theorem Identified.ensureSecured {identity : DeviceIdentity} (identified : Identified engine iface identity)
    (state : SecuredDevice) :
    ensureSecured engine resolver iface state = .ok (state.set ((diffPeers (Awg.currentPeers engine state.device)
      (desiredPeers resolver (Awg.currentPeers engine state.device) iface.peers)).filterMap (peerUpdate engine))) := by
  obtain ⟨attrs, _, _, built, _⟩ := identified
  rw [Awg.ensureSecured, identityAttributes_ok_iff.mp ⟨attrs, built⟩]
  rfl

include reasons in
theorem ensureInterface_meets {before : Option Link} (start : kernel.links iface.name = before)
    (ready : excused ∨ Ready engine iface before) :
    Meets (serves refusable) (tending iface.name amneziawg (Wanted iface))
      (fun _ now => ∃ link, now.links iface.name = some link ∧ UpToDate engine resolver iface before link)
      (fun _ _ => excused) (ensureInterface engine resolver iface) kernel := by
  apply meets_bind
  refine meets_mapError ((ensureLink_meets reasons start).imp ?_)
  intro made now given
  obtain ⟨index, made⟩ := made
  obtain ⟨link, found, rfl, origin⟩ := given
  apply meets_bind
  have roomy : excused ∨ Roomy (Wanted iface) link.addresses := ready.imp id fun ready => origin.addresses ▸ ready.roomy
  refine meets_mapError ((ensureAddresses_meets reasons found (ready.imp id Ready.parses) (fun _ => Iff.rfl) roomy).imp ?_)
  intro _ now has
  obtain ⟨addresses, found, settled⟩ := has
  apply meets_bind
  refine meets_mapError ((setUp_meets reasons found).imp ?_)
  intro _ now given
  obtain ⟨gained, found, silent, _⟩ := given
  apply meets_bind
  have driven : excused ∨ link.tunnel.isSome = true := ready.imp id fun ready => origin.driven ready.kind
  refine (setIdentity_meets reasons found driven (ready.imp id Ready.decodes)).imp ?_
  intro _ now given
  obtain ⟨driven, identity, identified, found⟩ := given
  have kind : link.kind = some amneziawg := link.driven.mp driven
  cases silent kind
  obtain ⟨tunnel, has⟩ := Option.isSome_iff_exists.mp driven
  have known : (((link.readdressed addresses).setUp []).identified identity).tunnel = some { tunnel with identity } := by
    rw [Link.identified, Link.drive_tunnel, has, Option.map_some]
  apply meets_bind
  refine (currentPeers_meets reasons found known).imp ?_
  intro previous now given
  obtain ⟨rfl, found⟩ := given
  refine (syncPeers_meets reasons found known).imp ?_
  intro _ now found
  refine ⟨_, found, ?_⟩
  constructor
  · rintro old rfl
    rcases origin with same | ⟨absent, _⟩
    · cases same
      rfl
    · cases absent
  · exact kind
  · rfl
  · have same : Furnished (Wanted iface) (addresses ++ []) := by
      rw [List.append_nil]
      exact settled
    exact same
  · rw [Link.drive_tunnel, known, Option.map_some]
    refine ⟨_, rfl, identified, ?_⟩
    rw [peersBefore_found origin has, identified.ensureSecured]
    rfl

end Slipmesh.Awg.Startup
