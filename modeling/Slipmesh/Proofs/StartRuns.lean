import Slipmesh.Library.Runs
import Slipmesh.Proofs.Starts

/-! Whole starts of `awg`, request by request: how they end, that they end well on a
kernel that has no reason to refuse anything, what they never do on the way, and that they
come to what a start is as one step. -/

namespace Slipmesh.Awg.Startup
open Common Host Library

variable {engine : Engine} {resolver : Resolver} {cfg : AwgConfig} {iface : InterfaceEntry} {kernel now : Host.Kernel}
  {tracked : List TrackedInterface} {rest : Netlink StartError (List TrackedInterface)} {name : String} {link : Link}

theorem whimsical_reasons (now : Host.Kernel) (request : Request) (_ : whimsical now request) : True ∨ now.Reason request :=
  .inl trivial

/-- Whatever requests fail and whatever else goes on: a start that ends well has every link
of the config up to date and no other of the kind, and one that names links as failed has
all of the others so. -/
theorem start_meets (engine : Engine) (resolver : Resolver) (cfg : AwgConfig) (kernel : Host.Kernel) :
    Meets (serves whimsical) (starting cfg) (Succeeds engine resolver cfg kernel) (Fails engine resolver cfg kernel)
      (run engine resolver cfg) kernel :=
  (run_meets whimsical_reasons (.inl trivial)).mono (fun _ _ ends => ends) fun _ _ fails => fails.2

def addressedInterface : InterfaceEntry := { plainInterface with addresses := ["10.0.0.1/24", "fd00::1/64"] }

def addressedCfg : AwgConfig := ⟨[addressedInterface], none⟩

def tunnelLink (index : UInt32) (addresses : List IpCidr) (tunnel : Host.Tunnel) : Link :=
  ⟨index, some amneziawg, true, addresses, some tunnel, by simp⟩

def dummyLink (up : Bool) (addresses : List IpCidr) : Link := ⟨3, some "dummy", up, addresses, none, by decide⟩

/-- What is on the node: the one link of the config, maybe one of the kind that is not, and
maybe the router's loopback, up or not, with its addresses. -/
structure Wiring where
  addresses : List IpCidr
  tunnel : Host.Tunnel := ⟨newDevice, .new⟩
  strayed : Bool := false
  loopback : Option (Bool × List IpCidr) := none

def Wiring.links (wiring : Wiring) (name : String) : Option Link :=
  if name = "awg0" then some (tunnelLink 7 wiring.addresses wiring.tunnel)
  else if name = "awg9" then if wiring.strayed then some (tunnelLink 9 [] ⟨newDevice, .new⟩) else none
  else if name = "router-lo" then wiring.loopback.map fun loopback => dummyLink loopback.1 loopback.2
  else none

def wiredIndex (name : String) : UInt32 := if name = "awg0" then 7 else if name = "awg9" then 9 else 3

theorem Wiring.links_index {wiring : Wiring} (found : wiring.links name = some link) :
    name ∈ ["awg0", "awg9", "router-lo"] ∧ link.index = wiredIndex name := by
  rw [Wiring.links] at found
  split at found
  · rename_i same
    cases found
    exact ⟨by simp [same], by simp [wiredIndex, same, tunnelLink]⟩
  · split at found
    · rename_i same
      split at found
      · cases found
        exact ⟨by simp [same], by simp [wiredIndex, same, tunnelLink]⟩
      · cases found
    · split at found
      · rename_i same
        obtain ⟨loopback, _, rfl⟩ := Option.map_eq_some_iff.mp found
        exact ⟨by simp [same], by simp [wiredIndex, same, dummyLink]⟩
      · cases found

def Wiring.host (wiring : Wiring) : Host.Kernel where
  links := wiring.links
  distinct := by
    intro first second a b one two same
    obtain ⟨listed, indexed⟩ := Wiring.links_index one
    obtain ⟨listed', indexed'⟩ := Wiring.links_index two
    rw [indexed, indexed'] at same
    have apart : ∀ first ∈ ["awg0", "awg9", "router-lo"], ∀ second ∈ ["awg0", "awg9", "router-lo"],
        wiredIndex first = wiredIndex second → first = second := by decide
    exact apart first listed second listed' same

/-- Nothing but the one link differs. -/
theorem Wiring.alters {wiring : Wiring} (after : Wiring) (others : ∀ other, other ≠ name → after.links other = wiring.links other) :
    wiring.host.Alters after.host name (after.links name) := by
  funext other
  rw [Function.update_apply]
  split
  · rename_i same
    rw [same]
    rfl
  · rename_i different
    exact others other different

theorem Wiring.alters_own (wiring : Wiring) (addresses : List IpCidr) (tunnel : Host.Tunnel) :
    wiring.host.Alters { wiring with addresses, tunnel : Wiring }.host "awg0" (some (tunnelLink 7 addresses tunnel)) := by
  refine Wiring.alters { wiring with addresses, tunnel } fun other different => ?_
  simp only [Wiring.links, if_neg different]

section granted

variable (wiring : Wiring)

theorem Wiring.dumped (bare : wiring.loopback = none) (strays : wiring.strayed = true) : serves whimsical .dumpLinks wiring.host
    (some [("awg0", 7, some amneziawg), ("awg9", 9, some amneziawg)]) wiring.host := by
  refine ⟨rfl, by simp, fun name index kind => ?_⟩
  simp only [List.mem_cons, Prod.mk.injEq, List.not_mem_nil, or_false]
  constructor
  · intro given
    rcases given with ⟨rfl, rfl, rfl⟩ | ⟨rfl, rfl, rfl⟩
    · exact ⟨_, rfl, rfl, rfl⟩
    · exact ⟨tunnelLink 9 [] ⟨newDevice, .new⟩, by simp [Wiring.host, Wiring.links, strays], rfl, rfl⟩
  · intro given
    obtain ⟨link, found, rfl, rfl⟩ := given
    simp only [Wiring.host, Wiring.links, strays, bare, if_true, Option.map_none, ite_self] at found
    split at found
    · cases found
      exact .inl ⟨‹_›, rfl, rfl⟩
    · split at found
      · cases found
        exact .inr ⟨‹_›, rfl, rfl⟩
      · cases found

theorem Wiring.collected (strays : wiring.strayed = true) :
    serves whimsical (.deleteLink 9) wiring.host (some ()) { wiring with strayed := false : Wiring }.host := by
  refine ⟨"awg9", tunnelLink 9 [] ⟨newDevice, .new⟩, none, by simp [Wiring.host, Wiring.links, strays], rfl, rfl, ?_⟩
  refine Wiring.alters { wiring with strayed := false } fun other different => ?_
  simp only [Wiring.links, if_neg different]

theorem Wiring.looked (name : String) :
    serves whimsical (.getLink name) wiring.host (some ((wiring.links name).map (·.index))) wiring.host := ⟨rfl, rfl⟩

theorem Wiring.listed (name : String) (link : Link) (found : wiring.links name = some link) (distinct : link.addresses.Nodup) :
    serves whimsical (.dumpAddresses link.index) wiring.host (some link.addresses) wiring.host := by
  refine ⟨rfl, distinct, fun address => ⟨fun member => ⟨name, link, found, rfl, member⟩, ?_⟩⟩
  intro given
  obtain ⟨other, there, present, same, member⟩ := given
  cases wiring.host.distinct other name there link present found same
  cases found.symm.trans present
  exact member

theorem Wiring.listed_own (distinct : wiring.addresses.Nodup) :
    serves whimsical (.dumpAddresses 7) wiring.host (some wiring.addresses) wiring.host :=
  wiring.listed "awg0" (tunnelLink 7 wiring.addresses wiring.tunnel) rfl distinct

theorem Wiring.dropped (address : IpCidr) (addresses : List IpCidr)
    (drops : (tunnelLink 7 wiring.addresses wiring.tunnel).Drops address addresses) :
    serves whimsical (.deleteAddress 7 address) wiring.host (some ()) { wiring with addresses : Wiring }.host :=
  ⟨"awg0", _, _, rfl, rfl, ⟨addresses, drops, rfl⟩, wiring.alters_own addresses wiring.tunnel⟩

theorem Wiring.assigned (address : IpCidr) (addresses : List IpCidr)
    (gains : (tunnelLink 7 wiring.addresses wiring.tunnel).Gains address addresses) :
    serves whimsical (.replaceAddress 7 address) wiring.host (some ()) { wiring with addresses : Wiring }.host :=
  ⟨"awg0", _, _, rfl, rfl, ⟨addresses, gains, rfl⟩, wiring.alters_own addresses wiring.tunnel⟩

theorem Wiring.raised : serves whimsical (.setUp 7) wiring.host (some ())
    { wiring with addresses := wiring.addresses ++ [] : Wiring }.host :=
  ⟨"awg0", _, _, rfl, rfl, ⟨[], rfl, fun _ => rfl, by simp⟩, wiring.alters_own _ wiring.tunnel⟩

theorem Wiring.set (attrs : List DeviceAttribute) : serves whimsical (.setDevice "awg0" attrs) wiring.host (some ())
    { wiring with tunnel := wiring.tunnel.setDevice attrs : Wiring }.host :=
  ⟨_, rfl, rfl, wiring.alters_own wiring.addresses (wiring.tunnel.setDevice attrs)⟩

theorem Wiring.answered : serves whimsical (.getDevice "awg0") wiring.host (some wiring.tunnel.peers.device) wiring.host :=
  ⟨rfl, _, wiring.tunnel, rfl, rfl, rfl⟩

end granted

def tenOne : IpCidr := ⟨.v4 0x0a000001, 24, by decide⟩

def tenNine : IpCidr := ⟨.v4 0x0a090009, 24, by decide⟩

def fdOne : IpCidr := ⟨.v6 0xfd000000000000000000000000000001, 64, by decide⟩

/-- The link of the config has one of its addresses, and another. -/
def strayed : Wiring where
  addresses := [tenOne, tenNine]
  strayed := true

def collected : Wiring where
  addresses := [tenOne]

theorem gains_new {link : Link} {address : IpCidr} : link.Gains address (link.addresses ++ [address]) where
  kept := fun _ member => List.mem_append_left _ member
  only := fun _ member => (List.mem_append.mp member).imp_right List.mem_singleton.mp
  held := .inl (List.mem_append_right _ (List.mem_singleton_self _))

theorem gains_old {link : Link} {address : IpCidr} (there : address ∈ link.addresses) : link.Gains address link.addresses where
  kept := fun _ member => member
  only := fun _ member => .inl member
  held := .inl there

theorem drops_tenNine (tunnel : Host.Tunnel) : (tunnelLink 7 [tenOne, tenNine] tunnel).Drops tenNine [tenOne] where
  present := by simp [tunnelLink]
  gone := by decide
  only := by simp [tunnelLink]
  spared := by
    intro other member different _
    simpa [tunnelLink, different] using member

/-- The peers of the links of the kind. -/
def peersOf (kernel : Host.Kernel) : Awg.Kernel := fun name => ((kernel.links name).bind (·.tunnel)).map (·.peers)

theorem peersOf_absent (clear : Clear cfg kernel) (unlisted : name ∉ namesOf cfg) : peersOf kernel name = none := by
  cases found : kernel.links name with
  | none => simp [peersOf, found]
  | some link =>
    have bare : link.tunnel = none := by
      cases has : link.tunnel with
      | none => rfl
      | some tunnel => exact absurd ⟨unlisted, link, found, link.driven.mp (has ▸ rfl)⟩ (clear name)
    simp [peersOf, found, bare]

theorem UpToDate.peers {before : Option Link} (upToDate : UpToDate engine resolver iface before link)
    (found : now.links iface.name = some link) :
    peersOf now iface.name =
      some ((ensureSecured engine resolver iface (peersBefore before)).toOption.getD (peersBefore before)) := by
  obtain ⟨tunnel, has, _, made⟩ := upToDate.device
  rw [made]
  simp [peersOf, found, has, Except.toOption]

/-- A start that ends well comes to its one step, as far as the peers go. -/
theorem Succeeds.refines (succeeds : Succeeds engine resolver cfg kernel tracked now) :
    peersOf now = Awg.run engine resolver cfg (peersOf kernel) := by
  have distinct : (cfg.interfaces.map (·.name)).Nodup := (validate_ok succeeds.valid).1
  let rewrite (iface : InterfaceEntry) (found : Option SecuredDevice) : Option SecuredDevice :=
    some ((ensureSecured engine resolver iface (found.getD .new)).toOption.getD (found.getD .new))
  have folded : Awg.run engine resolver cfg (peersOf kernel) =
      cfg.interfaces.foldl (writeAt InterfaceEntry.name rewrite) (Awg.gc (namesOf cfg) (peersOf kernel)) := rfl
  funext name
  rw [folded]
  by_cases listed : name ∈ namesOf cfg
  · obtain ⟨iface, member, rfl⟩ := List.mem_map.mp listed
    obtain ⟨link, found, upToDate⟩ := succeeds.started.upToDate iface member List.not_mem_nil
    have kept : Awg.gc (namesOf cfg) (peersOf kernel) iface.name = peersOf kernel iface.name := if_pos listed
    rw [run_writeAt InterfaceEntry.name rewrite distinct member, kept, upToDate.peers found]
    rfl
  · rw [run_writeAt_of_ne InterfaceEntry.name rewrite, peersOf_absent succeeds.started.clear listed]
    · exact (if_neg listed).symm
    · intro iface member same
      exact listed (same ▸ mem_namesOf member)

/-- Over a kernel that other daemons share and that may fail any request, a start that ends
well is the one step that it is over the peers alone. -/
theorem start_refines (engine : Engine) (resolver : Resolver) (cfg : AwgConfig) (kernel : Host.Kernel) :
    Meets (serves whimsical) (starting cfg) (fun _ now => peersOf now = Awg.run engine resolver cfg (peersOf kernel))
      (fun _ _ => True) (run engine resolver cfg) kernel :=
  (run_meets whimsical_reasons (.inl trivial)).mono (fun _ _ succeeds => succeeds.refines) fun _ _ _ => trivial

end Slipmesh.Awg.Startup
