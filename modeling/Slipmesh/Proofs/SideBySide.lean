import Slipmesh.Proofs.StartRuns
import Slipmesh.Proofs.TunnelAddresses
import Slipmesh.Router.Loopback

/-! `awg` and `router` at work on the links of one node at once: neither stands in the
other's way. -/

namespace Slipmesh.Host
open Net Common Library
open Router (routerLoopbackIface linkLocalFromLoopback ensureLoopback)
open Proofs.CidrText (parseCidr_written)

variable {loopback : Ipv4Addr} {ipv6Loopback : Ipv6Addr} {kernel now : Kernel} {address : IpCidr}

/-! ### The loopback -/

/-- The addresses that the loopback is to carry. -/
def Own (loopback : Ipv4Addr) (ipv6Loopback : Ipv6Addr) (address : IpCidr) : Prop :=
  (address.addr, address.len) = (.v4 loopback, 32) ∨ (address.addr, address.len) = (.v6 ipv6Loopback, 128) ∨
    (address.addr, address.len) = (.v6 (linkLocalFromLoopback ipv6Loopback), 64)

theorem reads_iff (addr : IpAddr) {len : Nat} {suffix : String} (bounded : len ≤ maxPrefix addr)
    (written : "/" ++ toString len = suffix) :
    parseCidr (IpAddr.text addr ++ suffix) = .ok address ↔ (address.addr, address.len) = (addr, len) := by
  rw [parseCidr_written addr bounded written]
  obtain ⟨found, size, fits⟩ := address
  simp only [Except.ok.injEq, Cidr.mk.injEq, Prod.mk.injEq, eq_comm]

section
variable (loopback : Ipv4Addr) (ipv6Loopback : Ipv6Addr)

/-- The texts that the loopback's addresses are written as. -/
def ownTexts : List String := [Ipv4Addr.text loopback ++ "/32", Ipv6Addr.text ipv6Loopback ++ "/128",
  Ipv6Addr.text (linkLocalFromLoopback ipv6Loopback) ++ "/64"]

theorem reads_host4 :
    parseCidr (Ipv4Addr.text loopback ++ "/32") = .ok address ↔ (address.addr, address.len) = (.v4 loopback, 32) :=
  reads_iff (.v4 loopback) (by simp [maxPrefix, IpAddr.isIpv4]) (by decide)

theorem reads_host6 : parseCidr (Ipv6Addr.text ipv6Loopback ++ "/128") = .ok address ↔
    (address.addr, address.len) = (.v6 ipv6Loopback, 128) :=
  reads_iff (.v6 ipv6Loopback) (by simp [maxPrefix, IpAddr.isIpv4]) (by decide)

theorem reads_near : parseCidr (Ipv6Addr.text ipv6Loopback ++ "/64") = .ok address ↔
    (address.addr, address.len) = (.v6 ipv6Loopback, 64) :=
  reads_iff (.v6 ipv6Loopback) (by simp [maxPrefix, IpAddr.isIpv4]) (by decide)

theorem own_iff : Own loopback ipv6Loopback address ↔ ∃ cidr ∈ ownTexts loopback ipv6Loopback, parseCidr cidr = .ok address := by
  simp only [ownTexts, List.mem_cons, List.not_mem_nil, or_false, exists_eq_or_imp, exists_eq_left, reads_host4, reads_host6,
    reads_near, Own]

theorem ownTexts_parse : ∀ cidr ∈ ownTexts loopback ipv6Loopback, ∃ address, parseCidr cidr = .ok address := by
  intro cidr listed
  simp only [ownTexts, List.mem_cons, List.not_mem_nil, or_false] at listed
  rcases listed with rfl | rfl | rfl
  · exact ⟨⟨.v4 loopback, 32, by simp [maxPrefix, IpAddr.isIpv4]⟩, (reads_host4 loopback).mpr rfl⟩
  · exact ⟨⟨.v6 ipv6Loopback, 128, by simp [maxPrefix, IpAddr.isIpv4]⟩, (reads_host6 ipv6Loopback).mpr rfl⟩
  · exact ⟨⟨.v6 (linkLocalFromLoopback ipv6Loopback), 64, by simp [maxPrefix, IpAddr.isIpv4]⟩, (reads_near _).mpr rfl⟩

end

/-- The loopback is up and carries the node's addresses, and none but them and such as
the kernel gives of its own. -/
structure Carries (wanted : IpCidr → Prop) (before : Option Link) (link : Link) : Prop where
  index : ∀ old, before = some old → link.index = old.index
  up : link.up = true
  own : ∀ address, wanted address → Held link.addresses address
  rest : ∀ address ∈ link.addresses, wanted address ∨ LinkLocal address

section
variable {refusable : Kernel → Request → Prop} {excused : Prop}
  (reasons : ∀ now request, refusable now request → excused ∨ now.Reason request)

include reasons in
theorem addressed_meets {name kind : String} {cidrs : List String} {wanted : IpCidr → Prop} {before : Option Link}
    (start : kernel.links name = before) (parses : ∀ cidr ∈ cidrs, ∃ address, parseCidr cidr = .ok address)
    (exactly : ∀ address, wanted address ↔ ∃ cidr ∈ cidrs, parseCidr cidr = .ok address)
    (roomy : excused ∨ Roomy wanted (addressesOf before)) : Meets (serves refusable) (tending name kind wanted)
      (fun _ now => ∃ link, now.links name = some link ∧ Carries wanted before link) (fun _ _ => excused)
      (do let (index, _) ← ensureLink name kind; ensureAddresses index cidrs; setUp index) kernel := by
  apply meets_bind
  refine (ensureLink_meets reasons start).imp ?_
  intro made now given
  obtain ⟨index, made⟩ := made
  obtain ⟨link, found, rfl, origin⟩ := given
  apply meets_bind
  refine (ensureAddresses_meets reasons found (.inr parses) exactly (origin.addresses ▸ roomy)).imp ?_
  intro _ now has
  obtain ⟨addresses, found, settled⟩ := has
  refine (setUp_meets reasons found).imp ?_
  intro _ now given
  obtain ⟨gained, found, _, linkLocal⟩ := given
  refine ⟨_, found, ?_⟩
  constructor
  · rintro old rfl
    rcases origin with same | ⟨absent, _⟩
    · cases same
      rfl
    · cases absent
  · rfl
  · intro address own
    exact (settled.held address own).mono fun one member => List.mem_append_left _ member
  · intro address member
    rcases List.mem_append.mp member with kept | new
    · exact .inl (settled.only address kept)
    · exact .inr (linkLocal address new)

include reasons in
theorem ensureLoopback_meets {before : Option Link} (start : kernel.links routerLoopbackIface = before)
    (roomy : excused ∨ Roomy (Own loopback ipv6Loopback) (addressesOf before)) :
    Meets (serves refusable) (tending routerLoopbackIface "dummy" (Own loopback ipv6Loopback))
      (fun _ now => ∃ link, now.links routerLoopbackIface = some link ∧ Carries (Own loopback ipv6Loopback) before link)
      (fun _ _ => excused) (ensureLoopback loopback ipv6Loopback) kernel := by
  exact addressed_meets reasons start (ownTexts_parse loopback ipv6Loopback) (fun address => own_iff loopback ipv6Loopback) roomy

end

/-! ### Both at once -/

/-- The link is not of the kind that `awg` takes for its own. -/
def Undriven (kernel : Kernel) : Prop := ∀ link, kernel.links routerLoopbackIface = some link → link.kind ≠ some amneziawg

theorem Undriven.same (undriven : Undriven kernel) (same : now.links routerLoopbackIface = kernel.links routerLoopbackIface) :
    Undriven now :=
  fun link found => undriven link (same.symm.trans found)

theorem Undriven.tended {wanted : IpCidr → Prop} (undriven : Undriven kernel)
    (tends : Tends routerLoopbackIface "dummy" wanted kernel now) : Undriven now := by
  intro link found
  cases before : kernel.links routerLoopbackIface with
  | none =>
    rw [tends.born before link found]
    decide
  | some old =>
    obtain ⟨later, present, evolves⟩ := tends.evolves old before
    rw [present] at found
    cases found
    rw [evolves.kind]
    exact undriven old before

/-- The router sees to its loopback, and reckons with an `awg` that would take a link of
its kind. -/
def looping (wanted : IpCidr → Prop) : Rules Kernel where
  rely before after := Undriven before → after.links routerLoopbackIface = before.links routerLoopbackIface
  guarantee before after := Undriven before ∧ Tends routerLoopbackIface "dummy" wanted before after
  still := fun _ _ => rfl
  further := by
    intro first second third one two undriven
    have same := one undriven
    exact (two (undriven.same same)).trans same

theorem ensureLoopback_looping (undriven : Undriven kernel) :
    Meets (serves whimsical) (looping (Own loopback ipv6Loopback))
      (fun _ now => ∃ link, now.links routerLoopbackIface = some link ∧
        Carries (Own loopback ipv6Loopback) (kernel.links routerLoopbackIface) link) (fun _ _ => True)
      (ensureLoopback loopback ipv6Loopback) kernel := by
  refine (ensureLoopback_meets (fun _ _ _ => .inl trivial) rfl (.inl trivial)).under Undriven ?_ ?_ ?_ undriven
  · exact fun undriven others => others undriven
  · exact fun others undriven => undriven.same (others undriven)
  · exact fun undriven tends => ⟨⟨undriven, tends⟩, undriven.tended tends⟩

inductive Daemon where
  | awg
  | router
deriving DecidableEq

abbrev Daemon.Error : Daemon → Type
  | .awg => Awg.Startup.StartError
  | .router => LinkError

abbrev Daemon.Result : Daemon → Type
  | .awg => List Awg.TrackedInterface
  | .router => Unit

section
open Awg.Startup (Leaves Careful Orderly Succeeds Fails Leftover namesOf starting)

variable (engine : Engine) (resolver : Awg.Resolver) (cfg : Awg.AwgConfig) (loopback : Ipv4Addr) (ipv6Loopback : Ipv6Addr)

/-- What each of them does to the links when it starts. -/
def starts : (daemon : Daemon) → Netlink daemon.Error daemon.Result
  | .awg => Awg.Startup.run engine resolver cfg
  | .router => ensureLoopback loopback ipv6Loopback

/-- Nobody else touches what is theirs. -/
def Elsewhere (before after : Kernel) : Prop :=
  Leaves (namesOf cfg) before after ∧ after.links routerLoopbackIface = before.links routerLoopbackIface

def ruled : Daemon → Rules Kernel
  | .awg => starting cfg
  | .router => looping (Own loopback ipv6Loopback)

def ends (kernel : Kernel) : (daemon : Daemon) → daemon.Result → Kernel → Prop
  | .awg => Succeeds engine resolver cfg kernel
  | .router => fun _ now => ∃ link, now.links routerLoopbackIface = some link ∧
      Carries (Own loopback ipv6Loopback) (kernel.links routerLoopbackIface) link

def breaks (kernel : Kernel) : (daemon : Daemon) → daemon.Error → Kernel → Prop
  | .awg => Fails engine resolver cfg kernel
  | .router => fun _ _ => True

variable {engine resolver cfg loopback ipv6Loopback}

theorem Tends.leaves {wanted : IpCidr → Prop} (unlisted : routerLoopbackIface ∉ namesOf cfg) (undriven : Undriven kernel)
    (tends : Tends routerLoopbackIface "dummy" wanted kernel now) : Leaves (namesOf cfg) kernel now := by
  intro name ours
  by_cases same : name = routerLoopbackIface
  · subst same
    rcases ours with (listed | ⟨link, found, driven⟩) | (listed | ⟨link, found, driven⟩)
    · exact absurd listed unlisted
    · exact absurd driven (undriven link found)
    · exact absurd listed unlisted
    · exact absurd driven (undriven.tended tends link found)
  · exact tends.others name same

theorem Careful.spares (unlisted : routerLoopbackIface ∉ namesOf cfg) (undriven : Undriven kernel)
    (careful : Careful cfg kernel now) :
    now.links routerLoopbackIface = kernel.links routerLoopbackIface := by
  rcases careful.strangers routerLoopbackIface unlisted with same | ⟨left, _⟩
  · exact same
  · obtain ⟨_, link, found, driven⟩ := left
    exact absurd driven (undriven link found)

theorem starts_alone (undriven : Undriven kernel) (daemon : Daemon) :
    Meets (serves whimsical) (ruled cfg loopback ipv6Loopback daemon) (ends engine resolver cfg loopback ipv6Loopback kernel daemon)
      (breaks engine resolver cfg kernel daemon) (starts engine resolver cfg loopback ipv6Loopback daemon) kernel := by
  cases daemon with
  | awg =>
    exact (Awg.Startup.run_meets Awg.Startup.whimsical_reasons (.inl trivial)).mono (fun _ _ ends => ends) fun _ _ fails => fails.2
  | router => exact ensureLoopback_looping undriven

theorem ruled_outside (daemon : Daemon) {first second : Kernel} (elsewhere : Elsewhere cfg first second) :
    (ruled cfg loopback ipv6Loopback daemon).rely first second := by
  cases daemon with
  | awg => exact elsewhere.1
  | router => exact fun _ => elsewhere.2

theorem ruled_apart (unlisted : routerLoopbackIface ∉ namesOf cfg) (own other : Daemon) (different : own ≠ other)
    {first second : Kernel} (does : (ruled cfg loopback ipv6Loopback own).guarantee first second) :
    (ruled cfg loopback ipv6Loopback other).rely first second := by
  cases own with
  | awg =>
    cases other with
    | awg => exact absurd rfl different
    | router => exact fun undriven => Careful.spares unlisted undriven does
  | router =>
    cases other with
    | awg => exact Tends.leaves unlisted does.1 does.2
    | router => exact absurd rfl different

/-- What neither of them ever undoes: the order that `awg` keeps, and what the loopback
carries already of what it is to carry. -/
structure Peaceful (cfg : Awg.AwgConfig) (wanted : IpCidr → Prop) (before after : Kernel) : Prop where
  orderly : Orderly cfg before after
  loopback : Undriven before → Undriven after ∧ ∀ link, before.links routerLoopbackIface = some link →
    ∃ later, after.links routerLoopbackIface = some later ∧ Evolves wanted link later

variable {wanted : IpCidr → Prop} {later : Kernel}

theorem Peaceful.refl (cfg : Awg.AwgConfig) (wanted : IpCidr → Prop) (kernel : Kernel) : Peaceful cfg wanted kernel kernel where
  orderly := .refl cfg kernel
  loopback := fun undriven => ⟨undriven, fun link found => ⟨link, found, .refl wanted link⟩⟩

theorem Peaceful.trans (one : Peaceful cfg wanted kernel now) (two : Peaceful cfg wanted now later) :
    Peaceful cfg wanted kernel later where
  orderly := one.orderly.trans two.orderly
  loopback := by
    intro undriven
    obtain ⟨undriven, first⟩ := one.loopback undriven
    obtain ⟨undriven, second⟩ := two.loopback undriven
    refine ⟨undriven, fun link found => ?_⟩
    obtain ⟨middle, found, evolves⟩ := first link found
    obtain ⟨last, found, more⟩ := second middle found
    exact ⟨last, found, evolves.trans more⟩

/-- The loopback is as it was. -/
theorem Peaceful.spared (orderly : Orderly cfg kernel now)
    (same : Undriven kernel → now.links routerLoopbackIface = kernel.links routerLoopbackIface) :
    Peaceful cfg wanted kernel now where
  orderly := orderly
  loopback := by
    intro undriven
    refine ⟨undriven.same (same undriven), fun link found => ⟨link, (same undriven).trans found, .refl wanted link⟩⟩

theorem ruled_peaceful (unlisted : routerLoopbackIface ∉ namesOf cfg) (daemon : Daemon)
    (does : (ruled cfg loopback ipv6Loopback daemon).guarantee kernel now) :
    Peaceful cfg (Own loopback ipv6Loopback) kernel now := by
  cases daemon with
  | awg => exact .spared does.toOrderly fun undriven => Careful.spares unlisted undriven does
  | router =>
    obtain ⟨undriven, tends⟩ := does
    exact ⟨(Tends.leaves unlisted undriven tends).orderly, fun _ => ⟨undriven.tended tends, tends.evolves⟩⟩

/-- However the requests of `awg` and `router` fall between each other at a node's start,
and whichever of them fail: each ends as it does alone, and at no moment has either undone
what the other had done. -/
theorem side_by_side {rest : (daemon : Daemon) → Netlink daemon.Error daemon.Result} (unlisted : routerLoopbackIface ∉ namesOf cfg)
    (undriven : Undriven kernel)
    (interleaves : Interleaves (serves whimsical) (Elsewhere cfg) (starts engine resolver cfg loopback ipv6Loopback) kernel rest now) :
    (∀ tracked, rest .awg = .done (.ok tracked) → Succeeds engine resolver cfg kernel tracked now) ∧
      (∀ error, rest .awg = .done (.error error) → Fails engine resolver cfg kernel error now) ∧
      (∀ done, rest .router = .done (.ok done) → ∃ link, now.links routerLoopbackIface = some link ∧
        Carries (Own loopback ipv6Loopback) (kernel.links routerLoopbackIface) link) ∧
      Peaceful cfg (Own loopback ipv6Loopback) kernel now := by
  have each := interleaves.meets (starts_alone undriven) ruled_outside (ruled_apart unlisted)
  refine ⟨?_, ?_, ?_, ?_⟩
  · intro tracked ended
    have turn := each .awg
    rw [ended] at turn
    exact turn now ((starting cfg).still now)
  · intro error ended
    have turn := each .awg
    rw [ended] at turn
    exact turn now ((starting cfg).still now)
  · intro done ended
    have turn := each .router
    rw [ended] at turn
    exact turn now fun _ => rfl
  · refine interleaves.always (starts_alone undriven) ruled_outside (ruled_apart unlisted) (Peaceful.refl cfg _) Peaceful.trans ?_
      fun daemon => ruled_peaceful unlisted daemon
    exact fun elsewhere => .spared elsewhere.1.orderly fun _ => elsewhere.2

/-! ### Both on one node -/

open Awg.Startup (Wiring dummyLink tunnelLink addressedCfg strayed tenOne tenNine fdOne drops_tenNine gains_new gains_old)

section granted

variable (wiring : Wiring)

theorem wiring_alters (up : Bool) (addresses : List IpCidr) :
    wiring.host.Alters { wiring with loopback := some (up, addresses) : Wiring }.host routerLoopbackIface
      (some (dummyLink up addresses)) := by
  refine Wiring.alters { wiring with loopback := some (up, addresses) } fun other different => ?_
  have different : other ≠ "router-lo" := different
  simp only [Wiring.links, if_neg different]

theorem wiring_added (absent : wiring.loopback = none) : serves whimsical (.addLink routerLoopbackIface "dummy") wiring.host (some ())
    { wiring with loopback := some (false, []) : Wiring }.host := by
  have absent : wiring.host.links routerLoopbackIface = none := by
    simp [Wiring.host, Wiring.links, absent, routerLoopbackIface]
  refine ⟨absent, dummyLink false [], ⟨rfl, rfl, rfl, ?_⟩, wiring_alters wiring false []⟩
  intro tunnel has
  cases has

variable {up : Bool} {addresses : List IpCidr} (there : wiring.loopback = some (up, addresses))

include there

theorem wiring_loopback : wiring.links routerLoopbackIface = some (dummyLink up addresses) := by
  simp [Wiring.links, there, routerLoopbackIface]

theorem wiring_listed (distinct : addresses.Nodup) : serves whimsical (.dumpAddresses 3) wiring.host (some addresses) wiring.host :=
  wiring.listed routerLoopbackIface (dummyLink up addresses) (wiring_loopback wiring there) distinct

theorem wiring_assigned (address : IpCidr) : serves whimsical (.replaceAddress 3 address) wiring.host (some ())
    { wiring with loopback := some (up, addresses ++ [address]) : Wiring }.host :=
  ⟨routerLoopbackIface, _, _, wiring_loopback wiring there, rfl, ⟨_, gains_new, rfl⟩, wiring_alters wiring up _⟩

theorem wiring_raised : serves whimsical (.setUp 3) wiring.host (some ())
    { wiring with loopback := some (true, addresses ++ []) : Wiring }.host :=
  ⟨routerLoopbackIface, _, _, wiring_loopback wiring there, rfl, ⟨[], rfl, fun _ => rfl, by simp⟩, wiring_alters wiring true _⟩

end granted

def ownFour : IpCidr := ⟨.v4 0x0a3e0001, 32, by decide⟩

def ownSix : IpCidr := ⟨.v6 0xfd000062000000000000000000000001, 128, by decide⟩

def nearSix : IpCidr := ⟨.v6 (linkLocalFromLoopback 0xfd000062000000000000000000000001), 64, by simp [maxPrefix, IpAddr.isIpv4]⟩

/-- The node while neither of the two links is up to date. -/
def midway (addresses loopback : List IpCidr) : Wiring := ⟨addresses, ⟨Awg.newDevice, .new⟩, false, some (false, loopback)⟩

/-- The two daemons by turns, from a node with a stray link and without the loopback. -/
theorem side_by_side_stray : ∃ tracked now,
    Succeeds standard (fun _ => none) addressedCfg strayed.host tracked now ∧
    (∃ link, now.links routerLoopbackIface = some link ∧
      Carries (Own 0x0a3e0001 0xfd000062000000000000000000000001) none link) ∧
    Peaceful addressedCfg (Own 0x0a3e0001 0xfd000062000000000000000000000001) strayed.host now := by
  have start : Interleaves (serves whimsical) (Elsewhere addressedCfg)
      (starts standard (fun _ => none) addressedCfg 0x0a3e0001 0xfd000062000000000000000000000001) strayed.host _ strayed.host := .here
  have dumped := start.asked .awg rfl (strayed.dumped rfl rfl)
  have absent := dumped.asked .router rfl (Wiring.looked _ "router-lo")
  have made := absent.asked .router rfl (wiring_added strayed rfl)
  have collected := made.asked .awg rfl (Wiring.collected _ rfl)
  have looked := (collected.asked .awg rfl (Wiring.looked _ "awg0")).asked .router rfl (Wiring.looked _ "router-lo")
  have listed := looked.asked .awg rfl (Wiring.listed_own (midway [tenOne, tenNine] []) (by decide))
  have empty := listed.asked .router rfl (wiring_listed (midway [tenOne, tenNine] []) rfl List.nodup_nil)
  have first := empty.asked .router rfl (wiring_assigned (midway [tenOne, tenNine] []) rfl ownFour)
  have dropped := first.asked .awg rfl (Wiring.dropped (midway [tenOne, tenNine] [ownFour]) tenNine [tenOne] (drops_tenNine _))
  have kept := dropped.asked .awg rfl
    (Wiring.assigned (midway [tenOne] [ownFour]) tenOne [tenOne] (gains_old (List.mem_singleton_self _)))
  have again := kept.asked .router rfl (wiring_listed (midway [tenOne] [ownFour]) rfl (List.nodup_singleton _))
  have second := again.asked .router rfl (wiring_assigned (midway [tenOne] [ownFour]) rfl ownSix)
  have listed := second.asked .awg rfl (Wiring.listed_own (midway [tenOne] [ownFour, ownSix]) (List.nodup_singleton _))
  have both := listed.asked .awg rfl (Wiring.assigned (midway [tenOne] [ownFour, ownSix]) fdOne [tenOne, fdOne] gains_new)
  have third := both.asked .router rfl (wiring_assigned (midway [tenOne, fdOne] [ownFour, ownSix]) rfl nearSix)
  have up := third.asked .awg rfl (Wiring.raised (midway [tenOne, fdOne] [ownFour, ownSix, nearSix]))
  have set := up.asked .awg rfl (Wiring.set (midway [tenOne, fdOne] [ownFour, ownSix, nearSix]) _)
  have raised := set.asked .router rfl (wiring_raised _ rfl)
  have answered := (raised.asked .awg rfl (Wiring.answered _)).asked .awg rfl (Wiring.answered _)
  have ended := answered.asked .awg rfl (Wiring.looked _ "awg0")
  have undriven : Undriven strayed.host := by
    intro link found
    cases found
  have all := side_by_side (by decide) undriven ended
  exact ⟨_, _, all.1 _ rfl, all.2.2.1 _ rfl, all.2.2.2⟩

end

end Slipmesh.Host
