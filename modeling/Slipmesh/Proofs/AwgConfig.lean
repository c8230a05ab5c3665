import Slipmesh.Awg.Handshake
import Slipmesh.Library.Guard

/-! What `awg`'s validation promises the daemon, and what the interfaces it tracks
inherit from it. -/

namespace Slipmesh.Awg
open Library Common

structure ValidInterface (iface : InterfaceEntry) : Prop where
  keys : (iface.peers.map (·.publicKey)).Nodup
  parsed : ∀ peer ∈ iface.peers, ∀ cidr ∈ peer.allowedIps.getD [], ∃ net, parseCidr cidr = .ok net

theorem checkCidr_iff {reason : String → CidrError → ConfigError} {cidr : String} :
    checkCidr reason cidr = .ok () ↔ ∃ net, parseCidr cidr = .ok net := by
  rw [checkCidr]
  cases parsed : parseCidr cidr with
  | ok net => simp
  | error e => simp

/-- What a peer is checked for, whatever the others are. -/
structure PeerChecked (iface : InterfaceEntry) (peer : PeerEntry) : Prop where
  protection : ¬ (peer.advancedSecurity = true ∧ iface.obfuscation.headerProtectionKey.isNone = true)
  parsed : ∀ cidr ∈ peer.allowedIps.getD [], ∃ net, parseCidr cidr = .ok net

theorem validatePeers_iff {iface : InterfaceEntry} {seen : List String} {peers : List PeerEntry} :
    validatePeers iface seen peers = .ok () ↔
      (peers.map (·.publicKey)).Nodup ∧ (∀ peer ∈ peers, peer.publicKey ∉ seen) ∧ ∀ peer ∈ peers, PeerChecked iface peer := by
  apply distinct_ok
  · intro seen
    rfl
  · intro seen peer rest
    simp only [validatePeers, bind_unit_ok, throw_bind, refuse_ok, forM_ok, List.forM_eq_forM, checkCidr_iff]
    constructor
    · intro given
      obtain ⟨fresh, protection, parsed, others⟩ := given
      exact ⟨fresh, ⟨protection, parsed⟩, others⟩
    · intro given
      obtain ⟨fresh, ⟨protection, parsed⟩, others⟩ := given
      exact ⟨fresh, protection, parsed, others⟩

/-- What an interface is checked for, whatever the others are. -/
structure InterfaceChecked (iface : InterfaceEntry) : Prop where
  named : iface.name ≠ ""
  short : ¬ 15 < iface.name.utf8ByteSize
  addresses : ∀ cidr ∈ iface.addresses, ∃ net, parseCidr cidr = .ok net
  peers : validatePeers iface [] iface.peers = .ok ()

theorem validateInterfaces_iff {seen : List String} {ifaces : List InterfaceEntry} :
    validateInterfaces seen ifaces = .ok () ↔
      (ifaces.map (·.name)).Nodup ∧ (∀ iface ∈ ifaces, iface.name ∉ seen) ∧ ∀ iface ∈ ifaces, InterfaceChecked iface := by
  apply distinct_ok
  · intro seen
    rfl
  · intro seen iface rest
    simp only [validateInterfaces, bind_unit_ok, throw_bind, refuse_ok, forM_ok, List.forM_eq_forM, checkCidr_iff]
    constructor
    · intro given
      obtain ⟨named, short, fresh, addresses, peers, others⟩ := given
      exact ⟨fresh, ⟨named, short, addresses, peers⟩, others⟩
    · intro given
      obtain ⟨fresh, ⟨named, short, addresses, peers⟩, others⟩ := given
      exact ⟨named, short, fresh, addresses, peers, others⟩

theorem validate_iff {cfg : AwgConfig} :
    validate cfg = .ok () ↔ (∀ metrics, cfg.metrics = some metrics → metrics.validate "metrics.listen" = .ok ()) ∧
      (cfg.interfaces.map (·.name)).Nodup ∧ ∀ iface ∈ cfg.interfaces, InterfaceChecked iface := by
  have interfaces : validateInterfaces [] cfg.interfaces = .ok () ↔
      (cfg.interfaces.map (·.name)).Nodup ∧ ∀ iface ∈ cfg.interfaces, InterfaceChecked iface := by
    simp [validateInterfaces_iff]
  rw [validate, ← interfaces]
  cases cfg.metrics with
  | none => simp
  | some metrics => simp only [bind_unit_ok, mapError_ok, Option.some.injEq, forall_eq']

theorem validate_ok {cfg : AwgConfig} (ok : validate cfg = .ok ()) :
    (cfg.interfaces.map (·.name)).Nodup ∧ ∀ iface ∈ cfg.interfaces, ValidInterface iface := by
  obtain ⟨_, names, checked⟩ := validate_iff.mp ok
  refine ⟨names, ?_⟩
  intro iface listed
  obtain ⟨keys, _, peers⟩ := validatePeers_iff.mp (checked iface listed).peers
  exact ⟨keys, fun peer member => (peers peer member).parsed⟩

/-! ### The tracked interfaces -/

private theorem mem_trackedFrom {peers : List PeerEntry} {map : SortedMap String (List String)} {key : String}
    {allowedIps : List String}
    (member : (key, allowedIps) ∈ (peers.foldl trackPeer map).entries) :
    (key, allowedIps) ∈ map.entries ∨ ∃ peer ∈ peers, peer.publicKey = key ∧ peer.allowedIps = some allowedIps := by
  induction peers generalizing map with
  | nil => exact .inl member
  | cons peer peers ih =>
    rcases ih member with member | ⟨other, listed, holds⟩
    · rw [trackPeer] at member
      split at member
      · rename_i ips tracked
        rw [SortedMap.mem_entries, SortedMap.find?_insert] at member
        split at member
        · rename_i same
          exact .inr ⟨peer, List.mem_cons_self .., same.symm, tracked.trans member⟩
        · exact .inl (SortedMap.mem_entries.mpr member)
      · exact .inl member
    · exact .inr ⟨other, List.mem_cons_of_mem _ listed, holds⟩

theorem mem_trackedPeers {peers : List PeerEntry} {key : String} {allowedIps : List String}
    (member : (key, allowedIps) ∈ (trackedPeers peers).entries) :
    ∃ peer ∈ peers, peer.publicKey = key ∧ peer.allowedIps = some allowedIps :=
  (mem_trackedFrom member).resolve_left List.not_mem_nil

private theorem built_cons {links : LinkTable} {iface : InterfaceEntry} {ifaces : List InterfaceEntry}
    {tracked : List TrackedInterface}
    (built : buildTrackedInterfaces links ⟨iface :: ifaces, none⟩ = some tracked) :
    ∃ first rest, tracked = first :: rest ∧ links.index iface.name = some first.index ∧
      first.peers = trackedPeers iface.peers ∧ buildTrackedInterfaces links ⟨ifaces, none⟩ = some rest := by
  simp only [buildTrackedInterfaces, List.mapM_cons, Option.bind_eq_bind, Option.bind_eq_some_iff, Option.pure_def,
    Option.some.injEq] at built ⊢
  obtain ⟨first, ⟨index, found, rfl⟩, rest, others, rfl⟩ := built
  exact ⟨_, rest, rfl, found, rfl, others⟩

private theorem built_ok {links : LinkTable} {ifaces : List InterfaceEntry} {tracked : List TrackedInterface}
    (names : (ifaces.map (·.name)).Nodup) (built : buildTrackedInterfaces links ⟨ifaces, none⟩ = some tracked) :
    (tracked.map (·.index)).Nodup ∧ ∀ iface ∈ tracked, ∃ entry ∈ ifaces, links.index entry.name = some iface.index ∧
      iface.peers = trackedPeers entry.peers := by
  induction ifaces generalizing tracked with
  | nil =>
    simp only [buildTrackedInterfaces, List.mapM_nil, Option.pure_def, Option.some.injEq] at built
    subst built
    simp
  | cons iface ifaces ih =>
    obtain ⟨first, rest, rfl, found, peers, others⟩ := built_cons built
    obtain ⟨fresh, names⟩ := List.nodup_cons.mp names
    obtain ⟨indices, sources⟩ := ih names others
    refine ⟨?_, ?_⟩
    · simp only [List.map_cons, List.nodup_cons, List.mem_map, not_exists, not_and]
      refine ⟨fun other member same => ?_, indices⟩
      obtain ⟨entry, listed, index, _⟩ := sources other member
      have same_name := links.distinct entry.name iface.name first.index (same ▸ index) found
      exact fresh (List.mem_map.mpr ⟨entry, listed, same_name⟩)
    · intro other member
      rcases List.mem_cons.mp member with rfl | member
      · exact ⟨iface, List.mem_cons_self .., found, peers⟩
      · obtain ⟨entry, listed, holds⟩ := sources other member
        exact ⟨entry, List.mem_cons_of_mem _ listed, holds⟩

/-- A daemon past its startup: a validated config, and an index for each of its interfaces. -/
structure Daemon where
  cfg : AwgConfig
  valid : validate cfg = .ok ()
  links : LinkTable
  tracked : List TrackedInterface
  built : buildTrackedInterfaces links cfg = some tracked

theorem Daemon.indices (daemon : Daemon) : (daemon.tracked.map (·.index)).Nodup :=
  (built_ok (validate_ok daemon.valid).1 daemon.built).1

theorem Daemon.parsed (daemon : Daemon) {iface : TrackedInterface} (listed : iface ∈ daemon.tracked)
    {peer : String × List String} (member : peer ∈ iface.peers.entries) {cidr : String} (allowed : cidr ∈ peer.2) :
    ∃ network, networkOf cidr = some network := by
  obtain ⟨entry, source, _, peers⟩ := (built_ok (validate_ok daemon.valid).1 daemon.built).2 iface listed
  obtain ⟨config, inside, _, same⟩ := mem_trackedPeers (peers ▸ member)
  obtain ⟨net, parsed⟩ := ((validate_ok daemon.valid).2 entry source).parsed config inside cidr (by simpa [same] using allowed)
  exact ⟨_, by rw [networkOf, parsed]⟩

end Slipmesh.Awg
