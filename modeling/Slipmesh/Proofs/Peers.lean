import Slipmesh.Awg.Interface
import Slipmesh.Library.Runs
import Slipmesh.Proofs.AwgConfig
import Slipmesh.Proofs.CidrText

/-! The peers of a kernel interface after a start: what the batch of one start does to
each of the keys. -/

namespace Slipmesh.Awg
open Library Net Common

variable {engine : Engine} {device : Device}

/-! ### The kernel's entries, one by one -/

@[simp] theorem replace_peers {key other : Key} {allowedIps : List Network} {endpoint : Option SocketAddr} {flag : Bool} :
    other ∈ (device.update (.replace key allowedIps endpoint flag)).peers ↔ other = key ∨ other ∈ device.peers :=
  AList.mem_insert ..

@[simp] theorem removeMe_peers {key other : Key} :
    other ∈ (device.update (.removeMe key)).peers ↔ other ≠ key ∧ other ∈ device.peers :=
  AList.mem_erase

theorem replace_owner {key other : Key} {allowedIps : List Network} {endpoint : Option SocketAddr} {flag : Bool}
    {network : Network} :
    (device.update (.replace key allowedIps endpoint flag)).allowed.owner network = some other ↔
      if network ∈ allowedIps then other = key else other ≠ key ∧ device.allowed.owner network = some other := by
  rw [Device.update, Ownership.owner_give]
  split
  · rw [Option.some.injEq, eq_comm]
  · exact Ownership.owner_clear

theorem removeMe_owner {key other : Key} {network : Network} :
    (device.update (.removeMe key)).allowed.owner network = some other ↔
      other ≠ key ∧ device.allowed.owner network = some other :=
  Ownership.owner_clear

/-! ### What the config asks for -/

def allowedTexts (peer : PeerEntry) : List String := peer.allowedIps.getD fullTunnelAllowedIps

def Allows (peer : PeerEntry) (network : Network) : Prop := ∃ cidr ∈ allowedTexts peer, networkOf cidr = some network

/-- A validated interface whose peers have keys of their own and share no network. -/
structure Tunnel (engine : Engine) where
  cfg : AwgConfig
  accepted : validate cfg = .ok ()
  iface : InterfaceEntry
  listed : iface ∈ cfg.interfaces
  decoded : ∀ peer ∈ iface.peers, ∃ key, decodeKey engine peer.publicKey = .ok key
  distinct : ∀ p ∈ iface.peers, ∀ q ∈ iface.peers,
    decodeKey engine p.publicKey = decodeKey engine q.publicKey → p = q
  disjoint : ∀ p ∈ iface.peers, ∀ q ∈ iface.peers, ∀ network, Allows p network → Allows q network → p = q

/-- The kernel's peers are the configured keys, each with its networks. -/
structure Converged (tunnel : Tunnel engine) (device : Device) : Prop where
  keys : ∀ key, key ∈ device.peers ↔ ∃ peer ∈ tunnel.iface.peers, decodeKey engine peer.publicKey = .ok key
  networks : ∀ peer ∈ tunnel.iface.peers, ∀ key, decodeKey engine peer.publicKey = .ok key →
    ∀ network, network ∈ device.allowed.held key ↔ Allows peer network

/-- The peer is in the kernel under the key, with its networks. -/
structure Placed (peer : PeerEntry) (key : Key) (device : Device) : Prop where
  present : key ∈ device.peers
  networks : ∀ network, device.allowed.owner network = some key ↔ Allows peer network

theorem mapM_networkOf {texts : List String} {networks : List Network} (read : texts.mapM networkOf = some networks)
    {network : Network} : network ∈ networks ↔ ∃ cidr ∈ texts, networkOf cidr = some network := by
  induction texts generalizing networks with
  | nil =>
    cases read
    simp
  | cons text texts ih =>
    simp only [List.mapM_cons, Option.bind_eq_bind, Option.bind_eq_some_iff, Option.pure_def, Option.some.injEq] at read
    obtain ⟨first, parsed, rest, others, rfl⟩ := read
    rw [List.mem_cons, ih others, List.exists_mem_cons_iff, parsed, Option.some.injEq, eq_comm]

theorem Placed.of_replace {peer : PeerEntry} {key : Key} {allowedIps : List Network} {endpoint : Option SocketAddr}
    {flag : Bool} (read : (allowedTexts peer).mapM networkOf = some allowedIps) :
    Placed peer key (device.update (.replace key allowedIps endpoint flag)) := by
  refine ⟨replace_peers.mpr (.inl rfl), ?_⟩
  intro network
  rw [replace_owner, Allows, ← mapM_networkOf read]
  split
  · rename_i member
    exact ⟨fun _ => member, fun _ => rfl⟩
  · rename_i absent
    exact ⟨fun holds => (holds.1 rfl).elim, fun member => (absent member).elim⟩

theorem Placed.replace {peer : PeerEntry} {key other : Key} {allowedIps : List Network} {endpoint : Option SocketAddr}
    {flag : Bool} (placed : Placed peer key device) (different : key ≠ other)
    (apart : ∀ network ∈ allowedIps, ¬ Allows peer network) :
    Placed peer key (device.update (.replace other allowedIps endpoint flag)) := by
  refine ⟨replace_peers.mpr (.inr placed.present), ?_⟩
  intro network
  rw [replace_owner]
  split
  · rename_i member
    exact ⟨fun same => (different same).elim, fun allows => (apart network member allows).elim⟩
  · rw [placed.networks network]
    exact ⟨fun holds => holds.2, fun allows => ⟨different, allows⟩⟩

theorem Placed.removeMe {peer : PeerEntry} {key other : Key} (placed : Placed peer key device) (different : key ≠ other) :
    Placed peer key (device.update (.removeMe other)) := by
  refine ⟨removeMe_peers.mpr ⟨different, placed.present⟩, ?_⟩
  intro network
  rw [removeMe_owner, placed.networks network]
  exact ⟨fun holds => holds.2, fun allows => ⟨different, allows⟩⟩

/-! ### What the daemon reads and wants -/

theorem mem_currentPeers {peer : Peer} : peer ∈ currentPeers engine device ↔
    ∃ key endpoint, device.peers.lookup key = some endpoint ∧
      peer = ⟨encodeKey engine key, (device.allowed.held key).map Network.text, endpoint.map SocketAddr.text, false⟩ := by
  rw [currentPeers, List.mem_map]
  constructor
  · intro given
    obtain ⟨⟨key, endpoint⟩, member, same⟩ := given
    exact ⟨key, endpoint, AList.mem_lookup_iff.mpr member, same.symm⟩
  · intro given
    obtain ⟨key, endpoint, found, same⟩ := given
    exact ⟨⟨key, endpoint⟩, AList.mem_lookup_iff.mp found, same.symm⟩

theorem currentPeers_keys : ((currentPeers engine device).map (·.publicKey)).Nodup := by
  rw [currentPeers, List.map_map]
  have nodup : (device.peers.entries.map Sigma.fst).Nodup := device.peers.nodupKeys
  have same : ((·.publicKey) ∘ fun entry : (_ : Key) × Option SocketAddr =>
      (⟨encodeKey engine entry.1, (device.allowed.held entry.1).map Network.text, entry.2.map SocketAddr.text, false⟩ : Peer)) =
      encodeKey engine ∘ Sigma.fst := rfl
  rw [same, ← List.map_map]
  exact nodup.map fun _ _ => encodeKey_inj

theorem mem_currentKeys {text : String} : text ∈ (currentPeers engine device).map (·.publicKey) ↔
    ∃ key ∈ device.peers, encodeKey engine key = text := by
  rw [List.mem_map]
  constructor
  · intro given
    obtain ⟨peer, member, same⟩ := given
    obtain ⟨key, endpoint, found, rfl⟩ := mem_currentPeers.mp member
    exact ⟨key, AList.lookup_isSome.mp (Option.isSome_of_eq_some found), same⟩
  · intro given
    obtain ⟨key, present, same⟩ := given
    obtain ⟨endpoint, found⟩ := Option.isSome_iff_exists.mp (AList.lookup_isSome.mpr present)
    exact ⟨_, mem_currentPeers.mpr ⟨key, endpoint, found, rfl⟩, same⟩

/-- A start at which every endpoint resolves. -/
structure Start (iface : InterfaceEntry) where
  resolver : Resolver
  resolves : ∀ peer ∈ iface.peers, ∀ host ∈ peer.endpoint, (resolver host).isSome

/-- What is wanted of a peer whose endpoint resolves. -/
def PeerEntry.resolvedTo (entry : PeerEntry) (endpoint : Option String) : Peer :=
  ⟨entry.publicKey, allowedTexts entry, endpoint, entry.advancedSecurity⟩

theorem Start.resolved {iface : InterfaceEntry} (start : Start iface) {entry : PeerEntry} (listed : entry ∈ iface.peers) :
    ∃ endpoint, resolvePeer start.resolver entry = some (entry.resolvedTo endpoint) := by
  have resolves := start.resolves entry listed
  unfold resolvePeer
  cases host : entry.endpoint with
  | none => exact ⟨none, rfl⟩
  | some hostPort =>
    obtain ⟨addr, found⟩ := Option.isSome_iff_exists.mp (resolves hostPort host)
    refine ⟨some (SocketAddr.text addr), ?_⟩
    simp [found, PeerEntry.resolvedTo, allowedTexts]

theorem Start.desired {iface : InterfaceEntry} (start : Start iface) (previous : List Peer) :
    desiredPeers start.resolver previous iface.peers = iface.peers.filterMap (resolvePeer start.resolver) := by
  unfold desiredPeers
  apply List.filterMap_congr
  intro entry listed
  obtain ⟨endpoint, resolved⟩ := start.resolved listed
  rw [resolved, Option.some_or]

theorem Start.desired_keys {iface : InterfaceEntry} (start : Start iface) :
    (iface.peers.filterMap (resolvePeer start.resolver)).map (·.publicKey) = iface.peers.map (·.publicKey) := by
  have general (peers : List PeerEntry) (inside : ∀ entry ∈ peers, entry ∈ iface.peers) :
      (peers.filterMap (resolvePeer start.resolver)).map (·.publicKey) = peers.map (·.publicKey) := by
    induction peers with
    | nil => rfl
    | cons entry peers ih =>
      obtain ⟨endpoint, resolved⟩ := start.resolved (inside entry (List.mem_cons_self ..))
      rw [List.filterMap_cons_some resolved, List.map_cons, List.map_cons,
        ih fun other member => inside other (List.mem_cons_of_mem _ member)]
      rfl
  exact general iface.peers fun _ listed => listed

/-! ### The difference -/

theorem byKey_find? {peers : List Peer} (distinct : (peers.map (·.publicKey)).Nodup) {key : String} {peer : Peer} :
    (byKey peers).find? key = some peer ↔ peer ∈ peers ∧ peer.publicKey = key := by
  have pairs : ((peers.map fun peer => (peer.publicKey, peer)).map Prod.fst).Nodup := by
    rwa [List.map_map]
  rw [byKey, SortedMap.find?_ofPairs pairs, List.mem_map]
  constructor
  · intro given
    obtain ⟨other, member, same⟩ := given
    cases same
    exact ⟨member, rfl⟩
  · intro given
    obtain ⟨member, same⟩ := given
    exact ⟨peer, member, by rw [same]⟩

/-- The peers to add or replace, and then the keys left over. -/
structure Difference (previous desired : List Peer) (replaced removed : List (String × Option Peer)) : Prop where
  split : diffPeers previous desired = replaced ++ removed
  replaces : ∀ op, op ∈ replaced ↔ ∃ peer ∈ desired, op = (peer.publicKey, some peer) ∧
    ¬ ∃ prev ∈ previous, prev.publicKey = peer.publicKey ∧ unchanged prev peer
  removes : ∀ op, op ∈ removed ↔
    ∃ key ∈ previous.map (·.publicKey), op = (key, none) ∧ key ∉ desired.map (·.publicKey)

theorem diffPeers_difference {previous desired : List Peer} (distinctPrevious : (previous.map (·.publicKey)).Nodup)
    (distinctDesired : (desired.map (·.publicKey)).Nodup) :
    ∃ replaced removed, Difference previous desired replaced removed := by
  refine ⟨_, _, rfl, ?_, ?_⟩
  · intro op
    rw [List.mem_filterMap]
    constructor
    · intro given
      obtain ⟨⟨key, peer⟩, member, kept⟩ := given
      obtain ⟨wanted, rfl⟩ := (byKey_find? distinctDesired).mp (SortedMap.mem_entries.mp member)
      by_cases moved : ∃ prev ∈ (byKey previous).find? peer.publicKey, unchanged prev peer
      · simp only [if_pos moved, reduceCtorEq] at kept
      · simp only [if_neg moved, Option.some.injEq] at kept
        refine ⟨peer, wanted, kept.symm, ?_⟩
        intro given
        obtain ⟨prev, held, same, unmoved⟩ := given
        exact moved ⟨prev, (byKey_find? distinctPrevious).mpr ⟨held, same⟩, unmoved⟩
    · intro given
      obtain ⟨peer, wanted, same, changed⟩ := given
      refine ⟨(peer.publicKey, peer), SortedMap.mem_entries.mpr ((byKey_find? distinctDesired).mpr ⟨wanted, rfl⟩), ?_⟩
      have moved : ¬ ∃ prev ∈ (byKey previous).find? peer.publicKey, unchanged prev peer := by
        intro given
        obtain ⟨prev, found, unmoved⟩ := given
        obtain ⟨held, key⟩ := (byKey_find? distinctPrevious).mp found
        exact changed ⟨prev, held, key, unmoved⟩
      simp only [if_neg moved, same]
  · intro op
    have listed {peers : List Peer} (distinct : (peers.map (·.publicKey)).Nodup) {key : String} :
        ((byKey peers).find? key).isSome ↔ key ∈ peers.map (·.publicKey) := by
      rw [Option.isSome_iff_exists, List.mem_map]
      exact exists_congr fun peer => byKey_find? distinct
    rw [List.mem_filterMap]
    constructor
    · intro given
      obtain ⟨key, member, kept⟩ := given
      have held := (listed distinctPrevious).mp (SortedMap.mem_keys.mp member)
      split at kept
      · cases kept
      · rename_i unwanted
        cases kept
        exact ⟨key, held, rfl, fun wanted => unwanted ((listed distinctDesired).mpr wanted)⟩
    · intro given
      obtain ⟨key, held, same, unwanted⟩ := given
      refine ⟨key, SortedMap.mem_keys.mpr ((listed distinctPrevious).mpr held), ?_⟩
      rw [same, if_neg fun wanted => unwanted ((listed distinctDesired).mp wanted)]

/-! ### The entries of one start -/

/-- The entries that a start sends for an interface. -/
def startUpdates (engine : Engine) (resolver : Resolver) (iface : InterfaceEntry) (device : Device) : List PeerUpdate :=
  let previous := currentPeers engine device
  (diffPeers previous (desiredPeers resolver previous iface.peers)).filterMap (peerUpdate engine)

/-- What a start sends: the configured peers that differ, then the removal of every key
that no configured text spells the way the kernel does. -/
structure Sent {iface : InterfaceEntry} (engine : Engine) (start : Start iface) (device : Device)
    (replaces removes : List PeerUpdate) : Prop where
  split : startUpdates engine start.resolver iface device = replaces ++ removes
  replaces : ∀ update, update ∈ replaces ↔ ∃ peer ∈ iface.peers, ∃ endpoint key allowedIps,
    resolvePeer start.resolver peer = some (peer.resolvedTo endpoint) ∧ decodeKey engine peer.publicKey = .ok key ∧
    (allowedTexts peer).mapM networkOf = some allowedIps ∧
    update = .replace key allowedIps (endpoint.bind parseSocketAddr) peer.advancedSecurity ∧
    ¬ ∃ prev ∈ currentPeers engine device, prev.publicKey = peer.publicKey ∧ unchanged prev (peer.resolvedTo endpoint)
  removes : ∀ update, update ∈ removes ↔ ∃ key ∈ device.peers, update = .removeMe key ∧
    encodeKey engine key ∉ iface.peers.map (·.publicKey)

theorem ValidInterface.networks {iface : InterfaceEntry} (valid : ValidInterface iface) {peer : PeerEntry}
    (listed : peer ∈ iface.peers) : ∃ networks, (allowedTexts peer).mapM networkOf = some networks := by
  have each : ∀ cidr ∈ allowedTexts peer, ∃ network, networkOf cidr = some network := by
    intro cidr member
    cases given : peer.allowedIps with
    | none =>
      have known : ∀ cidr ∈ fullTunnelAllowedIps, (networkOf cidr).isSome := by decide
      rw [allowedTexts, given] at member
      exact Option.isSome_iff_exists.mp (known cidr member)
    | some allowedIps =>
      rw [allowedTexts, given] at member
      obtain ⟨net, parsed⟩ := valid.parsed peer listed cidr (by rwa [given])
      exact ⟨_, by rw [networkOf, parsed]⟩
  generalize allowedTexts peer = texts at each
  induction texts with
  | nil => exact ⟨[], rfl⟩
  | cons text texts ih =>
    obtain ⟨first, parsed⟩ := each text (List.mem_cons_self ..)
    obtain ⟨rest, others⟩ := ih fun cidr member => each cidr (List.mem_cons_of_mem _ member)
    exact ⟨first :: rest, by simp [parsed, others]⟩

theorem peerUpdate_some {key : Key} {peer : Peer} {allowedIps : List Network}
    (decoded : decodeKey engine peer.publicKey = .ok key) (read : peer.allowedIps.mapM networkOf = some allowedIps) :
    peerUpdate engine (peer.publicKey, some peer) =
      some (.replace key allowedIps (peer.endpoint.bind parseSocketAddr) peer.advancedSecurity) := by
  simp [peerUpdate, decoded, read, Except.toOption]

theorem peerUpdate_undecodable {peer : Peer} {reason : KeyError} (fails : decodeKey engine peer.publicKey = .error reason) :
    peerUpdate engine (peer.publicKey, some peer) = none := by
  simp [peerUpdate, fails, Except.toOption]

theorem peerUpdate_none {key : Key} : peerUpdate engine (encodeKey engine key, none) = some (.removeMe key) := by
  simp [peerUpdate, Except.toOption]

theorem startUpdates_sent {iface : InterfaceEntry} (valid : ValidInterface iface) (start : Start iface) (device : Device) :
    ∃ replaces removes, Sent engine start device replaces removes := by
  have wanted : ((iface.peers.filterMap (resolvePeer start.resolver)).map (·.publicKey)).Nodup := by
    rw [start.desired_keys]
    exact valid.keys
  have held : ((currentPeers engine device).map (·.publicKey)).Nodup := currentPeers_keys
  obtain ⟨replaced, removed, difference⟩ := diffPeers_difference held wanted
  refine ⟨replaced.filterMap (peerUpdate engine), removed.filterMap (peerUpdate engine), ?_, ?_, ?_⟩
  · simp only [startUpdates, start.desired, difference.split, List.filterMap_append]
  · intro update
    rw [List.mem_filterMap]
    constructor
    · intro given
      obtain ⟨op, inside, sent⟩ := given
      obtain ⟨desired, want, rfl, moved⟩ := (difference.replaces op).mp inside
      obtain ⟨peer, listed, resolves⟩ := List.mem_filterMap.mp want
      obtain ⟨endpoint, resolved⟩ := start.resolved listed
      cases resolved.symm.trans resolves
      obtain ⟨networks, read⟩ := valid.networks listed
      cases decoded : decodeKey engine peer.publicKey with
      | error reason =>
        have skipped := @peerUpdate_undecodable engine (peer.resolvedTo endpoint) reason decoded
        cases skipped.symm.trans sent
      | ok key =>
        have known := @peerUpdate_some engine key (peer.resolvedTo endpoint) networks decoded read
        exact ⟨peer, listed, endpoint, key, networks, resolved, decoded, read, Option.some.inj (sent.symm.trans known), moved⟩
    · intro given
      obtain ⟨peer, listed, endpoint, key, networks, resolved, decoded, read, rfl, moved⟩ := given
      have op := (difference.replaces _).mpr ⟨_, List.mem_filterMap.mpr ⟨peer, listed, resolved⟩, rfl, moved⟩
      exact ⟨_, op, @peerUpdate_some engine key (peer.resolvedTo endpoint) networks decoded read⟩
  · intro update
    rw [List.mem_filterMap]
    constructor
    · intro given
      obtain ⟨op, inside, sent⟩ := given
      obtain ⟨text, held, rfl, unwanted⟩ := (difference.removes op).mp inside
      obtain ⟨key, present, rfl⟩ := mem_currentKeys.mp held
      rw [peerUpdate_none] at sent
      rw [start.desired_keys] at unwanted
      exact ⟨key, present, (Option.some.inj sent).symm, unwanted⟩
    · intro given
      obtain ⟨key, present, sent, unwanted⟩ := given
      rw [← start.desired_keys] at unwanted
      have op := (difference.removes _).mpr ⟨_, mem_currentKeys.mpr ⟨key, present, rfl⟩, rfl, unwanted⟩
      exact ⟨_, op, sent ▸ peerUpdate_none⟩

/-! ### The batch of one start -/

/-- The entries that a start sends: the peers that differ, then the keys that no
configured text spells the way the kernel does. -/
structure Batch (tunnel : Tunnel engine) (device : Device) (replaces removes : List PeerUpdate) : Prop where
  ours : ∀ update ∈ replaces, ∃ peer ∈ tunnel.iface.peers, ∃ key allowedIps endpoint flag,
    decodeKey engine peer.publicKey = .ok key ∧ (allowedTexts peer).mapM networkOf = some allowedIps ∧
      update = .replace key allowedIps endpoint flag
  covers : ∀ peer ∈ tunnel.iface.peers, ∀ key, decodeKey engine peer.publicKey = .ok key → Placed peer key device ∨
    ∃ allowedIps endpoint flag, (allowedTexts peer).mapM networkOf = some allowedIps ∧
      .replace key allowedIps endpoint flag ∈ replaces
  leftOver : ∀ update, update ∈ removes ↔ ∃ key ∈ device.peers, update = .removeMe key ∧
    encodeKey engine key ∉ tunnel.iface.peers.map (·.publicKey)

theorem Tunnel.valid (tunnel : Tunnel engine) : ValidInterface tunnel.iface :=
  (validate_ok tunnel.accepted).2 tunnel.iface tunnel.listed

/-- A peer whose texts the kernel reports as they are configured is already in place. -/
theorem placed_of_unchanged {peer : PeerEntry} {prev : Peer} {key : Key} {endpoint : Option String}
    (decoded : decodeKey engine peer.publicKey = .ok key) (held : prev ∈ currentPeers engine device)
    (same : prev.publicKey = peer.publicKey) (unmoved : unchanged prev (peer.resolvedTo endpoint)) :
    Placed peer key device := by
  obtain ⟨other, found, present, rfl⟩ := mem_currentPeers.mp held
  have spelled : encodeKey engine other = peer.publicKey := same
  rw [← spelled, decodeKey_encodeKey] at decoded
  cases decoded
  refine ⟨AList.lookup_isSome.mp (Option.isSome_of_eq_some present), ?_⟩
  intro network
  rw [← Ownership.mem_held]
  obtain ⟨⟨reported, configured⟩, _⟩ := unmoved
  constructor
  · intro owned
    exact ⟨network.text, reported (List.mem_map_of_mem owned), networkOf_text network⟩
  · intro given
    obtain ⟨cidr, member, named⟩ := given
    obtain ⟨other, owned, rfl⟩ := List.mem_map.mp (configured member)
    rw [networkOf_text] at named
    cases named
    exact owned

/-- Every start past `set_identity` sends such a batch. -/
theorem ensureInterface_batch (tunnel : Tunnel engine) (start : Start tunnel.iface) (device : Device)
    (identified : setIdentity engine tunnel.iface = .ok ()) : ∃ replaces removes, Batch tunnel device replaces removes ∧
      ensureInterface engine start.resolver tunnel.iface device = .ok (device.set (replaces ++ removes)) := by
  obtain ⟨replaces, removes, sent⟩ := @startUpdates_sent engine _ tunnel.valid start device
  refine ⟨replaces, removes, ⟨?_, ?_, sent.removes⟩, ?_⟩
  · intro update member
    obtain ⟨peer, listed, endpoint, key, networks, _, decoded, read, rfl, _⟩ := (sent.replaces update).mp member
    exact ⟨peer, listed, key, networks, _, _, decoded, read, rfl⟩
  · intro peer listed key decoded
    obtain ⟨endpoint, resolved⟩ := start.resolved listed
    obtain ⟨networks, read⟩ := tunnel.valid.networks listed
    by_cases moved : ∃ prev ∈ currentPeers engine device, prev.publicKey = peer.publicKey ∧
        unchanged prev (peer.resolvedTo endpoint)
    · obtain ⟨prev, held, same, unmoved⟩ := moved
      exact .inl (placed_of_unchanged decoded held same unmoved)
    · exact .inr ⟨networks, _, _, read,
        (sent.replaces _).mpr ⟨peer, listed, endpoint, key, networks, resolved, decoded, read, rfl, moved⟩⟩
  · rw [ensureInterface, identified, ← sent.split]
    rfl

/-! ### After the batch -/

variable {tunnel : Tunnel engine} {replaces removes : List PeerUpdate}

/-- Each configured peer is in place once the first half of the batch has run. -/
theorem Batch.placed (batch : Batch tunnel device replaces removes) {peer : PeerEntry} (listed : peer ∈ tunnel.iface.peers)
    {key : Key} (decoded : decodeKey engine peer.publicKey = .ok key) : Placed peer key (device.set replaces) := by
  have keeps : ∀ state, ∀ update ∈ replaces, Placed peer key state → Placed peer key (state.update update) := by
    intro state update member placed
    obtain ⟨other, otherListed, otherKey, networks, endpoint, flag, otherDecoded, read, rfl⟩ := batch.ours update member
    by_cases same : other = peer
    · subst same
      cases otherDecoded.symm.trans decoded
      exact .of_replace read
    · apply placed.replace
      · intro sameKey
        exact same (tunnel.distinct other otherListed peer listed (otherDecoded.trans (sameKey ▸ decoded.symm)))
      · intro network given allows
        exact same (tunnel.disjoint other otherListed peer listed network ((mapM_networkOf read).mp given) allows)
  obtain already | ⟨networks, endpoint, flag, read, sent⟩ := batch.covers peer listed key decoded
  · exact run_invariant_mem (Placed peer key) replaces keeps already
  · exact run_establishes (Placed peer key) replaces keeps sent (fun _ => .of_replace read) device

/-- It stays there as long as the kernel does not report its key in another spelling. -/
theorem Batch.placed_spelled (batch : Batch tunnel device replaces removes) {peer : PeerEntry}
    (listed : peer ∈ tunnel.iface.peers) {key : Key} (decoded : decodeKey engine peer.publicKey = .ok key)
    (spelled : key ∈ device.peers → peer.publicKey = encodeKey engine key) :
    Placed peer key (device.set (replaces ++ removes)) := by
  rw [Device.set, List.foldl_append]
  apply run_invariant_mem (Placed peer key) removes _ (batch.placed listed decoded)
  intro state update member placed
  obtain ⟨other, present, rfl, unwanted⟩ := (batch.leftOver update).mp member
  apply placed.removeMe
  intro same
  subst same
  exact unwanted (List.mem_map.mpr ⟨peer, listed, spelled present⟩)

/-- A key that no configured peer has is gone. -/
theorem Batch.gone (batch : Batch tunnel device replaces removes) {key : Key}
    (foreign : ∀ peer ∈ tunnel.iface.peers, decodeKey engine peer.publicKey ≠ .ok key) :
    key ∉ (device.set (replaces ++ removes)).peers := by
  have keeps : ∀ state : Device, ∀ update ∈ replaces ++ removes, key ∉ state.peers → key ∉ (state.update update).peers := by
    intro state update member absent
    cases List.mem_append.mp member with
    | inl sent =>
      obtain ⟨peer, listed, other, networks, endpoint, flag, decoded, _, rfl⟩ := batch.ours update sent
      rw [replace_peers, not_or]
      exact ⟨fun same => foreign peer listed (same ▸ decoded), absent⟩
    | inr sent =>
      obtain ⟨other, _, rfl, _⟩ := (batch.leftOver update).mp sent
      rw [removeMe_peers, not_and]
      exact fun _ => absent
  by_cases present : key ∈ device.peers
  · have unwanted : encodeKey engine key ∉ tunnel.iface.peers.map (·.publicKey) := by
      intro member
      obtain ⟨peer, listed, same⟩ := List.mem_map.mp member
      exact foreign peer listed (same ▸ decodeKey_encodeKey engine key)
    have sent := (batch.leftOver _).mpr ⟨key, present, rfl, unwanted⟩
    apply run_establishes (fun state : Device => key ∉ state.peers) _ keeps (List.mem_append_right _ sent)
    intro state
    rw [removeMe_peers]
    exact fun holds => holds.1 rfl
  · exact run_invariant_mem (fun state : Device => key ∉ state.peers) _ keeps present

/-- A configured peer whose key the kernel reports in another spelling is taken out by
the second half of the batch. -/
theorem Batch.lost (batch : Batch tunnel device replaces removes) {peer : PeerEntry} (listed : peer ∈ tunnel.iface.peers)
    {key : Key} (decoded : decodeKey engine peer.publicKey = .ok key) (present : key ∈ device.peers)
    (differs : peer.publicKey ≠ encodeKey engine key) : key ∉ (device.set (replaces ++ removes)).peers := by
  have unwanted : encodeKey engine key ∉ tunnel.iface.peers.map (·.publicKey) := by
    intro member
    obtain ⟨other, otherListed, same⟩ := List.mem_map.mp member
    have otherDecoded : decodeKey engine other.publicKey = .ok key := by rw [same, decodeKey_encodeKey]
    have one := tunnel.distinct other otherListed peer listed (otherDecoded.trans decoded.symm)
    exact differs (one ▸ same)
  have sent := (batch.leftOver _).mpr ⟨key, present, rfl, unwanted⟩
  rw [Device.set, List.foldl_append]
  refine run_establishes (fun state : Device => key ∉ state.peers) removes ?_ sent ?_ _
  · intro state update member absent
    obtain ⟨other, _, rfl, _⟩ := (batch.leftOver update).mp member
    rw [removeMe_peers, not_and]
    exact fun _ => absent
  · intro state
    rw [removeMe_peers]
    exact fun holds => holds.1 rfl

/-- Each configured key that the kernel has is spelled in the config as the kernel
reports it. -/
def Spelled (tunnel : Tunnel engine) (device : Device) : Prop :=
  ∀ peer ∈ tunnel.iface.peers, ∀ key ∈ device.peers, decodeKey engine peer.publicKey = .ok key →
    peer.publicKey = encodeKey engine key

theorem Batch.converged_iff (batch : Batch tunnel device replaces removes) :
    Converged tunnel (device.set (replaces ++ removes)) ↔ Spelled tunnel device := by
  constructor
  · intro converged peer listed key present decoded
    by_contra differs
    exact batch.lost listed decoded present differs ((converged.keys key).mpr ⟨peer, listed, decoded⟩)
  · intro spelled
    have placed {peer : PeerEntry} (listed : peer ∈ tunnel.iface.peers) {key : Key}
        (decoded : decodeKey engine peer.publicKey = .ok key) :=
      batch.placed_spelled listed decoded fun present => spelled peer listed key present decoded
    refine ⟨?_, ?_⟩
    · intro key
      constructor
      · intro present
        by_contra foreign
        exact batch.gone (fun peer listed decoded => foreign ⟨peer, listed, decoded⟩) present
      · intro given
        obtain ⟨peer, listed, decoded⟩ := given
        exact (placed listed decoded).present
    · intro peer listed key decoded network
      rw [Ownership.mem_held]
      exact (placed listed decoded).networks network

/-! ### Starts after starts -/

/-- A start that fails at `set_identity` leaves the peers alone. -/
def restart (tunnel : Tunnel engine) (device : Device) (start : Start tunnel.iface) : Device :=
  match ensureInterface engine start.resolver tunnel.iface device with
  | .ok after => after
  | .error _ => device

/-- The start, where it succeeds, leaves exactly the configured peers. -/
def Converges (tunnel : Tunnel engine) (device : Device) (start : Start tunnel.iface) : Prop :=
  ∀ after, ensureInterface engine start.resolver tunnel.iface device = .ok after → Converged tunnel after

/-- The start, if it gets as far as the peers, finds the configured keys in the
kernel's spelling or not at all. -/
def FindsSpelled (tunnel : Tunnel engine) (device : Device) (_ : Start tunnel.iface) : Prop :=
  setIdentity engine tunnel.iface = .ok () → Spelled tunnel device

/-- Over any number of starts from any kernel state, every start that succeeds
leaves exactly the configured peers exactly when each finds the kernel so. -/
theorem starts_converge_iff (tunnel : Tunnel engine) (device : Device) (starts : List (Start tunnel.iface)) :
    (∀ move ∈ moves (restart tunnel) device starts, Converges tunnel move.1 move.2) ↔
      ∀ move ∈ moves (restart tunnel) device starts, FindsSpelled tunnel move.1 move.2 := by
  refine always_iff (fun _ => True) ?_ (fun _ _ _ _ => trivial) starts trivial
  intro device start _
  cases identified : setIdentity engine tunnel.iface with
  | error e =>
    have failed : ensureInterface engine start.resolver tunnel.iface device = .error e := by
      rw [ensureInterface, identified]
      rfl
    simp [Converges, FindsSpelled, identified, failed]
  | ok done =>
    obtain ⟨replaces, removes, batch, sent⟩ := ensureInterface_batch tunnel start device identified
    simp only [Converges, FindsSpelled, identified, sent, Except.ok.injEq, forall_eq', forall_true_left]
    exact batch.converged_iff

private def zeroKey : Key := default

private def zeroText : String := "AAAAAAAAAAAAAAAAAAAAAAAAAAAAAAAAAAAAAAAAAAA="

/-- The key with the line feed that a block scalar leaves at its end. -/
private def spacedPeer : PeerEntry := { publicKey := zeroText ++ "\n", allowedIps := some ["10.0.0.2/32"] }

private def spacedInterface : InterfaceEntry :=
  { name := "wg0", listenPort := 51820, privateKey := zeroText, peers := [spacedPeer] }

private theorem spaced_decoded : decodeKey standard spacedPeer.publicKey = .ok zeroKey := by decide +kernel

private def spacedTunnel : Tunnel standard where
  cfg := { interfaces := [spacedInterface] }
  accepted := by decide
  iface := spacedInterface
  listed := List.mem_singleton_self _
  decoded := by
    intro peer listed
    cases List.mem_singleton.mp listed
    exact ⟨zeroKey, spaced_decoded⟩
  distinct := by
    intro p listedP q listedQ _
    exact (List.mem_singleton.mp listedP).trans (List.mem_singleton.mp listedQ).symm
  disjoint := by
    intro p listedP q listedQ _ _ _
    exact (List.mem_singleton.mp listedP).trans (List.mem_singleton.mp listedQ).symm

private def calmStart : Start spacedInterface where
  resolver := fun _ => none
  resolves := by
    intro peer listed host given
    cases List.mem_singleton.mp listed
    cases given

/-- A start with the peer already in the kernel takes it out. -/
theorem starts_not_converge : ¬ ∀ (tunnel : Tunnel standard) (device : Device) (starts : List (Start tunnel.iface)),
    ∀ move ∈ moves (restart tunnel) device starts, Converges tunnel move.1 move.2 := by
  intro alwaysConverges
  let device : Device := ⟨AList.singleton zeroKey none, ⟨∅⟩⟩
  have converges := alwaysConverges spacedTunnel device [calmStart] _ (List.mem_singleton_self _)
  obtain ⟨replaces, removes, batch, sent⟩ := ensureInterface_batch spacedTunnel calmStart device (by decide +kernel)
  have converged := converges _ sent
  have present : zeroKey ∈ device.peers := by simp [device, AList.mem_keys]
  have gone := batch.lost (List.mem_singleton_self spacedPeer) spaced_decoded present (by decide +kernel)
  exact gone ((converged.keys zeroKey).mpr ⟨spacedPeer, List.mem_singleton_self _, spaced_decoded⟩)

end Slipmesh.Awg
