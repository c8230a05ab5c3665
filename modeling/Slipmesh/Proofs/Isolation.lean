import Slipmesh.Awg.Wire
import Slipmesh.Proofs.PeerDiff

/-! A peer that cannot be resolved, or cannot be written to the kernel, is the only one
that notices. -/

namespace Slipmesh.Awg.Wire
open Library Net Common

variable {answers calm : Answers} {previous : List Peer} {peers : List PeerEntry} {entry : PeerEntry} {key : String}

/-! ### Peers that do not resolve -/

theorem desiredPeer_key {peer : Peer} (desired : desiredPeer answers previous entry = some peer) :
    peer.publicKey = entry.publicKey := by
  rcases Option.or_eq_some_iff.mp desired with resolved | ⟨_, kept⟩
  · cases host : entry.endpoint with
    | none =>
      simp only [resolvePeer, host, Option.bind_eq_bind, Option.bind_some, Option.some.injEq] at resolved
      rw [← resolved]
    | some hostPort =>
      simp only [resolvePeer, host, Option.bind_eq_bind, Option.bind_eq_some_iff, Option.some.injEq] at resolved
      obtain ⟨_, _, rfl⟩ := resolved
      rfl
  · simpa using List.find?_some kept

theorem desiredPeers_keys (distinct : (peers.map (·.publicKey)).Nodup) :
    ((desiredPeers answers previous peers).map (·.publicKey)).Nodup := by
  have perm : (desiredPeers answers previous peers).Perm (peers.filterMap (desiredPeer answers previous)) :=
    List.perm_insertionSort _ _
  rw [(perm.map _).nodup_iff]
  refine List.Nodup.sublist ?_ distinct
  clear perm distinct
  induction peers with
  | nil => exact List.Sublist.refl _
  | cons entry peers ih =>
    rw [List.filterMap_cons, List.map_cons]
    cases desired : desiredPeer answers previous entry with
    | none => exact ih.cons _
    | some peer =>
      rw [List.map_cons, desiredPeer_key desired]
      exact ih.cons_cons _

/-- The desired entry of a key comes from the configured entry of that key. -/
theorem desiredPeers_find? (distinct : (peers.map (·.publicKey)).Nodup) (key : String) :
    (byKey (desiredPeers answers previous peers)).find? key =
      (peers.find? (·.publicKey = key)).bind (desiredPeer answers previous) := by
  apply Option.ext
  intro peer
  rw [byKey_find? (desiredPeers_keys distinct), desiredPeers, mem_sort, List.mem_filterMap, Option.bind_eq_some_iff]
  constructor
  · intro given
    obtain ⟨⟨entry, listed, desired⟩, same⟩ := given
    exact ⟨entry, (find?_key distinct).mpr ⟨listed, (desiredPeer_key desired).symm.trans same⟩, desired⟩
  · intro given
    obtain ⟨entry, found, desired⟩ := given
    obtain ⟨listed, same⟩ := (find?_key distinct).mp found
    exact ⟨⟨entry, listed, desired⟩, (desiredPeer_key desired).trans same⟩

/-- A peer that does not resolve is wanted as it is. -/
theorem failing_untouched (distinct : (peers.map (·.publicKey)).Nodup) (previousDistinct : (previous.map (·.publicKey)).Nodup)
    (listed : entry ∈ peers) (fails : resolvePeer (answers entry) entry = none) :
    (diffPeers previous (desiredPeers answers previous peers)).filter (·.1 = entry.publicKey) = [] := by
  have own : peers.find? (·.publicKey = entry.publicKey) = some entry := (find?_key distinct).mpr ⟨listed, rfl⟩
  have kept : desiredPeer answers previous entry = entryOf previous entry.publicKey := by
    rw [desiredPeer, fails, Option.none_or, entryOf]
  have same := (operation_none previous previous entry.publicKey).mpr (SameEntry.refl _)
  rw [diffPeers_filter, desiredPeers_find? distinct, own, Option.bind_some, kept, byKey_entryOf previousDistinct, same]
  rfl

/-- A key whose entry resolves the same, or that has none, gets the same operation. -/
theorem others_unchanged (distinct : (peers.map (·.publicKey)).Nodup)
    (same : ∀ entry ∈ peers, entry.publicKey = key → resolvePeer (answers entry) entry = resolvePeer (calm entry) entry) :
    (diffPeers previous (desiredPeers answers previous peers)).filter (·.1 = key) =
      (diffPeers previous (desiredPeers calm previous peers)).filter (·.1 = key) := by
  have wanted : (peers.find? (·.publicKey = key)).bind (desiredPeer answers previous) =
      (peers.find? (·.publicKey = key)).bind (desiredPeer calm previous) := by
    cases found : peers.find? (·.publicKey = key) with
    | none => rfl
    | some entry =>
      obtain ⟨listed, its⟩ := (find?_key distinct).mp found
      rw [Option.bind_some, Option.bind_some, desiredPeer, desiredPeer, same entry listed its]
  rw [diffPeers_filter, diffPeers_filter, desiredPeers_find? distinct, desiredPeers_find? distinct, wanted]

/-! ### Peers that cannot be written -/

/-- The key does not decode, or an allowed IP does not parse. -/
def skipped (engine : Engine) (op : String × Option Peer) : Bool :=
  !(decodeKey engine op.1).isOk || op.2.any fun peer => peer.allowedIps.any fun cidr => !(parseCidr cidr).isOk

/-- What is sent for an operation when it is the only one. -/
def alone (engine : Engine) (op : String × Option Peer) : List Frame := pushOp engine [] op

theorem pushOp_eq (engine : Engine) (wgPeers : List Frame) (op : String × Option Peer) :
    pushOp engine wgPeers op = wgPeers ++ alone engine op := by
  rw [alone, pushOp, pushOp]
  cases frameOf engine op with
  | none => exact (List.append_nil _).symm
  | some frame => rfl

theorem foldl_pushOp (engine : Engine) (ops : List (String × Option Peer)) :
    ops.foldl (pushOp engine) [] = ops.flatMap (alone engine) := by
  induction ops using List.reverseRecOn with
  | nil => rfl
  | append_singleton ops op ih => rw [List.foldl_append, ih, List.flatMap_append, List.foldl_cons, List.foldl_nil,
      pushOp_eq, List.flatMap_singleton]

theorem cidrToAllowedIp_none (cidr : String) : cidrToAllowedIp cidr = none ↔ (parseCidr cidr).isOk = false := by
  rw [cidrToAllowedIp]
  cases parseCidr cidr with
  | error reason => exact iff_of_true rfl rfl
  | ok parsed => exact iff_of_false (by simp) (by simp [Except.isOk, Except.toBool])

theorem mapM_cidr_none (cidrs : List String) :
    cidrs.mapM cidrToAllowedIp = none ↔ (cidrs.any fun cidr => !(parseCidr cidr).isOk) = true := by
  induction cidrs with
  | nil => simp
  | cons cidr cidrs ih =>
    have first := cidrToAllowedIp_none cidr
    rw [List.mapM_cons, List.any_cons, Bool.or_eq_true, ← ih]
    cases head : cidrToAllowedIp cidr with
    | none => simp [first.mp head]
    | some ip =>
      have good : (parseCidr cidr).isOk = true := by simpa [head] using first
      cases cidrs.mapM cidrToAllowedIp with
      | none => simp
      | some ips => simp [good]

theorem frameOf_none (engine : Engine) (op : String × Option Peer) : frameOf engine op = none ↔ skipped engine op = true := by
  rw [frameOf, skipped]
  cases decodeKey engine op.1 with
  | error reason => exact iff_of_true rfl rfl
  | ok key =>
    cases op.2 with
    | none => exact iff_of_false (by simp) (by simp [Except.isOk, Except.toBool])
    | some peer =>
      have texts := mapM_cidr_none peer.allowedIps
      simp only [peerAttributes, Option.any_some, Except.isOk, Except.toBool, Bool.not_true, Bool.false_or] at texts ⊢
      rw [← texts]
      cases peer.allowedIps.mapM cidrToAllowedIp with
      | none => exact iff_of_true rfl rfl
      | some ips => exact iff_of_false (by simp) (by simp)

/-- A skipped operation sends nothing, any other one frame. -/
theorem alone_length (engine : Engine) (op : String × Option Peer) :
    (alone engine op).length = if skipped engine op then 0 else 1 := by
  have none := frameOf_none engine op
  rw [alone, pushOp]
  cases sent : frameOf engine op with
  | none => rw [if_pos (none.mp sent)]; rfl
  | some frame =>
    rw [sent] at none
    rw [if_neg fun skip => absurd (none.mpr skip) (Option.some_ne_none _)]
    rfl

theorem sent_unskipped (engine : Engine) (ops : List (String × Option Peer)) :
    ops.foldl (pushOp engine) [] = (ops.filter fun op => !skipped engine op).flatMap (alone engine) := by
  rw [foldl_pushOp]
  induction ops with
  | nil => rfl
  | cons op ops ih =>
    rw [List.flatMap_cons, ih, List.filter_cons]
    have length := alone_length engine op
    cases skip : skipped engine op with
    | true =>
      rw [skip, if_pos rfl] at length
      rw [List.length_eq_zero_iff.mp length]
      rfl
    | false => rfl

theorem syncPeers_sent (engine : Engine) (name : String) (previous desired : List Peer) :
    frames ((syncPeers engine name previous desired).getD []) = (diffPeers previous desired).foldl (pushOp engine) [] := by
  rw [syncPeers]
  cases ops : diffPeers previous desired with
  | nil => rfl
  | cons op rest =>
    cases sent : (op :: rest).foldl (pushOp engine) [] with
    | nil => rfl
    | cons frame others => simp [frames]

theorem takeAllowedIp_cidr (cidr : String) : cidrToAllowedIp cidr = none ∧ networkOf cidr = none ∨
    ∃ ip network, cidrToAllowedIp cidr = some ip ∧ takeAllowedIp ip = some network ∧ networkOf cidr = some network := by
  rw [cidrToAllowedIp, networkOf]
  cases parseCidr cidr with
  | error reason => exact .inl ⟨rfl, rfl⟩
  | ok parsed => exact .inr ⟨_, _, rfl, dif_pos parsed.bounded, rfl⟩

theorem mapM_networks (cidrs : List String) :
    (cidrs.mapM cidrToAllowedIp).map (·.filterMap takeAllowedIp) = cidrs.mapM networkOf := by
  induction cidrs with
  | nil => rfl
  | cons cidr cidrs ih =>
    rw [List.mapM_cons, List.mapM_cons, ← ih]
    rcases takeAllowedIp_cidr cidr with unread | read
    · rw [unread.1, unread.2]
      rfl
    · obtain ⟨ip, network, sent, taken, same⟩ := read
      rw [sent, same]
      cases cidrs.mapM cidrToAllowedIp with
      | none => rfl
      | some ips => simp [taken]

theorem takeFrame_peerAttributes (key : Key) (peer : Peer) : (peerAttributes key peer).bind takeFrame =
    (peer.allowedIps.mapM networkOf).map fun allowedIps =>
      .replace key allowedIps (peer.endpoint.bind parseSocketAddr) peer.advancedSecurity := by
  rw [← mapM_networks, peerAttributes, endpointAttributes]
  cases peer.allowedIps.mapM cidrToAllowedIp with
  | none => rfl
  | some ips =>
    cases peer.endpoint.bind parseSocketAddr with
    | none =>
      cases peer.advancedSecurity <;> simp [takeFrame, publicKey?, allowedIpsIn]
      all_goals rfl
    | some addr =>
      cases peer.advancedSecurity <;> simp [takeFrame, publicKey?, allowedIpsIn]
      all_goals rfl

/-- The kernel makes of a frame what the operation is for. -/
theorem takeFrame_frameOf (engine : Engine) (op : String × Option Peer) :
    (frameOf engine op).bind takeFrame = peerUpdate engine op := by
  obtain ⟨publicKey, entry⟩ := op
  rw [frameOf, peerUpdate]
  cases decodeKey engine publicKey with
  | error reason => rfl
  | ok key =>
    cases entry with
    | none => rfl
    | some peer => exact (takeFrame_peerAttributes key peer).trans (Option.map_eq_bind ..)

/-- The frames of a pass, taken one after the other, are the entries the device is set by. -/
theorem takeFrame_sent (engine : Engine) (name : String) (previous desired : List Peer) :
    (frames ((syncPeers engine name previous desired).getD [])).filterMap takeFrame =
      (diffPeers previous desired).filterMap (peerUpdate engine) := by
  rw [syncPeers_sent, foldl_pushOp]
  induction diffPeers previous desired with
  | nil => rfl
  | cons op ops ih =>
    rw [List.flatMap_cons, List.filterMap_append, ih, List.filterMap_cons, ← takeFrame_frameOf, alone, pushOp]
    cases frameOf engine op with
    | none => rfl
    | some frame =>
      rw [Option.bind_some]
      change [frame].filterMap takeFrame ++ _ = _
      rw [List.filterMap_cons]
      cases takeFrame frame <;> rfl

/-- The peers that do not resolve get no operation, and every other key the operation of
a pass where they do; the peers that cannot be written get no frame, and every other
operation the frame it would have alone. -/
theorem failures_isolated (iface : InterfaceEntry) (previous : List Peer) (answers calm : Answers)
    (distinct : (iface.peers.map (·.publicKey)).Nodup) (previousDistinct : (previous.map (·.publicKey)).Nodup)
    (agree : ∀ entry ∈ iface.peers, resolvePeer (answers entry) entry = none ∨
      resolvePeer (answers entry) entry = resolvePeer (calm entry) entry) :
    (∀ entry ∈ iface.peers, resolvePeer (answers entry) entry = none →
      ∀ op ∈ diffPeers previous (desiredPeers answers previous iface.peers), op.1 ≠ entry.publicKey) ∧
      (∀ key, (∀ entry ∈ iface.peers, entry.publicKey = key → resolvePeer (answers entry) entry ≠ none) →
        (diffPeers previous (desiredPeers answers previous iface.peers)).filter (·.1 = key) =
          (diffPeers previous (desiredPeers calm previous iface.peers)).filter (·.1 = key)) ∧
      ∀ engine name desired, frames ((syncPeers engine name previous desired).getD []) =
          ((diffPeers previous desired).filter fun op => !skipped engine op).flatMap (alone engine) ∧
        ∀ op ∈ diffPeers previous desired, (alone engine op).length = if skipped engine op then 0 else 1 := by
  refine ⟨?_, ?_, ?_⟩
  · intro entry listed fails op member same
    have untouched := failing_untouched distinct previousDistinct listed fails
    exact List.filter_eq_nil_iff.mp untouched op member (by simpa using same)
  · intro key resolved
    apply others_unchanged distinct
    intro entry listed same
    exact (agree entry listed).resolve_left (resolved entry listed same)
  · intro engine name desired
    rw [syncPeers_sent]
    exact ⟨sent_unskipped engine _, fun op _ => alone_length engine op⟩

private def hostedPeer : PeerEntry := { publicKey := "a", endpoint := some "a.example:51820" }

private def hostedInterface : InterfaceEntry :=
  { name := "wg0", listenPort := 51820, privateKey := "k",
    peers := [hostedPeer, { publicKey := "b", allowedIps := some ["10.0.0.2/32"] }] }

/-- A peer that is live stays as it is when its host is not found, and the other is added
as it is when the host is. -/
theorem hostedPeer_isolated :
    "a" ∉ (diffPeers [⟨"a", ["10.0.0.1/32"], some "192.0.2.1:51820", false⟩] (desiredPeers (fun _ _ => none)
      [⟨"a", ["10.0.0.1/32"], some "192.0.2.1:51820", false⟩] hostedInterface.peers)).map Prod.fst ∧
    (diffPeers [⟨"a", ["10.0.0.1/32"], some "192.0.2.1:51820", false⟩] (desiredPeers (fun _ _ => none)
      [⟨"a", ["10.0.0.1/32"], some "192.0.2.1:51820", false⟩] hostedInterface.peers)).filter (·.1 = "b") =
        [("b", some ⟨"b", ["10.0.0.2/32"], none, false⟩)] := by
  have calm : ∀ entry ∈ hostedInterface.peers, resolvePeer (fun _ => none) entry = none ∨
      resolvePeer (fun _ => none) entry = resolvePeer (fun _ => some ⟨.v4 1, 0, 51820⟩) entry := by
    intro entry listed
    rcases List.mem_cons.mp listed with rfl | later
    · exact .inl rfl
    · rw [List.mem_singleton.mp later]
      exact .inr rfl
  obtain ⟨untouched, others, _⟩ := failures_isolated hostedInterface [⟨"a", ["10.0.0.1/32"], some "192.0.2.1:51820", false⟩]
    (fun _ _ => none) (fun _ _ => some ⟨.v4 1, 0, 51820⟩) (by decide) (by decide) calm
  constructor
  · intro listed
    obtain ⟨op, member, same⟩ := List.mem_map.mp listed
    exact untouched hostedPeer (List.mem_cons_self ..) rfl op member same
  · have resolved : ∀ entry ∈ hostedInterface.peers, entry.publicKey = "b" → resolvePeer (fun _ => none) entry ≠ none := by
      decide +kernel
    rw [others "b" resolved]
    decide +kernel

end Slipmesh.Awg.Wire
