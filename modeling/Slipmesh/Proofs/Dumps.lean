import Slipmesh.Awg.Wire
import Mathlib.Data.List.Forall2

/-! Dumps that the kernel sends in pieces. A peer too large for one message goes on in
another frame, which repeats its key; what the frames of a key say together does not
depend on where they were cut. -/

namespace Slipmesh.Awg.Wire
open Library Net Common

/-- A frame and what is sent of it: all of it, or a part that has the key and then what
is left, after the key once more. It is cut before an attribute or between two addresses. -/
inductive Splits : Frame → List Frame → Prop where
  | whole (frame : Frame) : Splits frame [frame]
  | attributes {front rest : Frame} {key : Key} {parts : List Frame} (carried : publicKey? front = some key)
      (more : Splits (.publicKey key :: rest) parts) : Splits (front ++ rest) (front :: parts)
  | addresses {front rest : Frame} {key : Key} {sent left : List AllowedIp} {parts : List Frame}
      (carried : publicKey? front = some key) (more : Splits (.publicKey key :: .allowedIps left :: rest) parts) :
      Splits (front ++ .allowedIps (sent ++ left) :: rest) ((front ++ [.allowedIps sent]) :: parts)

def framesOf (dump : Dump) (key : Key) : List Frame := (frames dump).filter (publicKey? · = some key)

/-- A dump with its frames cut, in any order that keeps the order of each key's own. -/
def Fragments (dump fragmented : Dump) : Prop :=
  ∃ parts : List (List Frame), List.Forall₂ Splits (frames dump) parts ∧ (frames fragmented).Perm parts.flatten ∧
    ∀ key, framesOf fragmented key = parts.flatten.filter (publicKey? · = some key)

variable {engine : Engine} {dump fragmented : Dump} {frame : Frame} {parts : List Frame} {key : Key}

/-! ### What the frames of a key say -/

theorem publicKey?_append {front : Frame} (carried : publicKey? front = some key) (rest : Frame) :
    publicKey? (front ++ rest) = some key := by
  rw [publicKey?, List.findSome?_append, ← publicKey?, carried, Option.some_or]

theorem Splits.keys (splits : Splits frame parts) : ∀ part ∈ parts, publicKey? part = publicKey? frame := by
  induction splits with
  | whole frame => simp
  | @attributes front rest key parts carried more ih =>
    intro part member
    rw [publicKey?_append carried]
    rcases List.mem_cons.mp member with rfl | later
    · exact carried
    · exact ih part later
  | @addresses front rest key sent left parts carried more ih =>
    intro part member
    rw [publicKey?_append carried]
    rcases List.mem_cons.mp member with rfl | later
    · exact publicKey?_append carried _
    · exact ih part later

/-- Something that a key does not say, and that the addresses of a list say one by one. -/
structure Observed {υ : Type} (said : PeerAttribute → List υ) : Prop where
  key : ∀ key, said (.publicKey key) = []
  addresses : ∀ sent left, said (.allowedIps (sent ++ left)) = said (.allowedIps sent) ++ said (.allowedIps left)

theorem Splits.said {υ : Type} {said : PeerAttribute → List υ} (observed : Observed said) (splits : Splits frame parts) :
    parts.flatten.flatMap said = frame.flatMap said := by
  induction splits with
  | whole frame => simp
  | attributes carried more ih =>
    rw [List.flatten_cons, List.flatMap_append, ih, List.flatMap_cons, observed.key, List.nil_append, List.flatMap_append]
  | addresses carried more ih =>
    rw [List.flatten_cons, List.flatMap_append, ih]
    simp [observed.key, observed.addresses]

/-- All that the frames of a key say, cut or not. -/
theorem Fragments.said {υ : Type} {said : PeerAttribute → List υ} (observed : Observed said)
    (fragments : Fragments dump fragmented) (key : Key) :
    (framesOf fragmented key).flatten.flatMap said = (framesOf dump key).flatten.flatMap said := by
  obtain ⟨parts, each, perm, order⟩ := fragments
  rw [order, framesOf]
  clear perm order
  generalize frames dump = whole at each
  induction each with
  | nil => rfl
  | @cons frame pieces whole parts splits _ ih =>
    have keys := splits.keys
    rw [List.flatten_cons, List.filter_append, List.flatten_append, List.flatMap_append, ih, List.filter_cons]
    split
    · rename_i its
      have kept : pieces.filter (publicKey? · = some key) = pieces :=
        List.filter_eq_self.mpr fun part member => by simpa [keys part member] using its
      rw [kept, splits.said observed, List.flatten_cons, List.flatMap_append]
    · rename_i other
      have dropped : pieces.filter (publicKey? · = some key) = [] :=
        List.filter_eq_nil_iff.mpr fun part member => by simpa [keys part member] using other
      rw [dropped]
      rfl

/-! ### Handshakes and counters -/

def handshake? : PeerAttribute → Option Nat
  | .lastHandshake seconds => some seconds.toNat
  | _ => none

def rx? : PeerAttribute → Option Nat
  | .rxBytes count => some count
  | _ => none

def tx? : PeerAttribute → Option Nat
  | .txBytes count => some count
  | _ => none

/-- The last of each value that the attributes report, or 0. -/
def lastReported (attrs : List PeerAttribute) : PeerStats where
  lastHandshake := (attrs.filterMap handshake?).getLast?.getD 0
  rxBytes := (attrs.filterMap rx?).getLast?.getD 0
  txBytes := (attrs.filterMap tx?).getLast?.getD 0

theorem foldl_readStats (attrs : List PeerAttribute) : attrs.foldl readStats defaultStats = lastReported attrs := by
  have handshake : ∀ stats attr, (readStats stats attr).lastHandshake = (handshake? attr).getD stats.lastHandshake := by
    intro stats attr
    cases attr <;> rfl
  have rx : ∀ stats attr, (readStats stats attr).rxBytes = (rx? attr).getD stats.rxBytes := by
    intro stats attr
    cases attr <;> rfl
  have tx : ∀ stats attr, (readStats stats attr).txBytes = (tx? attr).getD stats.txBytes := by
    intro stats attr
    cases attr <;> rfl
  have first := run_last handshake attrs defaultStats
  have second := run_last rx attrs defaultStats
  have third := run_last tx attrs defaultStats
  cases read : attrs.foldl readStats defaultStats
  rw [read] at first second third
  exact (PeerStats.mk.injEq ..).mpr ⟨first, second, third⟩

/-- Frame after frame is the same as attribute after attribute. -/
theorem foldl_frames (parts : List Frame) (stats : Option PeerStats) :
    parts.foldl (fun old frame => some (frame.foldl readStats (old.getD defaultStats))) stats =
      if parts = [] then stats else some (parts.flatten.foldl readStats (stats.getD defaultStats)) := by
  induction parts generalizing stats with
  | nil => rfl
  | cons frame parts ih =>
    rw [List.foldl_cons, ih, if_neg (List.cons_ne_nil _ _), List.flatten_cons, List.foldl_append]
    split
    · rename_i last
      rw [last]
      rfl
    · rfl

theorem mergePeerAttrs_find? (engine : Engine) (dump : Dump) (text : String) (stats : PeerStats) :
    (mergePeerAttrs engine dump).find? text = some stats ↔
      ∃ key, text = encodeKey engine key ∧ framesOf dump key ≠ [] ∧ stats = lastReported (framesOf dump key).flatten := by
  rw [mergePeerAttrs, SortedMap.find?_foldInto, SortedMap.find?_empty, foldl_frames]
  have own : ∀ key, text = encodeKey engine key →
      (frames dump).filter (fun frame => (publicKey? frame).map (encodeKey engine) = some text) = framesOf dump key := by
    intro key same
    apply List.filter_congr
    intro frame _
    rw [same]
    congr 1
    rw [Option.map_eq_some_iff]
    apply propext
    constructor
    · intro given
      obtain ⟨other, found, equal⟩ := given
      rw [found, encodeKey_inj equal]
    · intro found
      exact ⟨key, found, rfl⟩
  constructor
  · intro found
    split at found
    · cases found
    · rename_i present
      obtain ⟨frame, member⟩ := List.exists_mem_of_ne_nil _ present
      obtain ⟨key, carried, same⟩ := Option.map_eq_some_iff.mp (by simpa using (List.mem_filter.mp member).2)
      rw [own key same.symm] at found present
      exact ⟨key, same.symm, present, (Option.some.inj found).symm.trans (foldl_readStats _)⟩
  · intro given
    obtain ⟨key, same, present, rfl⟩ := given
    rw [own key same, if_neg present]
    exact congrArg some (foldl_readStats _)

theorem Splits.nonempty (splits : Splits frame parts) : parts ≠ [] := by
  cases splits <;> exact List.cons_ne_nil _ _

/-- A key has frames after the cutting if it had any before. -/
theorem Fragments.framesOf_eq_nil (fragments : Fragments dump fragmented) (key : Key) :
    framesOf fragmented key = [] ↔ framesOf dump key = [] := by
  obtain ⟨parts, each, perm, order⟩ := fragments
  rw [order, framesOf]
  clear perm order
  generalize frames dump = whole at each
  induction each with
  | nil => rfl
  | @cons frame pieces whole parts splits _ ih =>
    rw [List.flatten_cons, List.filter_append, List.append_eq_nil_iff, ih, List.filter_cons]
    obtain ⟨part, member⟩ := List.exists_mem_of_ne_nil _ splits.nonempty
    have keys := splits.keys
    split
    · rename_i its
      have kept : pieces.filter (publicKey? · = some key) ≠ [] :=
        List.ne_nil_of_mem (List.mem_filter.mpr ⟨member, by simpa [keys part member] using its⟩)
      simp [kept]
    · rename_i other
      have dropped : pieces.filter (publicKey? · = some key) = [] :=
        List.filter_eq_nil_iff.mpr fun part member => by simpa [keys part member] using other
      simp [dropped]

theorem Fragments.lastReported (fragments : Fragments dump fragmented) (key : Key) :
    lastReported (framesOf fragmented key).flatten = lastReported (framesOf dump key).flatten := by
  have each {pick : PeerAttribute → Option Nat} (key : ∀ key, pick (.publicKey key) = none)
      (addresses : ∀ ips, pick (.allowedIps ips) = none) (of : Key) :
      (framesOf fragmented of).flatten.filterMap pick = (framesOf dump of).flatten.filterMap pick := by
    have observed : Observed fun attr => (pick attr).toList :=
      ⟨fun its => by simp [key its], fun sent left => by simp [addresses]⟩
    simpa only [← List.filterMap_eq_flatMap_toList] using fragments.said observed of
  unfold Wire.lastReported
  rw [each (fun _ => rfl) (fun _ => rfl), each (fun _ => rfl) (fun _ => rfl), each (fun _ => rfl) (fun _ => rfl)]

/-- Cutting the frames of a dump does not change what is read of the handshakes and the
counters: of every key, what was last reported. -/
theorem mergePeerAttrs_fragmented (engine : Engine) (dump fragmented : Dump) (fragments : Fragments dump fragmented) :
    mergePeerAttrs engine fragmented = mergePeerAttrs engine dump ∧
      ∀ text stats, (mergePeerAttrs engine dump).find? text = some stats ↔
        ∃ key, text = encodeKey engine key ∧ (∃ frame ∈ frames dump, publicKey? frame = some key) ∧
          stats = lastReported (framesOf dump key).flatten := by
  refine ⟨?_, ?_⟩
  · apply SortedMap.eq_of_find?
    intro text
    apply Option.ext
    intro stats
    rw [mergePeerAttrs_find?, mergePeerAttrs_find?]
    apply exists_congr
    intro key
    rw [fragments.lastReported, ne_eq, ne_eq, fragments.framesOf_eq_nil]
  · intro text stats
    rw [mergePeerAttrs_find?]
    have carried : ∀ key, framesOf dump key ≠ [] ↔ ∃ frame ∈ frames dump, publicKey? frame = some key := by
      intro key
      simp [framesOf, List.filter_eq_nil_iff]
    simp only [carried]

/-- Two addresses of one peer, in one message. -/
private def oneMessage : Dump :=
  [.peers [[.publicKey default, .lastHandshake 1700000000, .allowedIps [[.ipAddr (.v4 1), .cidr 32], [.ipAddr (.v4 2), .cidr 32]]]]]

/-- The same in two. -/
private def twoMessages : Dump :=
  [.peers [[.publicKey default, .lastHandshake 1700000000, .allowedIps [[.ipAddr (.v4 1), .cidr 32]]]],
    .peers [[.publicKey default, .allowedIps [[.ipAddr (.v4 2), .cidr 32]]]]]

private theorem twoMessages_fragments : Fragments oneMessage twoMessages := by
  have cut := @Splits.addresses [.publicKey default, .lastHandshake 1700000000] [] default [[.ipAddr (.v4 1), .cidr 32]]
    [[.ipAddr (.v4 2), .cidr 32]] _ rfl (.whole _)
  exact ⟨_, .cons cut .nil, List.Perm.refl _, fun _ => rfl⟩

theorem twoMessages_handshake :
    (mergePeerAttrs standard twoMessages).find? (encodeKey standard default) = some ⟨1700000000, 0, 0⟩ := by
  obtain ⟨same, read⟩ := mergePeerAttrs_fragmented standard _ _ twoMessages_fragments
  rw [same, read]
  exact ⟨default, rfl, ⟨_, List.mem_singleton_self _, rfl⟩, rfl⟩

/-! ### The peers -/

def endpoint? : PeerAttribute → Option String
  | .endpoint addr => some (SocketAddr.text addr)
  | _ => none

/-- The readable addresses of an attribute. -/
def addressesIn : PeerAttribute → Option (List String)
  | .allowedIps ips => some (ips.filterMap allowedIpToCidr)
  | _ => none

/-- The one peer that all frames of a key are about: all of its addresses, and its endpoint. -/
def reportedPeer (engine : Engine) (dump : Dump) (key : Key) : Peer where
  publicKey := encodeKey engine key
  allowedIps := ((framesOf dump key).flatten.filterMap addressesIn).flatten
  endpoint := ((framesOf dump key).flatten.filterMap endpoint?).getLast?
  advancedSecurity := false

/-- One peer for each key that the dump reports, with all of its addresses. -/
structure Complete (engine : Engine) (dump : Dump) (peers : List Peer) : Prop where
  once : (peers.map (·.publicKey)).Nodup
  all : ∀ peer, peer ∈ peers ↔ ∃ frame ∈ frames dump, ∃ key, publicKey? frame = some key ∧ peer = reportedPeer engine dump key

/-- The frame has one key. -/
def Keyed (frame : Frame) : Prop := ∃ key, frame.filterMap attributeKey = [key]

/-- Every key has one frame, and only the last list of a frame names addresses. -/
structure Uncut (dump : Dump) : Prop where
  keys : ((frames dump).filterMap publicKey?).Nodup
  lists : ∀ frame ∈ frames dump, (frame.filterMap addressesIn).dropLast.flatten = []

theorem readPeer_eq (engine : Engine) (frame : Frame) :
    readPeer engine frame = (frame.filterMap attributeKey).getLast?.map fun key =>
      ⟨encodeKey engine key, (frame.filterMap addressesIn).getLast?.getD [], (frame.filterMap endpoint?).getLast?, false⟩ := by
  have key : ∀ reading attr, (readAttribute engine reading attr).publicKey =
      ((attributeKey attr).map fun key => some (encodeKey engine key)).getD reading.publicKey := by
    intro reading attr
    cases attr <;> rfl
  have ips : ∀ reading attr, (readAttribute engine reading attr).allowedIps =
      (addressesIn attr).getD reading.allowedIps := by
    intro reading attr
    cases attr <;> rfl
  have endpoint : ∀ reading attr, (readAttribute engine reading attr).endpoint =
      ((endpoint? attr).map some).getD reading.endpoint := by
    intro reading attr
    cases attr <;> rfl
  simp only [readPeer]
  rw [run_last key, run_last ips, run_last endpoint, ← List.map_filterMap, ← List.map_filterMap, List.getLast?_map,
    List.getLast?_map]
  cases (frame.filterMap attributeKey).getLast? with
  | none => rfl
  | some key =>
    cases (frame.filterMap endpoint?).getLast? with
    | none => rfl
    | some endpoint => rfl

theorem Keyed.readPeer (keyed : Keyed frame) (engine : Engine) : ∃ key, publicKey? frame = some key ∧
    readPeer engine frame = some ⟨encodeKey engine key, (frame.filterMap addressesIn).getLast?.getD [],
      (frame.filterMap endpoint?).getLast?, false⟩ := by
  obtain ⟨key, only⟩ := keyed
  refine ⟨key, ?_, ?_⟩
  · rw [publicKey?, ← List.head?_filterMap, only]
    rfl
  · rw [readPeer_eq, only]
    rfl

theorem Splits.keyed (splits : Splits frame parts) (keyed : Keyed frame) : ∀ part ∈ parts, Keyed part := by
  -- The key is in the front, so what is left has no other than the one repeated.
  have front {front rest : Frame} {key : Key} (carried : publicKey? front = some key) (keyed : Keyed (front ++ rest)) :
      Keyed front ∧ Keyed (.publicKey key :: rest) := by
    obtain ⟨own, only⟩ := keyed
    rw [publicKey?, ← List.head?_filterMap] at carried
    rw [List.filterMap_append] at only
    cases keys : front.filterMap attributeKey with
    | nil => rw [keys] at carried; cases carried
    | cons first others =>
      rw [keys, List.cons_append, List.cons.injEq, List.append_eq_nil_iff] at only
      obtain ⟨_, none, rest⟩ := only
      refine ⟨⟨first, by rw [keys, none]⟩, key, ?_⟩
      rw [List.filterMap_cons_some (f := attributeKey) rfl, rest]
  induction splits with
  | whole frame =>
    intro part member
    rwa [List.mem_singleton.mp member]
  | attributes carried more ih =>
    obtain ⟨here, left⟩ := front carried keyed
    intro part member
    rcases List.mem_cons.mp member with rfl | later
    · exact here
    · exact ih left part later
  | addresses carried more ih =>
    obtain ⟨here, left⟩ := front carried keyed
    intro part member
    rcases List.mem_cons.mp member with rfl | later
    · obtain ⟨key, only⟩ := here
      exact ⟨key, by rw [List.filterMap_append, only]; rfl⟩
    · exact ih left part later

/-- A frame whose parts have different keys is not cut. -/
theorem Splits.uncut (splits : Splits frame parts) (distinct : (parts.filterMap publicKey?).Nodup) : parts = [frame] := by
  have keys := splits.keys
  have cut {front : Frame} {key : Key} {rest : List Frame} (carried : publicKey? front = some key)
      (more : ∀ part ∈ rest, publicKey? part = some key) (present : rest ≠ [])
      (distinct : ((front :: rest).filterMap publicKey?).Nodup) : False := by
    obtain ⟨part, member⟩ := List.exists_mem_of_ne_nil _ present
    rw [List.filterMap_cons_some carried, List.nodup_cons] at distinct
    exact distinct.1 (List.mem_filterMap.mpr ⟨part, member, more part member⟩)
  cases splits with
  | whole => rfl
  | attributes carried more => exact (cut carried more.keys more.nonempty distinct).elim
  | addresses carried more => exact (cut (publicKey?_append carried _) more.keys more.nonempty distinct).elim

theorem mem_currentPeers {peer : Peer} :
    peer ∈ currentPeers engine dump ↔ ∃ frame ∈ frames dump, readPeer engine frame = some peer := by
  rw [currentPeers, mem_sort, List.mem_filterMap]

/-- Every frame counts as a peer. -/
theorem currentPeers_keys (keyed : ∀ frame ∈ frames dump, Keyed frame) :
    ((currentPeers engine dump).map (·.publicKey)).Perm (((frames dump).filterMap publicKey?).map (encodeKey engine)) := by
  have same : ((frames dump).filterMap (readPeer engine)).map (·.publicKey) =
      ((frames dump).filterMap publicKey?).map (encodeKey engine) := by
    rw [List.map_filterMap, List.map_filterMap]
    apply List.filterMap_congr
    intro frame member
    obtain ⟨key, carried, read⟩ := (keyed frame member).readPeer engine
    rw [carried, read]
    rfl
  exact same ▸ (List.perm_insertionSort _ _).map _

/-- A key that no two frames carry has one frame. -/
theorem framesOf_single (distinct : ((frames dump).filterMap publicKey?).Nodup) (member : frame ∈ frames dump)
    (carried : publicKey? frame = some key) : framesOf dump key = [frame] := by
  rw [framesOf]
  generalize frames dump = all at distinct member
  induction all with
  | nil => cases member
  | cons first rest ih =>
    rw [List.filter_cons]
    rcases List.mem_cons.mp member with rfl | later
    · rw [List.filterMap_cons_some carried, List.nodup_cons] at distinct
      have others : rest.filter (publicKey? · = some key) = [] := by
        rw [List.filter_eq_nil_iff]
        intro other listed its
        exact distinct.1 (List.mem_filterMap.mpr ⟨other, listed, by simpa using its⟩)
      rw [others, if_pos (by simpa using carried)]
    · have fresh : publicKey? first ≠ some key := by
        intro its
        rw [List.filterMap_cons_some its, List.nodup_cons] at distinct
        exact distinct.1 (List.mem_filterMap.mpr ⟨frame, later, carried⟩)
      rw [if_neg (by simpa using fresh)]
      apply ih _ later
      exact distinct.sublist ((List.sublist_cons_self first rest).filterMap _)

theorem getLast?_flatten {α : Type} (lists : List (List α)) :
    lists.getLast?.getD [] = lists.flatten ↔ lists.dropLast.flatten = [] := by
  rcases List.eq_nil_or_concat lists with rfl | ⟨front, last, rfl⟩
  · simp
  · simp [List.self_eq_append_left]

/-- The frame of a key is read as all there is about the key if only its last list names
addresses. -/
theorem readPeer_reported (keyed : Keyed frame) (carried : publicKey? frame = some key) (own : framesOf dump key = [frame]) :
    readPeer engine frame = some (reportedPeer engine dump key) ↔ (frame.filterMap addressesIn).dropLast.flatten = [] := by
  obtain ⟨other, found, read⟩ := keyed.readPeer engine
  rw [carried, Option.some.injEq] at found
  subst found
  rw [read, reportedPeer, own, List.flatten_singleton, Option.some.injEq, Peer.mk.injEq, ← getLast?_flatten]
  simp

theorem complete_iff (keyed : ∀ frame ∈ frames dump, Keyed frame) :
    Complete engine dump (currentPeers engine dump) ↔ Uncut dump := by
  constructor
  · intro complete
    have distinct : ((frames dump).filterMap publicKey?).Nodup :=
      List.Nodup.of_map _ ((currentPeers_keys keyed).nodup_iff.mp complete.once)
    refine ⟨distinct, ?_⟩
    intro frame member
    obtain ⟨key, carried, read⟩ := (keyed frame member).readPeer engine
    obtain ⟨_, _, other, _, same⟩ := (complete.all _).mp (mem_currentPeers.mpr ⟨frame, member, read⟩)
    have equal : key = other := encodeKey_inj (congrArg Peer.publicKey same)
    rw [← readPeer_reported (keyed frame member) carried (framesOf_single distinct member carried), read, same, equal]
  · intro uncut
    refine ⟨?_, ?_⟩
    · exact (currentPeers_keys keyed).nodup_iff.mpr (uncut.keys.map fun _ _ => encodeKey_inj)
    · intro peer
      rw [mem_currentPeers]
      apply exists_congr
      intro frame
      apply and_congr_right
      intro member
      obtain ⟨key, carried, _⟩ := (keyed frame member).readPeer engine
      have own := framesOf_single uncut.keys member carried
      have read : readPeer engine frame = some (reportedPeer engine dump key) :=
        (readPeer_reported (keyed frame member) carried own).mpr (uncut.lists frame member)
      rw [read, carried]
      simp [eq_comm]

theorem keyed_flatten {whole : List Frame} {parts : List (List Frame)} (each : List.Forall₂ Splits whole parts)
    (keyed : ∀ frame ∈ whole, Keyed frame) : ∀ part ∈ parts.flatten, Keyed part := by
  induction each with
  | nil => exact keyed
  | cons splits _ ih =>
    intro part listed
    rw [List.flatten_cons, List.mem_append] at listed
    rcases listed with here | later
    · exact splits.keyed (keyed _ (List.mem_cons_self ..)) part here
    · exact ih (fun frame member => keyed frame (List.mem_cons_of_mem _ member)) part later

/-- Where no two parts have one key, no frame was cut. -/
theorem uncut_flatten {whole : List Frame} {parts : List (List Frame)} (each : List.Forall₂ Splits whole parts)
    (distinct : (parts.flatten.filterMap publicKey?).Nodup) : parts.flatten = whole := by
  induction each with
  | nil => rfl
  | cons splits _ ih =>
    rw [List.flatten_cons, List.filterMap_append, List.nodup_append] at distinct
    rw [List.flatten_cons, splits.uncut distinct.1, ih distinct.2.1]
    rfl

theorem Fragments.keyed (fragments : Fragments dump fragmented) (keyed : ∀ frame ∈ frames dump, Keyed frame) :
    ∀ frame ∈ frames fragmented, Keyed frame := by
  obtain ⟨parts, each, perm, _⟩ := fragments
  intro part listed
  exact keyed_flatten each keyed part (perm.mem_iff.mp listed)

theorem Fragments.uncut (fragments : Fragments dump fragmented)
    (distinct : ((frames fragmented).filterMap publicKey?).Nodup) : (frames fragmented).Perm (frames dump) := by
  obtain ⟨parts, each, perm, _⟩ := fragments
  rw [(perm.filterMap _).nodup_iff] at distinct
  exact uncut_flatten each distinct ▸ perm

theorem Fragments.reportedPeer (fragments : Fragments dump fragmented) (engine : Engine) (key : Key) :
    reportedPeer engine fragmented key = reportedPeer engine dump key := by
  have addresses : Observed fun attr => (addressesIn attr).getD [] :=
    ⟨fun _ => rfl, fun sent left => List.filterMap_append ..⟩
  have endpoints : Observed fun attr => (endpoint? attr).toList := ⟨fun _ => rfl, fun _ _ => rfl⟩
  have flat (attrs : List PeerAttribute) :
      (attrs.filterMap addressesIn).flatten = attrs.flatMap fun attr => (addressesIn attr).getD [] := by
    induction attrs with
    | nil => rfl
    | cons attr attrs ih =>
      rw [List.filterMap_cons, List.flatMap_cons, ← ih]
      cases addressesIn attr <;> rfl
  rw [Wire.reportedPeer, Wire.reportedPeer, flat, flat, fragments.said addresses, List.filterMap_eq_flatMap_toList,
    fragments.said endpoints, ← List.filterMap_eq_flatMap_toList]

theorem Fragments.complete_iff (fragments : Fragments dump fragmented) {peers : List Peer} :
    Complete engine dump peers ↔ Complete engine fragmented peers := by
  have carried : ∀ key, (∃ frame ∈ frames fragmented, publicKey? frame = some key) ↔
      ∃ frame ∈ frames dump, publicKey? frame = some key := by
    intro key
    simpa [framesOf, List.filter_eq_nil_iff] using not_congr (fragments.framesOf_eq_nil key)
  have listed : ∀ peer, (∃ frame ∈ frames fragmented, ∃ key, publicKey? frame = some key ∧
      peer = Wire.reportedPeer engine fragmented key) ↔
        ∃ frame ∈ frames dump, ∃ key, publicKey? frame = some key ∧ peer = Wire.reportedPeer engine dump key := by
    intro peer
    simp only [fragments.reportedPeer]
    constructor
    · intro given
      obtain ⟨frame, member, key, its, same⟩ := given
      obtain ⟨other, otherMember, otherIts⟩ := (carried key).mp ⟨frame, member, its⟩
      exact ⟨other, otherMember, key, otherIts, same⟩
    · intro given
      obtain ⟨frame, member, key, its, same⟩ := given
      obtain ⟨other, otherMember, otherIts⟩ := (carried key).mpr ⟨frame, member, its⟩
      exact ⟨other, otherMember, key, otherIts, same⟩
  constructor
  · intro complete
    exact ⟨complete.once, fun peer => (complete.all peer).trans (listed peer).symm⟩
  · intro complete
    exact ⟨complete.once, fun peer => (complete.all peer).trans (listed peer)⟩

/-- The peers are read as they are, cut or not, exactly where every key comes in one
frame with one list of addresses. -/
theorem currentPeers_fragmented_iff (engine : Engine) (dump fragmented : Dump)
    (keyed : ∀ frame ∈ frames dump, Keyed frame) (fragments : Fragments dump fragmented) :
    (currentPeers engine fragmented = currentPeers engine dump ∧ Complete engine dump (currentPeers engine fragmented)) ↔
      Uncut fragmented := by
  have whole : Complete engine fragmented (currentPeers engine fragmented) ↔ Uncut fragmented :=
    Wire.complete_iff (fragments.keyed keyed)
  constructor
  · intro given
    exact whole.mp (fragments.complete_iff.mp given.2)
  · intro uncut
    refine ⟨?_, fragments.complete_iff.mpr (whole.mpr uncut)⟩
    exact sort_eq_of_perm ((fragments.uncut uncut.keys).filterMap _)

private theorem oneMessage_keyed : ∀ frame ∈ frames oneMessage, Keyed frame := by
  intro frame member
  rw [List.mem_singleton.mp member]
  exact ⟨default, rfl⟩

private def otherKey : Key := ⟨List.replicate 32 1, List.length_replicate⟩

private def routerFrame : Frame :=
  [.publicKey default, .lastHandshake 1700000000, .allowedIps [[.ipAddr (.v4 1), .cidr 32], [.ipAddr (.v4 2), .cidr 32]]]

private def phoneFrame : Frame := [.publicKey otherKey, .allowedIps [[.ipAddr (.v4 3), .cidr 32]]]

private def twoPeers : Dump := [.peers [routerFrame, phoneFrame]]

/-- The same, with the peers in messages of their own and the second first. -/
private def turned : Dump := [.peers [phoneFrame], .peers [routerFrame]]

private theorem turned_fragments : Fragments twoPeers turned := by
  refine ⟨_, .cons (.whole _) (.cons (.whole _) .nil), List.Perm.swap _ _ [], ?_⟩
  intro key
  have alone : ¬ (publicKey? routerFrame = some key ∧ publicKey? phoneFrame = some key) := by
    intro both
    exact absurd (both.1.trans both.2.symm) (by decide)
  change [phoneFrame, routerFrame].filter (publicKey? · = some key) = [routerFrame, phoneFrame].filter (publicKey? · = some key)
  by_cases router : publicKey? routerFrame = some key
  · have phone : ¬ publicKey? phoneFrame = some key := fun its => alone ⟨router, its⟩
    simp [router, phone]
  · simp [List.filter_cons, router]

private theorem twoPeers_frames {frame : Frame} (member : frame ∈ frames twoPeers) : frame = routerFrame ∨ frame = phoneFrame := by
  simpa [frames, twoPeers] using member

theorem turned_complete : currentPeers standard turned = currentPeers standard twoPeers ∧
    Complete standard twoPeers (currentPeers standard turned) := by
  have keyed : ∀ frame ∈ frames twoPeers, Keyed frame := by
    intro frame member
    rcases twoPeers_frames member with rfl | rfl
    · exact ⟨default, rfl⟩
    · exact ⟨otherKey, rfl⟩
  refine (currentPeers_fragmented_iff standard twoPeers turned keyed turned_fragments).mpr ⟨by decide, ?_⟩
  intro frame member
  rcases List.mem_cons.mp member with rfl | later
  · rfl
  · rw [List.mem_singleton.mp later]
    rfl

/-- The peer of the two messages is read as two. -/
theorem twoMessages_two_peers : (∀ frame ∈ frames oneMessage, Keyed frame) ∧ Fragments oneMessage twoMessages ∧
    currentPeers standard twoMessages ≠ currentPeers standard oneMessage := by
  refine ⟨oneMessage_keyed, twoMessages_fragments, ?_⟩
  intro same
  have two := (@currentPeers_keys standard twoMessages (twoMessages_fragments.keyed oneMessage_keyed)).length_eq
  have one := (@currentPeers_keys standard oneMessage oneMessage_keyed).length_eq
  rw [same, one] at two
  cases two

/-! ### The kernel's device -/

/-- What the kernel sends of a peer that fits one message. -/
def frameOfPeer (device : Device) (key : Key) (endpoint : Option SocketAddr) : Frame :=
  [.publicKey key] ++ (endpoint.map PeerAttribute.endpoint).toList ++
    [.allowedIps ((device.allowed.held key).map fun network => [.ipAddr network.cidr.addr, .cidr network.cidr.len])]

def dumpOf (device : Device) : Dump := [.peers (device.peers.entries.map fun entry => frameOfPeer device entry.1 entry.2)]

theorem readPeer_frameOfPeer (engine : Engine) (device : Device) (key : Key) (endpoint : Option SocketAddr) :
    readPeer engine (frameOfPeer device key endpoint) = some ⟨encodeKey engine key,
      (device.allowed.held key).map Network.text, endpoint.map SocketAddr.text, false⟩ := by
  have texts (networks : List Network) :
      (networks.map fun network => [AllowedIpAttribute.ipAddr network.cidr.addr, .cidr network.cidr.len]).filterMap
        allowedIpToCidr = networks.map Network.text := by
    rw [List.filterMap_map, ← List.filterMap_eq_map]
    rfl
  cases endpoint with
  | none => simp [readPeer, frameOfPeer, readAttribute, texts]
  | some endpoint => simp [readPeer, frameOfPeer, readAttribute, texts]

/-- Of a dump without cuts the kernel's peers are read as they are. -/
theorem currentPeers_dumpOf (engine : Engine) (device : Device) :
    currentPeers engine (dumpOf device) = sort (Awg.currentPeers engine device) := by
  have peers : frames (dumpOf device) = device.peers.entries.map fun entry => frameOfPeer device entry.1 entry.2 :=
    List.append_nil _
  rw [currentPeers, peers, List.filterMap_map]
  congr 1
  rw [Awg.currentPeers, ← List.filterMap_eq_map]
  apply List.filterMap_congr
  intro entry _
  exact readPeer_frameOfPeer engine device entry.1 entry.2

end Slipmesh.Awg.Wire
