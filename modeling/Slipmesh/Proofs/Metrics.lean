import Slipmesh.Awg.Metrics
import Slipmesh.Proofs.AwgConfig

/-! What a scrape shows of each configured peer, once and with its own numbers, and what it
shows of the rest of the config, which is nothing. -/

namespace Slipmesh.Awg
open Library

/-- Every peer of the config, with its interface. -/
def configured (cfg : AwgConfig) : List (InterfaceEntry × PeerEntry) :=
  cfg.interfaces.flatMap fun iface => iface.peers.map fun peer => (iface, peer)

variable {cfg : AwgConfig} {dumps : Dumps} {snapshot : ReconcileSnapshot} {now : Nat} {iface : InterfaceEntry}
  {peer : PeerEntry}

theorem mem_configured {pair : InterfaceEntry × PeerEntry} :
    pair ∈ configured cfg ↔ pair.1 ∈ cfg.interfaces ∧ pair.2 ∈ pair.1.peers := by
  rw [configured, List.mem_flatMap]
  constructor
  · intro given
    obtain ⟨iface, listed, member⟩ := given
    obtain ⟨peer, inside, rfl⟩ := List.mem_map.mp member
    exact ⟨listed, inside⟩
  · intro given
    exact ⟨pair.1, given.1, List.mem_map.mpr ⟨pair.2, given.2, rfl⟩⟩

/-- A validated config names no peer of an interface twice. -/
theorem configured_distinct (valid : validate cfg = .ok ()) :
    ((configured cfg).map fun pair => (pair.1.name, pair.2.publicKey)).Nodup := by
  obtain ⟨names, interfaces⟩ := validate_ok valid
  rw [configured, List.map_flatMap]
  apply List.nodup_flatMap.mpr
  constructor
  · intro iface listed
    have keys := (interfaces iface listed).keys.map (Prod.mk_right_injective iface.name)
    rw [List.map_map] at keys ⊢
    exact keys
  · refine (List.pairwise_map.mp names).imp ?_
    intro first second apart pair inFirst inSecond
    obtain ⟨_, here, rfl⟩ := List.mem_map.mp inFirst
    obtain ⟨_, there, same⟩ := List.mem_map.mp inSecond
    obtain ⟨_, _, rfl⟩ := List.mem_map.mp here
    obtain ⟨_, _, rfl⟩ := List.mem_map.mp there
    exact apart (congrArg Prod.fst same).symm

/-! ### One family at a time -/

/-- What the turn of a peer leaves in each family. -/
theorem observePeer_eq (families : Families) : observePeer dumps snapshot now iface families peer =
    { families with
      interfacePeers := IndexMap.touch 0 families.interfacePeers ⟨iface.name, kindOf peer⟩ (· + 1)
      connected :=
        if peer.allowedIps.isSome ∧ verdictIsFresh snapshot now then
          IndexMap.touch 0 families.connected (peerLabels iface peer)
            fun _ => if snapshot.connected.contains (iface.name, peer.publicKey) then 1 else 0
        else families.connected
      lastHandshake :=
        (((dumpedStats dumps iface peer).filter (0 < ·.lastHandshake)).map fun stats =>
          IndexMap.touch 0 families.lastHandshake (peerLabels iface peer)
            fun _ => asI64 stats.lastHandshake).getD families.lastHandshake
      rxBytes := ((dumpedStats dumps iface peer).map fun stats => IndexMap.touch 0 families.rxBytes
        (peerLabels iface peer) (· + UInt64.ofNat stats.rxBytes)).getD families.rxBytes
      txBytes := ((dumpedStats dumps iface peer).map fun stats => IndexMap.touch 0 families.txBytes
        (peerLabels iface peer) (· + UInt64.ofNat stats.txBytes)).getD families.txBytes } := by
  have tracked : kindOf peer = "roadwarrior" ↔ peer.allowedIps.isSome := by
    unfold kindOf
    split
    · simp [*]
    · simp [*]
  have handshake (stats : PeerStats) (before : Family PeerLabels Int) :
      (((some stats).filter (0 < ·.lastHandshake)).map fun stats =>
        IndexMap.touch 0 before (peerLabels iface peer) fun _ => asI64 stats.lastHandshake).getD before =
      if 0 < stats.lastHandshake then
        IndexMap.touch 0 before (peerLabels iface peer) fun _ => asI64 stats.lastHandshake
      else before := by
    by_cases shaken : 0 < stats.lastHandshake
    · simp [Option.filter, shaken]
    · simp [Option.filter, shaken]
  simp only [observePeer, tracked]
  by_cases judged : peer.allowedIps.isSome ∧ verdictIsFresh snapshot now
  · rw [if_pos judged, if_pos judged]
    cases dumpedStats dumps iface peer with
    | none => rfl
    | some stats =>
      simp only [handshake stats]
      split <;> rfl
  · rw [if_neg judged, if_neg judged]
    cases dumpedStats dumps iface peer with
    | none => rfl
    | some stats =>
      simp only [handshake stats]
      split <;> rfl

section
variable {κ ν : Type} [DecidableEq κ] (part : Families → Family κ ν) (start : ν)
  (changes : InterfaceEntry × PeerEntry → Option (κ × (ν → ν)))

/-- Where a turn of the loop touches a family for its own peer only, the family is what
the turns of all configured peers make of it. -/
theorem observe_part (dumps : Dumps) (snapshot : ReconcileSnapshot) (now : Nat)
    (turn : ∀ iface families peer, part (observePeer dumps snapshot now iface families peer) =
      ((changes (iface, peer)).map fun item => IndexMap.touch start (part families) item.1 item.2).getD (part families))
    (apart : ∀ families dumpOk, part { families with dumpOk } = part families) (cfg : AwgConfig) :
    part (observe cfg dumps snapshot now) = IndexMap.touchAll start (part {}) ((configured cfg).filterMap changes) := by
  have inner (iface : InterfaceEntry) (peers : List PeerEntry) (families : Families) :
      part (peers.foldl (observePeer dumps snapshot now iface) families) =
        IndexMap.touchAll start (part families) ((peers.map fun peer => (iface, peer)).filterMap changes) := by
    induction peers generalizing families with
    | nil => rfl
    | cons peer peers ih =>
      rw [List.foldl_cons, ih, turn, List.map_cons, List.filterMap_cons]
      cases changes (iface, peer) with
      | none => rfl
      | some item => rfl
  have outer (interfaces : List InterfaceEntry) (families : Families) :
      part (interfaces.foldl (fun families iface => observeInterface dumps snapshot now iface families) families) =
        IndexMap.touchAll start (part families)
          ((interfaces.flatMap fun iface => iface.peers.map fun peer => (iface, peer)).filterMap changes) := by
    induction interfaces generalizing families with
    | nil => rfl
    | cons iface interfaces ih =>
      rw [List.foldl_cons, ih, observeInterface, inner, apart, List.flatMap_cons, List.filterMap_append,
        IndexMap.touchAll, IndexMap.touchAll, IndexMap.touchAll, List.foldl_append]
  exact outer cfg.interfaces {}

end

/-! ### What a peer shows -/

/-- A family in which a turn touches the peer's own entry, which no other peer of a
validated config has. -/
theorem observe_peers {ν : Type} (valid : validate cfg = .ok ()) (part : Families → Family PeerLabels ν) (start : ν)
    (change : InterfaceEntry × PeerEntry → Option (ν → ν)) (empty : part {} = [])
    (turn : ∀ iface families peer, part (observePeer dumps snapshot now iface families peer) =
      ((change (iface, peer)).map fun its =>
        IndexMap.touch start (part families) (peerLabels iface peer) its).getD (part families))
    (apart : ∀ families dumpOk, part { families with dumpOk } = part families) :
    part (observe cfg dumps snapshot now) =
      (configured cfg).filterMap fun pair => (change pair).map fun its => (peerLabels pair.1 pair.2, its start) := by
  have whole := observe_part part start (fun pair => (change pair).map fun its => (peerLabels pair.1 pair.2, its))
    dumps snapshot now (fun iface families peer => by rw [turn, Option.map_map]; rfl) apart cfg
  have distinct : (((configured cfg).filterMap fun pair =>
      (change pair).map fun its => (peerLabels pair.1 pair.2, its)).map Prod.fst).Nodup := by
    rw [List.map_filterMap]
    apply List.pairwise_filterMap.mpr
    refine (List.pairwise_map.mp (configured_distinct valid)).imp ?_
    intro first second apart labels here other there same
    simp only [Option.map_map, Option.map_eq_some_iff, Function.comp_apply] at here there
    obtain ⟨_, _, rfl⟩ := here
    obtain ⟨_, _, rfl⟩ := there
    exact apart (Prod.ext (congrArg PeerLabels.interface same) (congrArg PeerLabels.peer same))
  rw [whole, empty, IndexMap.touchAll_distinct start distinct, List.map_filterMap]
  simp only [Option.map_map, Function.comp_def]

section
variable (dumps : Dumps) (snapshot : ReconcileSnapshot) (now : Nat) (pair : InterfaceEntry × PeerEntry)

/-- The counter of the peer, if the dump of its interface has its key. -/
def counterSeries (bytes : PeerStats → Nat) : Option Series :=
  (dumpedStats dumps pair.1 pair.2).map fun stats =>
    ⟨(peerLabels pair.1 pair.2).encode, .counter (UInt64.ofNat (bytes stats))⟩

/-- The time of its last handshake, if it has had one. -/
def handshakeSeries : Option Series :=
  ((dumpedStats dumps pair.1 pair.2).filter (0 < ·.lastHandshake)).map fun stats =>
    ⟨(peerLabels pair.1 pair.2).encode, .gauge (asI64 stats.lastHandshake)⟩

/-- The verdict of the routing loop on a tracked peer, while it is fresh. -/
def connectedSeries : Option Series :=
  if pair.2.allowedIps.isSome ∧ verdictIsFresh snapshot now then
    some ⟨(peerLabels pair.1 pair.2).encode,
      .gauge (if snapshot.connected.contains (pair.1.name, pair.2.publicKey) then 1 else 0)⟩
  else none

end

/-- A family that counts something of the dumps. -/
private theorem counters_series (valid : validate cfg = .ok ()) (part : Families → Family PeerLabels UInt64)
    (bytes : PeerStats → Nat) (empty : part {} = [])
    (turn : ∀ iface families peer, part (observePeer dumps snapshot now iface families peer) =
      ((dumpedStats dumps iface peer).map fun stats => IndexMap.touch 0 (part families) (peerLabels iface peer)
        (· + UInt64.ofNat (bytes stats))).getD (part families))
    (apart : ∀ families dumpOk, part { families with dumpOk } = part families) :
    counters PeerLabels.encode (part (observe cfg dumps snapshot now)) =
      (configured cfg).filterMap fun pair => counterSeries dumps pair bytes := by
  have each := observe_peers valid part 0
    (fun pair => (dumpedStats dumps pair.1 pair.2).map fun stats => (· + UInt64.ofNat (bytes stats))) empty
    (fun iface families peer => by rw [turn, Option.map_map]; rfl) apart
  rw [each]
  simp only [counters, List.map_filterMap, counterSeries, Option.map_map, Function.comp_def, UInt64.zero_add]

theorem rxBytes_series (valid : validate cfg = .ok ()) :
    counters PeerLabels.encode (observe cfg dumps snapshot now).rxBytes =
      (configured cfg).filterMap fun pair => counterSeries dumps pair PeerStats.rxBytes := by
  apply counters_series valid Families.rxBytes PeerStats.rxBytes rfl
  · intro iface families peer
    rw [observePeer_eq]
  · exact fun _ _ => rfl

theorem txBytes_series (valid : validate cfg = .ok ()) :
    counters PeerLabels.encode (observe cfg dumps snapshot now).txBytes =
      (configured cfg).filterMap fun pair => counterSeries dumps pair PeerStats.txBytes := by
  apply counters_series valid Families.txBytes PeerStats.txBytes rfl
  · intro iface families peer
    rw [observePeer_eq]
  · exact fun _ _ => rfl

theorem lastHandshake_series (valid : validate cfg = .ok ()) :
    gauges PeerLabels.encode (observe cfg dumps snapshot now).lastHandshake =
      (configured cfg).filterMap (handshakeSeries dumps) := by
  rw [observe_peers valid Families.lastHandshake 0
    (fun pair => ((dumpedStats dumps pair.1 pair.2).filter (0 < ·.lastHandshake)).map
      fun stats _ => asI64 stats.lastHandshake) rfl
    (fun iface families peer => by rw [observePeer_eq, Option.map_map]; rfl) fun _ _ => rfl]
  simp only [gauges, List.map_filterMap, Option.map_map, Function.comp_def]
  rfl

theorem connected_series (valid : validate cfg = .ok ()) :
    gauges PeerLabels.encode (observe cfg dumps snapshot now).connected =
      (configured cfg).filterMap (connectedSeries snapshot now) := by
  rw [observe_peers valid Families.connected 0
    (fun pair => if pair.2.allowedIps.isSome ∧ verdictIsFresh snapshot now then
      some fun _ => if snapshot.connected.contains (pair.1.name, pair.2.publicKey) then 1 else 0 else none) rfl
    (fun iface families peer => by rw [observePeer_eq]; split <;> rfl) fun _ _ => rfl]
  rw [gauges, List.map_filterMap]
  congr 1
  funext pair
  rw [connectedSeries]
  split <;> rfl

/-! ### What an interface shows -/

private theorem filter_flatMap_key {α β : Type} {f : α → List β} {keep : β → Bool} {here : α → Bool}
    (same : ∀ item, ∀ part ∈ f item, keep part = here item) (items : List α) :
    (items.flatMap f).filter keep = (items.filter here).flatMap f := by
  induction items with
  | nil => rfl
  | cons item items ih =>
    rw [List.flatMap_cons, List.filter_append, ih, List.filter_cons]
    cases its : here item with
    | true =>
      have all : (f item).filter keep = f item := List.filter_eq_self.mpr fun part member => (same item part member).trans its
      simp [all]
    | false =>
      have none : (f item).filter keep = [] := by
        apply List.filter_eq_nil_iff.mpr
        intro part member kept
        simp [same item part member, its] at kept
      simp [none]

theorem configured_filter (valid : validate cfg = .ok ()) (listed : iface ∈ cfg.interfaces) :
    (configured cfg).filter (·.1.name = iface.name) = iface.peers.map fun peer => (iface, peer) := by
  have only : cfg.interfaces.filter (·.name = iface.name) = [iface] :=
    IndexMap.filter_of_distinct (·.name) (validate_ok valid).1 listed
  rw [configured, @filter_flatMap_key _ _ _ _ fun other : InterfaceEntry => other.name = iface.name, only]
  · simp
  · intro other pair member
    obtain ⟨_, _, rfl⟩ := List.mem_map.mp member
    rfl

private theorem counted {α : Type} (items : List α) (old : Option Int) :
    items.foldl (fun old _ => some (old.getD 0 + 1)) old =
      if items.length = 0 then old else some (old.getD 0 + items.length) := by
  induction items generalizing old with
  | nil => rfl
  | cons item items ih =>
    rw [List.foldl_cons, ih]
    cases items with
    | nil => simp
    | cons next items =>
      simp only [List.length_cons, Option.getD_some, Nat.add_eq_zero_iff, one_ne_zero, and_false, if_false]
      push_cast
      congr 1
      omega

/-- The gauge of an interface and a kind counts its peers of the kind. -/
theorem interfacePeers_series (valid : validate cfg = .ok ()) (listed : iface ∈ cfg.interfaces) (kind : String) :
    (observe cfg dumps snapshot now).interfacePeers.filter (·.1 = ⟨iface.name, kind⟩) =
      if iface.peers.countP (kindOf · = kind) = 0 then []
      else [(⟨iface.name, kind⟩, (iface.peers.countP (kindOf · = kind) : Int))] := by
  have whole := observe_part Families.interfacePeers 0
    (fun pair => some ((⟨pair.1.name, kindOf pair.2⟩ : InterfaceKindLabels), fun count : Int => count + 1))
    dumps snapshot now (fun iface families peer => by rw [observePeer_eq]; rfl) (fun _ _ => rfl) cfg
  have number : ((configured cfg).filter fun pair =>
      (⟨pair.1.name, kindOf pair.2⟩ : InterfaceKindLabels) = ⟨iface.name, kind⟩).length =
        iface.peers.countP (kindOf · = kind) := by
    have split : (configured cfg).filter (fun pair =>
        (⟨pair.1.name, kindOf pair.2⟩ : InterfaceKindLabels) = ⟨iface.name, kind⟩) =
          ((configured cfg).filter (·.1.name = iface.name)).filter (kindOf ·.2 = kind) := by
      rw [List.filter_filter]
      congr 1
      funext pair
      simp [Bool.and_comm]
    rw [split, configured_filter valid listed, List.filter_map, List.length_map, List.countP_eq_length_filter]
    rfl
  have distinct : ((IndexMap.touchAll (0 : Int) [] ((configured cfg).filterMap fun pair =>
      some ((⟨pair.1.name, kindOf pair.2⟩ : InterfaceKindLabels), fun count : Int => count + 1))).map Prod.fst).Nodup :=
    IndexMap.touchAll_nodup 0 (by simp) _
  rw [whole, IndexMap.filter_lookup distinct, IndexMap.lookup_touchAll, List.filterMap_eq_map', List.filter_map,
    List.foldl_map]
  have total := counted ((configured cfg).filter fun pair =>
    (⟨pair.1.name, kindOf pair.2⟩ : InterfaceKindLabels) = ⟨iface.name, kind⟩) none
  rw [number] at total
  refine (congrArg (fun held => (held.map (Prod.mk (⟨iface.name, kind⟩ : InterfaceKindLabels))).toList) total).trans ?_
  split
  · rfl
  · simp

/-! ### The scrape -/

def seriesOf (out : List Registered) (name : String) : List Series := (out.filter (·.name = name)).flatMap (·.series)

/-- The series of a metric that carry the labels of this peer of this interface. -/
def peerSeries (out : List Registered) (name : String) (iface : InterfaceEntry) (peer : PeerEntry) : List Series :=
  (seriesOf out name).filter fun series =>
    (series.labels.lookup "interface", series.labels.lookup "peer") = (some iface.name, some peer.publicKey)

def peerMetrics : List String :=
  ["slipmesh_awg_peer_last_handshake_seconds", "slipmesh_awg_peer_rx_bytes", "slipmesh_awg_peer_tx_bytes",
    "slipmesh_awg_peer_connected"]

/-- What a scrape shows of the peers of a config. -/
structure Exposes (cfg : AwgConfig) (dumps : Dumps) (snapshot : ReconcileSnapshot) (now : Nat) (out : List Registered) :
    Prop where
  rxBytes : ∀ iface ∈ cfg.interfaces, ∀ peer ∈ iface.peers, peerSeries out "slipmesh_awg_peer_rx_bytes" iface peer =
    (counterSeries dumps (iface, peer) PeerStats.rxBytes).toList
  txBytes : ∀ iface ∈ cfg.interfaces, ∀ peer ∈ iface.peers, peerSeries out "slipmesh_awg_peer_tx_bytes" iface peer =
    (counterSeries dumps (iface, peer) PeerStats.txBytes).toList
  handshake : ∀ iface ∈ cfg.interfaces, ∀ peer ∈ iface.peers,
    peerSeries out "slipmesh_awg_peer_last_handshake_seconds" iface peer = (handshakeSeries dumps (iface, peer)).toList
  connected : ∀ iface ∈ cfg.interfaces, ∀ peer ∈ iface.peers,
    peerSeries out "slipmesh_awg_peer_connected" iface peer = (connectedSeries snapshot now (iface, peer)).toList
  only : ∀ metric ∈ out, ∀ series ∈ metric.series, (series.labels.lookup "peer").isSome →
    metric.name ∈ peerMetrics ∧ ∃ iface ∈ cfg.interfaces, ∃ peer ∈ iface.peers,
      series.labels = (peerLabels iface peer).encode
  counts : ∀ iface ∈ cfg.interfaces, ∀ kind : String,
    (seriesOf out "slipmesh_awg_interface_peers").filter (·.labels = [("interface", iface.name), ("kind", kind)]) =
      if iface.peers.countP (kindOf · = kind) = 0 then []
      else [⟨[("interface", iface.name), ("kind", kind)], .gauge (iface.peers.countP (kindOf · = kind))⟩]

/-- Of the series of all configured peers, those of one peer are its own. -/
private theorem shown_filter (valid : validate cfg = .ok ()) (listed : iface ∈ cfg.interfaces) (member : peer ∈ iface.peers)
    {shown : InterfaceEntry × PeerEntry → Option Series}
    (labels : ∀ pair series, shown pair = some series → series.labels = (peerLabels pair.1 pair.2).encode) :
    ((configured cfg).filterMap shown).filter (fun series =>
      (series.labels.lookup "interface", series.labels.lookup "peer") = (some iface.name, some peer.publicKey)) =
        (shown (iface, peer)).toList := by
  have placed := filter_filterMap_key (f := shown) (fun pair => (some pair.1.name, some pair.2.publicKey))
    (fun series => (series.labels.lookup "interface", series.labels.lookup "peer"))
    (fun pair series made => by rw [labels pair series made]; rfl) (configured cfg) (some iface.name, some peer.publicKey)
  have inside : (iface, peer) ∈ configured cfg := mem_configured.mpr ⟨listed, member⟩
  have only := IndexMap.filter_of_distinct (fun pair : InterfaceEntry × PeerEntry => (pair.1.name, pair.2.publicKey))
    (configured_distinct valid) inside
  rw [placed]
  have same : (configured cfg).filter (fun pair =>
      (some pair.1.name, some pair.2.publicKey) = (some iface.name, some peer.publicKey)) = [(iface, peer)] := by
    simpa only [Prod.mk.injEq, Option.some.injEq] using only
  rw [same]
  cases its : shown (iface, peer) with
  | none => simp [its]
  | some series => simp [its]

section
variable (version : String) (cfg : AwgConfig) (dumps : Dumps) (snapshot : ReconcileSnapshot) (now : Nat)

private theorem seriesOf_render :
    let families := observe cfg dumps snapshot now
    let out := render version cfg dumps snapshot now
    seriesOf out "slipmesh_awg_peer_rx_bytes" = counters PeerLabels.encode families.rxBytes ∧
      seriesOf out "slipmesh_awg_peer_tx_bytes" = counters PeerLabels.encode families.txBytes ∧
      seriesOf out "slipmesh_awg_peer_last_handshake_seconds" = gauges PeerLabels.encode families.lastHandshake ∧
      seriesOf out "slipmesh_awg_peer_connected" = gauges PeerLabels.encode families.connected ∧
      seriesOf out "slipmesh_awg_interface_peers" = gauges InterfaceKindLabels.encode families.interfacePeers := by
  unfold seriesOf render
  split
  · simp
  · simp

end

private theorem counterSeries_labels {bytes : PeerStats → Nat} (pair : InterfaceEntry × PeerEntry) (series : Series)
    (made : counterSeries dumps pair bytes = some series) : series.labels = (peerLabels pair.1 pair.2).encode := by
  obtain ⟨_, _, rfl⟩ := Option.map_eq_some_iff.mp made
  rfl

private theorem handshakeSeries_labels (pair : InterfaceEntry × PeerEntry) (series : Series)
    (made : handshakeSeries dumps pair = some series) : series.labels = (peerLabels pair.1 pair.2).encode := by
  obtain ⟨_, _, rfl⟩ := Option.map_eq_some_iff.mp made
  rfl

private theorem connectedSeries_labels (pair : InterfaceEntry × PeerEntry) (series : Series)
    (made : connectedSeries snapshot now pair = some series) : series.labels = (peerLabels pair.1 pair.2).encode := by
  rw [connectedSeries] at made
  split at made
  · cases made
    rfl
  · cases made

/-- A series of a family whose labels are those of peers belongs to a configured one. -/
private theorem shown_only {shown : InterfaceEntry × PeerEntry → Option Series}
    (labels : ∀ pair series, shown pair = some series → series.labels = (peerLabels pair.1 pair.2).encode)
    {series : Series} (member : series ∈ (configured cfg).filterMap shown) :
    ∃ iface ∈ cfg.interfaces, ∃ peer ∈ iface.peers, series.labels = (peerLabels iface peer).encode := by
  obtain ⟨pair, listed, made⟩ := List.mem_filterMap.mp member
  obtain ⟨inside, its⟩ := mem_configured.mp listed
  exact ⟨pair.1, inside, pair.2, its, labels pair series made⟩

/-- Labels that do not name a peer. -/
private theorem gauges_no_peer {κ : Type} {encode : κ → List (String × String)} (absent : ∀ labels, (encode labels).lookup "peer" = none)
    {family : Family κ Int} {series : Series} (member : series ∈ gauges encode family) :
    (series.labels.lookup "peer").isSome = false := by
  obtain ⟨entry, _, rfl⟩ := List.mem_map.mp member
  rw [absent]
  rfl

/-- The series that name a peer are those of the metrics of peers. -/
private theorem render_only (version : String) (valid : validate cfg = .ok ()) (dumps : Dumps) (snapshot : ReconcileSnapshot)
    (now : Nat) {metric : Registered} (listed : metric ∈ render version cfg dumps snapshot now) {series : Series}
    (member : series ∈ metric.series) (named : (series.labels.lookup "peer").isSome) :
    metric.name ∈ peerMetrics ∧ ∃ iface ∈ cfg.interfaces, ∃ peer ∈ iface.peers,
      series.labels = (peerLabels iface peer).encode := by
  simp only [render, List.cons_append, List.nil_append, List.mem_cons] at listed
  rcases listed with rfl | rfl | rfl | rfl | rfl | rfl | rfl | last
  · rw [gauges_no_peer (fun _ => rfl) member] at named
    cases named
  · rw [lastHandshake_series valid] at member
    exact ⟨by simp [peerMetrics], shown_only handshakeSeries_labels member⟩
  · rw [rxBytes_series valid] at member
    exact ⟨by simp [peerMetrics], shown_only counterSeries_labels member⟩
  · rw [txBytes_series valid] at member
    exact ⟨by simp [peerMetrics], shown_only counterSeries_labels member⟩
  · rw [connected_series valid] at member
    exact ⟨by simp [peerMetrics], shown_only connectedSeries_labels member⟩
  · rw [gauges_no_peer (fun _ => rfl) member] at named
    cases named
  · rw [gauges_no_peer (fun _ => rfl) member] at named
    cases named
  · split at last
    · cases List.mem_singleton.mp last
      cases List.mem_singleton.mp member
      cases named
    · cases last

theorem render_exposes (version : String) (valid : validate cfg = .ok ()) (dumps : Dumps) (snapshot : ReconcileSnapshot)
    (now : Nat) : Exposes cfg dumps snapshot now (render version cfg dumps snapshot now) := by
  obtain ⟨rx, tx, handshake, connected, peers⟩ := seriesOf_render version cfg dumps snapshot now
  refine ⟨?_, ?_, ?_, ?_, ?_, ?_⟩
  · intro iface listed peer member
    rw [peerSeries, rx, rxBytes_series valid]
    exact shown_filter valid listed member counterSeries_labels
  · intro iface listed peer member
    rw [peerSeries, tx, txBytes_series valid]
    exact shown_filter valid listed member counterSeries_labels
  · intro iface listed peer member
    rw [peerSeries, handshake, lastHandshake_series valid]
    exact shown_filter valid listed member handshakeSeries_labels
  · intro iface listed peer member
    rw [peerSeries, connected, connected_series valid]
    exact shown_filter valid listed member connectedSeries_labels
  · exact fun metric listed series member named => render_only version valid dumps snapshot now listed member named
  · intro iface listed kind
    have placed : ∀ entry : InterfaceKindLabels × Int,
        entry.1.encode = [("interface", iface.name), ("kind", kind)] ↔ entry.1 = ⟨iface.name, kind⟩ := by
      intro entry
      obtain ⟨labels, value⟩ := entry
      cases labels
      simp [InterfaceKindLabels.encode]
    rw [peers, gauges, List.filter_map]
    simp only [Function.comp_def, placed]
    rw [interfacePeers_series valid listed]
    split
    · rfl
    · rfl

/-! ### What is not shown -/

def PeerEntry.redacted (peer : PeerEntry) : PeerEntry where
  publicKey := peer.publicKey
  name := peer.name
  allowedIps := peer.allowedIps.map fun _ => []

def InterfaceEntry.redacted (iface : InterfaceEntry) : InterfaceEntry where
  name := iface.name
  listenPort := 0
  privateKey := ""
  peers := iface.peers.map PeerEntry.redacted

/-- The config without its keys, endpoints, addresses, ports and obfuscation: what stays is
how the interfaces and peers are named, and which peers are tracked. -/
def AwgConfig.redacted (cfg : AwgConfig) : AwgConfig where
  interfaces := cfg.interfaces.map InterfaceEntry.redacted

private theorem observePeer_redacted (families : Families) (iface : InterfaceEntry) (peer : PeerEntry) :
    observePeer dumps snapshot now iface.redacted families peer.redacted =
      observePeer dumps snapshot now iface families peer := by
  have kind : kindOf peer.redacted = kindOf peer := by simp [kindOf, PeerEntry.redacted]
  have labels : peerLabels iface.redacted peer.redacted = peerLabels iface peer := by
    simp only [peerLabels, kind]
    rfl
  simp only [observePeer, kind, labels]
  rfl

theorem render_redacted (version : String) (cfg : AwgConfig) (dumps : Dumps) (snapshot : ReconcileSnapshot) (now : Nat) :
    render version cfg.redacted dumps snapshot now = render version cfg dumps snapshot now := by
  have interfaces : observe cfg.redacted dumps snapshot now = observe cfg dumps snapshot now := by
    rw [observe, AwgConfig.redacted, List.foldl_map, observe]
    congr 1
    funext families iface
    rw [observeInterface, InterfaceEntry.redacted, List.foldl_map, observeInterface]
    congr 1
    funext families peer
    exact observePeer_redacted families iface peer
  rw [render, interfaces, ← render]

/-- A scrape of a validated config shows every configured peer once with its own numbers and
no other peer, and shows the same of every config that names and tracks the same peers. -/
theorem render_exact (version : String) (cfg : AwgConfig) (valid : validate cfg = .ok ()) (dumps : Dumps)
    (snapshot : ReconcileSnapshot) (now : Nat) :
    Exposes cfg dumps snapshot now (render version cfg dumps snapshot now) ∧
      ∀ other : AwgConfig, other.redacted = cfg.redacted →
        render version other dumps snapshot now = render version cfg dumps snapshot now := by
  refine ⟨render_exposes version valid dumps snapshot now, ?_⟩
  intro other same
  rw [← render_redacted version other, same, render_redacted]

private def scrapedConfig : AwgConfig :=
  { interfaces := [{
      name := "wg0"
      listenPort := 51820
      privateKey := "secret"
      peers := [{ publicKey := "a", allowedIps := some ["10.0.0.5/32"] }, { publicKey := "b", endpoint := some "192.0.2.1:51820" }] }] }

theorem render_exact_scraped :
    Exposes scrapedConfig (fun _ => some (some fun _ => some ⟨50, 1, 2⟩)) ⟨100, [("wg0", "a")]⟩ 101
      (render "0.4.0" scrapedConfig (fun _ => some (some fun _ => some ⟨50, 1, 2⟩)) ⟨100, [("wg0", "a")]⟩ 101) :=
  (render_exact "0.4.0" scrapedConfig (by decide) _ _ _).1

end Slipmesh.Awg
