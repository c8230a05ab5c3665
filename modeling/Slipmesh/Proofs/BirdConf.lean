import Slipmesh.Library.Guard
import Slipmesh.Library.Runs
import Slipmesh.Router.BirdConf
import Mathlib.Data.List.Forall2

/-! Of a validated config a context is made, and where the protocols that the reference
template defines in it are named apart. -/

namespace Slipmesh.Router
open Library Net Common

/-! ### What validation leaves -/

private theorem validatePeers_ok {seen : List String} {peers : List BgpPeerEntry} (ok : validatePeers seen peers = .ok ()) :
    ∀ peer ∈ peers, ∃ address, parseIpv6Addr peer.address = some address := by
  have distinct : validatePeers seen peers = .ok () ↔ (peers.map (·.name)).Nodup ∧ (∀ peer ∈ peers, peer.name ∉ seen) ∧
      ∀ peer ∈ peers, peer.name ≠ "" ∧ ¬ (parseIpv6Addr peer.address).isNone := by
    apply distinct_ok
    · intro seen
      rfl
    · intro seen peer rest
      simp only [validatePeers, throw_bind, refuse_ok]
      tauto
  intro peer member
  have parsed := ((distinct.mp ok).2.2 peer member).2
  rwa [Option.isNone_iff_eq_none, ← ne_eq, Option.ne_none_iff_exists'] at parsed

/-- What the context of a config rests on. -/
structure Validated (cfg : RouterConfig) : Prop where
  loopbacks : ∃ loopbacks, cfg.node.loopbackAddresses.mapM parseLoopbackAddress = .ok loopbacks ∧
    (∃ cidr ∈ loopbacks, cidr.addr.isIpv4 = true) ∧ ∃ cidr ∈ loopbacks, cidr.addr.isIpv4 = false
  peers : ∀ peer ∈ cfg.bgpPeers, ∃ address, parseIpv6Addr peer.address = some address
  learn : ∀ range ∈ cfg.learn, ∃ net, Cidr.parseCidr range = .ok net
  announce : ∀ entry ∈ cfg.announce, ∃ net, Cidr.parseCidr entry.net = .ok net

variable {cfg : RouterConfig}

theorem exists_of_length_filter {α : Type} {p : α → Bool} {items : List α} (one : (items.filter p).length = 1) :
    ∃ item ∈ items, p item = true := by
  obtain ⟨item, only⟩ := List.length_eq_one_iff.mp one
  exact ⟨item, List.mem_filter.mp (only ▸ List.mem_singleton_self item)⟩

theorem validate_ok (ok : validate cfg = .ok ()) : Validated cfg := by
  obtain ⟨node, bgpAs, bgpPeers, bfd, ospfInterfaces, directInterfaces, learn, announce, bypass, metrics⟩ := cfg
  have checks : ∃ loopbacks, node.loopbackAddresses.mapM parseLoopbackAddress = .ok loopbacks ∧
      (loopbacks.filter (·.addr.isIpv4)).length = 1 ∧ (loopbacks.filter (!·.addr.isIpv4)).length = 1 ∧
      validatePeers [] bgpPeers = .ok () ∧ (∀ range ∈ learn, ∃ net, Cidr.parseCidr range = .ok net ∧ True) ∧
      ∀ entry ∈ announce, ∃ net, Cidr.parseCidr entry.net = .ok net ∧ True := by
    cases metrics <;> cases bfd <;> cases bypass <;>
      simp only [validate, bind_ok, throw_bind, refuse_ok, accept_ok, forM_ok, mapError_ok, exists_unit, pure_ok,
        List.forM_eq_forM] at ok <;>
      grind
  obtain ⟨loopbacks, read, ipv4, ipv6, peers, ranges, entries⟩ := checks
  obtain ⟨first, listed, isIpv4⟩ := exists_of_length_filter ipv4
  obtain ⟨second, listed', isIpv6⟩ := exists_of_length_filter ipv6
  simp only [and_true] at ranges entries
  exact {
    loopbacks := ⟨loopbacks, read, ⟨first, listed, isIpv4⟩, second, listed', by simpa using isIpv6⟩
    peers := validatePeers_ok peers
    learn := ranges
    announce := entries }

/-- The last loopback of a family is kept. -/
theorem keepLoopback_isSome {loopbacks : List IpCidr} {cidr : IpCidr} (listed : cidr ∈ loopbacks)
    (found : Option Ipv4Addr × Option Ipv6Addr) :
    if cidr.addr.isIpv4 then (loopbacks.foldl keepLoopback found).1.isSome
    else (loopbacks.foldl keepLoopback found).2.isSome := by
  refine run_establishes (fun found => if cidr.addr.isIpv4 then found.1.isSome = true else found.2.isSome = true)
    loopbacks ?_ listed ?_ found
  · intro found other _ held
    -- Another address takes the place of one of its family, and leaves the other's.
    cases address : other.addr with
    | v4 addr =>
      rw [keepLoopback, address]
      split
      · rfl
      · rename_i family
        rwa [if_neg family] at held
    | v6 addr =>
      rw [keepLoopback, address]
      split
      · rename_i family
        rwa [if_pos family] at held
      · rfl
  · intro found
    cases address : cidr.addr with
    | v4 addr => simp [keepLoopback, address, IpAddr.isIpv4]
    | v6 addr => simp [keepLoopback, address, IpAddr.isIpv4]

theorem bgpPeers_ok {peers : List BgpPeerEntry}
    (parse : ∀ peer ∈ peers, ∃ address, parseIpv6Addr peer.address = some address) :
    ∃ parsed, peers.mapM BgpPeer.fromEntry = .ok parsed ∧ parsed.map (·.name) = peers.map (·.name) := by
  have each : ∀ peer ∈ peers, ∃ parsed, BgpPeer.fromEntry peer = .ok parsed := by
    intro peer listed
    obtain ⟨address, read⟩ := parse peer listed
    exact ⟨⟨peer.name, address⟩, by rw [BgpPeer.fromEntry, read]⟩
  obtain ⟨parsed, made⟩ := mapM_total each
  refine ⟨parsed, made, mapM_keeps made ?_⟩
  intro peer product one
  rw [BgpPeer.fromEntry] at one
  split at one
  · cases one
    rfl
  · cases one

/-- The inputs of a config whose addresses are read. -/
theorem fromConfig_read {loopbacks : List IpCidr} {loopback : Ipv4Addr} {ipv6Loopback : Ipv6Addr} {peers : List BgpPeer}
    (read : cfg.node.loopbackAddresses.mapM parseLoopbackAddress = .ok loopbacks)
    (kept : loopbacks.foldl keepLoopback (none, none) = (some loopback, some ipv6Loopback))
    (made : cfg.bgpPeers.mapM BgpPeer.fromEntry = .ok peers) :
    StaticInputs.fromConfig cfg = .ok {
      identity := ⟨loopback, ipv6Loopback⟩
      asNumber := cfg.bgpAs
      ospfInterfaces := cfg.ospfInterfaces
      directInterfaces := cfg.directInterfaces
      bgpPeers := peers
      announce := cfg.announce.map fun entry => ⟨entry.net, entry.label.getD ""⟩
      learn := cfg.learn
      bfd := cfg.bfd } := by
  simp only [StaticInputs.fromConfig, bind_ok, mapError_ok, pure_ok]
  refine ⟨loopbacks, read, loopback, ?_, ipv6Loopback, ?_, peers, made, rfl⟩
  · rw [kept]
    rfl
  · rw [kept]
    rfl

/-- A validated config has its inputs, which keep its texts. -/
theorem fromConfig_ok (valid : Validated cfg) : ∃ inputs, StaticInputs.fromConfig cfg = .ok inputs ∧
    inputs.directInterfaces = cfg.directInterfaces ∧ inputs.bgpPeers.map (·.name) = cfg.bgpPeers.map (·.name) ∧
    inputs.learn = cfg.learn ∧ inputs.announce.map (·.net) = cfg.announce.map (·.net) := by
  obtain ⟨loopbacks, read, ⟨first, listed, isIpv4⟩, second, listed', isIpv6⟩ := valid.loopbacks
  have kept := keepLoopback_isSome listed (none, none)
  have kept' := keepLoopback_isSome listed' (none, none)
  rw [isIpv4, if_pos rfl] at kept
  rw [isIpv6, if_neg Bool.false_ne_true] at kept'
  obtain ⟨loopback, ipv4⟩ := Option.isSome_iff_exists.mp kept
  obtain ⟨ipv6Loopback, ipv6⟩ := Option.isSome_iff_exists.mp kept'
  obtain ⟨peers, made, names⟩ := bgpPeers_ok valid.peers
  exact ⟨_, fromConfig_read read (Prod.ext ipv4 ipv6) made, rfl, names, rfl, by simp⟩

/-! ### Identifiers -/

/-- A text as its identifier is made of it, with an underscore before what could not begin one. -/
def marked (raw : String) : List Char :=
  if raw.toList.head?.all Char.isDigit then '_' :: raw.toList else raw.toList

/-- The same character, or two that are no ASCII letters or digits. -/
def Confusable (c d : Char) : Prop := c = d ∨ c.isAlphanum = false ∧ d.isAlphanum = false

def Alike (a b : String) : Prop := List.Forall₂ Confusable (marked a) (marked b)

/-- No two peers and no two interfaces, at different places of their lists, are alike. -/
structure DistinctIds (cfg : RouterConfig) : Prop where
  peers : (cfg.bgpPeers.map (·.name)).Pairwise (¬ Alike · ·)
  interfaces : cfg.directInterfaces.Pairwise (¬ Alike · ·)

theorem protocolChar_eq (c : Char) : protocolChar c = if c.isAlphanum then c else '_' := by
  unfold protocolChar
  by_cases underscore : c = '_'
  · simp [underscore]
  · simp [underscore]

theorem protocolChar_eq_iff (c d : Char) : protocolChar c = protocolChar d ↔ Confusable c d := by
  have other {c : Char} (kept : c.isAlphanum = true) : c ≠ '_' := by
    rintro rfl
    cases kept
  rw [protocolChar_eq, protocolChar_eq, Confusable]
  cases first : c.isAlphanum <;> cases second : d.isAlphanum
  · simp
  · have apart : c ≠ d := by
      rintro rfl
      simp [first] at second
    simp [apart, (other second).symm]
  · have apart : c ≠ d := by
      rintro rfl
      simp [first] at second
    simp [apart, other first]
  · simp

theorem protocolChar_isDigit (c : Char) : (protocolChar c).isDigit = c.isDigit := by
  have underscore : Char.isDigit '_' = false := by decide
  unfold protocolChar
  split
  · rfl
  · rename_i other
    simp only [Char.isAlphanum, Bool.or_eq_true, not_or, Bool.not_eq_true] at other
    rw [underscore, other.1.2]

theorem toList_sanitizeProtocolId (raw : String) : (sanitizeProtocolId raw).toList = (marked raw).map protocolChar := by
  have first : (raw.toList.map protocolChar).head?.all Char.isDigit = raw.toList.head?.all Char.isDigit := by
    rw [List.head?_map]
    cases raw.toList.head? with
    | none => rfl
    | some c => exact protocolChar_isDigit c
  have underscore : protocolChar '_' = '_' := by decide
  rw [sanitizeProtocolId, marked, String.toList_ofList, first]
  split
  · rw [List.map_cons, underscore]
  · rfl

theorem sanitizeProtocolId_eq_iff (a b : String) : sanitizeProtocolId a = sanitizeProtocolId b ↔ Alike a b := by
  rw [← String.toList_inj, toList_sanitizeProtocolId, toList_sanitizeProtocolId, ← List.forall₂_eq_eq_eq,
    List.forall₂_map_left_iff, List.forall₂_map_right_iff, Alike]
  simp only [protocolChar_eq_iff]

/-- Under one beginning, texts have one identifier exactly where they are alike. -/
theorem nodup_protocolIds (start : String) (names : List String) :
    (names.map fun name => start ++ sanitizeProtocolId name).Nodup ↔ names.Pairwise (¬ Alike · ·) := by
  rw [List.Nodup, List.pairwise_map]
  simp only [ne_eq, String.append_right_inj, sanitizeProtocolId_eq_iff]

/-! ### The names of the protocols -/

/-- Two texts differ at a place. -/
def DifferAt (position : Nat) (first second : String) : Prop :=
  position < first.toList.length ∧ position < second.toList.length ∧ first.toList[position]? ≠ second.toList[position]?

instance (position : Nat) (first second : String) : Decidable (DifferAt position first second) :=
  inferInstanceAs (Decidable (_ ∧ _ ∧ _))

/-- What follows on two beginnings that differ does not make them one text. -/
theorem DifferAt.append {position : Nat} {first second : String} (differ : DifferAt position first second) (a b : String) :
    first ++ a ≠ second ++ b := by
  intro same
  obtain ⟨here, there, differ⟩ := differ
  have chars := congrArg (·.toList[position]?) same
  simp only [String.toList_append] at chars
  rw [List.getElem?_append_left here, List.getElem?_append_left there] at chars
  exact differ chars

theorem DifferAt.append_left {position : Nat} {first second : String} (differ : DifferAt position first second) (a : String) :
    first ++ a ≠ second := by
  have apart := differ.append a ""
  rwa [String.append_empty] at apart

def staticNames (context : BirdConfigContext) : List String :=
  "mesh6" :: ((if context.bypass = [] then [] else ["BYPASS"]) ++ if context.announce = [] then [] else ["ANNOUNCE"])

theorem protocolNames_eq (context : BirdConfigContext) : context.protocolNames =
    "direct1" :: (context.directInterfaces.map ("direct_" ++ ·.protocolId) ++
      (staticNames context ++ context.bgpPeers.map ("ibgp6_" ++ ·.protocolId))) := by
  have direct : (context.directInterfaces.map BirdConfigContext.directProtocol).filterMap (·.name) =
      context.directInterfaces.map ("direct_" ++ ·.protocolId) := by
    rw [List.filterMap_map]
    exact congrFun List.filterMap_eq_map _
  have ibgp : (context.bgpPeers.map context.ibgpProtocol).filterMap (·.name) =
      context.bgpPeers.map ("ibgp6_" ++ ·.protocolId) := by
    rw [List.filterMap_map]
    exact congrFun List.filterMap_eq_map _
  have bfd : ((context.bfd.map context.bfdProtocol).toList).filterMap (·.name) = [] := by
    cases context.bfd with
    | none => rfl
    | some bfd => rfl
  have static (name target : String) (routes : List SanitizedRoute) :
      (BirdConfigContext.staticProtocol name target routes).filterMap (·.name) = if routes = [] then [] else [name] := by
    rw [BirdConfigContext.staticProtocol]
    split
    · rfl
    · rfl
  simp only [BirdConfigContext.protocolNames, BirdConfigContext.protocols, List.filterMap_append, direct, ibgp, bfd, static,
    staticNames]
  simp [BirdConfigContext.direct1, BirdConfigContext.kernelIpv4, BirdConfigContext.kernelIpv6, BirdConfigContext.mesh6]

theorem staticNames_sublist (context : BirdConfigContext) : (staticNames context).Sublist ["mesh6", "BYPASS", "ANNOUNCE"] := by
  rw [staticNames]
  by_cases bypass : context.bypass = [] <;> by_cases announce : context.announce = []
  · simp [bypass, announce]
  · simp [bypass, announce]
  · simp [bypass, announce]
  · simp [bypass, announce]

/-- Protocols of different kinds never share a name. -/
theorem protocolNames_nodup_iff (context : BirdConfigContext) : context.protocolNames.Nodup ↔
    (context.directInterfaces.map ("direct_" ++ ·.protocolId)).Nodup ∧
      (context.bgpPeers.map ("ibgp6_" ++ ·.protocolId)).Nodup := by
  have statics := staticNames_sublist context
  have nodup : (staticNames context).Nodup := List.Nodup.sublist statics (by decide)
  have direct_direct1 := DifferAt.append_left (show DifferAt 6 "direct_" "direct1" by decide)
  have ibgp_direct1 := DifferAt.append_left (show DifferAt 0 "ibgp6_" "direct1" by decide)
  have direct_ibgp := DifferAt.append (show DifferAt 0 "direct_" "ibgp6_" by decide)
  have static_ne {start : String} (apart : ∀ name ∈ ["mesh6", "BYPASS", "ANNOUNCE"], DifferAt 0 start name) (id : String) :
      ∀ name ∈ staticNames context, start ++ id ≠ name := by
    intro name listed
    exact (apart name (statics.subset listed)).append_left id
  have direct_static := static_ne (show ∀ name ∈ ["mesh6", "BYPASS", "ANNOUNCE"], DifferAt 0 "direct_" name by decide)
  have ibgp_static := static_ne (show ∀ name ∈ ["mesh6", "BYPASS", "ANNOUNCE"], DifferAt 0 "ibgp6_" name by decide)
  have static_direct1 : "direct1" ∉ staticNames context := by
    intro listed
    exact absurd (statics.subset listed) (by decide)
  rw [protocolNames_eq, List.nodup_cons, List.nodup_append, List.nodup_append]
  constructor
  · intro given
    obtain ⟨_, direct, ⟨_, ibgp, _⟩, _⟩ := given
    exact ⟨direct, ibgp⟩
  · intro given
    obtain ⟨direct, ibgp⟩ := given
    refine ⟨?_, direct, ⟨nodup, ibgp, ?_⟩, ?_⟩
    · simp only [List.mem_append, List.mem_map, not_or, not_exists, not_and]
      exact ⟨fun iface _ => direct_direct1 _, static_direct1, fun peer _ => ibgp_direct1 _⟩
    · intro name listed other peer same
      obtain ⟨peer, _, rfl⟩ := List.mem_map.mp peer
      exact ibgp_static _ name listed same.symm
    · intro name iface other later
      obtain ⟨iface, _, rfl⟩ := List.mem_map.mp iface
      rcases List.mem_append.mp later with listed | peer
      · exact direct_static _ other listed
      · obtain ⟨peer, _, rfl⟩ := List.mem_map.mp peer
        exact direct_ibgp _ _

/-- Of a validated config, with whichever bypass: the protocols' names are distinct
exactly where no two peers and no two interfaces are alike. -/
theorem protocolNames_distinct_iff (valid : validate cfg = .ok ()) (bypass : List BypassRoute) :
    ∃ inputs, StaticInputs.fromConfig cfg = .ok inputs ∧
      ((inputs.context bypass).protocolNames.Nodup ↔ DistinctIds cfg) := by
  obtain ⟨inputs, made, interfaces, names, _, _⟩ := fromConfig_ok (validate_ok valid)
  refine ⟨inputs, made, ?_⟩
  have direct : (inputs.context bypass).directInterfaces.map ("direct_" ++ ·.protocolId) =
      cfg.directInterfaces.map fun entry => "direct_" ++ sanitizeProtocolId entry := by
    simp only [StaticInputs.context, BirdConfigContext.new, interfaces, List.map_map]
    rfl
  have ibgp : (inputs.context bypass).bgpPeers.map ("ibgp6_" ++ ·.protocolId) =
      (cfg.bgpPeers.map (·.name)).map fun name => "ibgp6_" ++ sanitizeProtocolId name := by
    simp only [StaticInputs.context, BirdConfigContext.new, ← names, List.map_map]
    rfl
  rw [protocolNames_nodup_iff, direct, ibgp, nodup_protocolIds, nodup_protocolIds]
  constructor
  · intro given
    exact ⟨given.2, given.1⟩
  · intro distinct
    exact ⟨distinct.interfaces, distinct.peers⟩

/-- Two peers and two interfaces, whose names a mark stands in. -/
def markedNames (mark : String) : RouterConfig where
  node := ⟨["10.62.0.1/32", "fd00:62::1/128"]⟩
  bgpAs := 64512
  bgpPeers := [⟨"node-b", "fd00:62::2"⟩, ⟨"node" ++ mark ++ "b", "fd00:62::3"⟩]
  directInterfaces := ["cni-0", "cni" ++ mark ++ "0"]

theorem protocolNames_distinct_lettered : ∃ inputs, StaticInputs.fromConfig (markedNames "x") = .ok inputs ∧
    ((inputs.context []).protocolNames.Nodup ↔ DistinctIds (markedNames "x")) := by
  have valid : validate (markedNames "x") = .ok () := by decide +kernel
  exact protocolNames_distinct_iff valid []

def markedInputs (mark : String) : StaticInputs where
  identity := ⟨0x0A3E0001, 0xFD000062000000000000000000000001⟩
  asNumber := 64512
  ospfInterfaces := []
  directInterfaces := ["cni-0", "cni" ++ mark ++ "0"]
  bgpPeers := [⟨"node-b", 0xFD000062000000000000000000000002⟩, ⟨"node" ++ mark ++ "b", 0xFD000062000000000000000000000003⟩]
  announce := []
  learn := []
  bfd := none

/-- Peers `node-b` and `node.b`, and interfaces `cni-0` and `cni.0`, give one name each. -/
theorem protocolNames_shared : validate (markedNames ".") = .ok () ∧
    StaticInputs.fromConfig (markedNames ".") = .ok (markedInputs ".") ∧
    ((markedInputs ".").context []).protocolNames =
      ["direct1", "direct_cni_0", "direct_cni_0", "mesh6", "ibgp6_node_b", "ibgp6_node_b"] ∧
    ¬ ((markedInputs ".").context []).protocolNames.Nodup := by
  have names : ((markedInputs ".").context []).protocolNames =
      ["direct1", "direct_cni_0", "direct_cni_0", "mesh6", "ibgp6_node_b", "ibgp6_node_b"] := by decide +kernel
  refine ⟨by decide +kernel, by decide +kernel, names, ?_⟩
  rw [names]
  decide

end Slipmesh.Router
