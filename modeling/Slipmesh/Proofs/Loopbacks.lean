import Slipmesh.Proofs.Topology

/-! When two nodes of a topology get different addresses: their identities have to
differ within the host portion of every network. -/

namespace Slipmesh.Taloscfg
open Library Net Common
open Router (linkLocalFromLoopback)

theorem hostIn_getLsbD {w : Nat} (network host : BitVec w) (prefixLen : Nat) {i : Nat} (inside : i < w) :
    (hostIn network prefixLen host).getLsbD i = if i < w - prefixLen then host.getLsbD i else network.getLsbD i := by
  unfold hostIn
  by_cases none : prefixLen = 0
  · simp [none, inside]
  · by_cases below : i < w - prefixLen
    · simp [none, inside, below]
    · simp [none, inside, below]

/-- Two hosts share an address exactly when they agree on the host portion. -/
theorem hostIn_eq_iff {w : Nat} (network first second : BitVec w) (prefixLen : Nat) :
    hostIn network prefixLen first = hostIn network prefixLen second ↔
      first.toNat % 2 ^ (w - prefixLen) = second.toNat % 2 ^ (w - prefixLen) := by
  constructor
  · intro same
    apply Nat.eq_of_testBit_eq
    intro i
    by_cases below : i < w - prefixLen
    · have inside : i < w := by omega
      have bit := congrArg (BitVec.getLsbD · i) same
      simp only [hostIn_getLsbD _ _ _ inside, below, if_true] at bit
      simpa only [Nat.testBit_mod_two_pow, below, decide_true, Bool.true_and, BitVec.testBit_toNat] using bit
    · simp [below]
  · intro same
    apply BitVec.eq_of_getLsbD_eq
    intro i inside
    simp only [hostIn_getLsbD _ _ _ inside]
    split
    · rename_i below
      have bit := congrArg (Nat.testBit · i) same
      simpa only [Nat.testBit_mod_two_pow, below, decide_true, Bool.true_and, BitVec.testBit_toNat] using bit
    · rfl

theorem ipv4Loopback_eq_iff (network : Ipv4Addr) (prefixLen : Nat) (first second : Ipv4Addr) :
    ipv4Loopback network prefixLen first = ipv4Loopback network prefixLen second ↔
      first.toNat % 2 ^ (32 - prefixLen) = second.toNat % 2 ^ (32 - prefixLen) :=
  hostIn_eq_iff network first second prefixLen

theorem ipv6Loopback_eq_iff (network : Ipv6Addr) (prefixLen : Nat) (first second : Ipv4Addr) :
    ipv6Loopback network prefixLen first = ipv6Loopback network prefixLen second ↔
      first.toNat % 2 ^ (128 - prefixLen) = second.toNat % 2 ^ (128 - prefixLen) := by
  have wide (nodeId : Ipv4Addr) : (nodeId.setWidth 128).toNat = nodeId.toNat := by
    have := nodeId.isLt
    rw [BitVec.toNat_setWidth, Nat.mod_eq_of_lt (by omega)]
  rw [ipv6Loopback, ipv6Loopback, hostIn_eq_iff, wide, wide]

theorem linkLocal_toNat (loopback : Ipv6Addr) :
    (linkLocalFromLoopback loopback).toNat = 0xfe80 * 2 ^ 112 + loopback.toNat % 2 ^ 32 := by
  simp only [linkLocalFromLoopback, BitVec.toNat_ofNat, ofGroups, List.foldl_cons, List.foldl_nil,
    BitVec.toNat_ushiftRight, BitVec.toNat_setWidth, Nat.shiftRight_eq_div_pow]
  omega

/-- The high bits of a loopback are the network's, so its low 32 tell it apart. -/
theorem linkLocal_loopback_eq_iff (network : Ipv6Addr) (prefixLen : Nat) (first second : Ipv4Addr) :
    linkLocalFromLoopback (ipv6Loopback network prefixLen first) =
        linkLocalFromLoopback (ipv6Loopback network prefixLen second) ↔
      ipv6Loopback network prefixLen first = ipv6Loopback network prefixLen second := by
  refine ⟨fun same => ?_, congrArg linkLocalFromLoopback⟩
  have low : (ipv6Loopback network prefixLen first).toNat % 2 ^ 32 =
      (ipv6Loopback network prefixLen second).toNat % 2 ^ 32 := by
    have numbers := congrArg BitVec.toNat same
    rw [linkLocal_toNat, linkLocal_toNat] at numbers
    omega
  apply BitVec.eq_of_getLsbD_eq
  intro i inside
  by_cases below : i < 32
  · have bit := congrArg (Nat.testBit · i) low
    simpa only [Nat.testBit_mod_two_pow, below, decide_true, Bool.true_and, BitVec.testBit_toNat] using bit
  · have zero (nodeId : Ipv4Addr) : (nodeId.setWidth 128).getLsbD i = false := by
      rw [BitVec.getLsbD_setWidth, BitVec.getLsbD_of_ge nodeId i (by omega), Bool.and_false]
    simp only [ipv6Loopback, hostIn_getLsbD _ _ _ inside, zero]

/-! ### Two nodes of one topology -/

/-- The two identities differ in the host portion of either family's network. -/
structure Networks.Separates (networks : Networks) (first second : Ipv4Addr) : Prop where
  ipv4 : first.toNat % 2 ^ (32 - networks.ipv4Prefix) ≠ second.toNat % 2 ^ (32 - networks.ipv4Prefix)
  ipv6 : first.toNat % 2 ^ (128 - networks.ipv6Prefix) ≠ second.toNat % 2 ^ (128 - networks.ipv6Prefix)

/-- The identities of the two nodes are told apart by the loopback networks and, where
they are configured, by the tunnel networks. -/
structure Separated (mesh : MeshConfig) (a b : NodeEntry) : Prop where
  loopbacks : ∀ networks, parseLoopbackNetworks mesh = .ok networks →
    ∀ idA ∈ parseIpv4Addr a.nodeId, ∀ idB ∈ parseIpv4Addr b.nodeId, networks.Separates idA idB
  tunnels : ∀ networks, parseTunnelNetworks mesh = .ok (some networks) →
    ∀ idA ∈ parseIpv4Addr a.nodeId, ∀ idB ∈ parseIpv4Addr b.nodeId, networks.Separates idA idB

/-- No address of one node is the other's; `first` and `second` are their loopbacks. -/
structure AddressesDiffer (mesh : MeshConfig) (a b : NodeEntry) (first second : Ipv4Addr × Ipv6Addr) : Prop where
  ipv4 : first.1 ≠ second.1
  ipv6 : first.2 ≠ second.2
  linkLocal : linkLocalFromLoopback first.2 ≠ linkLocalFromLoopback second.2
  tunnels : ∀ first second, nodeTunnelAddresses mesh a.name = .ok (some first) →
    nodeTunnelAddresses mesh b.name = .ok (some second) → first.1 ≠ second.1 ∧ first.2 ≠ second.2

theorem Networks.apart_iff (networks : Networks) (first second : Ipv4Addr) :
    (networks.addresses first).1 ≠ (networks.addresses second).1 ∧
      (networks.addresses first).2 ≠ (networks.addresses second).2 ↔ networks.Separates first second := by
  simp only [Networks.addresses, ne_eq, ipv4Loopback_eq_iff, ipv6Loopback_eq_iff]
  exact ⟨fun ⟨ipv4, ipv6⟩ => ⟨ipv4, ipv6⟩, fun ⟨ipv4, ipv6⟩ => ⟨ipv4, ipv6⟩⟩

variable {mesh : MeshConfig}

private theorem nodeLoopbacks_eq (valid : ValidTopology mesh) {node : NodeEntry} (listed : node ∈ mesh.nodes)
    {nodeId : Ipv4Addr} (parsed : parseIpv4Addr node.nodeId = some nodeId) :
    nodeLoopbacks mesh node.name = (parseLoopbackNetworks mesh).map (·.addresses nodeId) := by
  rw [nodeLoopbacks, valid.nodeIdOf listed parsed]
  cases parseLoopbackNetworks mesh with
  | error e => rfl
  | ok networks => rfl

private theorem nodeTunnelAddresses_eq (valid : ValidTopology mesh) {node : NodeEntry} (listed : node ∈ mesh.nodes)
    {nodeId : Ipv4Addr} (parsed : parseIpv4Addr node.nodeId = some nodeId) :
    nodeTunnelAddresses mesh node.name = (parseTunnelNetworks mesh).map (·.map (·.addresses nodeId)) := by
  rw [nodeTunnelAddresses, valid.nodeIdOf listed parsed]
  cases parseTunnelNetworks mesh with
  | error e => rfl
  | ok networks =>
    cases networks with
    | none => rfl
    | some networks => rfl

/-- Of a validated topology, two nodes for which `node_loopbacks` succeeds get
different addresses exactly when every configured network leaves enough of their
identities to tell them apart. -/
theorem addresses_differ_iff (accepted : validate mesh = .ok ()) {a b : NodeEntry} (listedA : a ∈ mesh.nodes)
    (listedB : b ∈ mesh.nodes) {first second : Ipv4Addr × Ipv6Addr} (succeedsA : nodeLoopbacks mesh a.name = .ok first)
    (succeedsB : nodeLoopbacks mesh b.name = .ok second) :
    AddressesDiffer mesh a b first second ↔ Separated mesh a b := by
  have valid := validate_ok accepted
  obtain ⟨idA, parsedA⟩ := valid.identities a listedA
  obtain ⟨idB, parsedB⟩ := valid.identities b listedB
  have tunnelA := nodeTunnelAddresses_eq valid listedA parsedA
  have tunnelB := nodeTunnelAddresses_eq valid listedB parsedB
  rw [nodeLoopbacks_eq valid listedA parsedA] at succeedsA
  rw [nodeLoopbacks_eq valid listedB parsedB] at succeedsB
  cases loopbacks : parseLoopbackNetworks mesh with
  | error e => simp [loopbacks, Except.map] at succeedsA
  | ok networks =>
    simp only [loopbacks, Except.map, Except.ok.injEq] at succeedsA succeedsB
    subst succeedsA succeedsB
    constructor
    · intro differ
      refine ⟨?_, ?_⟩
      · intro other parsed idA' isA idB' isB
        cases loopbacks.symm.trans parsed
        cases parsedA.symm.trans isA
        cases parsedB.symm.trans isB
        exact (networks.apart_iff idA idB).mp ⟨differ.ipv4, differ.ipv6⟩
      · intro tunnels parsed idA' isA idB' isB
        cases parsedA.symm.trans isA
        cases parsedB.symm.trans isB
        rw [parsed] at tunnelA tunnelB
        exact (tunnels.apart_iff idA idB).mp (differ.tunnels _ _ tunnelA tunnelB)
    · intro separated
      have apart := separated.loopbacks networks loopbacks idA parsedA idB parsedB
      obtain ⟨ipv4, ipv6⟩ := (networks.apart_iff idA idB).mpr apart
      refine ⟨ipv4, ipv6, fun same => ipv6 ((linkLocal_loopback_eq_iff _ _ _ _).mp same), ?_⟩
      intro first second succeedsA succeedsB
      rw [tunnelA] at succeedsA
      rw [tunnelB] at succeedsB
      cases tunnels : parseTunnelNetworks mesh with
      | error e => simp [tunnels, Except.map] at succeedsA
      | ok configured =>
        cases configured with
        | none => simp [tunnels, Except.map] at succeedsA
        | some tunnel =>
          simp only [tunnels, Except.map, Option.map_some, Except.ok.injEq, Option.some.injEq] at succeedsA succeedsB
          subst succeedsA succeedsB
          exact (tunnel.apart_iff idA idB).mpr (separated.tunnels tunnel tunnels idA parsedA idB parsedB)

/-! ### A topology of two nodes -/

private def twoNodes (ipv4 : String) : MeshConfig :=
  { cluster :=
      { bgpAs := 64512
        loopbackNetworks := ⟨ipv4, "fd00:62::/32"⟩
        tunnelNetworks := some ⟨"10.64.0.0/10", "fe80::/64"⟩ }
    nodes := [{ name := "a", nodeId := "10.0.0.1" }, { name := "b", nodeId := "10.0.1.1" }] }

/-- With room for the third octet, the two nodes are told apart. -/
theorem addresses_differ_twoNodes :
    AddressesDiffer (twoNodes "10.62.0.0/16") { name := "a", nodeId := "10.0.0.1" } { name := "b", nodeId := "10.0.1.1" }
      (0x0A3E0001#32, 0xFD00006200000000000000000A000001#128)
      (0x0A3E0101#32, 0xFD00006200000000000000000A000101#128) := by
  refine (addresses_differ_iff (by decide) (by decide) (by decide) (by decide) (by decide)).mpr ⟨?_, ?_⟩
  · intro networks parsed idA parsedA idB parsedB
    have read : parseLoopbackNetworks (twoNodes "10.62.0.0/16") =
        .ok ⟨0x0A3E0000#32, 16, 0xFD000062000000000000000000000000#128, 32, by decide⟩ := by decide
    cases read.symm.trans parsed
    cases (show parseIpv4Addr "10.0.0.1" = some 0x0A000001#32 by decide).symm.trans parsedA
    cases (show parseIpv4Addr "10.0.1.1" = some 0x0A000101#32 by decide).symm.trans parsedB
    exact ⟨by decide, by decide⟩
  · intro networks parsed idA parsedA idB parsedB
    have read : parseTunnelNetworks (twoNodes "10.62.0.0/16") =
        .ok (some ⟨0x0A400000#32, 10, 0xFE800000000000000000000000000000#128, 64, by decide⟩) := by decide
    cases read.symm.trans parsed
    cases (show parseIpv4Addr "10.0.0.1" = some 0x0A000001#32 by decide).symm.trans parsedA
    cases (show parseIpv4Addr "10.0.1.1" = some 0x0A000101#32 by decide).symm.trans parsedB
    exact ⟨by decide, by decide⟩

/-- A `/24` keeps the last octet only, which the two identities share. -/
theorem addresses_not_differ : ¬ ∀ mesh : MeshConfig, validate mesh = .ok () → ∀ a ∈ mesh.nodes, ∀ b ∈ mesh.nodes,
    a ≠ b → ∀ first second, nodeLoopbacks mesh a.name = .ok first → nodeLoopbacks mesh b.name = .ok second →
      AddressesDiffer mesh a b first second := by
  intro alwaysDiffer
  have differ := alwaysDiffer (twoNodes "10.62.0.0/24") (by decide) { name := "a", nodeId := "10.0.0.1" } (by decide)
    { name := "b", nodeId := "10.0.1.1" } (by decide) (by decide)
    (0x0A3E0001#32, 0xFD00006200000000000000000A000001#128) (0x0A3E0001#32, 0xFD00006200000000000000000A000101#128)
    (by decide) (by decide)
  exact differ.ipv4 rfl

end Slipmesh.Taloscfg
