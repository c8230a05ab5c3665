import Slipmesh.Proofs.Settlements
import Slipmesh.Taloscfg.Roadwarrior

/-! A host and a port as one text, on the three ways that the configs write it. -/

namespace Slipmesh.Taloscfg
open Library Net Common Proofs.NetText Proofs.CidrText

/-! ### Hosts -/

def isNameChar (c : Char) : Bool := c.isAlphanum || c = '-' || c = '_' || c = '.'

/-- A name to be resolved, or an address; neither with a port. -/
inductive IsHost (host : String) : Prop
  | name (some : host ≠ "") (chars : ∀ c ∈ host.toList, isNameChar c = true) (other : parseIpAddr host = none)
  | address (ip : IpAddr) (read : parseIpAddr host = some ip)

/-- The text that a mesh peer has as its endpoint, whatever the topology around it is. -/
def MeshWrites (host : String) (port : UInt16) (text : String) : Prop :=
  ∀ (curve : Curve) (mesh : MeshConfig) (resolved : ResolvedSecrets) (nodeName peerName : String) (position : Nat)
    (link : MeshLink) (peer : NodeEntry) (cfg : Awg.AwgConfig), validate mesh = .ok () →
    renderAwgConfig curve mesh nodeName resolved = .ok cfg → mesh.links[position]? = some link →
    peerOf nodeName link = some peerName → findNode mesh peerName = .ok peer → peer.endpoint = some host →
    link.port = port → ∃ iface entry, cfg.interfaces[placeOf mesh nodeName position]? = some iface ∧
      iface.peers = [entry] ∧ entry.endpoint = some text

/-- The text that a pool's endpoint is on the node that was chosen, or on the first. -/
def PoolWrites (host : String) (port : UInt16) (text : String) : Prop :=
  ∀ (mesh : MeshConfig) (pool : RoadwarriorPool) (chosen : Option String) (name : String) (node : NodeEntry),
    validate mesh = .ok () → pool ∈ mesh.roadwarriors →
    chosen.orElse (fun _ => pool.nodeHostnames.head?) = some name → name ∈ pool.nodeHostnames →
    mesh.nodes.find? (·.name = name) = some node → node.endpoint = some host → pool.listenPort = port →
    poolEndpoint mesh pool chosen = .ok text

/-- All ways write the host and the port as one text, which no other host and port is
written as, and which an address is read back from. -/
structure OneEndpoint (host : String) (port : UInt16) : Prop where
  mesh : MeshWrites host port (literalEndpoint host port)
  pool : PoolWrites host port (literalEndpoint host port)
  determined : ∀ other otherPort, IsHost other → literalEndpoint other otherPort = literalEndpoint host port →
    other = host ∧ otherPort = port
  parsed : ∀ ip, parseIpAddr host = some ip →
    parseSocketAddr (literalEndpoint host port) = some ⟨ip, 0, port.toNat⟩

/-- The host and the port with a colon between them. -/
def joined (host : String) (port : UInt16) : String := host ++ ":" ++ toString port.toNat

theorem joined_toList (host : String) (port : UInt16) :
    (joined host port).toList = host.toList ++ ':' :: Nat.toDigits 10 port.toNat := by
  simp [joined, toString, Nat.repr]

theorem rsplitOnce_append {separator : Char} (head : String) {tail : String} (absent : separator ∉ tail.toList) :
    Text.rsplitOnce separator (head ++ String.singleton separator ++ tail) = some (head, tail) := by
  have stop : ∀ c ∈ tail.toList.reverse, decide (c ≠ separator) = true := by
    intro c member
    simp only [decide_eq_true_eq]
    exact fun same => absent (same ▸ List.mem_reverse.mp member)
  have shape : (head ++ String.singleton separator ++ tail).toList.reverse =
      tail.toList.reverse ++ separator :: head.toList.reverse := by simp
  have left : (tail.toList.reverse ++ separator :: head.toList.reverse).dropWhile (· ≠ separator) =
      separator :: head.toList.reverse := by
    rw [List.dropWhile_append_of_pos stop]
    simp
  have taken : (tail.toList.reverse ++ separator :: head.toList.reverse).takeWhile (· ≠ separator) =
      tail.toList.reverse := by
    rw [List.takeWhile_append_of_pos stop]
    simp
  simp only [Text.rsplitOnce, shape, left, taken, List.reverse_reverse, String.ofList_toList]

theorem rsplitOnce_none {separator : Char} {text : String} (absent : separator ∉ text.toList) :
    Text.rsplitOnce separator text = none := by
  have all : text.toList.reverse.dropWhile (· ≠ separator) = [] := by
    rw [List.dropWhile_eq_nil_iff]
    intro c member
    simp only [decide_eq_true_eq]
    exact fun same => absent (same ▸ List.mem_reverse.mp member)
  rw [Text.rsplitOnce, all]

theorem port_no_colon (port : UInt16) : ':' ∉ (toString port.toNat).toList := by
  have digits : (toString port.toNat).toList = Nat.toDigits 10 port.toNat := by simp [toString, Nat.repr]
  rw [digits]
  intro member
  have digit := toDigits_isDigit (by decide) (by decide) port.toNat ':' member
  exact absurd digit (by decide)

/-- The last colon tells the port from the host, whatever the host is. -/
theorem joined_inj {host other : String} {port otherPort : UInt16} (same : joined other otherPort = joined host port) :
    other = host ∧ otherPort = port := by
  have split := rsplitOnce_append host (port_no_colon port)
  have split' := rsplitOnce_append other (port_no_colon otherPort)
  change Text.rsplitOnce ':' (joined host port) = _ at split
  change Text.rsplitOnce ':' (joined other otherPort) = _ at split'
  rw [same, split, Option.some.injEq, Prod.mk.injEq] at split'
  obtain ⟨hosts, ports⟩ := split'
  have digits : Nat.toDigits 10 port.toNat = Nat.toDigits 10 otherPort.toNat := by
    simpa [toString, Nat.repr] using congrArg String.toList ports
  have value := congrArg (numeral 10) digits
  rw [numeral_toDigits (by decide) (by decide), numeral_toDigits (by decide) (by decide)] at value
  exact ⟨hosts.symm, UInt16.toNat_inj.mp value.symm⟩

/-! ### Hosts that are not IPv6 addresses -/

/-- The text is no IPv6 address. -/
def NotIpv6 (host : String) : Prop := ∀ v6, parseIpAddr host ≠ some (.v6 v6)

theorem read_of_parseIpAddr {host : String} {ip : IpAddr} (read : parseIpAddr host = some ip) :
    readIpAddr host.toList = some (ip, []) := by
  rw [parseIpAddr, parseWith] at read
  split at read
  · rename_i value whole
    rw [whole, Option.some.inj read]
  · cases read

theorem readIpv4Addr_of_parse {host : String} {v4 : Ipv4Addr} (read : parseIpAddr host = some (.v4 v4)) :
    readIpv4Addr host.toList = some (v4, []) := by
  have whole := read_of_parseIpAddr read
  rw [readIpAddr] at whole
  split at whole
  · rename_i addr rest first
    rw [first]
    cases whole
    rfl
  · simp only [Option.map_eq_some_iff, Prod.exists] at whole
    obtain ⟨addr, rest, -, same⟩ := whole
    cases same

theorem host_chars {host : String} (isHost : IsHost host) (other : NotIpv6 host) :
    host ≠ "" ∧ ':' ∉ host.toList ∧ '[' ∉ host.toList := by
  cases isHost with
  | name some chars _ =>
    refine ⟨some, ?_, ?_⟩
    · intro member
      exact absurd (chars ':' member) (by decide)
    · intro member
      exact absurd (chars '[' member) (by decide)
  | address ip read =>
    cases ip with
    | v6 v6 => exact absurd read (other v6)
    | v4 v4 =>
      obtain ⟨octets, read, _⟩ := readIpv4Addr_octets.mp (readIpv4Addr_of_parse read)
      obtain ⟨used, shape, chars⟩ := readOctets_chars read
      rw [List.append_nil] at shape
      rw [shape]
      refine ⟨?_, ?_, ?_⟩
      · intro empty
        rw [empty] at read
        simp [readOctets, readSeparated, readNumber] at read
      · intro member
        exact absurd (chars ':' member) (by decide)
      · intro member
        exact absurd (chars '[' member) (by decide)

theorem literalEndpoint_joined {host : String} (isHost : IsHost host) (other : NotIpv6 host) (port : UInt16) :
    literalEndpoint host port = joined host port := by
  have alone := rsplitOnce_none (host_chars isHost other).2.1
  rw [literalEndpoint]
  split
  · rename_i v6 read
    exact absurd read (other v6)
  · rw [alone, joined]

theorem literalEndpoint_v6 {host : String} {v6 : Ipv6Addr} (read : parseIpAddr host = some (.v6 v6)) (port : UInt16) :
    ∃ rest, (literalEndpoint host port).toList = '[' :: rest := by
  rw [literalEndpoint, read]
  exact ⟨_, by simp only [String.toList_append]; rfl⟩

/-- An IPv6 address does not start with a bracket, as the text of its endpoint does. -/
theorem v6_unbracketed {host : String} {v6 : Ipv6Addr} (read : parseIpAddr host = some (.v6 v6)) (port : UInt16) :
    joined host port ≠ literalEndpoint host port := by
  intro same
  obtain ⟨rest, bracket⟩ := literalEndpoint_v6 read port
  rw [← same, joined_toList] at bracket
  have whole := read_of_parseIpAddr read
  cases chars : host.toList with
  | nil => simp [chars] at bracket
  | cons c more =>
    simp only [chars, List.cons_append, List.cons.injEq] at bracket
    rw [chars, bracket.1, readIpAddr_other (by decide) (by decide) (by decide)] at whole
    cases whole

/-! ### The three ways -/

theorem mesh_joined (host : String) (port : UInt16) : MeshWrites host port (joined host port) := by
  intro curve mesh resolved nodeName peerName position link peer cfg _ rendered listed isEnd found endpoint port
  obtain ⟨own, iface, _, place, here⟩ := renderAwgConfig_at rendered listed isEnd
  simp only [meshInterface, bind_ok, pure_ok] at here
  obtain ⟨peerNode, found', _, _, _, _, rfl⟩ := here
  cases found.symm.trans found'
  refine ⟨_, _, place, rfl, ?_⟩
  rw [endpoint, port]
  rfl

theorem nodeEndpoint_joined {mesh : MeshConfig} {pool : RoadwarriorPool} {name host : String} {node : NodeEntry}
    (found : mesh.nodes.find? (·.name = name) = some node) (endpoint : node.endpoint = some host) :
    nodeEndpoint mesh pool name = .ok (joined host pool.listenPort) := by
  simp only [nodeEndpoint, bind_ok, pure_ok, elim_ok]
  exact ⟨node, found, host, endpoint, rfl⟩

theorem pool_joined (host : String) (port : UInt16) : PoolWrites host port (joined host port) := by
  intro mesh pool chosen name node _ _ choice member found endpoint port
  rw [← port]
  cases chosen with
  | some chosen =>
    cases choice
    simp only [poolEndpoint, if_pos member]
    exact nodeEndpoint_joined found endpoint
  | none =>
    cases hosts : pool.nodeHostnames with
    | nil => simp [hosts] at member
    | cons first rest =>
      have same : first = name := by simpa [hosts] using choice
      simp only [poolEndpoint, hosts, same]
      exact nodeEndpoint_joined found endpoint

theorem parse_joined {host : String} {v4 : Ipv4Addr} (read : parseIpAddr host = some (.v4 v4)) (port : UInt16) :
    parseSocketAddr (joined host port) = some ⟨.v4 v4, 0, port.toNat⟩ := by
  obtain ⟨octets, digits, value⟩ := readIpv4Addr_octets.mp (readIpv4Addr_of_parse read)
  have address : readIpv4Addr (host.toList ++ ':' :: Nat.toDigits 10 port.toNat) =
      some (v4, ':' :: Nat.toDigits 10 port.toNat) :=
    readIpv4Addr_octets.mpr ⟨octets, readOctets_extend digits fun _ => ends_of_head (by decide), value⟩
  have number : readUnbounded 65535 (Nat.toDigits 10 port.toNat) = some (port.toNat, []) := by
    have small : port.toNat ≤ 65535 := Nat.le_of_lt_succ port.toNat_lt
    have read := readUnbounded_toDigits small ends_nil
    rwa [List.append_nil] at read
  have tail : readPort (':' :: Nat.toDigits 10 port.toNat) = some (port.toNat, []) := by
    simp [readPort, readGivenChar, number]
  have whole : readSocketAddr (joined host port).toList = some (⟨.v4 v4, 0, port.toNat⟩, []) := by
    simp [readSocketAddr, readSocketAddrV4, joined_toList, address, tail]
  simp [parseSocketAddr, parseWith, whole]

/-- One node that takes a pool's clients. -/
def hostedPool (host : String) (port : UInt16) : MeshConfig :=
  { cluster := { loopbackNetworks := ⟨"10.62.0.0/16", "fd00:62::/32"⟩ }
    nodes := [{ name := "node-a", nodeId := "10.62.0.1", endpoint := some host }]
    roadwarriors := [{ name := "phones", nodeHostnames := ["node-a"], address := "10.63.0.1/24", listenPort := port }] }

theorem hostedPool_valid (host : String) (port : UInt16) : validate (hostedPool host port) = .ok () := by
  have nodeId : parseIpv4Addr "10.62.0.1" = some 0x0A3E0001 := by decide
  simp [validate, hostedPool, validateNodes, nodeId, validateLinks, validatePools, validateHostnames, takePort,
    validateClients]

/-- A host and a port are one endpoint on all ways, exactly where the host is no IPv6
address. -/
theorem one_endpoint_iff {host : String} (isHost : IsHost host) (port : UInt16) : OneEndpoint host port ↔ NotIpv6 host := by
  constructor
  · intro one v6 read
    have written := one.pool (hostedPool host port) _ none "node-a" _ (hostedPool_valid host port) (List.mem_singleton_self _)
      rfl (List.mem_singleton_self _) rfl rfl rfl
    have same := (pool_joined host port (hostedPool host port) _ none "node-a" _ (hostedPool_valid host port)
      (List.mem_singleton_self _) rfl (List.mem_singleton_self _) rfl rfl rfl).symm.trans written
    exact v6_unbracketed read port (Except.ok.inj same)
  · intro other
    have text := literalEndpoint_joined isHost other port
    refine ⟨text ▸ mesh_joined host port, text ▸ pool_joined host port, ?_, ?_⟩
    · intro another otherPort isAnother same
      rw [text] at same
      by_cases plain : NotIpv6 another
      · rw [literalEndpoint_joined isAnother plain] at same
        exact joined_inj same
      · simp only [NotIpv6, not_forall, not_not] at plain
        obtain ⟨v6, read⟩ := plain
        obtain ⟨rest, bracket⟩ := literalEndpoint_v6 read otherPort
        obtain ⟨some, _, unbracketed⟩ := host_chars isHost other
        rw [same, joined_toList] at bracket
        cases chars : host.toList with
        | nil => exact absurd (String.toList_eq_nil_iff.mp chars) some
        | cons c more =>
          rw [chars, List.cons_append, List.cons.injEq] at bracket
          exact absurd (by simp [chars, bracket.1]) unbracketed
    · intro ip read
      rw [text]
      cases ip with
      | v4 v4 => exact parse_joined read port
      | v6 v6 => exact absurd read (other v6)

/-! ### A name, and an IPv6 address -/

theorem one_endpoint_name : OneEndpoint "rw.example.com" 51820 := by
  have letters : ("rw.example.com" : String).toList = 'r' :: "w.example.com".toList := by decide
  have unread : parseIpAddr "rw.example.com" = none := by
    rw [parseIpAddr, parseWith, letters, Proofs.NetText.readIpAddr_other (by decide) (by decide) (by decide)]
  have chars : "rw.example.com".toList.all isNameChar = true := by decide +kernel
  have name : IsHost "rw.example.com" := .name (by decide) (List.all_eq_true.mp chars) unread
  apply (one_endpoint_iff name 51820).mpr
  intro v6 read
  cases unread.symm.trans read

/-- Two nodes with a link, one of them reached at an IPv6 address. -/
def reachedAtV6 : MeshConfig :=
  { cluster := { loopbackNetworks := ⟨"10.62.0.0/16", "fd00:62::/32"⟩ }
    nodes := [
      { name := "node-a", nodeId := "10.62.0.1", endpoint := some "2001:db8::1" }, { name := "node-b", nodeId := "10.62.0.2" }]
    links := [{ pair := ("node-a", "node-b"), port := 51820 }] }

/-- The peer's endpoint has the port as one more group of the address, and is no socket
address; a client's has the address in brackets. -/
theorem two_endpoints_v6 :
    IsHost "2001:db8::1" ∧ validate reachedAtV6 = .ok () ∧
    ((renderAwgConfig twoKeys reachedAtV6 "node-b" (resolve twoKeys twoDraws reachedAtV6).1).map fun cfg =>
      cfg.interfaces.flatMap fun iface => iface.peers.map (·.endpoint)) = .ok [some "2001:db8::1:51820"] ∧
    parseSocketAddr "2001:db8::1:51820" = none ∧ literalEndpoint "2001:db8::1" 51820 = "[2001:db8::1]:51820" ∧
    ¬ OneEndpoint "2001:db8::1" 51820 := by
  have read : parseIpAddr "2001:db8::1" = some (.v6 0x20010DB8000000000000000000000001) := by decide
  refine ⟨.address _ read, by decide, by decide +kernel, by decide, by decide, ?_⟩
  intro one
  have written := one.pool (hostedPool "2001:db8::1" 51820) _ none "node-a" _ (hostedPool_valid _ _) (List.mem_singleton_self _)
    rfl (List.mem_singleton_self _) rfl rfl rfl
  revert written
  decide

end Slipmesh.Taloscfg
