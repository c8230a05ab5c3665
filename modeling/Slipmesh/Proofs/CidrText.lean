import Slipmesh.Common.Cidr
import Slipmesh.Proofs.NetText

/-! A CIDR is read back from the text it is written as. -/

namespace Slipmesh.Proofs.CidrText
open Library Net Common

theorem splitOnce_append (separator : Char) {head : String} (tail : String) (absent : separator ∉ head.toList) :
    splitOnce separator (head ++ String.singleton separator ++ tail) = some (head, tail) := by
  have stop : ∀ c ∈ head.toList, (decide (c ≠ separator)) = true := by
    intro c member
    simp only [decide_eq_true_eq]
    exact fun same => absent (same ▸ member)
  have shape : (head ++ String.singleton separator ++ tail).toList = head.toList ++ separator :: tail.toList := by
    simp
  have left : (head.toList ++ separator :: tail.toList).dropWhile (· ≠ separator) = separator :: tail.toList := by
    rw [List.dropWhile_append_of_pos stop]
    simp
  have taken : (head.toList ++ separator :: tail.toList).takeWhile (· ≠ separator) = head.toList := by
    rw [List.takeWhile_append_of_pos stop]
    simp
  simp only [splitOnce, shape, left, taken, String.ofList_toList]

theorem readUnbounded_toDigits {n bound : Nat} (inside : n ≤ bound) {rest : List Char} (ends : Ends 10 rest) :
    readUnbounded bound (Nat.toDigits 10 n ++ rest) = some (n, rest) := by
  have digits : 0 < (Nat.toDigits 10 n).length := List.length_pos_iff.mpr Nat.toDigits_ne_nil
  have room : 0 < (Nat.toDigits 10 n ++ rest).length := by
    rw [List.length_append]
    omega
  refine readNumber_toDigits (by decide) (by decide) room ?_ inside ends
  apply (Nat.length_toDigits_le_iff (by decide) room).mp
  simp

theorem parseU8_toString {n : Nat} (small : n ≤ 255) : parseU8 (toString n) = some n := by
  have read := readUnbounded_toDigits small NetText.ends_nil
  rw [List.append_nil] at read
  have shape : (toString n).toList = Nat.toDigits 10 n := by simp [toString, Nat.repr]
  have unsigned : ∀ rest, Nat.toDigits 10 n ≠ '+' :: rest := by
    intro rest same
    have digit := Nat.isDigit_of_mem_toDigits (c := '+') (by decide) (by decide) (same ▸ List.mem_cons_self ..)
    cases digit
  simp only [parseU8, shape, read]

theorem parseCidrWith_text {α : Type} {parseAddr : String → Option α} {text : α → String} {width : α → Nat}
    (cidr : Cidr width) (parsed : parseAddr (text cidr.addr) = some cidr.addr)
    (absent : '/' ∉ (text cidr.addr).toList) (small : cidr.len ≤ 255) :
    parseCidrWith parseAddr width (cidr.textWith text) = .ok cidr := by
  have split := splitOnce_append '/' (toString cidr.len) absent
  change splitOnce '/' (cidr.textWith text) = _ at split
  simp only [parseCidrWith, split, parsed, parseU8_toString small, cidr.bounded, dif_pos]

/-! ### The characters of an address -/

private theorem mem_separated {separator c : Char} {parts : List (List Char)} (member : c ∈ separated separator parts) :
    c = separator ∨ ∃ part ∈ parts, c ∈ part := by
  cases parts with
  | nil => cases member
  | cons part parts =>
    rcases List.mem_append.mp member with member | member
    · exact .inr ⟨part, List.mem_cons_self .., member⟩
    · obtain ⟨other, listed, member⟩ := List.mem_flatMap.mp member
      exact (List.mem_cons.mp member).imp id fun inside => ⟨other, List.mem_cons_of_mem _ listed, inside⟩

private theorem numeral_no_slash {radix : Nat} (large : 1 < radix) (small : radix ≤ 16) {n : Nat} :
    '/' ∉ Nat.toDigits radix n := by
  intro member
  have digit := isDigit_mono small (toDigits_isDigit large small n _ member)
  cases digit

private theorem numerals_no_slash {separator : Char} {radix : Nat} (other : '/' ≠ separator) (large : 1 < radix)
    (small : radix ≤ 16) (parts : List Nat) : '/' ∉ separated separator (parts.map (Nat.toDigits radix)) := by
  intro member
  rcases mem_separated member with same | ⟨part, listed, member⟩
  · exact other same
  · obtain ⟨n, _, same⟩ := List.mem_map.mp listed
    exact numeral_no_slash large small (same ▸ member)

theorem ipv4_no_slash (addr : Ipv4Addr) : '/' ∉ Ipv4Addr.chars addr :=
  numerals_no_slash (by decide) (by decide) (by decide) _

theorem ipv6_no_slash (addr : Ipv6Addr) : '/' ∉ Ipv6Addr.chars addr := by
  have segments : ∀ parts, '/' ∉ segmentChars parts := numerals_no_slash (by decide) (by decide) (by decide)
  rw [Ipv6Addr.chars]
  split
  · intro member
    rcases List.mem_append.mp member with member | member
    · exact absurd member (by decide)
    · exact ipv4_no_slash _ member
  simp only []
  split
  · intro member
    rcases List.mem_append.mp member with member | member
    · rcases List.mem_append.mp member with member | member
      · exact segments _ member
      · exact absurd member (by decide)
    · exact segments _ member
  · exact segments _

theorem parseIpv4Addr_text (addr : Ipv4Addr) : parseIpv4Addr (Ipv4Addr.text addr) = some addr := by
  have read := NetText.readIpv4Addr_chars addr NetText.ends_nil
  rw [List.append_nil] at read
  simp [parseIpv4Addr, parseWith, Ipv4Addr.text, read]

theorem parseIpv6Addr_text (addr : Ipv6Addr) : parseIpv6Addr (Ipv6Addr.text addr) = some addr := by
  have read := NetText.readIpv6Addr_chars addr NetText.closes_nil.1 NetText.closes_nil.2
  rw [List.append_nil] at read
  simp [parseIpv6Addr, parseWith, Ipv6Addr.text, read]

/-- An IPv4 CIDR is written as a text that reads as it. -/
theorem parseCidr_ipv4_text (cidr : Cidr fun _ : Ipv4Addr => 32) :
    parseCidrWith parseIpv4Addr (fun _ => 32) (cidr.textWith Ipv4Addr.text) = .ok cidr := by
  have := cidr.bounded
  refine parseCidrWith_text cidr (parseIpv4Addr_text _) ?_ (by omega)
  rw [Ipv4Addr.text, String.toList_ofList]
  exact ipv4_no_slash _

theorem parseCidr_text (cidr : IpCidr) : parseCidr (cidr.textWith IpAddr.text) = .ok cidr := by
  have bounded := cidr.bounded
  have small : cidr.len ≤ 255 := by
    unfold maxPrefix at bounded
    split at bounded <;> omega
  refine parseCidrWith_text cidr (NetText.parseIpAddr_text _) ?_ small
  rw [IpAddr.text, String.toList_ofList]
  cases cidr.addr with
  | v4 addr => exact ipv4_no_slash addr
  | v6 addr => exact ipv6_no_slash addr

/-- An address with a suffix written out. -/
theorem parseCidr_written (addr : IpAddr) {len : Nat} {suffix : String} (bounded : len ≤ maxPrefix addr)
    (written : "/" ++ toString len = suffix) : parseCidr (IpAddr.text addr ++ suffix) = .ok ⟨addr, len, bounded⟩ := by
  rw [← written, ← String.append_assoc]
  exact parseCidr_text ⟨addr, len, bounded⟩

end Slipmesh.Proofs.CidrText

namespace Slipmesh.Common

/-- A network is read back from its own text. -/
theorem networkOf_text (network : Network) : networkOf network.text = some network := by
  obtain ⟨cidr, masked⟩ := network
  simp only [networkOf, Network.text, Proofs.CidrText.parseCidr_text, masked]

end Slipmesh.Common
