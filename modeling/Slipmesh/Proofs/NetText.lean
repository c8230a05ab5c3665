import Slipmesh.Net

/-! An address is read back from the text it is written as, whatever the
compression of zeros, so a text the kernel's addresses are written as names them. -/

namespace Slipmesh.Proofs.NetText
open Library Net

theorem groupsOf_length (bits count value : Nat) : (groupsOf bits count value).length = count := by
  induction count generalizing value with
  | zero => rfl
  | succ count ih => simp [groupsOf, ih]

theorem groupsOf_lt (bits count value : Nat) : ∀ group ∈ groupsOf bits count value, group < 2 ^ bits := by
  induction count generalizing value with
  | zero => simp [groupsOf]
  | succ count ih =>
    intro group member
    rcases List.mem_append.mp member with member | member
    · exact ih _ group member
    · rw [List.mem_singleton.mp member]
      exact Nat.mod_lt _ (Nat.two_pow_pos bits)

theorem ofGroups_append_singleton (bits : Nat) (groups : List Nat) (group : Nat) :
    ofGroups bits (groups ++ [group]) = ofGroups bits groups * 2 ^ bits + group := by
  simp [ofGroups]

theorem ofGroups_groupsOf (bits count value : Nat) :
    ofGroups bits (groupsOf bits count value) = value % 2 ^ (bits * count) := by
  induction count generalizing value with
  | zero => simp [groupsOf, ofGroups, Nat.mod_one]
  | succ count ih =>
    rw [groupsOf, ofGroups_append_singleton, ih, Nat.mul_succ, Nat.add_comm (bits * count), pow_add,
      Nat.mod_mul, Nat.add_comm, Nat.mul_comm]

private theorem dropWhile_head {p : Char → Bool} {text rest : List Char} {c : Char}
    (head : ((text ++ rest).dropWhile p).head? = some c) : c ∈ text ∨ (rest.dropWhile p).head? = some c := by
  induction text with
  | nil => exact .inr head
  | cons d text ih =>
    rw [List.cons_append, List.dropWhile_cons] at head
    split at head
    · exact (ih head).imp (List.mem_cons_of_mem _) id
    · rw [List.head?_cons, Option.some.injEq] at head
      exact .inl (head ▸ List.mem_cons_self ..)

/-! ### IPv4 -/

theorem ends_of_head {radix : Nat} {c : Char} {rest : List Char} (stop : isDigit radix c = false) :
    Ends radix (c :: rest) := by
  intro d head
  rw [List.head?_cons, Option.mem_some_iff] at head
  exact head ▸ stop

theorem ends_nil {radix : Nat} : Ends radix [] := by simp [Ends]

theorem read_octet {octet : Nat} {rest : List Char} (byte : octet < 256) (ends : Ends 10 rest) :
    readNumber 10 3 255 false (Nat.toDigits 10 octet ++ rest) = some (octet, rest) :=
  readNumber_toDigits (by decide) (by decide) (by decide) (by omega) (by omega) ends

private theorem read_tail_octets (octets : List Nat) (index : Nat) (later : index ≠ 0)
    (bytes : ∀ octet ∈ octets, octet < 256) {rest : List Char} (ends : Ends 10 rest) :
    readOctets octets.length index ((octets.map (Nat.toDigits 10)).flatMap ('.' :: ·) ++ rest) =
      some (octets, rest) := by
  induction octets generalizing index with
  | nil => rfl
  | cons octet octets ih =>
    have stop : Ends 10 ((octets.map (Nat.toDigits 10)).flatMap ('.' :: ·) ++ rest) := by
      cases octets with
      | nil => exact ends
      | cons => exact ends_of_head (by decide)
    have first := read_octet (bytes octet (List.mem_cons_self ..)) stop
    have others := ih (index + 1) (Nat.succ_ne_zero _) fun o member => bytes o (List.mem_cons_of_mem _ member)
    simp [readOctets, readSeparated, later, first, others]

theorem readIpv4Addr_chars (addr : Ipv4Addr) {rest : List Char} (ends : Ends 10 rest) :
    readIpv4Addr (Ipv4Addr.chars addr ++ rest) = some (addr, rest) := by
  have bytes := groupsOf_lt 8 4 addr.toNat
  have length := groupsOf_length 8 4 addr.toNat
  have value := ofGroups_groupsOf 8 4 addr.toNat
  simp only [Ipv4Addr.chars, Ipv4Addr.octets]
  generalize groupsOf 8 4 addr.toNat = octets at bytes length value
  match octets, length with
  | [first, second, third, last], _ =>
    have stop : Ends 10 (([second, third, last].map (Nat.toDigits 10)).flatMap ('.' :: ·) ++ rest) :=
      ends_of_head (by decide)
    have head := read_octet (bytes first (by simp)) stop
    have tail := read_tail_octets [second, third, last] 1 (by decide) (fun o member => bytes o (by simp_all)) ends
    have read : readOctets 4 0 (separated '.' ([first, second, third, last].map (Nat.toDigits 10)) ++ rest) =
        some ([first, second, third, last], rest) := by
      rw [List.map_cons, separated, List.append_assoc]
      change (readNumber 10 3 255 false _).bind (fun read => (readOctets 3 1 read.2).bind
        fun others => some (read.1 :: others.1, others.2)) = _
      rw [head]
      exact congrArg (fun read => read.bind fun others => some (first :: others.1, others.2)) tail
    simp only [readIpv4Addr, read, Option.bind_eq_bind, Option.bind_some, value]
    rw [Nat.mod_eq_of_lt (by simpa using addr.isLt)]
    simp

private theorem readSeparated_some {α : Type} {separator : Char} {index : Nat}
    {inner : List Char → Option (α × List Char)} {text : List Char} {item : α × List Char} :
    readSeparated separator index inner text = some item ↔
      (index = 0 ∧ inner text = some item) ∨ (index ≠ 0 ∧ ∃ more, text = separator :: more ∧ inner more = some item) := by
  simp only [readSeparated]
  by_cases first : index = 0
  · simp [first]
  · cases text with
    | nil => simp [first]
    | cons c text =>
      by_cases same : c = separator
      · simp [first, same]
      · simp [first, same]

theorem readOctets_chars {remaining index : Nat} {text rest : List Char} {octets : List Nat}
    (read : readOctets remaining index text = some (octets, rest)) :
    ∃ used, text = used ++ rest ∧ ∀ c ∈ used, isDigit 10 c = true ∨ c = '.' := by
  induction remaining generalizing index text octets with
  | zero =>
    cases read
    exact ⟨[], rfl, by simp⟩
  | succ remaining ih =>
    simp only [readOctets, Option.bind_eq_bind, Option.bind_eq_some_iff, Prod.exists, Option.some.injEq, Prod.mk.injEq] at read
    obtain ⟨octet, middle, first, others, end', later, -, rfl⟩ := read
    obtain ⟨used, shape, plain⟩ := ih later
    have front : ∃ start, text = start ++ middle ∧ ∀ c ∈ start, isDigit 10 c = true ∨ c = '.' := by
      rcases readSeparated_some.mp first with ⟨-, number⟩ | ⟨-, more, rfl, number⟩
      · obtain ⟨digits, shape, all⟩ := readNumber_digits number
        exact ⟨digits, shape, fun c member => .inl (all c member)⟩
      · obtain ⟨digits, shape, all⟩ := readNumber_digits number
        refine ⟨'.' :: digits, by rw [shape, List.cons_append], ?_⟩
        intro d member
        exact (List.mem_cons.mp member).elim .inr fun member => .inl (all d member)
    obtain ⟨start, shape', plain'⟩ := front
    refine ⟨start ++ used, by rw [shape', shape, List.append_assoc], ?_⟩
    intro c member
    exact (List.mem_append.mp member).elim (plain' c) (plain c)

theorem readOctets_extend {remaining index : Nat} {text rest more : List Char} {octets : List Nat}
    (read : readOctets remaining index text = some (octets, rest)) (ends : rest = [] → Ends 10 more) :
    readOctets remaining index (text ++ more) = some (octets, rest ++ more) := by
  induction remaining generalizing index text octets with
  | zero =>
    cases read
    rfl
  | succ remaining ih =>
    simp only [readOctets, Option.bind_eq_bind, Option.bind_eq_some_iff, Prod.exists, Option.some.injEq, Prod.mk.injEq] at read
    obtain ⟨octet, middle, first, others, end', later, rfl, rfl⟩ := read
    have middle_ends : middle = [] → Ends 10 more := by
      intro empty
      cases remaining with
      | zero =>
        cases later
        exact ends empty
      | succ remaining => simp [empty, readOctets, readSeparated] at later
    have first' : readSeparated '.' index (readNumber 10 3 255 false) (text ++ more) = some (octet, middle ++ more) := by
      apply readSeparated_some.mpr
      rcases readSeparated_some.mp first with ⟨start, number⟩ | ⟨later, rest, rfl, number⟩
      · exact .inl ⟨start, readNumber_extend number middle_ends⟩
      · exact .inr ⟨later, rest ++ more, rfl, readNumber_extend number middle_ends⟩
    simp only [readOctets, first', ih later, Option.bind_eq_bind, Option.bind_some]

theorem readIpv4Addr_octets {text rest : List Char} {addr : Ipv4Addr} :
    readIpv4Addr text = some (addr, rest) ↔
      ∃ octets, readOctets 4 0 text = some (octets, rest) ∧ BitVec.ofNat 32 (ofGroups 8 octets) = addr := by
  simp only [readIpv4Addr, Option.bind_eq_bind, Option.bind_eq_some_iff, Prod.exists, Option.some.injEq, Prod.mk.injEq]
  constructor
  · rintro ⟨octets, rest, read, value, rfl⟩
    exact ⟨octets, read, value⟩
  · rintro ⟨octets, read, value⟩
    exact ⟨octets, rest, read, value, rfl⟩

/-- Text whose first number is not followed by a dot is no IPv4 address. -/
theorem readIpv4Addr_no_dot {text : List Char}
    (plain : ∀ c ∈ (text.dropWhile (isDigit 10)).head?, c ≠ '.') : readIpv4Addr text = none := by
  have stuck : readOctets 4 0 text = none := by
    simp only [readOctets, readSeparated, if_true, readNumber]
    split
    · rfl
    split
    · rfl
    split
    · rfl
    · cases left : text.dropWhile (isDigit 10) with
      | nil => rfl
      | cons c rest =>
        have other := plain c (by simp [left])
        simp [other]
  simp [readIpv4Addr, stuck]

/-! ### IPv6 -/

private def hex (groups : List Nat) : List Char := (groups.map (Nat.toDigits 16)).flatMap (':' :: ·)

private theorem hex_chars {group : Nat} : ∀ c ∈ Nat.toDigits 16 group, c ≠ '.' := by
  intro c member same
  subst same
  exact absurd (toDigits_isDigit (by decide) (by decide) group _ member) (by decide)

private theorem read_segment {group : Nat} {rest : List Char} (word : group < 65536) (ends : Ends 16 rest) :
    readNumber 16 4 65535 true (Nat.toDigits 16 group ++ rest) = some (group, rest) :=
  readNumber_toDigits (by decide) (by decide) (by decide) (by omega) (by omega) ends

/-- What follows does not continue a group. -/
def Plain (rest : List Char) : Prop := ∀ c ∈ rest.head?, isDigit 16 c = false ∧ c ≠ '.'

/-- What follows the groups of an address, when they do not fill it. -/
private def Stops (rest : List Char) : Prop :=
  Plain rest ∧ (rest.head? = some ':' → ∃ more, rest = ':' :: ':' :: more)

theorem Plain.decimal {c : Char} (stop : isDigit 16 c = false) : isDigit 10 c = false := by
  cases digit : isDigit 10 c with
  | false => rfl
  | true => exact absurd ((isDigit_mono (show 10 ≤ 16 by decide) digit).symm.trans stop) (by decide)

theorem Plain.ends {rest : List Char} (plain : Plain rest) : Ends 16 rest := fun c head => (plain c head).1

theorem Plain.ends_decimal {rest : List Char} (plain : Plain rest) : Ends 10 rest :=
  fun c head => Plain.decimal (plain c head).1

theorem plain_nil : Plain [] := by simp [Plain]

theorem plain_cons {c : Char} {rest : List Char} (stop : isDigit 16 c = false) (other : c ≠ '.') :
    Plain (c :: rest) := by
  intro d head
  rw [List.head?_cons, Option.mem_some_iff] at head
  exact head ▸ ⟨stop, other⟩

private theorem plain_colon {rest : List Char} : Plain (':' :: rest) := plain_cons (by decide) (by decide)

private theorem stops_compressed (more : List Char) : Stops (':' :: ':' :: more) :=
  ⟨plain_colon, fun _ => ⟨more, rfl⟩⟩

private theorem plain_not_ipv4 {rest : List Char} (plain : Plain rest) : readIpv4Addr rest = none := by
  apply readIpv4Addr_no_dot
  cases rest with
  | nil => simp
  | cons c rest =>
    obtain ⟨stop, other⟩ := plain c (by simp)
    simpa [Plain.decimal stop] using other

private theorem segment_not_ipv4 {group : Nat} {rest : List Char} (plain : Plain rest) :
    readIpv4Addr (Nat.toDigits 16 group ++ rest) = none := by
  apply readIpv4Addr_no_dot
  intro c head
  rcases dropWhile_head head with member | head
  · exact hex_chars c member
  · cases rest with
    | nil => cases head
    | cons d rest =>
      obtain ⟨stop, other⟩ := plain d (by simp)
      rw [List.dropWhile_cons, Plain.decimal stop] at head
      exact Option.some.inj head ▸ other

private theorem hex_plain (groups : List Nat) {rest : List Char} (plain : Plain rest) :
    Plain (hex groups ++ rest) := by
  cases groups with
  | nil => exact plain
  | cons => exact plain_colon

/-- One group of hex digits is read as such, whether or not an embedded address is tried first. -/
private theorem readGroups_step (remaining index group : Nat) (text rest : List Char)
    (word : group < 65536) (plain : Plain rest)
    (lead : text = (if index = 0 then [] else [':']) ++ (Nat.toDigits 16 group ++ rest)) :
    readGroups (remaining + 1) index text =
      (group :: (readGroups remaining (index + 1) rest).1, (readGroups remaining (index + 1) rest).2) := by
  have tried : (if 0 < remaining then readSeparated ':' index readIpv4Addr text else none) = none := by
    split
    · by_cases first : index = 0 <;> simp [readSeparated, lead, first, segment_not_ipv4 plain]
    · rfl
  have read : readSeparated ':' index (readNumber 16 4 65535 true) text = some (group, rest) := by
    by_cases first : index = 0 <;> simp [readSeparated, lead, first, read_segment word plain.ends]
  simp only [readGroups, tried, read]

private theorem readSeparated_stop {α : Type} {index : Nat} {inner : List Char → Option (α × List Char)}
    {rest : List Char} (stops : Stops rest) (refused : ∀ more, Plain more → inner more = none) :
    readSeparated ':' index inner rest = none := by
  simp only [readSeparated]
  by_cases first : index = 0
  · simpa [first] using refused rest stops.1
  · cases rest with
    | nil => simp [first]
    | cons c rest =>
      by_cases colon : c = ':'
      · obtain ⟨more, same⟩ := stops.2 (by simp [colon])
        obtain ⟨rfl, rfl⟩ := List.cons_eq_cons.mp same
        simpa [first] using refused _ plain_colon
      · simp [first, colon]

private theorem readGroups_stop (remaining index : Nat) {rest : List Char} (stops : Stops rest) :
    readGroups remaining index rest = ([], false, rest) := by
  cases remaining with
  | zero => rfl
  | succ remaining =>
    have no_number : ∀ more, Plain more → readNumber 16 4 65535 true more = none := by
      intro more plain
      cases more with
      | nil => simp [readNumber]
      | cons c more => simp [readNumber, (plain c (by simp)).1]
    simp [readGroups, readSeparated_stop stops no_number, readSeparated_stop stops fun _ => plain_not_ipv4]

private theorem readGroups_tail (groups : List Nat) (words : ∀ group ∈ groups, group < 65536)
    {remaining index : Nat} (later : index ≠ 0) {rest : List Char} (stops : Stops rest)
    (room : groups.length ≤ remaining) :
    readGroups remaining index (hex groups ++ rest) = (groups, false, rest) := by
  induction groups generalizing remaining index with
  | nil => exact readGroups_stop _ _ stops
  | cons group groups ih =>
    obtain ⟨remaining, rfl⟩ := Nat.exists_eq_succ_of_ne_zero (Nat.ne_zero_of_lt room)
    have others := ih (fun g member => words g (List.mem_cons_of_mem _ member)) (Nat.succ_ne_zero index)
      (Nat.le_of_succ_le_succ room)
    rw [readGroups_step _ _ _ _ _ (words group (List.mem_cons_self ..)) (hex_plain groups stops.1)
      (by simp [later, hex]), others]

/-- The groups written between colons are read back, up to the end or a `::`. -/
private theorem readGroups_chars (groups : List Nat) (words : ∀ group ∈ groups, group < 65536)
    (remaining : Nat) {rest : List Char} (stops : Stops rest) (room : groups.length ≤ remaining) :
    readGroups remaining 0 (segmentChars groups ++ rest) = (groups, false, rest) := by
  cases groups with
  | nil => exact readGroups_stop _ _ stops
  | cons group groups =>
    obtain ⟨remaining, rfl⟩ := Nat.exists_eq_succ_of_ne_zero (Nat.ne_zero_of_lt room)
    have others := readGroups_tail groups (fun g member => words g (List.mem_cons_of_mem _ member))
      (Nat.one_ne_zero) stops (Nat.le_of_succ_le_succ room)
    rw [readGroups_step _ _ _ _ _ (words group (List.mem_cons_self ..)) (hex_plain groups stops.1)
      (by simp [segmentChars, separated, hex]), others]

/-- A span of zeros inside the segments read so far. -/
private def ZeroRun (segments : List Nat) (zeroes : Span) : Prop :=
  ∃ before after, segments = before ++ List.replicate zeroes.len 0 ++ after ∧ before.length = zeroes.start

private theorem ZeroRun.append {segments : List Nat} {zeroes : Span} (run : ZeroRun segments zeroes)
    (more : List Nat) : ZeroRun (segments ++ more) zeroes := by
  obtain ⟨before, after, same, start⟩ := run
  exact ⟨before, after ++ more, by simp [same], start⟩

/-- The invariant of the scan: the longest run is one of the segments passed, and
the current run is empty or ends where the scan stands. -/
private theorem longestZeros_run (passed left : List Nat) (longest current : Span)
    (best : ZeroRun passed longest)
    (now : current.len = 0 ∨ ∃ before, passed = before ++ List.replicate current.len 0 ∧
      before.length = current.start) :
    ZeroRun (passed ++ left) (longestZeros passed.length longest current left) := by
  induction left generalizing passed longest current with
  | nil => simpa [longestZeros] using best
  | cons segment left ih =>
    have step := ih (passed ++ [segment])
    rw [List.append_assoc, List.length_append, List.length_singleton] at step
    rw [longestZeros]
    split
    · rename_i zero
      subst zero
      have grown : ∃ before, passed ++ [0] = before ++ List.replicate (current.len + 1) 0 ∧
          before.length = (if current.len = 0 then passed.length else current.start) := by
        by_cases fresh : current.len = 0
        · exact ⟨passed, by simp [fresh], by simp [fresh]⟩
        · obtain ⟨before, same, start⟩ := now.resolve_left fresh
          refine ⟨before, ?_, by simp [fresh, start]⟩
          rw [same, List.append_assoc, List.replicate_succ']
      refine step _ _ ?_ (.inr grown)
      by_cases longer : longest.len < current.len + 1
      · obtain ⟨before, same, start⟩ := grown
        simp only [longer, if_true]
        exact ⟨before, [], by simpa using same, start⟩
      · simp only [longer, if_false]
        exact best.append [0]
    · exact step _ _ (best.append [segment]) (.inl rfl)

private theorem longestZeros_split (segments : List Nat) :
    let zeroes := longestZeros 0 ⟨0, 0⟩ ⟨0, 0⟩ segments
    segments = segments.take zeroes.start ++ List.replicate zeroes.len 0 ++
        segments.drop (zeroes.start + zeroes.len) ∧
      zeroes.start + zeroes.len ≤ segments.length := by
  obtain ⟨before, after, same, start⟩ :=
    longestZeros_run [] segments ⟨0, 0⟩ ⟨0, 0⟩ ⟨[], [], rfl, rfl⟩ (.inl rfl)
  simp only [List.nil_append, List.length_nil] at same start
  intro zeroes
  change segments = before ++ List.replicate zeroes.len 0 ++ after at same
  change before.length = zeroes.start at start
  have taken : segments.take zeroes.start = before := by
    rw [same, ← start, List.append_assoc, List.take_left]
  have dropped : segments.drop (zeroes.start + zeroes.len) = after := by
    have length : (before ++ List.replicate zeroes.len 0).length = zeroes.start + zeroes.len := by
      simp [start]
    rw [← length, same, List.drop_left]
  refine ⟨by rw [taken, dropped, ← same], ?_⟩
  rw [same]
  simp [start]

private theorem segments_value (addr : Ipv6Addr) :
    BitVec.ofNat 128 (ofGroups 16 (Ipv6Addr.segments addr)) = addr := by
  rw [Ipv6Addr.segments, ofGroups_groupsOf, Nat.mod_eq_of_lt addr.isLt]
  simp

private theorem mapped_value {addr : Ipv6Addr}
    (mapped : (Ipv6Addr.segments addr).take 6 = [0, 0, 0, 0, 0, 0xffff]) :
    addr.toNat = 0xffff * 2 ^ 32 + addr.toNat % 2 ^ 32 := by
  have high : (Ipv6Addr.segments addr).take 6 = groupsOf 16 6 (addr.toNat / 2 ^ 16 / 2 ^ 16) := by
    rw [Ipv6Addr.segments, groupsOf, groupsOf, List.append_assoc]
    exact List.take_left' (groupsOf_length 16 6 _)
  have value := ofGroups_groupsOf 16 6 (addr.toNat / 2 ^ 16 / 2 ^ 16)
  rw [← high, mapped] at value
  have := addr.isLt
  simp [ofGroups] at value
  omega

private theorem readIpv6Addr_compressed {head tail : List Nat} {embedded : Bool} {text more rest : List Char}
    (first : readGroups 8 0 text = (head, false, ':' :: ':' :: more)) (short : head.length ≠ 8)
    (second : readGroups (8 - (head.length + 1)) 0 more = (tail, embedded, rest)) :
    readIpv6Addr text = some (BitVec.ofNat 128
      (ofGroups 16 (head ++ List.replicate (8 - head.length - tail.length) 0 ++ tail)), rest) := by
  simp only [readIpv6Addr, first, second]
  simp [short]

private theorem readIpv6Addr_mapped {addr : Ipv6Addr} {rest : List Char} (plain : Plain rest)
    (mapped : (Ipv6Addr.segments addr).take 6 = [0, 0, 0, 0, 0, 0xffff]) :
    readIpv6Addr ("::ffff:".toList ++ Ipv4Addr.chars (addr.setWidth 32) ++ rest) = some (addr, rest) := by
  have low : (addr.setWidth 32).toNat = addr.toNat % 2 ^ 32 := BitVec.toNat_setWidth ..
  have ipv4 := readIpv4Addr_chars (addr.setWidth 32) plain.ends_decimal
  have embedded : readGroups 6 1 (':' :: (Ipv4Addr.chars (addr.setWidth 32) ++ rest)) =
      ([addr.toNat % 2 ^ 32 / 2 ^ 16, addr.toNat % 2 ^ 32 % 2 ^ 16], true, rest) := by
    simp [readGroups, readSeparated, ipv4, low]
  have tail := readGroups_step 6 0 0xffff ("ffff:".toList ++ (Ipv4Addr.chars (addr.setWidth 32) ++ rest))
    (':' :: (Ipv4Addr.chars (addr.setWidth 32) ++ rest)) (by decide) plain_colon rfl
  rw [embedded] at tail
  have head := readGroups_stop 8 0 (stops_compressed ("ffff:".toList ++ (Ipv4Addr.chars (addr.setWidth 32) ++ rest)))
  rw [List.append_assoc]
  apply (readIpv6Addr_compressed head (by decide) tail).trans
  have value : ofGroups 16 ([] ++ List.replicate 5 0 ++ [0xffff, addr.toNat % 2 ^ 32 / 2 ^ 16,
      addr.toNat % 2 ^ 32 % 2 ^ 16]) = addr.toNat := by
    rw [mapped_value mapped]
    simp [ofGroups]
    omega
  rw [show 8 - ([] : List Nat).length - (0xffff :: [addr.toNat % 2 ^ 32 / 2 ^ 16,
    addr.toNat % 2 ^ 32 % 2 ^ 16]).length = 5 from rfl, value]
  simp

theorem readIpv6Addr_chars (addr : Ipv6Addr) {rest : List Char} (plain : Plain rest)
    (closed : rest.head? ≠ some ':') : readIpv6Addr (Ipv6Addr.chars addr ++ rest) = some (addr, rest) := by
  have length : (Ipv6Addr.segments addr).length = 8 := groupsOf_length 16 8 _
  have words : ∀ segment ∈ Ipv6Addr.segments addr, segment < 65536 := groupsOf_lt 16 8 _
  have stops : Stops rest := ⟨plain, fun head => absurd head closed⟩
  rw [Ipv6Addr.chars]
  split
  · exact readIpv6Addr_mapped plain ‹_›
  simp only []
  obtain ⟨same, room⟩ := longestZeros_split (Ipv6Addr.segments addr)
  generalize longestZeros 0 ⟨0, 0⟩ ⟨0, 0⟩ (Ipv6Addr.segments addr) = zeroes at same room ⊢
  split
  · rename_i compressed
    have startLength : ((Ipv6Addr.segments addr).take zeroes.start).length = zeroes.start := by
      rw [List.length_take]
      omega
    have endLength : ((Ipv6Addr.segments addr).drop (zeroes.start + zeroes.len)).length =
        8 - zeroes.start - zeroes.len := by
      rw [List.length_drop]
      omega
    have tail := readGroups_chars ((Ipv6Addr.segments addr).drop (zeroes.start + zeroes.len))
      (fun segment member => words segment (List.mem_of_mem_drop member))
      (8 - (((Ipv6Addr.segments addr).take zeroes.start).length + 1)) stops (by omega)
    have head := readGroups_chars ((Ipv6Addr.segments addr).take zeroes.start)
      (fun segment member => words segment (List.mem_of_mem_take member)) 8
      (stops_compressed (segmentChars ((Ipv6Addr.segments addr).drop (zeroes.start + zeroes.len)) ++ rest)) (by omega)
    rw [List.append_assoc, List.append_assoc]
    apply (readIpv6Addr_compressed head (by omega) tail).trans
    rw [startLength, endLength, show 8 - zeroes.start - (8 - zeroes.start - zeroes.len) = zeroes.len by omega,
      ← same, segments_value]
  · have all := readGroups_chars (Ipv6Addr.segments addr) words 8 stops (by omega)
    simp [readIpv6Addr, all, length, segments_value]

/-- What may follow an address inside a longer text. -/
def Closes (rest : List Char) : Prop := Plain rest ∧ rest.head? ≠ some ':'

theorem closes_nil : Closes [] := ⟨plain_nil, by simp⟩

private theorem segments_not_ipv4 (groups : List Nat) {rest : List Char} (plain : Plain rest) :
    readIpv4Addr (segmentChars groups ++ rest) = none := by
  cases groups with
  | nil => exact plain_not_ipv4 plain
  | cons group groups =>
    rw [segmentChars, List.map_cons, separated, List.append_assoc]
    exact segment_not_ipv4 (hex_plain groups plain)

theorem readIpv4Addr_ipv6 (addr : Ipv6Addr) {rest : List Char} (plain : Plain rest) :
    readIpv4Addr (Ipv6Addr.chars addr ++ rest) = none := by
  rw [Ipv6Addr.chars]
  split
  · exact plain_not_ipv4 plain_colon
  simp only []
  split
  · rw [List.append_assoc, List.append_assoc]
    exact segments_not_ipv4 _ plain_colon
  · exact segments_not_ipv4 _ plain

theorem readIpAddr_chars (addr : IpAddr) {rest : List Char} (closes : Closes rest) :
    readIpAddr (addr.chars ++ rest) = some (addr, rest) := by
  cases addr with
  | v4 addr => simp [readIpAddr, IpAddr.chars, readIpv4Addr_chars addr closes.1.ends_decimal]
  | v6 addr =>
    simp [readIpAddr, IpAddr.chars, readIpv4Addr_ipv6 addr closes.1, readIpv6Addr_chars addr closes.1 closes.2]

/-- No address starts with a character that is neither of a number nor a separator. -/
theorem readIpAddr_other {c : Char} (digit : isDigit 16 c = false) (dot : c ≠ '.') (colon : c ≠ ':') (rest : List Char) :
    readIpAddr (c :: rest) = none := by
  have plain : Plain (c :: rest) := plain_cons digit dot
  have groups : readGroups 8 0 (c :: rest) = ([], false, c :: rest) := readGroups_stop 8 0 ⟨plain, by simp [colon]⟩
  have ipv6 : readIpv6Addr (c :: rest) = none := by
    rw [readIpv6Addr, groups]
    simp [colon]
  rw [readIpAddr, plain_not_ipv4 plain, ipv6]
  rfl

theorem parseIpAddr_text (addr : IpAddr) : parseIpAddr addr.text = some addr := by
  have read := readIpAddr_chars addr closes_nil
  rw [List.append_nil] at read
  simp [parseIpAddr, parseWith, IpAddr.text, read]

end Slipmesh.Proofs.NetText
