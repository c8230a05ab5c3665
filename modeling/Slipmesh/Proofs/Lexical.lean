import Slipmesh.Proofs.Prefixes

/-! Where each text of `router.yaml` stands in `bird.conf`, and why it cannot leave that place. -/

namespace Slipmesh.Router
open Library Net Common

/-! ### The characters of an address -/

def isHexDigit (c : Char) : Bool := c.isDigit || 'a' ≤ c && c ≤ 'f' || 'A' ≤ c && c ≤ 'F'

def isIpv4Char (c : Char) : Bool := c.isDigit || c = '.'

def isAddrChar (c : Char) : Bool := isHexDigit c || c = '.' || c = ':'

theorem isDigit_of_decimal {c : Char} (digit : Library.isDigit 10 c = true) : c.isDigit = true := by
  simp only [Library.isDigit, digitValue] at digit
  split at digit
  next decimal =>
    simp only [Char.isDigit, Bool.and_eq_true, decide_eq_true_eq]
    exact decimal
  next =>
    split at digit
    next => simp at digit
    next => split at digit <;> simp at digit

theorem isHexDigit_of_hex {c : Char} (digit : Library.isDigit 16 c = true) : isHexDigit c = true := by
  have within {last : Char} {start : Nat} (small : c.toNat - start + 10 < 16) (reach : start + 5 ≤ last.toNat) : c ≤ last := by
    rw [Char.le_def, UInt32.le_iff_toNat_le]
    change c.toNat ≤ last.toNat
    omega
  simp only [Library.isDigit, digitValue] at digit
  simp only [isHexDigit, Char.isDigit, Bool.or_eq_true, Bool.and_eq_true, decide_eq_true_eq]
  split at digit
  next decimal => exact .inl (.inl decimal)
  next =>
    split at digit
    next lower =>
      split at digit
      next small => exact .inl (.inr ⟨lower.1, within small (by decide)⟩)
      next => cases digit
    next =>
      split at digit
      next upper =>
        split at digit
        next small => exact .inr ⟨upper.1, within small (by decide)⟩
        next => cases digit
      next => simp at digit

/-- A reader has gone over the characters before `rest`, which are all allowed. -/
def Passes (allowed : Char → Bool) (text rest : List Char) : Prop :=
  ∃ front, text = front ++ rest ∧ ∀ c ∈ front, allowed c = true

namespace Passes

variable {allowed wider : Char → Bool} {text middle rest : List Char}

theorem nothing (text : List Char) : Passes allowed text text := ⟨[], rfl, by simp⟩

theorem char {c : Char} (fits : allowed c = true) : Passes allowed (c :: rest) rest := ⟨[c], rfl, by simpa using fits⟩

theorem trans (first : Passes allowed text middle) (second : Passes allowed middle rest) : Passes allowed text rest := by
  obtain ⟨front, rfl, fits⟩ := first
  obtain ⟨more, rfl, others⟩ := second
  refine ⟨front ++ more, by rw [List.append_assoc], ?_⟩
  intro c member
  rcases List.mem_append.mp member with member | member
  · exact fits c member
  · exact others c member

theorem widen (passes : Passes allowed text rest) (more : ∀ c, allowed c = true → wider c = true) :
    Passes wider text rest := by
  obtain ⟨front, shape, fits⟩ := passes
  exact ⟨front, shape, fun c member => more c (fits c member)⟩

theorem number {radix maxDigits bound value : Nat} {leadingZeros : Bool}
    (read : readNumber radix maxDigits bound leadingZeros text = some (value, rest)) :
    Passes (Library.isDigit radix) text rest := readNumber_digits read

theorem separated {α : Type} {separator : Char} {index : Nat} {inner : List Char → Option (α × List Char)} {value : α}
    (inside : ∀ text value rest, inner text = some (value, rest) → Passes allowed text rest) (fits : allowed separator = true)
    (read : readSeparated separator index inner text = some (value, rest)) : Passes allowed text rest := by
  unfold readSeparated at read
  split at read
  · exact inside _ _ _ read
  · cases text with
    | nil => cases read
    | cons c text =>
      simp only [] at read
      split at read
      next same => exact (same ▸ char fits).trans (inside _ _ _ read)
      next => cases read

end Passes

private theorem readOctets_passes {remaining index : Nat} {text rest : List Char} {octets : List Nat}
    (read : readOctets remaining index text = some (octets, rest)) : Passes isIpv4Char text rest := by
  induction remaining generalizing index text octets with
  | zero =>
    cases read
    exact .nothing _
  | succ remaining ih =>
    simp only [readOctets, Option.bind_eq_bind, Option.bind_eq_some_iff, Option.some.injEq, Prod.exists, Prod.mk.injEq] at read
    obtain ⟨octet, middle, first, others, last, later, rfl, rfl⟩ := read
    refine Passes.trans (Passes.separated ?_ (by decide) first) (ih later)
    intro text value rest number
    exact (Passes.number number).widen fun c digit => by simp [isIpv4Char, isDigit_of_decimal digit]

theorem readIpv4Addr_passes {text rest : List Char} {addr : Ipv4Addr} (read : readIpv4Addr text = some (addr, rest)) :
    Passes isIpv4Char text rest := by
  simp only [readIpv4Addr, Option.bind_eq_bind, Option.bind_eq_some_iff, Option.some.injEq, Prod.exists, Prod.mk.injEq] at read
  obtain ⟨octets, last, octetsRead, _, rfl⟩ := read
  exact readOctets_passes octetsRead

theorem isAddrChar_of_ipv4 (c : Char) (fits : isIpv4Char c = true) : isAddrChar c = true := by
  simp only [isIpv4Char, Bool.or_eq_true] at fits
  rcases fits with digit | dot
  · simp [isAddrChar, isHexDigit, digit]
  · simp [isAddrChar, dot]

private theorem readGroups_passes (remaining index : Nat) (text : List Char) :
    Passes isAddrChar text (readGroups remaining index text).2.2 := by
  induction remaining generalizing index text with
  | zero => exact .nothing _
  | succ remaining ih =>
    rw [readGroups]
    split
    next addr rest embedded =>
      split at embedded
      · refine Passes.separated ?_ (by decide) embedded
        intro text value rest read
        exact (readIpv4Addr_passes read).widen isAddrChar_of_ipv4
      · cases embedded
    next =>
      split
      next group rest read =>
        refine Passes.trans (Passes.separated ?_ (by decide) read) (ih _ _)
        intro text value rest number
        exact (Passes.number number).widen fun c digit => by simp [isAddrChar, isHexDigit_of_hex digit]
      next => exact .nothing _

theorem readIpv6Addr_passes {text rest : List Char} {addr : Ipv6Addr} (read : readIpv6Addr text = some (addr, rest)) :
    Passes isAddrChar text rest := by
  have front := readGroups_passes 8 0 text
  rw [readIpv6Addr] at read
  generalize readGroups 8 0 text = groups at read front
  obtain ⟨head, embedded, middle⟩ := groups
  simp only [] at read front
  split at read
  · cases read
    exact front
  split at read
  · cases read
  split at read
  next rest =>
    cases read
    exact front.trans ((Passes.char (by decide)).trans ((Passes.char (by decide)).trans (readGroups_passes _ 0 rest)))
  next => cases read

theorem readIpAddr_passes {text rest : List Char} {addr : IpAddr} (read : readIpAddr text = some (addr, rest)) :
    Passes isAddrChar text rest := by
  rw [readIpAddr] at read
  split at read
  next ipv4 =>
    cases read
    exact (readIpv4Addr_passes ipv4).widen isAddrChar_of_ipv4
  next =>
    simp only [Option.map_eq_some_iff, Prod.exists, Prod.mk.injEq] at read
    obtain ⟨addr, rest, ipv6, _, rfl⟩ := read
    exact readIpv6Addr_passes ipv6

theorem parseWith_chars {α : Type} {allowed : Char → Bool} {read : List Char → Option (α × List Char)}
    (passes : ∀ text value rest, read text = some (value, rest) → Passes allowed text rest) {text : String} {value : α}
    (parsed : parseWith read text = some value) : ∀ c ∈ text.toList, allowed c = true := by
  rw [parseWith] at parsed
  split at parsed
  next whole =>
    obtain ⟨front, shape, fits⟩ := passes _ _ _ whole
    rw [shape, List.append_nil]
    exact fits
  next => cases parsed

/-! ### The characters of a network -/

/-- An address, a slash, and a length that may have a plus before it. -/
def NetworkText (allowed : Char → Bool) (text : String) : Prop :=
  ∃ addr sign digits, text.toList = addr ++ '/' :: (sign ++ digits) ∧ (∀ c ∈ addr, allowed c = true) ∧
    (sign = [] ∨ sign = ['+']) ∧ ∀ c ∈ digits, c.isDigit = true

theorem splitOnce_some {separator : Char} {text front back : String} (split : splitOnce separator text = some (front, back)) :
    text.toList = front.toList ++ separator :: back.toList := by
  rw [splitOnce] at split
  split at split
  · cases split
  next c rest left =>
    have whole : text.toList.takeWhile (· ≠ separator) ++ c :: rest = text.toList := left ▸ List.takeWhile_append_dropWhile
    have stop := List.head?_dropWhile_not (· ≠ separator) text.toList
    rw [left] at stop
    have same : c = separator := by simpa using stop
    rw [same] at whole
    cases split
    rw [String.toList_ofList, String.toList_ofList, whole]

theorem parseU8_shape {text : String} {value : Nat} (parsed : parseU8 text = some value) :
    ∃ sign digits, text.toList = sign ++ digits ∧ (sign = [] ∨ sign = ['+']) ∧ ∀ c ∈ digits, c.isDigit = true := by
  have digitsOf {digits : List Char} (read : readUnbounded 255 digits = some (value, [])) : ∀ c ∈ digits, c.isDigit = true := by
    obtain ⟨front, shape, fits⟩ := Passes.number read
    rw [shape, List.append_nil]
    exact fun c member => isDigit_of_decimal (fits c member)
  simp only [parseU8] at parsed
  split at parsed
  next found =>
    cases parsed
    split at found
    next digits signed => exact ⟨['+'], digits, signed, .inr rfl, digitsOf found⟩
    next => exact ⟨[], _, rfl, .inl rfl, digitsOf found⟩
  next => cases parsed

theorem parseCidrWith_shape {α : Type} {parseAddr : String → Option α} {width : α → Nat} {allowed : Char → Bool}
    (chars : ∀ text addr, parseAddr text = some addr → ∀ c ∈ text.toList, allowed c = true) {text : String}
    {cidr : Common.Cidr width} (parsed : parseCidrWith parseAddr width text = .ok cidr) : NetworkText allowed text := by
  rw [parseCidrWith] at parsed
  split at parsed
  · cases parsed
  next front back split =>
    split at parsed
    · cases parsed
    next addr read =>
      split at parsed
      · cases parsed
      next len number =>
        obtain ⟨sign, digits, shape, signs, all⟩ := parseU8_shape number
        exact ⟨front.toList, sign, digits, shape ▸ splitOnce_some split, chars front addr read, signs, all⟩

theorem NetworkText.ofIpv4 {text : String} {net : Cidr} (parsed : Cidr.parseCidr text = .ok net) :
    NetworkText isIpv4Char text :=
  parseCidrWith_shape (fun _ _ read => parseWith_chars (fun _ _ _ => readIpv4Addr_passes) read) parsed

theorem NetworkText.ofIp {text : String} {cidr : IpCidr} (parsed : Common.parseCidr text = .ok cidr) :
    NetworkText isAddrChar text :=
  parseCidrWith_shape (fun _ _ read => parseWith_chars (fun _ _ _ => readIpAddr_passes) read) parsed

/-! ### The places of the template -/

/-- `[A-Za-z_][A-Za-z0-9_]*` -/
def IsIdentifier (text : String) : Prop :=
  ∃ first rest, text.toList = first :: rest ∧ (first.isAlpha = true ∨ first = '_') ∧
    ∀ c ∈ rest, c.isAlphanum = true ∨ c = '_'

def IsQuoted (text : String) : Prop :=
  ∃ inner : String, text = "\"" ++ inner ++ "\"" ∧ ∀ c ∈ inner.toList, c ≠ '"' ∧ c ≠ '\n' ∧ c ≠ '\r'

/-- Only what an address is written with, one slash and at most one plus. -/
def IsBare (text : String) : Prop :=
  (∀ c ∈ text.toList, isHexDigit c = true ∨ c = '.' ∨ c = ':' ∨ c = '/' ∨ c = '+') ∧
    text.toList.count '/' = 1 ∧ text.toList.count '+' ≤ 1

def IsPattern (text : String) : Prop := IsQuoted text ∨ IsBare text

def IsOneLine (text : String) : Prop := ∀ c ∈ text.toList, c ≠ '\n' ∧ c ≠ '\r'

def IsNet (text : String) : Prop := ∀ c ∈ text.toList, c.isDigit = true ∨ c = '.' ∨ c = '/' ∨ c = '+'

/-- Every text of a config or of a resolution keeps to its place. -/
structure Lexical (context : BirdConfigContext) : Prop where
  peers : ∀ peer ∈ context.bgpPeers, IsIdentifier peer.protocolId
  directIds : ∀ iface ∈ context.directInterfaces, IsIdentifier iface.protocolId
  directPatterns : ∀ iface ∈ context.directInterfaces, IsPattern iface.pattern
  ospfPatterns : ∀ iface ∈ context.ospfInterfaces, IsPattern iface.pattern
  labels : ∀ route ∈ context.bypass ++ context.announce, IsOneLine route.label
  nets : ∀ route ∈ context.bypass ++ context.announce, IsNet route.net
  learn : ∀ pattern ∈ context.learn, IsNet pattern

theorem protocolChar_safe (c : Char) : (protocolChar c).isAlphanum = true ∨ protocolChar c = '_' := by
  rw [protocolChar_eq]
  split
  next kept => exact .inl kept
  next => exact .inr rfl

theorem sanitizeProtocolId_safe (raw : String) : IsIdentifier (sanitizeProtocolId raw) := by
  have safe : ∀ c ∈ raw.toList.map protocolChar, c.isAlphanum = true ∨ c = '_' := by
    intro c member
    obtain ⟨d, _, rfl⟩ := List.mem_map.mp member
    exact protocolChar_safe d
  simp only [sanitizeProtocolId]
  split
  next => exact ⟨'_', raw.toList.map protocolChar, String.toList_ofList, .inr rfl, safe⟩
  next letter =>
    cases chars : raw.toList.map protocolChar with
    | nil => simp [chars] at letter
    | cons first rest =>
      rw [chars] at safe letter
      refine ⟨first, rest, String.toList_ofList, ?_, fun c member => safe c (List.mem_cons_of_mem _ member)⟩
      rcases safe first (List.mem_cons_self ..) with kept | underscore
      · simp only [List.head?_cons, Option.all_some, Bool.not_eq_true] at letter
        exact .inl (by simpa [Char.isAlphanum, letter] using kept)
      · exact .inr underscore

theorem sanitizeComment_safe (raw : String) : IsOneLine (sanitizeComment raw) := by
  intro c member
  rw [sanitizeComment, String.toList_ofList, List.mem_map] at member
  obtain ⟨d, _, rfl⟩ := member
  split
  next => decide
  next other => exact not_or.mp other

private theorem count_of_other {c : Char} {allowed : Char → Bool} {chars : List Char} (fits : ∀ d ∈ chars, allowed d = true)
    (other : allowed c = false) : chars.count c = 0 := by
  rw [List.count_eq_zero]
  intro member
  rw [fits c member] at other
  cases other

theorem NetworkText.bare {text : String} (shape : NetworkText isAddrChar text) : IsBare text := by
  obtain ⟨addr, sign, digits, shape, fits, signs, all⟩ := shape
  rw [IsBare, shape]
  refine ⟨?_, ?_, ?_⟩
  · intro c member
    simp only [List.mem_append, List.mem_cons] at member
    rcases member with inAddr | rfl | inSign | inDigits
    · have fit := fits c inAddr
      simp only [isAddrChar, Bool.or_eq_true, decide_eq_true_eq] at fit
      rcases fit with (digit | dot) | colon
      · exact .inl digit
      · exact .inr (.inl dot)
      · exact .inr (.inr (.inl colon))
    · exact .inr (.inr (.inr (.inl rfl)))
    · rcases signs with rfl | rfl
      · cases inSign
      · exact .inr (.inr (.inr (.inr (List.mem_singleton.mp inSign))))
    · exact .inl (by simp [isHexDigit, all c inDigits])
  · have inSign : sign.count '/' = 0 := by
      rcases signs with rfl | rfl
      · rfl
      · rfl
    rw [List.count_append, List.count_cons_self, List.count_append, count_of_other fits (by decide), inSign,
      count_of_other all (by decide)]
  · have inSign : sign.count '+' ≤ 1 := by
      rcases signs with rfl | rfl
      · exact Nat.zero_le _
      · exact Nat.le_refl _
    rw [List.count_append, List.count_cons_of_ne (by decide), List.count_append, count_of_other fits (by decide),
      count_of_other all (by decide)]
    omega

theorem renderIfacePattern_safe (entry : String) : IsPattern (renderIfacePattern entry) := by
  rw [renderIfacePattern]
  split
  next parsed =>
    obtain ⟨cidr, read⟩ := exists_of_isOk parsed
    exact .inr (NetworkText.ofIp read).bare
  next =>
    refine .inl ⟨sanitizeQuoted entry, rfl, ?_⟩
    intro c member
    rw [sanitizeQuoted, String.toList_ofList] at member
    exact of_decide_eq_true (List.mem_filter.mp member).2

theorem NetworkText.net {text : String} (shape : NetworkText isIpv4Char text) : IsNet text := by
  obtain ⟨addr, sign, digits, shape, fits, signs, all⟩ := shape
  intro c member
  rw [shape] at member
  simp only [List.mem_append, List.mem_cons] at member
  rcases member with inAddr | rfl | inSign | inDigits
  · have fit := fits c inAddr
    simp only [isIpv4Char, Bool.or_eq_true, decide_eq_true_eq] at fit
    rcases fit with digit | dot
    · exact .inl digit
    · exact .inr (.inl dot)
  · exact .inr (.inr (.inl rfl))
  · rcases signs with rfl | rfl
    · cases inSign
    · exact .inr (.inr (.inr (List.mem_singleton.mp inSign)))
  · exact .inl (all c inDigits)

/-! ### The context -/

theorem formatCidr_net (net : Cidr) : IsNet (formatCidr net) := by
  have reads : Cidr.parseCidr (formatCidr net) = .ok net := Proofs.CidrText.parseCidr_ipv4_text net
  exact (NetworkText.ofIpv4 reads).net

theorem mem_resolved {included excluded : Nat → Lookups} {sources exclude : List BypassSourceEntry}
    {routes : List (String × String)} (resolved : resolveInner included excluded sources exclude = .ok routes) :
    ∀ route ∈ routes, ∃ net, route.1 = formatCidr net := by
  intro route member
  simp only [resolveInner, bind_ok, throw_bind, refuse_ok, pure_ok] at resolved
  obtain ⟨nets, _, _, excludes, _, rfl⟩ := resolved
  simp only [List.mem_map, mem_sort, List.mem_flatMap] at member
  obtain ⟨_, ⟨_, ⟨held, _, net, _, rfl⟩, rfl⟩, rfl⟩ := member
  exact ⟨net, rfl⟩

/-- Of a validated config and any resolution: every text that reaches the template keeps
to the place it is put in. -/
theorem context_lexical {cfg : RouterConfig} (valid : validate cfg = .ok ()) {included excluded : Nat → Lookups}
    {sources exclude : List BypassSourceEntry} {routes : List (String × String)}
    (resolved : resolveInner included excluded sources exclude = .ok routes) :
    ∃ inputs, StaticInputs.fromConfig cfg = .ok inputs ∧ Lexical (inputs.context (bypassRoutes routes)) := by
  have checked := validate_ok valid
  obtain ⟨inputs, made, _, _, learn, announce⟩ := fromConfig_ok checked
  refine ⟨inputs, made, ?_⟩
  have announced : ∀ route ∈ inputs.announce, IsNet route.net := by
    intro route listed
    have kept : route.net ∈ cfg.announce.map (·.net) := announce ▸ List.mem_map_of_mem listed
    obtain ⟨entry, inConfig, same⟩ := List.mem_map.mp kept
    obtain ⟨net, parsed⟩ := checked.announce entry inConfig
    exact same ▸ (NetworkText.ofIpv4 parsed).net
  have bypassed : ∀ route ∈ bypassRoutes routes, IsNet route.net := by
    intro route listed
    obtain ⟨pair, resolvedPair, rfl⟩ := List.mem_map.mp listed
    obtain ⟨net, text⟩ := mem_resolved resolved pair resolvedPair
    exact text ▸ formatCidr_net net
  exact {
    peers := by
      intro peer listed
      obtain ⟨raw, _, rfl⟩ := List.mem_map.mp listed
      exact sanitizeProtocolId_safe raw.name
    directIds := by
      intro iface listed
      obtain ⟨entry, _, rfl⟩ := List.mem_map.mp listed
      exact sanitizeProtocolId_safe entry
    directPatterns := by
      intro iface listed
      obtain ⟨entry, _, rfl⟩ := List.mem_map.mp listed
      exact renderIfacePattern_safe entry
    ospfPatterns := by
      intro iface listed
      obtain ⟨entry, _, rfl⟩ := List.mem_map.mp listed
      exact renderIfacePattern_safe entry
    labels := by
      intro route listed
      rcases List.mem_append.mp listed with listed | listed
      · obtain ⟨raw, _, rfl⟩ := List.mem_map.mp listed
        exact sanitizeComment_safe raw.label
      · obtain ⟨raw, _, rfl⟩ := List.mem_map.mp listed
        exact sanitizeComment_safe raw.label
    nets := by
      intro route listed
      rcases List.mem_append.mp listed with listed | listed
      · obtain ⟨raw, inBypass, rfl⟩ := List.mem_map.mp listed
        exact bypassed raw inBypass
      · obtain ⟨raw, inAnnounce, rfl⟩ := List.mem_map.mp listed
        exact announced raw inAnnounce
    learn := by
      intro pattern listed
      obtain ⟨range, inConfig, rfl⟩ := List.mem_map.mp listed
      obtain ⟨net, parsed⟩ := checked.learn range (learn ▸ inConfig)
      intro c member
      rw [String.toList_append, List.mem_append] at member
      rcases member with inRange | mark
      · exact (NetworkText.ofIpv4 parsed).net c inRange
      · exact .inr (.inr (.inr (List.mem_singleton.mp mark))) }

/-- Names that would end the string, the comment or the identifier they stand in. -/
private def hostileNames : RouterConfig where
  node := ⟨["10.62.0.1/32", "fd00:62::1/128"]⟩
  bgpAs := 64512
  bgpPeers := [⟨"1\" \x7b\nprotocol", "fd00:62::2"⟩]
  ospfInterfaces := ["mesh-*\"; \x7d", "fd00::/+8"]
  directInterfaces := ["\r\n"]
  learn := ["10.61.0.0/+16"]
  announce := [⟨"10.60.0.0/16", some "services\nprotocol static \x7b"⟩]

theorem context_lexical_hostile : ∃ inputs, StaticInputs.fromConfig hostileNames = .ok inputs ∧
    Lexical (inputs.context (bypassRoutes [("203.0.113.0/24", "")])) := by
  have valid : validate hostileNames = .ok () := by decide +kernel
  have resolved : resolveInner noLookups noLookups [literal "203.0.113.0/24"] [] = .ok [("203.0.113.0/24", "")] := by
    decide +kernel
  exact context_lexical valid resolved

end Slipmesh.Router
