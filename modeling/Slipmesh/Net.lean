import Slipmesh.Library.Numeral

/-! The part of `std::net` the daemons rest on: addresses, the texts they are
read from and the texts they are written as. -/

namespace Slipmesh.Net
open Library

abbrev Ipv4Addr := BitVec 32
abbrev Ipv6Addr := BitVec 128

inductive IpAddr where
  | v4 (addr : Ipv4Addr)
  | v6 (addr : Ipv6Addr)
deriving DecidableEq, Repr

def IpAddr.isIpv4 : IpAddr → Bool
  | .v4 _ => true
  | .v6 _ => false

/-- The big-endian groups of `bits` bits of a value. -/
def groupsOf (bits : Nat) : Nat → Nat → List Nat
  | 0, _ => []
  | count + 1, value => groupsOf bits count (value / 2 ^ bits) ++ [value % 2 ^ bits]

def ofGroups (bits : Nat) (groups : List Nat) : Nat :=
  groups.foldl (fun value group => value * 2 ^ bits + group) 0

def Ipv4Addr.octets (addr : Ipv4Addr) : List Nat := groupsOf 8 4 addr.toNat

def Ipv6Addr.segments (addr : Ipv6Addr) : List Nat := groupsOf 16 8 addr.toNat

/-! ### Reading -/

/-- `Parser::read_separator`: nothing before the first item, `separator` before the others. -/
def readSeparated {α : Type} (separator : Char) (index : Nat)
    (inner : List Char → Option (α × List Char)) (text : List Char) : Option (α × List Char) :=
  if index = 0 then inner text
  else match text with
    | c :: rest => if c = separator then inner rest else none
    | [] => none

def readOctets : Nat → Nat → List Char → Option (List Nat × List Char)
  | 0, _, text => some ([], text)
  | remaining + 1, index, text => do
    let (octet, rest) ← readSeparated '.' index (readNumber 10 3 255 false) text
    let (octets, rest) ← readOctets remaining (index + 1) rest
    some (octet :: octets, rest)

def readIpv4Addr (text : List Char) : Option (Ipv4Addr × List Char) := do
  let (octets, rest) ← readOctets 4 0 text
  some (BitVec.ofNat 32 (ofGroups 8 octets), rest)

/-- `read_groups`: up to `remaining` colon-separated groups, the last two of
which may be an embedded IPv4 address; the flag tells whether they were. -/
def readGroups : Nat → Nat → List Char → List Nat × Bool × List Char
  | 0, _, text => ([], false, text)
  | remaining + 1, index, text =>
    match if 0 < remaining then readSeparated ':' index readIpv4Addr text else none with
    | some (addr, rest) => ([addr.toNat / 2 ^ 16, addr.toNat % 2 ^ 16], true, rest)
    | none =>
      match readSeparated ':' index (readNumber 16 4 65535 true) text with
      | some (group, rest) =>
        let (groups, embedded, rest) := readGroups remaining (index + 1) rest
        (group :: groups, embedded, rest)
      | none => ([], false, text)

def readIpv6Addr (text : List Char) : Option (Ipv6Addr × List Char) :=
  let (head, embedded, rest) := readGroups 8 0 text
  if head.length = 8 then some (BitVec.ofNat 128 (ofGroups 16 head), rest)
  else if embedded then none
  else match rest with
    | ':' :: ':' :: rest =>
      let (tail, _, rest) := readGroups (8 - (head.length + 1)) 0 rest
      let zeros := List.replicate (8 - head.length - tail.length) 0
      some (BitVec.ofNat 128 (ofGroups 16 (head ++ zeros ++ tail)), rest)
    | _ => none

def readIpAddr (text : List Char) : Option (IpAddr × List Char) :=
  match readIpv4Addr text with
  | some (addr, rest) => some (.v4 addr, rest)
  | none => (readIpv6Addr text).map fun (addr, rest) => (.v6 addr, rest)

/-- `Parser::parse_with`: the whole text has to be read. -/
def parseWith {α : Type} (read : List Char → Option (α × List Char)) (text : String) : Option α :=
  match read text.toList with
  | some (value, []) => some value
  | _ => none

def parseIpv4Addr : String → Option Ipv4Addr := parseWith readIpv4Addr
def parseIpv6Addr : String → Option Ipv6Addr := parseWith readIpv6Addr
def parseIpAddr : String → Option IpAddr := parseWith readIpAddr

structure SocketAddr where
  ip : IpAddr
  scopeId : Nat
  port : Nat
deriving DecidableEq, Repr

def readGivenChar (c : Char) : List Char → Option (List Char)
  | d :: rest => if d = c then some rest else none
  | [] => none

/-- A number bounded by its type only, not by a count of digits. -/
def readUnbounded (bound : Nat) (text : List Char) : Option (Nat × List Char) :=
  readNumber 10 text.length bound true text

def readPort (text : List Char) : Option (Nat × List Char) := do
  readUnbounded 65535 (← readGivenChar ':' text)

def readScopeId (text : List Char) : Option (Nat × List Char) := do
  readUnbounded (2 ^ 32 - 1) (← readGivenChar '%' text)

def readSocketAddrV4 (text : List Char) : Option (SocketAddr × List Char) := do
  let (addr, rest) ← readIpv4Addr text
  let (port, rest) ← readPort rest
  some (⟨.v4 addr, 0, port⟩, rest)

def readSocketAddrV6 (text : List Char) : Option (SocketAddr × List Char) := do
  let rest ← readGivenChar '[' text
  let (addr, rest) ← readIpv6Addr rest
  let (scopeId, rest) := (readScopeId rest).getD (0, rest)
  let rest ← readGivenChar ']' rest
  let (port, rest) ← readPort rest
  some (⟨.v6 addr, scopeId, port⟩, rest)

def readSocketAddr (text : List Char) : Option (SocketAddr × List Char) :=
  (readSocketAddrV4 text).or (readSocketAddrV6 text)

def parseSocketAddr : String → Option SocketAddr := parseWith readSocketAddr

/-- `u8::from_str`: a plus sign and leading zeros are accepted. -/
def parseU8 (text : String) : Option Nat :=
  let digits := match text.toList with
    | '+' :: rest => rest
    | digits => digits
  match readUnbounded 255 digits with
  | some (value, []) => some value
  | _ => none

def parseU16 (text : String) : Option Nat :=
  let digits := match text.toList with
    | '+' :: rest => rest
    | digits => digits
  match readUnbounded 65535 digits with
  | some (value, []) => some value
  | _ => none

/-! ### Writing -/

def separated (separator : Char) : List (List Char) → List Char
  | [] => []
  | part :: rest => part ++ rest.flatMap (separator :: ·)

def Ipv4Addr.chars (addr : Ipv4Addr) : List Char :=
  separated '.' ((Ipv4Addr.octets addr).map (Nat.toDigits 10))

/-- A run of zero segments. -/
structure Span where
  start : Nat
  len : Nat
deriving DecidableEq, Repr

/-- The longest run of zero segments, the first of those as long; `index` is the
position of the segments left and `current` the run that ends before it. -/
def longestZeros : Nat → Span → Span → List Nat → Span
  | _, longest, _, [] => longest
  | index, longest, current, segment :: rest =>
    if segment = 0 then
      let current : Span := ⟨if current.len = 0 then index else current.start, current.len + 1⟩
      longestZeros (index + 1) (if longest.len < current.len then current else longest) current rest
    else longestZeros (index + 1) longest ⟨0, 0⟩ rest

def segmentChars (segments : List Nat) : List Char :=
  separated ':' (segments.map (Nat.toDigits 16))

def Ipv6Addr.chars (addr : Ipv6Addr) : List Char :=
  let segments := Ipv6Addr.segments addr
  if segments.take 6 = [0, 0, 0, 0, 0, 0xffff] then
    "::ffff:".toList ++ Ipv4Addr.chars (addr.setWidth 32)
  else
    let zeroes := longestZeros 0 ⟨0, 0⟩ ⟨0, 0⟩ segments
    if 1 < zeroes.len then
      segmentChars (segments.take zeroes.start) ++ "::".toList ++
        segmentChars (segments.drop (zeroes.start + zeroes.len))
    else segmentChars segments

def IpAddr.chars : IpAddr → List Char
  | .v4 addr => Ipv4Addr.chars addr
  | .v6 addr => Ipv6Addr.chars addr

def Ipv4Addr.text (addr : Ipv4Addr) : String := String.ofList (Ipv4Addr.chars addr)
def Ipv6Addr.text (addr : Ipv6Addr) : String := String.ofList (Ipv6Addr.chars addr)
def IpAddr.text (addr : IpAddr) : String := String.ofList addr.chars

def SocketAddr.text (addr : SocketAddr) : String :=
  match addr.ip with
  | .v4 ip => Ipv4Addr.text ip ++ ":" ++ toString addr.port
  | .v6 ip =>
    let scope := if addr.scopeId = 0 then "" else "%" ++ toString addr.scopeId
    "[" ++ Ipv6Addr.text ip ++ scope ++ "]:" ++ toString addr.port

example : (parseIpv6Addr "fd00::a1b2:c3d4").map Ipv6Addr.text = some "fd00::a1b2:c3d4" := by decide

end Slipmesh.Net
