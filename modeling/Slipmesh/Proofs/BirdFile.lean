import Slipmesh.Proofs.Lexical
import Slipmesh.Library.Lines

/-! What the file of the reference template says: the names of its protocols, its routes and
the ranges that are learned, read back from the text line by line. -/

namespace Slipmesh.Router.BirdFile
open Library Net Common

/-! ### Reading a file -/

inductive Said where
  | protocol (name : String)
  | route (net : String)
  | learn (nets : List String)
deriving DecidableEq, Repr

/-- What stands between a protocol's kind, which is two words for OSPF, and its brace. -/
def protocolName : List String → Option String
  | ["ospf", _, name, "\x7b"] => some name
  | [_, name, "\x7b"] => some name
  | _ => none

/-- The ranges of a filter on the prefix. -/
def filteredNets : List String → Option (List String)
  | "net" :: "~" :: "[" :: rest =>
    some ((rest.takeWhile (· ≠ "]")).map fun net => String.ofList (net.toList.filter (· ≠ ',')))
  | _ => none

/-- What the words of a line say: its first word tells what it is, and what follows a
route's prefix, with the comment at the end, is not looked at. -/
def said : List String → Option Said
  | [] => none
  | head :: rest =>
    if head = "protocol" then (protocolName rest).map .protocol
    else if head = "route" then rest.head?.map .route
    else if head = "if" then (filteredNets rest).map .learn
    else none

def wordsIn (line : String) : List String := (words (· = ' ') line.toList).map String.ofList

def saidBy (text : String) : List Said :=
  (text.toList.splitOn '\n').filterMap fun line => said (wordsIn (String.ofList line))

/-! ### Words -/

theorem wordsIn_append {front : String} (ends : front.toList.getLast? = some ' ') (rest : String) :
    wordsIn (front ++ rest) = wordsIn front ++ wordsIn rest := by
  obtain ⟨before, shape⟩ := List.getLast?_eq_some_iff.mp ends
  have apart (more : List Char) : words (· = ' ') (before ++ ' ' :: more) = words (· = ' ') before ++ words (· = ' ') more :=
    words_append_cons rfl before more
  have own := apart []
  rw [words_nil, List.append_nil] at own
  rw [wordsIn, wordsIn, wordsIn, ← List.map_append, String.toList_append, shape, List.append_assoc, List.singleton_append,
    apart, own]

theorem wordsIn_word_append {word : String} (full : word.toList ≠ []) (solid : word.toList.all (· ≠ ' ') = true)
    (rest : String) : wordsIn (word ++ (" " ++ rest)) = word :: wordsIn rest := by
  have shape : (word ++ (" " ++ rest)).toList = word.toList ++ ' ' :: rest.toList := by
    rw [String.toList_append, String.toList_append]
    rfl
  rw [wordsIn, shape, words_append_cons rfl, words_word full (by simpa using solid), List.map_append, List.map_singleton,
    String.ofList_toList]
  rfl

/-! ### Lines -/

theorem saidBy_break (front rest : String) : saidBy (front ++ ("\n" ++ rest)) = saidBy front ++ saidBy rest := by
  have shape : (front ++ ("\n" ++ rest)).toList = front.toList ++ '\n' :: rest.toList := by
    rw [String.toList_append, String.toList_append]
    rfl
  rw [saidBy, shape, List.splitOn_append_cons_self, List.filterMap_append, saidBy, saidBy]

def Whole (line : String) : Prop := '\n' ∉ line.toList

instance (line : String) : Decidable (Whole line) := inferInstanceAs (Decidable ('\n' ∉ line.toList))

theorem whole_append {first second : String} : Whole (first ++ second) ↔ Whole first ∧ Whole second := by
  rw [Whole, String.toList_append, List.mem_append, not_or]
  rfl

theorem saidBy_line {line : String} (whole : Whole line) : saidBy line = (said (wordsIn line)).toList := by
  rw [saidBy, List.splitOn_eq_singleton whole, List.filterMap_cons, String.ofList_toList]
  cases said (wordsIn line) <;> rfl

/-- What some lines say, one after the other. -/
def saidIn (lines : List String) : List Said := lines.filterMap fun line => said (wordsIn line)

theorem saidIn_cons (line : String) (rest : List String) :
    saidIn (line :: rest) = (said (wordsIn line)).toList ++ saidIn rest := by
  rw [saidIn, List.filterMap_cons]
  cases said (wordsIn line) <;> rfl

theorem saidBy_lines {lines : List String} (full : lines ≠ []) (whole : ∀ line ∈ lines, Whole line) :
    saidBy ("\n".intercalate lines) = saidIn lines := by
  induction lines with
  | nil => exact absurd rfl full
  | cons line rest ih =>
    have first := saidBy_line (whole line (List.mem_cons_self ..))
    rw [saidIn_cons]
    by_cases last : rest = []
    · rw [last, String.intercalate_singleton, first]
      exact (List.append_nil _).symm
    · rw [String.intercalate_cons_of_ne_nil last, String.append_assoc, saidBy_break, first,
        ih last fun line listed => whole line (List.mem_cons_of_mem _ listed)]

/-! ### Lines that name nothing -/

/-- A line that is whole, and says nothing. -/
def Inner (line : String) : Prop := Whole line ∧ said (wordsIn line) = none

instance (line : String) : Decidable (Inner line) := inferInstanceAs (Decidable (Whole line ∧ said (wordsIn line) = none))

/-- The first words of a line that tells nothing, whatever stands after them. -/
def quiet : List String → Bool
  | [] => false
  | head :: rest => head ≠ "protocol" && head ≠ "route" && (head ≠ "if" || rest.head?.any (· ≠ "net"))

theorem said_quiet {first : List String} (start : quiet first = true) (rest : List String) : said (first ++ rest) = none := by
  cases first with
  | nil => cases start
  | cons head more =>
    simp only [quiet, Bool.and_eq_true, Bool.or_eq_true, decide_eq_true_eq] at start
    obtain ⟨⟨protocol, route⟩, filter⟩ := start
    rw [List.cons_append, said, if_neg protocol, if_neg route]
    rcases filter with other | second
    · rw [if_neg other]
    · cases more with
      | nil => cases second
      | cons word more =>
        have different : word ≠ "net" := by simpa using second
        split
        · rw [List.cons_append, filteredNets]
          · rfl
          · intro nets same
            exact different (List.cons.inj same).1
        · rfl

theorem inner_of_start {front rest : String} (ends : front.toList.getLast? = some ' ') (start : quiet (wordsIn front) = true)
    (whole : Whole front) (more : Whole rest) : Inner (front ++ rest) := by
  refine ⟨whole_append.mpr ⟨whole, more⟩, ?_⟩
  rw [wordsIn_append ends]
  exact said_quiet start _

theorem wordsIn_indent (line : String) : wordsIn ("    " ++ line) = wordsIn line := by
  rw [wordsIn_append (by decide)]
  have none : wordsIn "    " = [] := by decide
  rw [none, List.nil_append]

theorem whole_indent {line : String} : Whole ("    " ++ line) ↔ Whole line := by
  rw [whole_append]
  exact and_iff_right (by decide)

theorem saidIn_indent (lines : List String) : saidIn (indent lines) = saidIn lines := by
  rw [saidIn, indent, List.filterMap_map]
  apply List.filterMap_congr
  intro line _
  exact congrArg said (wordsIn_indent line)

theorem inner_indent {line : String} : Inner ("    " ++ line) ↔ Inner line := by rw [Inner, Inner, whole_indent, wordsIn_indent]

theorem whole_braced {head close : String} {lines : List String} : (∀ line ∈ braced head lines close, Whole line) ↔
    Whole (head ++ " \x7b") ∧ (∀ line ∈ lines, Whole line) ∧ Whole ("\x7d" ++ close) := by
  simp only [braced, indent, List.cons_append, List.forall_mem_cons, List.forall_mem_append, List.forall_mem_map, whole_indent,
    List.not_mem_nil, IsEmpty.forall_iff, implies_true, and_true]

theorem inner_braced {head close : String} {lines : List String} : (∀ line ∈ braced head lines close, Inner line) ↔
    Inner (head ++ " \x7b") ∧ (∀ line ∈ lines, Inner line) ∧ Inner ("\x7d" ++ close) := by
  simp only [braced, indent, List.cons_append, List.forall_mem_cons, List.forall_mem_append, List.forall_mem_map, inner_indent,
    List.not_mem_nil, IsEmpty.forall_iff, implies_true, and_true]

theorem saidIn_append (first second : List String) : saidIn (first ++ second) = saidIn first ++ saidIn second :=
  List.filterMap_append

theorem saidIn_inner {lines : List String} (inner : ∀ line ∈ lines, Inner line) : saidIn lines = [] :=
  List.filterMap_eq_nil_iff.mpr fun line listed => (inner line listed).2

theorem saidBy_inner {lines : List String} (full : lines ≠ []) (inner : ∀ line ∈ lines, Inner line) :
    saidBy ("\n".intercalate lines) = [] := by
  rw [saidBy_lines full fun line listed => (inner line listed).1, saidIn_inner inner]

theorem saidIn_braced {head close : String} {lines : List String} (opening : Inner (head ++ " \x7b"))
    (closing : Inner ("\x7d" ++ close)) : saidIn (braced head lines close) = saidIn lines := by
  have last : saidIn ["\x7d" ++ close] = [] := saidIn_inner (by simpa using closing)
  rw [braced, List.cons_append, saidIn_cons, saidIn_append, saidIn_indent, opening.2, last, List.append_nil]
  rfl

/-! ### Protocols -/

/-- The protocol's lines are whole, and say this together. -/
structure Tells (protocol : Protocol) (all : List Said) : Prop where
  whole : ∀ line ∈ protocol.lines, Whole line
  said : saidIn protocol.lines = all

theorem tells_unnamed {protocol : Protocol} {all : List Said} (unnamed : protocol.name = none)
    (opening : Inner ("protocol " ++ protocol.kind ++ " \x7b")) (whole : ∀ line ∈ protocol.body, Whole line)
    (body : saidIn protocol.body = all) : Tells protocol all := by
  have head : Inner ("protocol " ++ protocol.kind ++ protocol.name.elim "" (" " ++ ·) ++ " \x7b") := by
    rw [unnamed, Option.elim_none, String.append_empty]
    exact opening
  refine ⟨?_, ?_⟩
  · rw [Protocol.lines, whole_braced]
    exact ⟨head.1, whole, by decide⟩
  · rw [Protocol.lines, saidIn_braced head (by decide), body]

/-- A text that is one word. -/
structure OneWord (text : String) : Prop where
  full : text.toList ≠ []
  solid : text.toList.all (· ≠ ' ') = true
  whole : Whole text

/-- A kind of protocol, after whose words a name stands. -/
structure NamedKind (kind : String) : Prop where
  whole : Whole ("protocol " ++ kind ++ " ")
  reads : ∃ kinds, wordsIn ("protocol " ++ kind ++ " ") = "protocol" :: kinds ∧
    ∀ name, protocolName (kinds ++ [name, "\x7b"]) = some name

theorem tells_named {protocol : Protocol} {name : String} {all : List Said} (named : protocol.name = some name)
    (word : OneWord name) (kind : NamedKind protocol.kind) (whole : ∀ line ∈ protocol.body, Whole line)
    (body : saidIn protocol.body = all) : Tells protocol (.protocol name :: all) := by
  obtain ⟨wholeKind, kinds, words, reads⟩ := kind
  have shape : "protocol " ++ protocol.kind ++ protocol.name.elim "" (" " ++ ·) ++ " \x7b" =
      ("protocol " ++ protocol.kind ++ " ") ++ (name ++ (" " ++ "\x7b")) := by
    have brace : (" \x7b" : String) = " " ++ "\x7b" := by decide
    rw [named, Option.elim_some, brace]
    simp only [String.append_assoc]
  have ends : ("protocol " ++ protocol.kind ++ " ").toList.getLast? = some ' ' := by
    rw [String.toList_append, List.getLast?_append]
    rfl
  have last : wordsIn "\x7b" = ["\x7b"] := by decide
  have closing : saidIn ["\x7d" ++ ""] = [] := by decide
  refine ⟨?_, ?_⟩
  · rw [Protocol.lines, whole_braced, shape]
    refine ⟨?_, whole, by decide⟩
    exact whole_append.mpr ⟨wholeKind, whole_append.mpr ⟨word.whole, by decide⟩⟩
  · rw [Protocol.lines, braced, List.cons_append, saidIn_cons, saidIn_append, saidIn_indent, closing, List.append_nil, body,
      shape, wordsIn_append ends, words, wordsIn_word_append word.full word.solid, last, List.cons_append, said, if_pos rfl,
      reads]
    rfl

/-- It says no more than its name where no line of its body says anything. -/
theorem tells_name {protocol : Protocol} {name : String} (named : protocol.name = some name) (word : OneWord name)
    (kind : NamedKind protocol.kind) (body : ∀ line ∈ protocol.body, Inner line) : Tells protocol [.protocol name] :=
  tells_named named word kind (fun line listed => (body line listed).1) (saidIn_inner body)

theorem direct_named : NamedKind "direct" := ⟨by decide, ["direct"], by decide, fun _ => rfl⟩

theorem ospf_named : NamedKind "ospf v3" := ⟨by decide, ["ospf", "v3"], by decide, fun _ => rfl⟩

theorem static_named : NamedKind "static" := ⟨by decide, ["static"], by decide, fun _ => rfl⟩

theorem bgp_named : NamedKind "bgp" := ⟨by decide, ["bgp"], by decide, fun _ => rfl⟩

/-! ### The texts that are put in -/

theorem whole_of_chars {allowed : Char → Bool} (line : allowed '\n' = false) {text : String}
    (fits : ∀ c ∈ text.toList, allowed c = true) : Whole text := by
  intro member
  rw [fits '\n' member] at line
  cases line

theorem whole_ipv4 (addr : Ipv4Addr) : Whole (Ipv4Addr.text addr) :=
  whole_of_chars (by decide) (parseWith_chars (fun _ _ _ => readIpv4Addr_passes) (Proofs.CidrText.parseIpv4Addr_text addr))

theorem whole_ipv6 (addr : Ipv6Addr) : Whole (Ipv6Addr.text addr) :=
  whole_of_chars (by decide) (parseWith_chars (fun _ _ _ => readIpv6Addr_passes) (Proofs.CidrText.parseIpv6Addr_text addr))

theorem whole_nat (n : Nat) : Whole (toString n) := by
  apply whole_of_chars (show Char.isDigit '\n' = false by decide)
  intro c member
  rw [Nat.toString_eq_repr, Nat.toList_repr] at member
  exact Nat.isDigit_of_mem_toDigits (by decide) (by decide) member

theorem whole_pattern {text : String} (pattern : IsPattern text) : Whole text := by
  rcases pattern with ⟨inner, rfl, fits⟩ | ⟨fits, -⟩
  · rw [whole_append, whole_append]
    exact ⟨⟨by decide, fun member => (fits _ member).2.1 rfl⟩, by decide⟩
  · intro member
    exact absurd (fits _ member) (by decide)

theorem whole_intercalate {separator : String} (whole : Whole separator) {parts : List String}
    (each : ∀ part ∈ parts, Whole part) : Whole (separator.intercalate parts) := by
  induction parts with
  | nil => exact List.not_mem_nil
  | cons part rest ih =>
    have first := each part (List.mem_cons_self ..)
    by_cases last : rest = []
    · rw [last, String.intercalate_singleton]
      exact first
    · rw [String.intercalate_cons_of_ne_nil last, whole_append, whole_append]
      exact ⟨⟨first, whole⟩, ih fun part listed => each part (List.mem_cons_of_mem _ listed)⟩

theorem whole_oneLine {text : String} (oneLine : IsOneLine text) : Whole text := fun member => (oneLine _ member).1 rfl

theorem whole_net {text : String} (net : IsNet text) : Whole text := fun member => absurd (net _ member) (by decide)

theorem OneWord.net {net : String} (fits : IsNet net) (full : net.toList ≠ []) : OneWord net where
  full
  solid := by
    rw [List.all_eq_true]
    intro c member
    rw [decide_eq_true_iff]
    rintro rfl
    exact absurd (fits _ member) (by decide)
  whole := whole_net fits

theorem OneWord.append {first second : String} (one : OneWord first) (solid : second.toList.all (· ≠ ' ') = true)
    (whole : Whole second) : OneWord (first ++ second) where
  full := by
    rw [String.toList_append]
    exact List.append_ne_nil_of_left_ne_nil one.full _
  solid := by rw [String.toList_append, List.all_append, one.solid, solid, Bool.and_self]
  whole := whole_append.mpr ⟨one.whole, whole⟩

theorem OneWord.identifier {front id : String} (one : OneWord front) (identifier : IsIdentifier id) : OneWord (front ++ id) := by
  obtain ⟨first, rest, shape, start, letters⟩ := identifier
  have fits : ∀ c ∈ id.toList, (c.isAlphanum || c = '_') = true := by
    intro c member
    rw [shape] at member
    rcases List.mem_cons.mp member with rfl | later
    · rcases start with letter | rfl
      · simp [Char.isAlphanum, letter]
      · decide
    · simpa using letters c later
  refine one.append (List.all_eq_true.mpr fun c member => ?_) (whole_of_chars (by decide) fits)
  rw [decide_eq_true_iff]
  rintro rfl
  exact absurd (fits _ member) (by decide)

/-! ### What each protocol says -/

/-- The context of a file that is read back: the texts keep to their places, the prefixes
are there, and the interface is the router's own. -/
structure Legible (context : BirdConfigContext) : Prop extends Lexical context where
  loopbackIface : context.routerLoopbackIface = routerLoopbackIface
  fullNets : ∀ route ∈ context.bypass ++ context.announce, route.net.toList ≠ []
  fullLearn : ∀ net ∈ context.learn, net.toList ≠ []

variable {context : BirdConfigContext} (legible : Legible context)

theorem inner_interface {rest : String} (whole : Whole rest) : Inner ("interface " ++ rest) :=
  inner_of_start (by decide) (by decide) (by decide) whole

theorem tells_device : Tells { kind := "device" } [] :=
  tells_unnamed rfl (by decide) (by simp) rfl

include legible

theorem tells_direct {iface : RenderedDirectIface} (listed : iface ∈ context.directInterfaces) :
    Tells (BirdConfigContext.directProtocol iface) [.protocol ("direct_" ++ iface.protocolId)] := by
  have body : ∀ line ∈ (BirdConfigContext.directProtocol iface).body, Inner line := by
    simp only [BirdConfigContext.directProtocol, List.forall_mem_cons, List.not_mem_nil, IsEmpty.forall_iff, implies_true,
      and_true]
    refine ⟨?_, by decide⟩
    rw [String.append_assoc]
    exact inner_interface (whole_append.mpr ⟨whole_pattern (legible.directPatterns iface listed), by decide⟩)
  have start : OneWord "direct_" := ⟨by decide, by decide, by decide⟩
  exact tells_name rfl (start.identifier (legible.directIds iface listed)) direct_named body

omit legible in
theorem filteredNets_learn {nets : List String} (full : nets ≠ []) (words : ∀ net ∈ nets, OneWord net ∧ IsNet net) :
    filteredNets ("net" :: "~" :: "[" :: wordsIn (", ".intercalate nets ++ " ] then accept;")) = some nets := by
  have bare {net : String} (fits : IsNet net) : String.ofList (net.toList.filter (· ≠ ',')) = net := by
    rw [List.filter_eq_self.mpr, String.ofList_toList]
    intro c member
    rw [decide_eq_true_iff]
    rintro rfl
    exact absurd (fits _ member) (by decide)
  have inside {net word : String} (fits : IsNet net) (full : net.toList ≠ []) (within : net.toList ⊆ word.toList) :
      decide (word ≠ "]") = true := by
    obtain ⟨c, member⟩ := List.exists_mem_of_ne_nil _ full
    rw [decide_eq_true_iff]
    rintro rfl
    have bracket : c = ']' := List.mem_singleton.mp (within member)
    exact absurd (fits c member) (by rw [bracket]; decide)
  rw [filteredNets]
  congr 1
  induction nets with
  | nil => exact absurd rfl full
  | cons net rest ih =>
    obtain ⟨word, fits⟩ := words net (List.mem_cons_self ..)
    by_cases last : rest = []
    · have after : wordsIn "] then accept;" = ["]", "then", "accept;"] := by decide
      have blank : (" ] then accept;" : String) = " " ++ "] then accept;" := by decide
      rw [last, String.intercalate_singleton, blank, wordsIn_word_append word.full word.solid, after,
        List.takeWhile_cons, if_pos (inside fits word.full (List.Subset.refl _))]
      simpa using bare fits
    · have comma : (", " : String) = "," ++ " " := by decide
      have within : net.toList ⊆ (net ++ ",").toList := by
        rw [String.toList_append]
        exact List.subset_append_left ..
      have marked := word.append (show ",".toList.all (· ≠ ' ') = true by decide) (by decide)
      have shape : ", ".intercalate (net :: rest) ++ " ] then accept;" =
          (net ++ ",") ++ (" " ++ (", ".intercalate rest ++ " ] then accept;")) := by
        rw [String.intercalate_cons_of_ne_nil last, comma]
        simp only [String.append_assoc]
      rw [shape, wordsIn_word_append marked.full marked.solid,
        List.takeWhile_cons, if_pos (inside fits word.full within), List.map_cons,
        ih last fun net listed => words net (List.mem_cons_of_mem _ listed)]
      have kept : String.ofList ((net ++ ",").toList.filter (· ≠ ',')) = net := by
        rw [String.toList_append, List.filter_append]
        simpa using bare fits
      rw [kept]

theorem tells_kernelIpv4 : Tells context.kernelIpv4 (if context.learn = [] then [] else [.learn context.learn]) := by
  have nets : ∀ net ∈ context.learn, OneWord net ∧ IsNet net := fun net listed =>
    ⟨.net (legible.learn net listed) (legible.fullLearn net listed), legible.learn net listed⟩
  have source : Inner ("if krt_source = " ++ toString context.awgRouteProtocol.toNat ++ " then accept;") := by
    rw [String.append_assoc]
    exact inner_of_start (by decide) (by decide) (by decide) (whole_append.mpr ⟨whole_nat _, by decide⟩)
  have own : Inner ("krt_prefsrc = " ++ Ipv4Addr.text context.loopback ++ ";") := by
    rw [String.append_assoc]
    exact inner_of_start (by decide) (by decide) (by decide) (whole_append.mpr ⟨whole_ipv4 _, by decide⟩)
  have preferred (condition : String) (opening : Inner ("if " ++ condition ++ " then" ++ " \x7b")) :
      ∀ line ∈ context.preferred condition, Inner line := by
    rw [BirdConfigContext.preferred, inner_braced]
    simp only [List.forall_mem_cons, List.not_mem_nil, IsEmpty.forall_iff, implies_true, and_true]
    exact ⟨opening, ⟨own, by decide⟩, by decide⟩
  have bgp := preferred "source = RTS_BGP" (by decide)
  have announced := preferred ("proto = " ++ quoted "ANNOUNCE") (by decide)
  have ipv4 : Inner ("ipv4" ++ " \x7b") := by decide
  have imports : Inner ("import filter" ++ " \x7b") := by decide
  have exports : Inner ("export filter" ++ " \x7b") := by decide
  have closing : Inner ("\x7d" ++ ";") := by decide
  have rejects : Inner "reject;" := by decide
  have last : Inner (if context.learn = [] then "learn;" else "learn all;") := by
    split <;> decide
  have filter : ∀ line ∈ ["if krt_source = " ++ toString context.awgRouteProtocol.toNat ++ " then accept;", "reject;"],
      Inner line := by
    simpa using ⟨source, rejects⟩
  have others : ∀ line ∈ context.preferred "source = RTS_BGP" ++ context.preferred ("proto = " ++ quoted "ANNOUNCE") ++
      ["reject;"], Inner line := by
    exact List.forall_mem_append.mpr ⟨List.forall_mem_append.mpr ⟨bgp, announced⟩, by simpa using rejects⟩
  have learns : (∀ line ∈ (if context.learn = [] then [] else
      ["if net ~ [ " ++ ", ".intercalate context.learn ++ " ] then accept;"]), Whole line) ∧
      saidIn (if context.learn = [] then [] else ["if net ~ [ " ++ ", ".intercalate context.learn ++ " ] then accept;"]) =
        if context.learn = [] then [] else [.learn context.learn] := by
    split
    · exact ⟨by simp, rfl⟩
    · rename_i full
      have start : wordsIn "if net ~ [ " = ["if", "net", "~", "["] := by decide
      have inner := whole_intercalate (show Whole ", " by decide) fun net listed => whole_net (legible.learn net listed)
      refine ⟨?_, ?_⟩
      · rw [List.forall_mem_singleton, whole_append, whole_append]
        exact ⟨⟨by decide, inner⟩, by decide⟩
      · rw [saidIn_cons, String.append_assoc, wordsIn_append (by decide), start, List.cons_append, said, if_neg (by decide),
          if_neg (by decide), if_pos rfl, List.cons_append, List.cons_append, List.cons_append, List.nil_append,
          filteredNets_learn full nets]
        rfl
  refine tells_unnamed rfl (show Inner ("protocol " ++ "kernel" ++ " \x7b") by decide) ?_ ?_
  · have each {lines : List String} (inner : ∀ line ∈ lines, Inner line) : ∀ line ∈ lines, Whole line :=
      fun line listed => (inner line listed).1
    simp only [BirdConfigContext.kernelIpv4, List.forall_mem_append, whole_braced]
    exact ⟨⟨ipv4.1, ⟨⟨imports.1, ⟨learns.1, each filter⟩, closing.1⟩, exports.1,
      ⟨⟨each bgp, each announced⟩, by decide⟩, closing.1⟩, closing.1⟩, by simpa using last.1⟩
  · simp only [BirdConfigContext.kernelIpv4]
    rw [saidIn_append, saidIn_braced ipv4 closing, saidIn_append, saidIn_braced imports closing, saidIn_braced exports closing,
      saidIn_append, learns.2, saidIn_inner filter, saidIn_inner others, saidIn_inner (by simpa using last)]
    simp

omit legible in
theorem inner_kernelIpv6 : ∀ line ∈ BirdConfigContext.kernelIpv6.body, Inner line := by
  decide

theorem inner_bfd (bfd : BfdSettings) : ∀ line ∈ (context.bfdProtocol bfd).body, Inner line := by
  have timing (start : String) (ends : start.toList.getLast? = some ' ') (quiet : quiet (wordsIn start) = true)
      (whole : Whole start) (n : Nat) (unit : String) (rest : Whole unit) : Inner (start ++ toString n ++ unit) := by
    rw [String.append_assoc]
    exact inner_of_start ends quiet whole (whole_append.mpr ⟨whole_nat _, rest⟩)
  simp only [BirdConfigContext.bfdProtocol, List.forall_mem_flatMap, inner_braced, List.forall_mem_cons, List.not_mem_nil,
    IsEmpty.forall_iff, implies_true, and_true]
  intro iface listed
  have pattern := whole_pattern (legible.ospfPatterns iface (List.mem_of_mem_filter listed))
  refine ⟨?_, ⟨?_, ?_, ?_⟩, by decide⟩
  · rw [String.append_assoc]
    exact inner_interface (whole_append.mpr ⟨pattern, by decide⟩)
  · exact timing _ (by decide) (by decide) (by decide) _ _ (by decide)
  · exact timing _ (by decide) (by decide) (by decide) _ _ (by decide)
  · exact timing _ (by decide) (by decide) (by decide) _ _ (by decide)

theorem tells_mesh6 : Tells context.mesh6 [.protocol "mesh6"] := by
  have within {head content : String} (pattern : Whole head) (inside : Whole content) :
      Inner (inBraces ("interface " ++ head) content) := by
    rw [inBraces]
    simp only [String.append_assoc]
    apply inner_interface
    simp only [whole_append]
    exact ⟨pattern, by decide, inside, by decide⟩
  have body : ∀ line ∈ context.mesh6.body, Inner line := by
    simp only [BirdConfigContext.mesh6, List.forall_mem_append, inner_braced, List.forall_mem_cons, List.forall_mem_map,
      legible.loopbackIface]
    refine ⟨by decide, by decide, ⟨by decide, ?_⟩, by decide⟩
    intro iface listed
    apply within (whole_pattern (legible.ospfPatterns iface listed))
    split <;> decide
  exact tells_name rfl ⟨by decide, by decide, by decide⟩ ospf_named body

omit legible in
theorem tells_static {name target : String} (word : OneWord name) (wholeTarget : Whole target) {routes : List SanitizedRoute}
    (nets : ∀ route ∈ routes, OneWord route.net) (labels : ∀ route ∈ routes, IsOneLine route.label) :
    ∀ protocol ∈ BirdConfigContext.staticProtocol name target routes,
      Tells protocol (.protocol name :: routes.map fun route => .route route.net) := by
  intro protocol listed
  rw [BirdConfigContext.staticProtocol] at listed
  split at listed
  · cases listed
  · cases List.mem_singleton.mp listed
    have imports : Inner (inBraces "ipv4" "import all;") := by decide
    refine tells_named rfl word static_named ?_ ?_
    · rw [List.forall_mem_cons, List.forall_mem_map]
      refine ⟨imports.1, ?_⟩
      intro route listed
      simp only [whole_append]
      exact ⟨⟨⟨⟨⟨by decide, (nets route listed).whole⟩, by decide⟩, wholeTarget⟩, by decide⟩,
        whole_oneLine (labels route listed)⟩
    · rw [saidIn_cons, imports.2, saidIn, List.filterMap_map, ← List.filterMap_eq_map]
      apply List.filterMap_congr
      intro route listed
      have start : wordsIn "route " = ["route"] := by decide
      have word := nets route listed
      have shape : "route " ++ route.net ++ " " ++ target ++ "; # " ++ route.label =
          "route " ++ (route.net ++ (" " ++ (target ++ ("; # " ++ route.label)))) := by
        simp only [String.append_assoc]
      rw [Function.comp_apply, shape, wordsIn_append (by decide), start, wordsIn_word_append word.full word.solid]
      rfl

theorem tells_ibgp {peer : RenderedBgpPeer} (listed : peer ∈ context.bgpPeers) :
    Tells (context.ibgpProtocol peer) [.protocol ("ibgp6_" ++ peer.protocolId)] := by
  have start : OneWord "ibgp6_" := ⟨by decide, by decide, by decide⟩
  have session {front : String} (ends : front.toList.getLast? = some ' ') (quiet : quiet (wordsIn front) = true)
      (whole : Whole front) (addr : Ipv6Addr) (number : Nat) :
      Inner (front ++ Ipv6Addr.text addr ++ " as " ++ toString number ++ ";") := by
    simp only [String.append_assoc]
    apply inner_of_start ends quiet whole
    simp only [whole_append]
    exact ⟨whole_ipv6 addr, by decide, whole_nat number, by decide⟩
  have body : ∀ line ∈ (context.ibgpProtocol peer).body, Inner line := by
    simp only [BirdConfigContext.ibgpProtocol, List.forall_mem_append, inner_braced, List.forall_mem_cons, List.not_mem_nil,
      IsEmpty.forall_iff, implies_true, and_true]
    refine ⟨⟨session (by decide) (by decide) (by decide) _ _, session (by decide) (by decide) (by decide) _ _,
      by decide⟩, by decide⟩
  exact tells_name rfl (start.identifier (legible.peers peer listed)) bgp_named body

/-! ### The file -/

omit legible in
/-- What a run of protocols says, each on lines of its own. -/
theorem saidBy_join (front : String) {protocols : List Protocol}
    (apart : ∀ protocol ∈ protocols, protocol.before = "\n" ∧ ∀ line ∈ protocol.lines, Whole line) :
    saidBy (front ++ String.join (protocols.map Protocol.text)) =
      saidBy front ++ protocols.flatMap fun protocol => saidIn protocol.lines := by
  induction protocols generalizing front with
  | nil =>
    rw [List.map_nil, String.join_nil, String.append_empty]
    exact (List.append_nil _).symm
  | cons protocol rest ih =>
    obtain ⟨⟨before, whole⟩, others⟩ := List.forall_mem_cons.mp apart
    have full : protocol.lines ≠ [] := List.cons_ne_nil _ _
    rw [List.map_cons, String.join_cons, Protocol.text, before, String.append_assoc, saidBy_break, ih _ others,
      saidBy_lines full whole, List.flatMap_cons]

omit legible in
theorem intercalate_glued (lines : List String) (last first : String) (rest : List String) :
    "\n".intercalate (lines ++ [last]) ++ "\n".intercalate (first :: rest) =
      "\n".intercalate (lines ++ (last ++ first) :: rest) := by
  induction lines with
  | nil =>
    by_cases alone : rest = []
    · rw [alone]
      simp
    · rw [List.nil_append, List.nil_append, String.intercalate_singleton, String.intercalate_cons_of_ne_nil alone,
        String.intercalate_cons_of_ne_nil alone]
      simp only [String.append_assoc]
  | cons line lines ih =>
    have before : lines ++ [last] ≠ [] := List.append_ne_nil_of_right_ne_nil _ (List.cons_ne_nil _ _)
    have after : lines ++ (last ++ first) :: rest ≠ [] := List.append_ne_nil_of_right_ne_nil _ (List.cons_ne_nil _ _)
    rw [List.cons_append, List.cons_append, String.intercalate_cons_of_ne_nil before, String.intercalate_cons_of_ne_nil after,
      String.append_assoc, ih]

/-- The block of BFD begins on the line that the one before it ends on, and neither says anything. -/
theorem saidBy_kernelIpv6 : saidBy ("\n".intercalate BirdConfigContext.kernelIpv6.lines ++
    String.join ((context.bfd.map context.bfdProtocol).toList.map Protocol.text)) = [] := by
  have opening : Inner ("protocol " ++ "kernel" ++ "" ++ " \x7b") := by decide
  have closing : Inner ("\x7d" ++ "") := by decide
  have own : ∀ line ∈ BirdConfigContext.kernelIpv6.lines, Inner line :=
    inner_braced.mpr ⟨opening, inner_kernelIpv6, closing⟩
  cases context.bfd with
  | none =>
    have nothing : String.join (((none : Option BfdSettings).map context.bfdProtocol).toList.map Protocol.text) = "" := rfl
    rw [nothing, String.append_empty]
    exact saidBy_inner (List.cons_ne_nil _ _) own
  | some bfd =>
    have glued : Inner ("\x7d" ++ "" ++ ("protocol " ++ "bfd" ++ "" ++ " \x7b")) := by decide
    have shape : String.join (((some bfd).map context.bfdProtocol).toList.map Protocol.text) =
        "\n".intercalate ((context.bfdProtocol bfd).lines) := by
      rw [Option.map_some, Option.toList_some, List.map_singleton, String.join_cons, String.join_nil, String.append_empty,
        Protocol.text]
      exact String.empty_append
    have six : BirdConfigContext.kernelIpv6.lines =
        ("protocol " ++ "kernel" ++ "" ++ " \x7b") :: indent BirdConfigContext.kernelIpv6.body ++ ["\x7d" ++ ""] := rfl
    have bfdLines : (context.bfdProtocol bfd).lines =
        ("protocol " ++ "bfd" ++ "" ++ " \x7b") :: (indent (context.bfdProtocol bfd).body ++ ["\x7d" ++ ""]) := rfl
    rw [shape, six, bfdLines, intercalate_glued]
    apply saidBy_inner (List.append_ne_nil_of_right_ne_nil _ (List.cons_ne_nil _ _))
    intro line listed
    rcases List.mem_append.mp listed with before | after
    · exact own line (List.mem_append_left _ before)
    · rcases List.mem_cons.mp after with rfl | after
      · exact glued
      · rcases List.mem_append.mp after with body | last
        · obtain ⟨inside, within, rfl⟩ := List.mem_map.mp body
          exact inner_indent.mpr (inner_bfd legible bfd inside within)
        · exact List.mem_singleton.mp last ▸ closing

theorem tells_direct1 : Tells context.direct1 [.protocol "direct1"] := by
  have body : ∀ line ∈ context.direct1.body, Inner line := by
    rw [BirdConfigContext.direct1, legible.loopbackIface]
    decide
  exact tells_name rfl ⟨by decide, by decide, by decide⟩ direct_named body

omit legible in
theorem tells_each {α : Type} {items : List α} {block : α → Protocol} {name : α → String}
    (each : ∀ item ∈ items, Tells (block item) [.protocol (name item)]) :
    (items.map block).flatMap (fun protocol => saidIn protocol.lines) = items.map fun item => .protocol (name item) := by
  rw [List.flatMap_map, List.map_eq_flatMap]
  apply List.flatMap_congr
  intro item listed
  exact (each item listed).said

/-- What a block of static routes says, which is left out where there are none. -/
def staticSaid (name : String) (routes : List SanitizedRoute) : List Said :=
  if routes = [] then [] else .protocol name :: routes.map fun route => .route route.net

omit legible in
theorem saidIn_static {name target : String} {routes : List SanitizedRoute}
    (tells : ∀ protocol ∈ BirdConfigContext.staticProtocol name target routes,
      Tells protocol (.protocol name :: routes.map fun route => .route route.net)) :
    (BirdConfigContext.staticProtocol name target routes).flatMap (fun protocol => saidIn protocol.lines) =
      staticSaid name routes := by
  rw [BirdConfigContext.staticProtocol, staticSaid] at *
  split
  · rfl
  · rename_i some
    rw [if_neg some] at tells
    rw [List.flatMap_singleton]
    exact (tells _ (List.mem_singleton_self _)).said

omit legible in
theorem static_before {name target : String} {routes : List SanitizedRoute} {protocol : Protocol}
    (listed : protocol ∈ BirdConfigContext.staticProtocol name target routes) : protocol.before = "\n" := by
  rw [BirdConfigContext.staticProtocol] at listed
  split at listed
  · cases listed
  · cases List.mem_singleton.mp listed
    rfl

/-- The protocols before those of the kernel's IPv6 routes and of BFD, and after. -/
def firstProtocols (context : BirdConfigContext) : List Protocol :=
  { kind := "device" } :: context.direct1 ::
    (context.directInterfaces.map BirdConfigContext.directProtocol ++ [context.kernelIpv4])

def lastProtocols (context : BirdConfigContext) : List Protocol :=
  context.mesh6 :: (BirdConfigContext.staticProtocol "BYPASS" "blackhole" context.bypass ++
    (BirdConfigContext.staticProtocol "ANNOUNCE" ("via " ++ quoted context.routerLoopbackIface) context.announce ++
      context.bgpPeers.map context.ibgpProtocol))

omit legible in
theorem referenceConf_eq (context : BirdConfigContext) : context.referenceConf =
    "\n".intercalate context.preamble ++ String.join ((firstProtocols context).map Protocol.text) ++
      ("\n" ++ ("\n".intercalate BirdConfigContext.kernelIpv6.lines ++
        String.join ((context.bfd.map context.bfdProtocol).toList.map Protocol.text) ++
          String.join ((lastProtocols context).map Protocol.text))) ++ ("\n" ++ "") := by
  have order : context.protocols = firstProtocols context ++
      (BirdConfigContext.kernelIpv6 :: ((context.bfd.map context.bfdProtocol).toList ++ lastProtocols context)) := by
    simp [BirdConfigContext.protocols, firstProtocols, lastProtocols]
  have six : BirdConfigContext.kernelIpv6.text = "\n" ++ "\n".intercalate BirdConfigContext.kernelIpv6.lines := by
    rw [Protocol.text]
    congr 1
  rw [BirdConfigContext.referenceConf, order, List.map_append, String.join_append, List.map_cons, String.join_cons,
    List.map_append, String.join_append, six, String.append_empty]
  simp only [String.append_assoc]

omit legible in
theorem inner_preamble (context : BirdConfigContext) : ∀ line ∈ context.preamble, Inner line := by
  simp only [BirdConfigContext.preamble, List.forall_mem_cons, List.not_mem_nil, IsEmpty.forall_iff, implies_true, and_true]
  refine ⟨by decide, by decide, ?_⟩
  rw [String.append_assoc]
  exact inner_of_start (by decide) (by decide) (by decide) (whole_append.mpr ⟨whole_ipv4 _, by decide⟩)

/-- What the file names: these protocols, routes and ranges, in this order, and no others. -/
theorem saidBy_referenceConf : saidBy context.referenceConf =
    .protocol "direct1" :: (context.directInterfaces.map (fun iface => .protocol ("direct_" ++ iface.protocolId)) ++
      (if context.learn = [] then [] else [.learn context.learn])) ++ .protocol "mesh6" ::
        (staticSaid "BYPASS" context.bypass ++ (staticSaid "ANNOUNCE" context.announce ++
          context.bgpPeers.map fun peer => .protocol ("ibgp6_" ++ peer.protocolId))) := by
  have direct := fun iface (listed : iface ∈ context.directInterfaces) => tells_direct legible listed
  have ibgp := fun peer (listed : peer ∈ context.bgpPeers) => tells_ibgp legible listed
  have words {routes : List SanitizedRoute} (among : routes ⊆ context.bypass ++ context.announce) :
      (∀ route ∈ routes, OneWord route.net) ∧ ∀ route ∈ routes, IsOneLine route.label :=
    ⟨fun route listed => .net (legible.nets route (among listed)) (legible.fullNets route (among listed)),
      fun route listed => legible.labels route (among listed)⟩
  have via : Whole ("via " ++ quoted context.routerLoopbackIface) := by
    rw [legible.loopbackIface]
    decide
  have bypass : ∀ protocol ∈ BirdConfigContext.staticProtocol "BYPASS" "blackhole" context.bypass, Tells protocol _ :=
    tells_static ⟨by decide, by decide, by decide⟩ (by decide) (words (List.subset_append_left ..)).1
      (words (List.subset_append_left ..)).2
  have announce : ∀ protocol ∈ BirdConfigContext.staticProtocol "ANNOUNCE" ("via " ++ quoted context.routerLoopbackIface)
      context.announce, Tells protocol _ :=
    tells_static ⟨by decide, by decide, by decide⟩ via (words (List.subset_append_right ..)).1
      (words (List.subset_append_right ..)).2
  have first : ∀ protocol ∈ firstProtocols context, protocol.before = "\n" ∧ ∀ line ∈ protocol.lines, Whole line := by
    refine List.forall_mem_cons.mpr ⟨⟨rfl, tells_device.whole⟩, List.forall_mem_cons.mpr
      ⟨⟨rfl, (tells_direct1 legible).whole⟩, List.forall_mem_append.mpr ⟨List.forall_mem_map.mpr ?_,
        List.forall_mem_singleton.mpr ⟨rfl, (tells_kernelIpv4 legible).whole⟩⟩⟩⟩
    exact fun iface listed => ⟨rfl, (direct iface listed).whole⟩
  have last : ∀ protocol ∈ lastProtocols context, protocol.before = "\n" ∧ ∀ line ∈ protocol.lines, Whole line := by
    refine List.forall_mem_cons.mpr ⟨⟨rfl, (tells_mesh6 legible).whole⟩, List.forall_mem_append.mpr ⟨?_,
      List.forall_mem_append.mpr ⟨?_, List.forall_mem_map.mpr ?_⟩⟩⟩
    · exact fun protocol listed => ⟨static_before listed, (bypass protocol listed).whole⟩
    · exact fun protocol listed => ⟨static_before listed, (announce protocol listed).whole⟩
    · exact fun peer listed => ⟨rfl, (ibgp peer listed).whole⟩
  have nothing : saidBy "" = [] := rfl
  have start : saidBy ("\n".intercalate context.preamble) = [] := saidBy_inner (List.cons_ne_nil _ _) (inner_preamble context)
  rw [referenceConf_eq, saidBy_break, nothing, List.append_nil, saidBy_break, saidBy_join _ first, start, saidBy_join _ last,
    saidBy_kernelIpv6 legible, List.nil_append, List.nil_append, firstProtocols, lastProtocols]
  simp only [List.flatMap_cons, List.flatMap_append, List.flatMap_nil, tells_device.said, (tells_direct1 legible).said,
    tells_each direct, (tells_kernelIpv4 legible).said, (tells_mesh6 legible).said, saidIn_static bypass, saidIn_static announce,
    tells_each ibgp, List.append_nil, List.nil_append, List.cons_append]

/-! ### Names, routes and ranges -/

def Said.name? : Said → Option String
  | .protocol name => some name
  | _ => none

def Said.net? : Said → Option String
  | .route net => some net
  | _ => none

def Said.learned : Said → List String
  | .learn nets => nets
  | _ => []

theorem referenceConf_names : (saidBy context.referenceConf).filterMap Said.name? = context.protocolNames := by
  have static (name : String) (routes : List SanitizedRoute) :
      (staticSaid name routes).filterMap Said.name? = if routes = [] then [] else [name] := by
    rw [staticSaid]
    split
    · rfl
    · rw [List.filterMap_cons, List.filterMap_map]
      simp [Said.name?]
  have learn : (if context.learn = [] then [] else [Said.learn context.learn]).filterMap Said.name? = [] := by
    split <;> rfl
  have named {α : Type} (items : List α) (name : α → String) :
      (items.map fun item => Said.protocol (name item)).filterMap Said.name? = items.map name := by
    rw [List.filterMap_map]
    exact congrFun List.filterMap_eq_map _
  rw [saidBy_referenceConf legible, protocolNames_eq]
  simp only [List.filterMap_cons, List.filterMap_append, List.cons_append, static, learn, named, staticNames, Said.name?,
    List.nil_append, List.append_assoc]

theorem referenceConf_nets :
    (saidBy context.referenceConf).filterMap Said.net? = (context.bypass ++ context.announce).map (·.net) := by
  have static (name : String) (routes : List SanitizedRoute) :
      (staticSaid name routes).filterMap Said.net? = routes.map (·.net) := by
    rw [staticSaid]
    split
    · rename_i none
      rw [none]
      rfl
    · rw [List.filterMap_cons, List.filterMap_map]
      exact congrFun List.filterMap_eq_map _
  have learn : (if context.learn = [] then [] else [Said.learn context.learn]).filterMap Said.net? = [] := by
    split <;> rfl
  have named {α : Type} (items : List α) (name : α → String) :
      (items.map fun item => Said.protocol (name item)).filterMap Said.net? = [] := by
    rw [List.filterMap_map]
    exact List.filterMap_eq_nil_iff.mpr fun _ _ => rfl
  rw [saidBy_referenceConf legible]
  simp only [List.filterMap_cons, List.filterMap_append, List.cons_append, static, learn, named, Said.net?, List.append_nil,
    List.nil_append, List.map_append]

theorem referenceConf_learned : (saidBy context.referenceConf).flatMap Said.learned = context.learn := by
  have static (name : String) (routes : List SanitizedRoute) : (staticSaid name routes).flatMap Said.learned = [] := by
    rw [staticSaid]
    split
    · rfl
    · rw [List.flatMap_cons, List.flatMap_map]
      exact List.flatMap_eq_nil_iff.mpr fun _ _ => rfl
  have learn : (if context.learn = [] then [] else [Said.learn context.learn]).flatMap Said.learned = context.learn := by
    split
    · rename_i none
      rw [none]
      rfl
    · exact List.append_nil _
  have named {α : Type} (items : List α) (name : α → String) :
      (items.map fun item => Said.protocol (name item)).flatMap Said.learned = [] := by
    rw [List.flatMap_map]
    exact List.flatMap_eq_nil_iff.mpr fun _ _ => rfl
  rw [saidBy_referenceConf legible]
  simp only [List.flatMap_cons, List.flatMap_append, List.cons_append, static, learn, named, Said.learned, List.append_nil,
    List.nil_append]

omit legible in
/-- Of a validated config and any resolution: the file that the reference template renders
gives its protocols the names of the context and no others, and its routes and the ranges it
learns are those of the resolution and of the config. -/
theorem referenceConf_exact {cfg : RouterConfig} (valid : validate cfg = .ok ()) {included excluded : Nat → Lookups}
    {sources exclude : List BypassSourceEntry} {routes : List (String × String)}
    (resolved : resolveInner included excluded sources exclude = .ok routes) :
    ∃ inputs, StaticInputs.fromConfig cfg = .ok inputs ∧
      let file := saidBy (inputs.context (bypassRoutes routes)).referenceConf
      file.filterMap Said.name? = (inputs.context (bypassRoutes routes)).protocolNames ∧
      file.filterMap Said.net? = routes.map (·.1) ++ cfg.announce.map (·.net) ∧
      file.flatMap Said.learned = cfg.learn.map (· ++ "+") := by
  have checked := validate_ok valid
  obtain ⟨inputs, made, lexical⟩ := context_lexical valid resolved
  obtain ⟨_, again, _, _, learn, announce⟩ := fromConfig_ok checked
  cases made.symm.trans again
  have nonempty {allowed : Char → Bool} {text : String} (shape : NetworkText allowed text) : text.toList ≠ [] := by
    obtain ⟨addr, sign, digits, shape, -⟩ := shape
    rw [shape]
    exact List.append_ne_nil_of_right_ne_nil _ (List.cons_ne_nil _ _)
  have nets : ((inputs.context (bypassRoutes routes)).bypass ++ (inputs.context (bypassRoutes routes)).announce).map (·.net) =
      routes.map (·.1) ++ cfg.announce.map (·.net) := by
    have bypass : (inputs.context (bypassRoutes routes)).bypass = SanitizedRoute.fromRoutes (bypassRoutes routes) := rfl
    have announced : (inputs.context (bypassRoutes routes)).announce = SanitizedRoute.fromRoutes inputs.announce := rfl
    rw [← announce, List.map_append, bypass, announced, SanitizedRoute.fromRoutes, SanitizedRoute.fromRoutes, bypassRoutes,
      List.map_map, List.map_map, List.map_map]
    rfl
  have legible : Legible (inputs.context (bypassRoutes routes)) := {
    lexical with
    loopbackIface := rfl
    fullNets := by
      intro route listed
      have named : route.net ∈ routes.map (·.1) ++ cfg.announce.map (·.net) := nets ▸ List.mem_map_of_mem listed
      rcases List.mem_append.mp named with bypassed | announced
      · obtain ⟨pair, inRoutes, same⟩ := List.mem_map.mp bypassed
        obtain ⟨net, text⟩ := mem_resolved resolved pair inRoutes
        rw [← same, text]
        exact nonempty (NetworkText.ofIpv4 (Proofs.CidrText.parseCidr_ipv4_text net))
      · obtain ⟨entry, inConfig, same⟩ := List.mem_map.mp announced
        obtain ⟨net, parsed⟩ := checked.announce entry inConfig
        exact same ▸ nonempty (NetworkText.ofIpv4 parsed)
    fullLearn := by
      intro net listed
      obtain ⟨range, _, rfl⟩ := List.mem_map.mp listed
      rw [String.toList_append]
      exact List.append_ne_nil_of_right_ne_nil _ (List.cons_ne_nil _ _) }
  refine ⟨inputs, made, referenceConf_names legible, (referenceConf_nets legible).trans nets, ?_⟩
  rw [referenceConf_learned legible, ← learn]
  rfl

end Slipmesh.Router.BirdFile
