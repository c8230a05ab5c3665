import Mathlib.Logic.Function.Basic
import Slipmesh.Nftables.Ruleset

/-! The rulesets that `nft` reads, as far as their table blocks go, and what the
daemon relies on in the three commands that it runs. -/

namespace Slipmesh.Nftables
open Library Text

inductive Family where
  | ip
  | ip6
  | inet
  | arp
  | bridge
  | netdev
deriving DecidableEq, Repr

def Family.text : Family → String
  | .ip => "ip"
  | .ip6 => "ip6"
  | .inet => "inet"
  | .arp => "arp"
  | .bridge => "bridge"
  | .netdev => "netdev"

def isNameChar (c : Char) : Bool :=
  'a' ≤ c && c ≤ 'z' || 'A' ≤ c && c ≤ 'Z' || '0' ≤ c && c ≤ '9' || c ∈ ['/', '-', '_', '.']

/-- An identifier that is none of the keywords of a header. -/
structure Name where
  text : String
  full : text ≠ ""
  chars : text.toList.all isNameChar = true
  free : text ∉ ["table", "ip", "ip6", "inet", "arp", "bridge", "netdev"]
deriving DecidableEq

structure Table where
  family : Family
  name : Name
deriving DecidableEq

def Table.texts (table : Table) : String × String := (table.family.text, table.name.text)

/-! ### Rulesets -/

def tableWord : List Char := ['t', 'a', 'b', 'l', 'e']

inductive Lexing where
  | code
  | quoted
  | comment
deriving DecidableEq, Repr

/-- The braces of a body close within it, those of strings and comments apart. -/
def closes : Nat → Lexing → List Char → Bool
  | depth, lexing, [] => depth = 0 && lexing = .code
  | depth, .code, c :: rest =>
    if c = '\x22' then closes depth .quoted rest
    else if c = '#' then closes depth .comment rest
    else if c = '\x7b' then closes (depth + 1) .code rest
    else if c = '\x7d' then depth ≠ 0 && closes (depth - 1) .code rest
    else closes depth .code rest
  | depth, .quoted, c :: rest => closes depth (if c = '\x22' then .code else .quoted) rest
  | depth, .comment, c :: rest => closes depth (if c = '\n' then .code else .comment) rest

/-- What may stand around the blocks: white space, semicolons, and comments with
the end of their line. -/
def isGap : Lexing → List Char → Bool
  | lexing, [] => lexing = .code
  | .code, c :: rest => if c = '#' then isGap .comment rest else (isWhitespace c || c = ';') && isGap .code rest
  | .comment, c :: rest => isGap (if c = '\n' then .code else .comment) rest
  | .quoted, _ => false

/-- A block `table [family] name`, a body in braces, and what stands after it. Each
part of the header comes with the white space that follows it; only the brace may
follow without any. -/
structure Block where
  afterTable : List Char
  family : Option (Family × List Char)
  name : Name
  beforeBrace : List Char
  body : List Char
  after : List Char
  table_blank : afterTable ≠ [] ∧ afterTable.all isWhitespace = true
  family_blank : ∀ given ∈ family, given.2 ≠ [] ∧ given.2.all isWhitespace = true
  brace_blank : beforeBrace.all isWhitespace = true
  body_closes : closes 0 .code body = true
  after_gap : isGap .code after = true

namespace Block
variable (block : Block)

def table : Table := ⟨(block.family.map (·.1)).getD .ip, block.name⟩

def familyText : List Char := block.family.elim [] fun given => given.1.text.toList ++ given.2

def braced : List Char := '\x7b' :: (block.body ++ '\x7d' :: block.after)

/-- The text from the name on. -/
def named : List Char := block.name.text.toList ++ (block.beforeBrace ++ block.braced)

def text : List Char := tableWord ++ (block.afterTable ++ (block.familyText ++ block.named))

end Block

structure Layout where
  start : List Char
  blocks : List Block
  start_gap : isGap .code start = true

def blocksText (blocks : List Block) : List Char := blocks.flatMap Block.text

namespace Layout
variable (layout : Layout)

def text : String := String.ofList (layout.start ++ blocksText layout.blocks)

def tables : List Table := layout.blocks.map Block.table

/-- What the ruleset puts into a table. -/
def bodies (table : Table) : List (List Char) := (layout.blocks.filter (·.table = table)).map (·.body)

end Layout

/-! ### The commands -/

/-- What `nft list tables` prints. -/
def listing (tables : List Table) : String :=
  String.join (tables.map fun table => "table " ++ table.family.text ++ " " ++ table.name.text ++ "\n")

/-- `nft` on a kernel whose tables hold, in this order, the bodies loaded into them;
a table exists where it holds any. -/
structure Nft.Documented {κ : Type} (nft : Nft κ) (held : κ → Table → List (List Char)) (layout : Layout) : Prop where
  deletes : ∀ (table : Table) kernel,
    held (nft.deleteTable table.family.text table.name.text kernel) = Function.update (held kernel) table []
  loads : ∀ kernel status after, nft.load layout.text kernel = (.exited true status, after) →
    ∀ table, held after table = held kernel table ++ layout.bodies table
  lists : ∀ kernel, ∃ tables : List Table, tables.Nodup ∧ (∀ table, table ∈ tables ↔ held kernel table ≠ []) ∧
    ∃ status, nft.listTables kernel = (.exited true status, listing tables)

end Slipmesh.Nftables
