import Mathlib.Data.List.Infix
import Slipmesh.Library.Lines

/-! The text functions of the standard library that the daemons read with. -/

namespace Slipmesh.Text

/-- The Unicode property `White_Space`. -/
def isWhitespace (c : Char) : Bool :=
  (0x9 ≤ c.toNat ∧ c.toNat ≤ 0xD) ∨ c.toNat = 0x20 ∨ c.toNat = 0x85 ∨ c.toNat = 0xA0 ∨ c.toNat = 0x1680 ∨
    (0x2000 ≤ c.toNat ∧ c.toNat ≤ 0x200A) ∨ c.toNat = 0x2028 ∨ c.toNat = 0x2029 ∨ c.toNat = 0x202F ∨
    c.toNat = 0x205F ∨ c.toNat = 0x3000

def trimChars (chars : List Char) : List Char :=
  ((chars.dropWhile isWhitespace).reverse.dropWhile isWhitespace).reverse

def trim (text : String) : String := String.ofList (trimChars text.toList)

def trimStart (text : String) : String := String.ofList (text.toList.dropWhile isWhitespace)

/-- `split_whitespace`. -/
def words (text : String) : List String := (Library.words isWhitespace text.toList).map String.ofList

/-- The first of the words that white space separates. -/
def firstWord (text : String) : Option String :=
  match (text.toList.dropWhile isWhitespace).takeWhile (!isWhitespace ·) with
  | [] => none
  | word => some (String.ofList word)

def contains (text part : String) : Bool := part.toList <:+: text.toList

/-- At the last place that the separator is. -/
def rsplitOnce (separator : Char) (text : String) : Option (String × String) :=
  match text.toList.reverse.dropWhile (· ≠ separator) with
  | [] => none
  | _ :: rest => some (String.ofList rest.reverse, String.ofList (text.toList.reverse.takeWhile (· ≠ separator)).reverse)

def split (separator : Char) (text : String) : List String := (text.toList.splitOn separator).map String.ofList

def stripPrefix (start text : String) : Option String :=
  (start.toList.isPrefixOf? text.toList).map String.ofList

/-- A line's end is a line feed, with the carriage return before it if there is one. -/
def lines (text : String) : List String :=
  let parts := text.toList.splitOn '\n'
  let ended := parts.dropLast.map fun line => if line.getLast? = some '\r' then line.dropLast else line
  let open? := (parts.getLast?.filter (· ≠ [])).toList
  (ended ++ open?).map String.ofList

end Slipmesh.Text
