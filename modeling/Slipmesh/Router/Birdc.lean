import Slipmesh.Library.Utf8
import Slipmesh.Net
import Slipmesh.Router.Bird

/-! `router::birdc`: BIRD's control socket. -/

namespace Slipmesh.Router.Birdc
open Library Net

/-- Why a command has no reply. -/
inductive Failure where
  | connect
  | readGreeting
  | noGreeting
  | unexpectedGreeting (greeting : String)
  | send
  /-- The socket fails in the middle of the reply. -/
  | read
  /-- BIRD closes the connection in the middle of the reply. -/
  | closed
  | noReplyCode
  /-- A slice inside of a character or past the end. -/
  | panic
deriving DecidableEq, Repr

/-- What is still to come from the socket: bytes, then an error or the end. -/
structure Stream where
  bytes : List UInt8
  fails : Bool
deriving DecidableEq, Repr

/-- The halves of a line at a byte. -/
def slice (place : Nat) (line : List Char) : Except Failure (List Char × List Char) :=
  match Utf8.cut place line with
  | some halves => .ok halves
  | none => .error .panic

/-- `u8::is_ascii_digit`. -/
def isAsciiDigit (b : UInt8) : Bool := 0x30 ≤ b.toNat && b.toNat ≤ 0x39

def lineCode (line : List Char) : Except Failure (Option Nat) :=
  let bytes := Utf8.encode line
  if 5 ≤ bytes.length ∧ (bytes.take 4).all isAsciiDigit then do
    let halves ← slice 4 line
    return parseU16 (String.ofList halves.1)
  else return none

def space : UInt8 := 0x20

def dash : UInt8 := 0x2D

/-- A code, and one of the separators after it. -/
def coded (separators : List UInt8) (line : List Char) : Except Failure Bool :=
  if (Utf8.encode line)[4]?.any (· ∈ separators) then do return (← lineCode line).isSome
  else return false

def isFinalLine (line : List Char) : Except Failure Bool := coded [space] line

/-- `line.strip_prefix(' ').unwrap_or(line)`. -/
def stripSpace : List Char → List Char
  | ' ' :: rest => rest
  | line => line

def stripCodePrefix (line : List Char) : Except Failure (List Char) := do
  if ← coded [space, dash] line then return (← slice 5 line).2
  else return stripSpace line

def newline : UInt8 := 0x0A

/-- `read_until`: a line with its newline, or all that is left. -/
def readUntil (stream : Stream) : Option (List UInt8 × Stream) :=
  let line := stream.bytes.takeWhile (· ≠ newline)
  match stream.bytes.dropWhile (· ≠ newline) with
  | [] => if stream.fails then none else some (line, { stream with bytes := [] })
  | ended :: rest => some (line ++ [ended], { stream with bytes := rest })

/-- What a line comes to: the end of the reply, or the text and the last code so far. -/
inductive Turn where
  | done (reply : Reply)
  | more (text : List Char) (lastCode : Option Nat)

def takeLine (text : List Char) (lastCode : Option Nat) (line : List Char) : Except Failure Turn := do
  let lastCode := (← lineCode line).or lastCode
  let finalLine ← isFinalLine line
  let text := text ++ (← stripCodePrefix line)
  if finalLine then
    match lastCode with
    | some code => return .done ⟨code, String.ofList text⟩
    | none => throw .noReplyCode
  else return .more text lastCode

theorem readUntil_length {stream rest : Stream} {buffer : List UInt8} (read : readUntil stream = some (buffer, rest)) :
    buffer.length + rest.bytes.length = stream.bytes.length := by
  have whole := congrArg List.length (List.takeWhile_append_dropWhile (p := (· ≠ newline)) (l := stream.bytes))
  rw [List.length_append] at whole
  simp only [readUntil] at read
  split at read
  · rename_i ended
    rw [ended] at whole
    split at read
    · cases read
    · cases read
      exact whole
  · rename_i ended
    rw [ended] at whole
    cases read
    rw [List.length_cons] at whole
    rw [List.length_append, List.length_singleton, ← whole, Nat.add_assoc, Nat.add_comm 1]

/-- The loop of `command_inner`. -/
def readReply (text : List Char) (lastCode : Option Nat) (stream : Stream) : Except Failure (Reply × Stream) :=
  match _read : readUntil stream with
  | none => .error .read
  | some (buffer, rest) =>
    if _empty : buffer = [] then .error .closed
    else match takeLine text lastCode (Utf8.fromUtf8Lossy buffer) with
      | .error failure => .error failure
      | .ok (.done reply) => .ok (reply, rest)
      | .ok (.more text lastCode) => readReply text lastCode rest
termination_by stream.bytes.length
decreasing_by
  have whole := readUntil_length _read
  have some_bytes := List.length_pos_iff.mpr _empty
  omega

/-- `connection` is what a connection gives, if there is one, and `sent` whether the
command could be sent. -/
def commandInner (connection : Option Stream) (sent : Bool) : Except Failure (Reply × Stream) :=
  match connection with
  | none => .error .connect
  | some stream =>
    match readUntil stream with
    | none => .error .readGreeting
    | some (buffer, rest) =>
      if buffer = [] then .error .noGreeting
      else do
        let greeting := Utf8.fromUtf8Lossy buffer
        if ← isFinalLine greeting then
          if sent then readReply [] none rest else throw .send
        else throw (.unexpectedGreeting (String.ofList greeting))

end Slipmesh.Router.Birdc
