import Slipmesh.Library.Base64
import Slipmesh.Text

/-! `common::keys`: the texts of X25519 keys. -/

namespace Slipmesh.Common
open Library

/-- The base64 engine that keys are written with. No text it writes holds white space. -/
structure Engine extends Codec where
  unspaced : ∀ bytes, ∀ c ∈ encode bytes, Text.isWhitespace c = false

structure Key where
  bytes : List Byte
  size : bytes.length = 32
deriving DecidableEq

instance : Inhabited Key := ⟨List.replicate 32 0, rfl⟩

inductive KeyError where
  | invalidBase64
  | notThirtyTwoBytes
deriving DecidableEq, Repr

def decodeKey (engine : Engine) (b64 : String) : Except KeyError Key :=
  match engine.decode (Text.trim b64).toList with
  | none => .error .invalidBase64
  | some bytes => if size : bytes.length = 32 then .ok ⟨bytes, size⟩ else .error .notThirtyTwoBytes

def encodeKey (engine : Engine) (key : Key) : String := String.ofList (engine.encode key.bytes)

theorem trim_unspaced {text : String} (unspaced : ∀ c ∈ text.toList, Text.isWhitespace c = false) :
    Text.trim text = text := by
  have keeps {chars : List Char} (unspaced : ∀ c ∈ chars, Text.isWhitespace c = false) :
      chars.dropWhile Text.isWhitespace = chars := by
    cases chars with
    | nil => rfl
    | cons c rest => exact List.dropWhile_cons_of_neg (by simp [unspaced c (List.mem_cons_self ..)])
  rw [Text.trim, Text.trimChars, keeps unspaced, keeps fun c member => unspaced c (List.mem_reverse.mp member),
    List.reverse_reverse, String.ofList_toList]

theorem decodeKey_iff {engine : Engine} {text : String} {key : Key} :
    decodeKey engine text = .ok key ↔ Text.trim text = encodeKey engine key := by
  have read : Text.trim text = encodeKey engine key ↔ engine.decode (Text.trim text).toList = some key.bytes := by
    rw [engine.decode_iff, encodeKey, ← String.toList_inj, String.toList_ofList]
  rw [read, decodeKey]
  split
  · rename_i unreadable
    simp [unreadable]
  · rename_i bytes decoded
    rw [decoded]
    split
    · rename_i size
      exact ⟨fun same => by cases same; rfl, fun same => by cases same; rfl⟩
    · rename_i size
      refine ⟨fun same => (by cases same), fun same => ?_⟩
      exact (size (Option.some.inj same ▸ key.size)).elim

theorem trim_encodeKey (engine : Engine) (key : Key) : Text.trim (encodeKey engine key) = encodeKey engine key :=
  trim_unspaced fun c member => engine.unspaced key.bytes c (by simpa [encodeKey] using member)

@[simp] theorem decodeKey_encodeKey (engine : Engine) (key : Key) : decodeKey engine (encodeKey engine key) = .ok key :=
  decodeKey_iff.mpr (trim_encodeKey engine key)

theorem encodeKey_inj {engine : Engine} {first second : Key} (same : encodeKey engine first = encodeKey engine second) :
    first = second :=
  Except.ok.inj ((decodeKey_encodeKey engine first).symm.trans
    ((congrArg (decodeKey engine) same).trans (decodeKey_encodeKey engine second)))

/-- `general_purpose::STANDARD`. -/
def standard : Engine :=
  { Base64.standard with
    unspaced := by
      intro bytes c member
      have plain : Base64.alphabet.all (!Text.isWhitespace ·) := by decide
      obtain listed | rfl := Base64.mem_encode member
      · simpa using List.all_eq_true.mp plain c listed
      · rfl }

end Slipmesh.Common
