import Mathlib.Data.List.Basic
import Mathlib.Data.Char

/-! Texts as characters and as their UTF-8 bytes. Bytes that are no UTF-8 are read with a
replacement for each start of a character that breaks off. -/

namespace Slipmesh.Library.Utf8

/-- `as_bytes`. -/
def encode (text : List Char) : List UInt8 := text.flatMap String.utf8EncodeChar

/-- A character begun: its bits, how many bytes are owed, and the range of the next. -/
structure Begun where
  value : Nat
  owed : Nat
  low : Nat
  high : Nat
deriving DecidableEq, Repr

inductive First where
  | whole (c : Char)
  | begun (start : Begun)
  | bad
deriving DecidableEq, Repr

/-- What a byte begins. The ranges keep out what has a shorter form, the surrogates and
what is past the last character. -/
def first (b : Nat) : First :=
  if b < 0x80 then .whole (Char.ofNat b)
  else if 0xC2 ≤ b ∧ b ≤ 0xDF then .begun ⟨b - 0xC0, 1, 0x80, 0xBF⟩
  else if 0xE0 ≤ b ∧ b ≤ 0xEF then
    .begun ⟨b - 0xE0, 2, if b = 0xE0 then 0xA0 else 0x80, if b = 0xED then 0x9F else 0xBF⟩
  else if 0xF0 ≤ b ∧ b ≤ 0xF4 then
    .begun ⟨b - 0xF0, 3, if b = 0xF0 then 0x90 else 0x80, if b = 0xF4 then 0x8F else 0xBF⟩
  else .bad

def replacement : Char := Char.ofNat 0xFFFD

/-- A byte with none owed. -/
def fresh (rest : Option Begun → List Char) (b : Nat) : List Char :=
  match first b with
  | .whole c => c :: rest none
  | .begun begun => rest (some begun)
  | .bad => replacement :: rest none

/-- `String::from_utf8_lossy`, in the middle of a character or between two. A byte that
does not go on with the character begins anew. -/
def lossy : Option Begun → List UInt8 → List Char
  | none, [] => []
  | some _, [] => [replacement]
  | none, b :: bytes => fresh (lossy · bytes) b.toNat
  | some begun, b :: bytes =>
    if begun.low ≤ b.toNat ∧ b.toNat ≤ begun.high then
      if begun.owed = 1 then Char.ofNat (begun.value * 64 + b.toNat % 64) :: lossy none bytes
      else lossy (some ⟨begun.value * 64 + b.toNat % 64, begun.owed - 1, 0x80, 0xBF⟩) bytes
    else replacement :: fresh (lossy · bytes) b.toNat

def fromUtf8Lossy (bytes : List UInt8) : List Char := lossy none bytes

/-- A text cut at a byte, none inside of a character and past the end. -/
def cut : Nat → List Char → Option (List Char × List Char)
  | 0, text => some ([], text)
  | _ + 1, [] => none
  | place + 1, c :: text =>
    if c.utf8Size ≤ place + 1 then (cut (place + 1 - c.utf8Size) text).map fun halves => (c :: halves.1, halves.2) else none
termination_by structural _ text => text

/-! ### Reading what is written -/

theorem toNat_byte {b : Nat} (small : b < 256) : (UInt8.ofNat b).toNat = b := UInt8.toNat_ofNat_of_lt' small

theorem lossy_whole {b : Nat} (small : b < 0x80) (bytes : List UInt8) :
    lossy none (UInt8.ofNat b :: bytes) = Char.ofNat b :: lossy none bytes := by
  rw [lossy, fresh, toNat_byte (by omega), first, if_pos small]

theorem lossy_first {b : Nat} (small : b < 256) {begun : Begun} (begins : first b = .begun begun) (bytes : List UInt8) :
    lossy none (UInt8.ofNat b :: bytes) = lossy (some begun) bytes := by
  rw [lossy, fresh, toNat_byte small, begins]

theorem lossy_next {value owed low high bits : Nat} (above : low ≤ bits % 0x40 + 0x80) (below : bits % 0x40 + 0x80 ≤ high)
    (bytes : List UInt8) : lossy (some ⟨value, owed, low, high⟩) (UInt8.ofNat (bits % 0x40 + 0x80) :: bytes) =
      if owed = 1 then Char.ofNat (value * 64 + bits % 0x40) :: lossy none bytes
      else lossy (some ⟨value * 64 + bits % 0x40, owed - 1, 0x80, 0xBF⟩) bytes := by
  have bare : (bits % 0x40 + 0x80) % 64 = bits % 0x40 := by omega
  rw [lossy, toNat_byte (by omega), if_pos ⟨above, below⟩, bare]

theorem first_two {v : Nat} (large : 0x7F < v) (small : v ≤ 0x7FF) :
    first (v / 64 % 0x20 + 0xC0) = .begun ⟨v / 64, 1, 0x80, 0xBF⟩ := by
  have bits : v / 64 % 0x20 + 0xC0 - 0xC0 = v / 64 := by omega
  rw [first, if_neg (by omega), if_pos (by omega), bits]

theorem first_three {v : Nat} (small : v ≤ 0xFFFF) : first (v / 4096 % 0x10 + 0xE0) =
    .begun ⟨v / 4096, 2, if v / 4096 = 0 then 0xA0 else 0x80, if v / 4096 = 0xD then 0x9F else 0xBF⟩ := by
  have bits : v / 4096 % 0x10 + 0xE0 - 0xE0 = v / 4096 := by omega
  have zero : v / 4096 % 0x10 + 0xE0 = 0xE0 ↔ v / 4096 = 0 := by omega
  have surrogates : v / 4096 % 0x10 + 0xE0 = 0xED ↔ v / 4096 = 0xD := by omega
  rw [first, if_neg (by omega), if_neg (by omega), if_pos (by omega), bits]
  simp only [zero, surrogates]

theorem first_four {v : Nat} (small : v ≤ 0x10FFFF) : first (v / 262144 % 0x08 + 0xF0) =
    .begun ⟨v / 262144, 3, if v / 262144 = 0 then 0x90 else 0x80, if v / 262144 = 4 then 0x8F else 0xBF⟩ := by
  have bits : v / 262144 % 0x08 + 0xF0 - 0xF0 = v / 262144 := by omega
  have zero : v / 262144 % 0x08 + 0xF0 = 0xF0 ↔ v / 262144 = 0 := by omega
  have last : v / 262144 % 0x08 + 0xF0 = 0xF4 ↔ v / 262144 = 4 := by omega
  rw [first, if_neg (by omega), if_neg (by omega), if_neg (by omega), if_pos (by omega), bits]
  simp only [zero, last]

/-- A character is read from its bytes, whatever comes after. -/
theorem lossy_char (c : Char) (bytes : List UInt8) : lossy none (String.utf8EncodeChar c ++ bytes) = c :: lossy none bytes := by
  have valid : c.val.toNat < 0xD800 ∨ 0xDFFF < c.val.toNat ∧ c.val.toNat < 0x110000 := c.valid
  have same : Char.ofNat c.val.toNat = c := Char.ofNat_toNat c
  generalize value : c.val.toNat = v at valid same
  rw [String.utf8EncodeChar]
  simp only [value]
  split
  · rename_i one
    rw [List.singleton_append, lossy_whole (by omega), same]
  split
  · rename_i one two
    have whole : v / 64 * 64 + v % 64 = v := by omega
    rw [List.cons_append, lossy_first (by omega) (first_two (by omega) two), List.singleton_append,
      lossy_next (by omega) (by omega), if_pos rfl, whole, same]
  split
  · rename_i one two three
    have whole : (v / 4096 * 64 + v / 64 % 64) * 64 + v % 64 = v := by omega
    rw [List.cons_append, lossy_first (by omega) (first_three three), List.cons_append, lossy_next, if_neg (by simp),
      List.singleton_append, lossy_next (by omega) (by omega), if_pos rfl, whole, same]
    · split
      · omega
      · omega
    · split
      · omega
      · omega
  · rename_i one two three
    have whole : ((v / 262144 * 64 + v / 4096 % 64) * 64 + v / 64 % 64) * 64 + v % 64 = v := by omega
    rw [List.cons_append, lossy_first (by omega) (first_four (by omega)), List.cons_append, lossy_next, if_neg (by simp),
      List.cons_append, lossy_next (by omega) (by omega), if_neg (by simp), List.singleton_append,
      lossy_next (by omega) (by omega), if_pos rfl, whole, same]
    · split
      · omega
      · omega
    · split
      · omega
      · omega

theorem lossy_encode (text : List Char) (bytes : List UInt8) : lossy none (encode text ++ bytes) = text ++ lossy none bytes := by
  induction text with
  | nil => rfl
  | cons c text ih => rw [encode, List.flatMap_cons, ← encode, List.append_assoc, lossy_char, ih, List.cons_append]

/-- Reading a text's bytes gives the text. -/
theorem fromUtf8Lossy_encode (text : List Char) : fromUtf8Lossy (encode text) = text := by
  have whole := lossy_encode text []
  rw [List.append_nil, lossy, List.append_nil] at whole
  exact whole

/-- The second byte is too low after 0xE0, so each of the two is a start of its own. -/
example : fromUtf8Lossy [0xE0, 0x80, 0x41, 0xE2, 0x82] = [replacement, replacement, 'A', replacement] := by decide

/-! ### One byte a character -/

theorem encode_cons (c : Char) (text : List Char) : encode (c :: text) = String.utf8EncodeChar c ++ encode text := List.flatMap_cons

@[simp] theorem encode_append (text later : List Char) : encode (text ++ later) = encode text ++ encode later :=
  List.flatMap_append

/-- A byte below 0x80 is a character, and every other byte of a character is above. -/
theorem utf8EncodeChar_cases (c : Char) :
    c.val.toNat < 0x80 ∧ String.utf8EncodeChar c = [UInt8.ofNat c.val.toNat] ∨
      ∀ b ∈ String.utf8EncodeChar c, 0x80 ≤ b.toNat := by
  have last : c.val.toNat < 0x110000 := by
    have valid : c.val.toNat < 0xD800 ∨ 0xDFFF < c.val.toNat ∧ c.val.toNat < 0x110000 := c.valid
    omega
  have large {bits base : Nat} (high : 0x80 ≤ base) (room : bits + base < 256) : 0x80 ≤ (UInt8.ofNat (bits + base)).toNat := by
    rw [toNat_byte room]
    omega
  rw [String.utf8EncodeChar]
  split
  · rename_i one
    exact .inl ⟨by omega, rfl⟩
  apply Or.inr
  split
  · simp only [List.forall_mem_cons, List.not_mem_nil, IsEmpty.forall_iff, implies_true, and_true]
    exact ⟨large (by omega) (by omega), large (by omega) (by omega)⟩
  split
  · simp only [List.forall_mem_cons, List.not_mem_nil, IsEmpty.forall_iff, implies_true, and_true]
    exact ⟨large (by omega) (by omega), large (by omega) (by omega), large (by omega) (by omega)⟩
  · simp only [List.forall_mem_cons, List.not_mem_nil, IsEmpty.forall_iff, implies_true, and_true]
    exact ⟨large (by omega) (by omega), large (by omega) (by omega), large (by omega) (by omega), large (by omega) (by omega)⟩

theorem encode_eq_cons {text : List Char} {b : UInt8} {bytes : List UInt8} (small : b.toNat < 0x80)
    (front : encode text = b :: bytes) :
    ∃ after, text = Char.ofNat b.toNat :: after ∧ (Char.ofNat b.toNat).utf8Size = 1 ∧ encode after = bytes := by
  cases text with
  | nil => cases front
  | cons c after =>
    rw [encode_cons] at front
    rcases utf8EncodeChar_cases c with one | many
    · obtain ⟨below, single⟩ := one
      rw [single, List.singleton_append, List.cons.injEq] at front
      obtain ⟨rfl, rest⟩ := front
      have same : Char.ofNat (UInt8.ofNat c.val.toNat).toNat = c := by
        rw [toNat_byte (by omega)]
        exact Char.ofNat_toNat c
      rw [same]
      exact ⟨after, rfl, by rw [← String.length_utf8EncodeChar, single]; rfl, rest⟩
    · obtain ⟨first, bits, shape⟩ := List.exists_cons_of_ne_nil (String.utf8EncodeChar_ne_nil (c := c))
      rw [shape, List.cons_append, List.cons.injEq] at front
      have above := many first (by rw [shape]; exact List.mem_cons_self)
      rw [front.1] at above
      omega

theorem cut_cons {c : Char} (one : c.utf8Size = 1) (place : Nat) (text : List Char) :
    cut (place + 1) (c :: text) = (cut place text).map fun halves => (c :: halves.1, halves.2) := by
  rw [cut, one, if_pos (Nat.le_add_left 1 place), Nat.add_sub_cancel]

theorem cut_append {front : List Char} (one : ∀ c ∈ front, c.utf8Size = 1) (text : List Char) :
    cut front.length (front ++ text) = some (front, text) := by
  induction front with
  | nil => cases text <;> rfl
  | cons c front ih =>
    rw [List.length_cons, List.cons_append, cut_cons (one c (by simp)), ih fun c member => one c (by simp [member])]
    rfl

/-- After bytes below 0x80 a text can be cut. -/
theorem cut_small {front bytes : List UInt8} (small : ∀ b ∈ front, b.toNat < 0x80) {text : List Char}
    (shape : encode text = front ++ bytes) :
    ∃ after, cut front.length text = some (front.map (Char.ofNat ·.toNat), after) ∧
      text = front.map (Char.ofNat ·.toNat) ++ after ∧ encode after = bytes := by
  induction front generalizing text with
  | nil =>
    have all : ∀ c ∈ ([] : List Char), c.utf8Size = 1 := fun c member => by cases member
    exact ⟨text, cut_append all text, rfl, shape⟩
  | cons b front ih =>
    obtain ⟨after, rfl, one, rest⟩ := encode_eq_cons (small b (by simp)) shape
    obtain ⟨after, cuts, rfl, remaining⟩ := ih (fun b member => small b (by simp [member])) rest
    refine ⟨after, ?_, rfl, remaining⟩
    rw [List.length_cons, cut_cons one, cuts]
    rfl

theorem mem_encode {text : List Char} {b : UInt8} (small : b.toNat < 0x80) (member : b ∈ encode text) :
    Char.ofNat b.toNat ∈ text := by
  obtain ⟨c, listed, inside⟩ := List.mem_flatMap.mp member
  rcases utf8EncodeChar_cases c with one | many
  · obtain ⟨below, single⟩ := one
    rw [single, List.mem_singleton] at inside
    rw [inside, toNat_byte (by omega)]
    exact (Char.ofNat_toNat c).symm ▸ listed
  · have above := many b inside
    omega

end Slipmesh.Library.Utf8
