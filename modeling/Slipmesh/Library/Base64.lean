import Mathlib.Data.List.Basic

/-! Byte strings written as text: what a reader can rely on of a strict codec, and
base64 with the standard alphabet and canonical padding as one. -/

namespace Slipmesh.Library

abbrev Byte := BitVec 8

/-- A strict text form of byte strings: every byte string has one text, and only
those texts are read. -/
structure Codec where
  encode : List Byte → List Char
  decode : List Char → Option (List Byte)
  decode_encode : ∀ bytes, decode (encode bytes) = some bytes
  encode_decode : ∀ text bytes, decode text = some bytes → encode bytes = text

theorem Codec.decode_iff (codec : Codec) {text : List Char} {bytes : List Byte} :
    codec.decode text = some bytes ↔ text = codec.encode bytes := by
  refine ⟨fun decoded => (codec.encode_decode text bytes decoded).symm, ?_⟩
  intro same
  rw [same]
  exact codec.decode_encode bytes

namespace Base64

abbrev Sextet := BitVec 6

def alphabet : List Char :=
  "ABCDEFGHIJKLMNOPQRSTUVWXYZabcdefghijklmnopqrstuvwxyz0123456789+/".toList

def symbol (sextet : Sextet) : Char := alphabet.getD sextet.toNat 'A'

def sextet? (c : Char) : Option Sextet := (alphabet.idxOf? c).map (BitVec.ofNat 6)

/-! The four symbols of three bytes, and the bytes of four symbols. -/

def first (a : Byte) : Sextet := .ofNat 6 (a.toNat / 4)
def second (a b : Byte) : Sextet := .ofNat 6 (a.toNat % 4 * 16 + b.toNat / 16)
def third (b c : Byte) : Sextet := .ofNat 6 (b.toNat % 16 * 4 + c.toNat / 64)
def fourth (c : Byte) : Sextet := .ofNat 6 (c.toNat % 64)

def high (w x : Sextet) : Byte := .ofNat 8 (w.toNat * 4 + x.toNat / 16)
def middle (x y : Sextet) : Byte := .ofNat 8 (x.toNat % 16 * 16 + y.toNat / 4)
def low (y z : Sextet) : Byte := .ofNat 8 (y.toNat % 4 * 64 + z.toNat)

def encode : List Byte → List Char
  | [] => []
  | [a] => [symbol (first a), symbol (second a 0), '=', '=']
  | [a, b] => [symbol (first a), symbol (second a b), symbol (third b 0), '=']
  | a :: b :: c :: rest =>
    symbol (first a) :: symbol (second a b) :: symbol (third b c) :: symbol (fourth c) :: encode rest

/-- Padding stands at the end only, and the bits that it leaves over are zero. -/
def decode : List Char → Option (List Byte)
  | [] => some []
  | [w, x, '=', '='] =>
    match sextet? w, sextet? x with
    | some w, some x => if x.toNat % 16 = 0 then some [high w x] else none
    | _, _ => none
  | [w, x, y, '='] =>
    match sextet? w, sextet? x, sextet? y with
    | some w, some x, some y => if y.toNat % 4 = 0 then some [high w x, middle x y] else none
    | _, _, _ => none
  | w :: x :: y :: z :: rest =>
    match sextet? w, sextet? x, sextet? y, sextet? z, decode rest with
    | some w, some x, some y, some z, some bytes => some (high w x :: middle x y :: low y z :: bytes)
    | _, _, _, _, _ => none
  | _ => none

@[simp] theorem high_first (a b : Byte) : high (first a) (second a b) = a := by
  simp only [high, first, second]
  bv_omega

@[simp] theorem middle_second (a b c : Byte) : middle (second a b) (third b c) = b := by
  simp only [middle, second, third]
  bv_omega

@[simp] theorem low_third (b c : Byte) : low (third b c) (fourth c) = c := by
  simp only [low, third, fourth]
  bv_omega

theorem second_whole (a : Byte) : (second a 0#8).toNat % 16 = 0 := by
  simp only [second]
  bv_omega

theorem third_whole (b : Byte) : (third b 0#8).toNat % 4 = 0 := by
  simp only [third]
  bv_omega

@[simp] theorem first_high (w x : Sextet) : first (high w x) = w := by
  simp only [high, first]
  bv_omega

@[simp] theorem second_high (w x y : Sextet) : second (high w x) (middle x y) = x := by
  simp only [high, middle, second]
  bv_omega

@[simp] theorem third_middle (x y z : Sextet) : third (middle x y) (low y z) = y := by
  simp only [middle, low, third]
  bv_omega

@[simp] theorem fourth_low (y z : Sextet) : fourth (low y z) = z := by
  simp only [low, fourth]
  bv_omega

theorem second_padded (w x : Sextet) (whole : x.toNat % 16 = 0) : second (high w x) 0 = x := by
  simp only [high, second]
  bv_omega

theorem third_padded (x y : Sextet) (whole : y.toNat % 4 = 0) : third (middle x y) 0 = y := by
  simp only [middle, third]
  bv_omega

@[simp] theorem sextet?_symbol (sextet : Sextet) : sextet? (symbol sextet) = some sextet := by
  revert sextet
  decide

theorem symbol_ne_pad (sextet : Sextet) : symbol sextet ≠ '=' := by
  revert sextet
  decide

theorem symbol_sextet? {c : Char} {sextet : Sextet} (read : sextet? c = some sextet) : symbol sextet = c := by
  obtain ⟨index, found, rfl⟩ := Option.map_eq_some_iff.mp read
  obtain ⟨inside, there, _⟩ := List.idxOf?_eq_some_iff.mp found
  have small : index < 2 ^ 6 := inside
  rw [symbol, BitVec.toNat_ofNat, Nat.mod_eq_of_lt small, List.getD_eq_getElem?_getD, List.getElem?_eq_getElem inside,
    there, Option.getD_some]

theorem decode_encode (bytes : List Byte) : decode (encode bytes) = some bytes := by
  induction bytes using encode.induct with
  | case1 => rfl
  | case2 a => simp [encode, decode, second_whole]
  | case3 a b => simp [encode, decode, symbol_ne_pad, third_whole]
  | case4 a b c rest ih => simp [encode, decode, symbol_ne_pad, ih]

theorem encode_decode (text : List Char) (bytes : List Byte) (read : decode text = some bytes) : encode bytes = text := by
  fun_induction decode text generalizing bytes with
  | case1 =>
    cases read
    rfl
  | case2 w x w' x' readX readW whole =>
    cases read
    rw [encode, first_high, second_padded _ _ whole, symbol_sextet? readW, symbol_sextet? readX]
  | case5 w x y _ w' x' y' readY readX readW whole =>
    cases read
    rw [encode, first_high, second_high, third_padded _ _ whole, symbol_sextet? readW, symbol_sextet? readX,
      symbol_sextet? readY]
  | case8 w x y z rest _ _ w' x' y' z' bytes' readRest readZ readY readX readW ih =>
    cases read
    rw [encode, first_high, second_high, third_middle, fourth_low, symbol_sextet? readW, symbol_sextet? readX,
      symbol_sextet? readY, symbol_sextet? readZ, ih bytes' readRest]
  | case3 | case4 | case6 | case7 | case9 | case10 => cases read

/-- Every character of an encoded text is a symbol or padding. -/
theorem mem_encode {c : Char} {bytes : List Byte} (member : c ∈ encode bytes) : c ∈ alphabet ∨ c = '=' := by
  have listed (sextet : Sextet) : symbol sextet ∈ alphabet := by
    revert sextet
    decide
  induction bytes using encode.induct with
  | case1 => cases member
  | case2 a =>
    simp only [encode, List.mem_cons, List.not_mem_nil, or_false] at member
    obtain rfl | rfl | rfl | rfl := member
    · exact .inl (listed _)
    · exact .inl (listed _)
    · exact .inr rfl
    · exact .inr rfl
  | case3 a b =>
    simp only [encode, List.mem_cons, List.not_mem_nil, or_false] at member
    obtain rfl | rfl | rfl | rfl := member
    · exact .inl (listed _)
    · exact .inl (listed _)
    · exact .inl (listed _)
    · exact .inr rfl
  | case4 a b c rest ih =>
    simp only [encode, List.mem_cons] at member
    obtain rfl | rfl | rfl | rfl | member := member
    · exact .inl (listed _)
    · exact .inl (listed _)
    · exact .inl (listed _)
    · exact .inl (listed _)
    · exact ih member

/-- Base64 with the standard alphabet, canonical in both directions. -/
def standard : Codec := ⟨encode, decode, decode_encode, encode_decode⟩

example : String.ofList (encode [77, 97, 110, 77]) = "TWFuTQ==" := by decide

end Base64

end Slipmesh.Library
