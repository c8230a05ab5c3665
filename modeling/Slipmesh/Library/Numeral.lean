import Mathlib.Data.List.TakeWhile
import Mathlib.Data.Nat.Basic
import Mathlib.Tactic.IntervalCases

/-! Unsigned numerals in a radix up to sixteen: reading the longest run of
digits, and reading back what `Nat.toDigits` writes. -/

namespace Slipmesh.Library

/-- The value of a digit, letters in either case. -/
def digitValue (radix : Nat) (c : Char) : Option Nat :=
  let value :=
    if '0' ≤ c ∧ c ≤ '9' then c.toNat - '0'.toNat
    else if 'a' ≤ c ∧ c ≤ 'z' then c.toNat - 'a'.toNat + 10
    else if 'A' ≤ c ∧ c ≤ 'Z' then c.toNat - 'A'.toNat + 10
    else radix
  if value < radix then some value else none

def isDigit (radix : Nat) (c : Char) : Bool := (digitValue radix c).isSome

def numeral (radix : Nat) (digits : List Char) : Nat :=
  digits.foldl (fun value c => value * radix + (digitValue radix c).getD 0) 0

variable {radix n : Nat}

theorem digitValue_digitChar (small : radix ≤ 16) (below : n < radix) :
    digitValue radix n.digitChar = some n := by
  have value : ∀ d < 16, (if '0' ≤ Nat.digitChar d ∧ Nat.digitChar d ≤ '9' then (Nat.digitChar d).toNat - '0'.toNat
      else if 'a' ≤ Nat.digitChar d ∧ Nat.digitChar d ≤ 'z' then (Nat.digitChar d).toNat - 'a'.toNat + 10
      else if 'A' ≤ Nat.digitChar d ∧ Nat.digitChar d ≤ 'Z' then (Nat.digitChar d).toNat - 'A'.toNat + 10
      else radix) = d := by
    intro d inside
    interval_cases d <;> rfl
  simp only [digitValue, value n (below.trans_le small), below, if_true]

theorem isDigit_digitChar (small : radix ≤ 16) (below : n < radix) : isDigit radix n.digitChar = true := by
  simp [isDigit, digitValue_digitChar small below]

theorem isDigit_mono {larger : Nat} {c : Char} (order : radix ≤ larger) (digit : isDigit radix c = true) :
    isDigit larger c = true := by
  simp only [isDigit, digitValue] at digit ⊢
  by_cases decimal : '0' ≤ c ∧ c ≤ '9'
  · simp only [decimal, and_self, if_true] at digit ⊢
    split at digit
    · rw [if_pos (by omega)]
      rfl
    · cases digit
  by_cases lower : 'a' ≤ c ∧ c ≤ 'z'
  · simp only [decimal, lower, and_self, if_true, if_false] at digit ⊢
    split at digit
    · rw [if_pos (by omega)]
      rfl
    · cases digit
  by_cases upper : 'A' ≤ c ∧ c ≤ 'Z'
  · simp only [decimal, lower, upper, and_self, if_true, if_false] at digit ⊢
    split at digit
    · rw [if_pos (by omega)]
      rfl
    · cases digit
  · simp [decimal, lower, upper] at digit

theorem numeral_append_singleton (digits : List Char) (c : Char) :
    numeral radix (digits ++ [c]) = numeral radix digits * radix + (digitValue radix c).getD 0 := by
  simp [numeral]

theorem toDigits_isDigit (large : 1 < radix) (small : radix ≤ 16) (n : Nat) :
    ∀ c ∈ Nat.toDigits radix n, isDigit radix c = true := by
  induction n using Nat.strong_induction_on with
  | _ n ih =>
    intro c member
    by_cases below : n < radix
    · rw [Nat.toDigits_of_lt_base below, List.mem_singleton] at member
      exact member ▸ isDigit_digitChar small below
    · rw [Nat.toDigits_of_base_le large (by omega), List.mem_append, List.mem_singleton] at member
      rcases member with member | rfl
      · exact ih _ (Nat.div_lt_self (by omega) large) c member
      · exact isDigit_digitChar small (Nat.mod_lt _ (by omega))

theorem numeral_toDigits (large : 1 < radix) (small : radix ≤ 16) (n : Nat) :
    numeral radix (Nat.toDigits radix n) = n := by
  induction n using Nat.strong_induction_on with
  | _ n ih =>
    by_cases below : n < radix
    · rw [Nat.toDigits_of_lt_base below]
      simp [numeral, digitValue_digitChar small below]
    · have last : n % radix < radix := Nat.mod_lt _ (by omega)
      rw [Nat.toDigits_of_base_le large (by omega), numeral_append_singleton,
        ih _ (Nat.div_lt_self (by omega) large), digitValue_digitChar small last, Option.getD_some]
      exact Nat.div_add_mod' n radix

/-- Only zero is written with a leading zero. -/
theorem toDigits_head (large : 1 < radix) (positive : 0 < n) :
    (Nat.toDigits radix n).head? ≠ some '0' := by
  induction n using Nat.strong_induction_on with
  | _ n ih =>
    by_cases below : n < radix
    · rw [Nat.toDigits_of_lt_base below, List.head?_cons]
      intro same
      exact positive.ne' (Nat.digitChar_eq_zero.mp (Option.some.inj same))
    · rw [Nat.toDigits_of_base_le large (by omega), List.head?_append,
        List.head?_eq_some_head Nat.toDigits_ne_nil, Option.some_or, ← List.head?_eq_some_head]
      exact ih _ (Nat.div_lt_self (by omega) large) (Nat.div_pos (by omega) (by omega))

theorem toDigits_leading_zero (large : 1 < radix)
    (zero : (Nat.toDigits radix n).head? = some '0') : (Nat.toDigits radix n).length = 1 := by
  have : n = 0 := by
    by_contra positive
    exact toDigits_head large (Nat.pos_of_ne_zero positive) zero
  subst this
  simp

/-- The longest run of digits at the front as a number, with what follows it.
It fails on no digit, on more than `maxDigits`, on a value above `bound`, and on
a leading zero where those are refused. -/
def readNumber (radix maxDigits bound : Nat) (leadingZeros : Bool) (text : List Char) :
    Option (Nat × List Char) :=
  let digits := text.takeWhile (isDigit radix)
  if digits = [] ∨ maxDigits < digits.length then none
  else if leadingZeros = false ∧ digits.head? = some '0' ∧ 1 < digits.length then none
  else if bound < numeral radix digits then none
  else some (numeral radix digits, text.dropWhile (isDigit radix))

/-- What follows a numeral does not continue it. -/
def Ends (radix : Nat) (rest : List Char) : Prop := ∀ c ∈ rest.head?, isDigit radix c = false

theorem span_digits {digits rest : List Char} (all : ∀ c ∈ digits, isDigit radix c = true)
    (ends : Ends radix rest) :
    (digits ++ rest).takeWhile (isDigit radix) = digits ∧
      (digits ++ rest).dropWhile (isDigit radix) = rest := by
  induction digits with
  | nil =>
    cases rest with
    | nil => exact ⟨rfl, rfl⟩
    | cons c rest =>
      have stop := ends c (by simp)
      exact ⟨by simp [stop], by simp [stop]⟩
  | cons c digits ih =>
    obtain ⟨taken, left⟩ := ih fun d member => all d (List.mem_cons_of_mem _ member)
    have digit := all c (List.mem_cons_self ..)
    exact ⟨by simp [digit, taken], by simp [digit, left]⟩

theorem readNumber_toDigits {maxDigits bound : Nat} {leadingZeros : Bool} {rest : List Char}
    (large : 1 < radix) (small : radix ≤ 16) (some_digits : 0 < maxDigits)
    (short : n < radix ^ maxDigits) (inside : n ≤ bound) (ends : Ends radix rest) :
    readNumber radix maxDigits bound leadingZeros (Nat.toDigits radix n ++ rest) = some (n, rest) := by
  obtain ⟨taken, left⟩ := span_digits (toDigits_isDigit large small n) ends
  have length : (Nat.toDigits radix n).length ≤ maxDigits := (Nat.length_toDigits_le_iff large some_digits).mpr short
  have leading : ¬ (leadingZeros = false ∧ (Nat.toDigits radix n).head? = some '0' ∧
      1 < (Nat.toDigits radix n).length) := by
    rintro ⟨_, zero, long⟩
    rw [toDigits_leading_zero large zero] at long
    exact Nat.lt_irrefl _ long
  simp only [readNumber, taken, left, Nat.toDigits_ne_nil, false_or, numeral_toDigits large small]
  rw [if_neg (by omega), if_neg leading, if_neg (by omega)]

theorem readNumber_ends {maxDigits bound value : Nat} {leadingZeros : Bool} {text rest : List Char}
    (read : readNumber radix maxDigits bound leadingZeros text = some (value, rest)) :
    Ends radix rest ∧ value ≤ bound := by
  simp only [readNumber] at read
  split at read
  · cases read
  split at read
  · cases read
  split at read
  · cases read
  · cases read
    refine ⟨?_, by omega⟩
    intro c head
    have stop := List.head?_dropWhile_not (isDigit radix) text
    rw [Option.mem_def.mp head] at stop
    simpa using stop

/-- A number that was read is the digits at the front. -/
theorem readNumber_digits {maxDigits bound value : Nat} {leadingZeros : Bool} {text rest : List Char}
    (read : readNumber radix maxDigits bound leadingZeros text = some (value, rest)) :
    ∃ digits, text = digits ++ rest ∧ ∀ c ∈ digits, isDigit radix c = true := by
  refine ⟨text.takeWhile (isDigit radix), ?_, fun c member => List.mem_takeWhile_imp member⟩
  have left : text.dropWhile (isDigit radix) = rest := by
    simp only [readNumber] at read
    split at read
    · cases read
    split at read
    · cases read
    split at read
    · cases read
    · exact (Prod.mk.inj (Option.some.inj read)).2
  rw [← left, List.takeWhile_append_dropWhile]

/-- What a number was read from may go on with anything that does not continue it. -/
theorem readNumber_extend {maxDigits bound value : Nat} {leadingZeros : Bool} {text rest more : List Char}
    (read : readNumber radix maxDigits bound leadingZeros text = some (value, rest)) (ends : rest = [] → Ends radix more) :
    readNumber radix maxDigits bound leadingZeros (text ++ more) = some (value, rest ++ more) := by
  obtain ⟨digits, shape, all⟩ := readNumber_digits read
  have stops : Ends radix (rest ++ more) := by
    cases rest with
    | nil => exact ends rfl
    | cons c rest => exact (readNumber_ends read).1
  obtain ⟨taken, left⟩ := span_digits all (readNumber_ends read).1
  obtain ⟨taken', left'⟩ := span_digits all stops
  rw [shape] at read ⊢
  simp only [readNumber, taken, left] at read
  simp only [readNumber, List.append_assoc, taken', left']
  split at read
  · cases read
  split at read
  · cases read
  split at read
  · cases read
  · cases read
    rename_i digits_fit leading inside
    rw [if_neg digits_fit, if_neg leading, if_neg inside]

end Slipmesh.Library
