/-
Reading numbers from text: decimal numerals with an optional fraction and exponent, and integers of
a fixed range in any base up to sixteen.

Main definitions:

* `Numeral.ofDigits`, `Numeral.read` — the number that digits denote, one by one and by halves;
* `Numeral.decimal?` — the double of a decimal numeral;
* `Numeral.integer` — an integer between two bounds, or what is wrong with its numeral.
-/

import DynamicLinking.Number.Binary64

set_option autoImplicit false

namespace DynamicLinking

namespace Numeral

/-- The value of a digit in bases up to sixteen. -/
def digit? (radix : Nat) (c : Char) : Option Nat :=
  let v :=
    if c.isDigit then some (c.toNat - '0'.toNat)
    else if 'a' ≤ c && c ≤ 'f' then some (c.toNat - 'a'.toNat + 10)
    else if 'A' ≤ c && c ≤ 'F' then some (c.toNat - 'A'.toNat + 10)
    else none
  v.filter (· < radix)

/-- The number that a list of decimal digits denotes, after digits that denote `n`. -/
def ofDigitsAfter (n : Nat) (ds : List Char) : Nat :=
  ds.foldl (fun n c => 10 * n + (c.toNat - '0'.toNat)) n

/-- The number that a list of decimal digits denotes. -/
def ofDigits (ds : List Char) : Nat :=
  ofDigitsAfter 0 ds

theorem ofDigitsAfter_eq (n : Nat) (ds : List Char) :
    ofDigitsAfter n ds = n * tenPow ds.length + ofDigits ds := by
  induction ds generalizing n with
  | nil => simp [ofDigitsAfter, ofDigits, tenPow]
  | cons c ds ih =>
    have h : ∀ m, ofDigitsAfter m (c :: ds) = ofDigitsAfter (10 * m + (c.toNat - '0'.toNat)) ds :=
      fun _ => rfl
    rw [ofDigits, h n, h 0, ih, ih (10 * 0 + _), List.length_cons]
    have hp : tenPow (ds.length + 1) = 10 * tenPow ds.length := Nat.mul_comm ..
    rw [hp, Nat.mul_zero, Nat.zero_add, Nat.add_mul, Nat.add_assoc, Nat.mul_left_comm,
      Nat.mul_assoc]

/-- Digits written one after another. -/
theorem ofDigits_append (a b : List Char) :
    ofDigits (a ++ b) = ofDigits a * tenPow b.length + ofDigits b := by
  rw [← ofDigitsAfter_eq, ofDigits, ofDigitsAfter, List.foldl_append]
  rfl

/-- The number that a list of decimal digits denotes, read by halves up to `n` times over. -/
def readHalves : Nat → List Char → Nat
  | 0, ds => ofDigits ds
  | n + 1, ds =>
      if 32 < ds.length then
        let k := ds.length / 2
        readHalves n (ds.take k) * tenPow (ds.length - k) + readHalves n (ds.drop k)
      else ofDigits ds

/-- The number that a list of decimal digits denotes.  Many digits are read by halves, so that the
numbers that are multiplied are about equally long. -/
def read (ds : List Char) : Nat :=
  readHalves ds.length.log2 ds

theorem readHalves_eq_ofDigits (n : Nat) (ds : List Char) : readHalves n ds = ofDigits ds := by
  induction n generalizing ds with
  | zero => rfl
  | succ n ih =>
    unfold readHalves
    split
    · simp only [ih]
      rw [← List.length_drop, ← ofDigits_append, List.take_append_drop]
    · rfl

theorem read_eq_ofDigits (ds : List Char) : read ds = ofDigits ds :=
  readHalves_eq_ofDigits ds.length.log2 ds

/-- Splits off a sign; a numeral without one is positive. -/
def sign : List Char → Bool × List Char
  | '-' :: r => (true, r)
  | '+' :: r => (false, r)
  | r => (false, r)

/-- The exponent of a decimal numeral: nothing, or a letter `e`, a sign and at least one digit. -/
def exponent? : List Char → Option Int
  | [] => some 0
  | c :: r =>
      if c = 'e' ∨ c = 'E' then
        let (negative, ds) := sign r
        if ds ≠ [] ∧ ds.all Char.isDigit then
          some (if negative then -(read ds : Int) else read ds)
        else none
      else none

/-- The fraction of a decimal numeral and what follows it. -/
def fraction : List Char → List Char × List Char
  | '.' :: r => (r.takeWhile Char.isDigit, r.dropWhile Char.isDigit)
  | r => ([], r)

/-- The double that a decimal numeral denotes: a sign, digits with a point among or around them,
and an exponent.  There is at least one digit before the exponent. -/
def decimal? (cs : List Char) : Option Binary64 :=
  let (negative, r) := sign cs
  let whole := r.takeWhile Char.isDigit
  let (part, rest) := fraction (r.dropWhile Char.isDigit)
  if whole ++ part = [] then none
  else
    (exponent? rest).map fun e =>
      Binary64.ofDecimal negative (read (whole ++ part)) (e - part.length)

/-- What can be wrong with the numeral of an integer. -/
inductive Flaw where
  | empty
  /-- A character is no digit of the base. -/
  | invalidDigit
  | tooLarge
  | tooSmall
  deriving DecidableEq, Repr

/-- The text of a flaw. -/
def Flaw.message : Flaw → String
  | .empty => "cannot parse integer from empty string"
  | .invalidDigit => "invalid digit found in string"
  | .tooLarge => "number too large to fit in target type"
  | .tooSmall => "number too small to fit in target type"

/-- Reads digits one after another, leaving the range as early as a digit allows. -/
def accumulate (radix : Nat) (lo hi : Int) (negative : Bool) : Int → List Char → Except Flaw Int
  | n, [] => .ok n
  | n, c :: r =>
      match digit? radix c with
      | none => .error .invalidDigit
      | some d =>
          let n' := n * radix + (if negative then -(d : Int) else d)
          if n' < lo then .error .tooSmall
          else if hi < n' then .error .tooLarge
          else accumulate radix lo hi negative n' r

/-- An integer between `lo` and `hi` in base `radix`: an optional plus sign, or a minus sign if the
range has negative numbers, and at least one digit. -/
def integer (radix : Nat) (lo hi : Int) : List Char → Except Flaw Int
  | [] => .error .empty
  | ['+'] => .error .invalidDigit
  | ['-'] => .error .invalidDigit
  | '+' :: r => accumulate radix lo hi false 0 r
  | '-' :: r =>
      if lo < 0 then accumulate radix lo hi true 0 r else .error .invalidDigit
  | r => accumulate radix lo hi false 0 r

/-- An unsigned decimal integer of `bits` bits. -/
def unsigned (bits : Nat) (cs : List Char) : Except Flaw Nat :=
  (integer 10 0 ((twoPow bits : Nat) - 1) cs).map Int.toNat

/-- A signed integer of 64 bits in a base. -/
def signed64 (radix : Nat) (cs : List Char) : Except Flaw Int :=
  integer radix (-9223372036854775808) 9223372036854775807 cs

end Numeral

end DynamicLinking
