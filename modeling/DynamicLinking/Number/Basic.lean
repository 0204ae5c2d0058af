/-
A number of the script language is a 64-bit integer, a double, or one of three values of their own:
not-a-number and the two infinities.  Doubles that hold an integer of the 64-bit range are written
as integers; `Number.normalize` makes that choice in one place.

Main definitions:

* `Number.normalize` — the number of a double;
* `Number.ofText` — the number that a text denotes, not-a-number if it denotes none;
* `Number.toInt32`, `Number.toInt64`, `Number.toBinary64` — conversions to machine numbers;
* `Number.equals` — equality of numbers by representation: an integer is never equal to a double.
-/

import DynamicLinking.Number.Shortest
import DynamicLinking.Number.Numeral
import DynamicLinking.Text.Blank

set_option autoImplicit false

namespace DynamicLinking

/-- A number of the script language. -/
inductive Number where
  | integer (i : Int64)
  /-- A double. -/
  | float (x : Binary64)
  | nan
  | infinity
  | negInfinity
  deriving DecidableEq, Repr

namespace Number

/-- The number of a double.  An integral double of the 64-bit range becomes an integer, except the
negative zero, which has no integer. -/
def normalize (x : Binary64) : Number :=
  if x.isNaN then .nan
  else if x.isInfinite then (if x.isNegative then .negInfinity else .infinity)
  else if x.isIntegral && inInt64 x.truncated && !(x.isZero && x.isNegative) then
    .integer (Int64.ofInt x.truncated)
  else .float x

/-- The double of a number. -/
def toBinary64 : Number → Binary64
  | .integer i => Binary64.ofInt i.toInt
  | .float x => x
  | .nan => Binary64.nan
  | .infinity => Binary64.infinity false
  | .negInfinity => Binary64.infinity true

/-- The wrapped 32-bit integer of a number. -/
def toInt32 : Number → Int32
  | .integer i => i.toInt32
  | .float x => x.toInt32
  | _ => 0

/-- The 64-bit integer of a number; doubles are held at the ends of the range. -/
def toInt64 : Number → Int64
  | .integer i => i
  | .float x => x.toInt64
  | _ => 0

/-- The integer number of a 32-bit integer. -/
def ofInt32 (i : Int32) : Number :=
  .integer i.toInt64

/-- Does the number count as true?  Zeros of both kinds and not-a-number do not. -/
def isTruthy : Number → Bool
  | .integer i => i != 0
  | .float x => !x.isZero
  | .nan => false
  | .infinity => true
  | .negInfinity => true

/-- Equality of numbers of one representation; doubles compare as doubles. -/
def equals : Number → Number → Bool
  | .integer i, .integer j => i == j
  | .float x, .float y => x.equals y
  | .nan, .nan => true
  | .infinity, .infinity => true
  | .negInfinity, .negInfinity => true
  | _, _ => false

theorem equals_float (x y : Binary64) : (float x).equals (.float y) = x.equals y := rfl

/-- The text of a number as a script sees it. -/
def text : Number → String
  | .integer i => toString i.toInt
  | .float x => x.text .value
  | .nan => "NaN"
  | .infinity => "Infinity"
  | .negInfinity => "-Infinity"

/-- The text of a number in diagnostics, which tells the representations apart. -/
def diagnosticText : Number → String
  | .integer i => "Integer(" ++ toString i.toInt ++ ")"
  | .float x => "Float(" ++ x.text .diagnostic ++ ")"
  | .nan => "NaN"
  | .infinity => "PositiveInfinity"
  | .negInfinity => "NegativeInfinity"

/-- The rest of a numeral that starts with the mark of base sixteen. -/
def hexadecimal? : List Char → Option (List Char)
  | '0' :: 'x' :: r => some r
  | '0' :: 'X' :: r => some r
  | _ => none

/-- Is the character an ASCII letter other than the letter of an exponent? -/
def isForeignLetter (c : Char) : Bool :=
  c.isAlpha && c != 'e' && c != 'E'

/-- The number that a text without blanks at its ends denotes. -/
def ofTrimmed (cs : List Char) : Number :=
  if cs = [] then .integer 0
  else if cs = "Infinity".toList ∨ cs = "+Infinity".toList then .infinity
  else if cs = "-Infinity".toList then .negInfinity
  else
    match hexadecimal? cs with
    | some r =>
        match Numeral.signed64 16 r with
        | .ok i => .integer (Int64.ofInt i)
        | .error _ => .nan
    | none =>
        if cs.any isForeignLetter then .nan
        else
          match Numeral.decimal? cs with
          | some x => normalize x
          | none => .nan

/-- The number that a text denotes: blanks at its ends do not count, the empty text is zero, and a
text that is no numeral is not a number. -/
def ofText (s : String) : Number :=
  ofTrimmed (Text.trimList s.toList)

end Number

end DynamicLinking
