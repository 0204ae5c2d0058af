/-
A double is written with the fewest digits from which it can be read back.  All reals between the
midpoints to its two neighbours round to it, the midpoints themselves when its significand is even;
the decimal grids `10 ^ p` are searched from coarse to fine, and the first grid with a point in that
interval gives the digits.

Main definitions:

* `Shortest.Span` — a double with its rounding interval, over a common denominator;
* `Shortest.onGrid` — the point of a grid that stands for the double: of two the nearer one, the
  larger one at equal distance;
* `Shortest.digits` — the digits and the exponent of the shortest decimal;
* `DecimalStyle`, `Binary64.text` — how digits are laid out.
-/

import DynamicLinking.Number.Binary64

set_option autoImplicit false

namespace DynamicLinking

namespace Shortest

/-- A positive number together with the interval of reals that are read as it: `low / den`,
`mid / den` and `high / den`. -/
structure Span where
  /-- Numerator of the lower end. -/
  low : Nat
  /-- Numerator of the number itself. -/
  mid : Nat
  /-- Numerator of the upper end. -/
  high : Nat
  den : Nat
  /-- Do the ends belong to the interval? -/
  closed : Bool

/-- The interval of a positive finite double.  Just above a power of two the lower neighbour is
only half as far away as the upper one. -/
def Span.ofBinary64 (x : Binary64) : Span :=
  let m := x.significand
  let up := twoPow x.scale.toNat
  let down := twoPow (-x.scale).toNat
  let below := if m = twoPow 52 ∧ x.scale ≠ -1074 then 4 * m - 1 else 4 * m - 2
  { low := below * up, mid := 4 * m * up, high := (4 * m + 2) * up, den := 4 * down
    closed := m % 2 == 0 }

/-- A span measured in units of `10 ^ p`. -/
def Span.inUnitsOf (s : Span) (p : Int) : Span :=
  let f := tenPow (-p).toNat
  { low := s.low * f, mid := s.mid * f, high := s.high * f, den := s.den * tenPow p.toNat
    closed := s.closed }

/-- Does the interval contain the natural number `c`? -/
def Span.holds (s : Span) (c : Nat) : Bool :=
  let n := c * s.den
  if s.closed then s.low ≤ n && n ≤ s.high else s.low < n && n < s.high

/-- The natural number nearest to the middle of the interval among those in it next to the middle,
the larger one at equal distance. -/
def Span.nearest? (s : Span) : Option Nat :=
  let c := s.mid / s.den
  match s.holds c, s.holds (c + 1) with
  | true, true => some (if 2 * (s.mid % s.den) < s.den then c else c + 1)
  | true, false => some c
  | false, true => some (c + 1)
  | false, false => none

/-- The point of the grid `10 ^ p` that stands for the number, if the grid has one. -/
def onGrid (s : Span) (p : Int) : Option Nat :=
  (s.inUnitsOf p).nearest?

/-- The coarsest grid with a point, from `10 ^ p` downwards over at most `n` further grids. -/
def search (s : Span) : Nat → Int → Nat × Int
  | 0, p => ((onGrid s p).getD 0, p)
  | n + 1, p =>
      match onGrid s p with
      | some c => (c, p)
      | none => search s n (p - 1)

/-- The exponent of a power of ten that the double does not exceed.  The double is below `2 ^ e`;
`2 ^ 3 < 10` above one and `10 ^ 3 < 2 ^ 10` below it turn the binary order into a decimal one. -/
def startExponent (x : Binary64) : Int :=
  let e := (x.significand.log2 : Int) + x.scale + 1
  if 0 ≤ e then e / 3 + 1 else e * 3 / 10 + 1

/-- The digits and the exponent of the shortest decimal of a positive finite double.  The search
ends at the latest on the grid of which the double itself is a point. -/
def digits (x : Binary64) : Nat × Int :=
  let p := startExponent x
  search (Span.ofBinary64 x) (p - min x.scale 0).toNat p

end Shortest

/-- How the digits of a number are laid out. -/
structure DecimalStyle where
  /-- Does an integral number keep a point and a zero? -/
  keepsPoint : Bool
  /-- Is a number whose first digit counts `10 ^ e` written without an exponent? -/
  positional : Int → Bool

namespace DecimalStyle

/-- The style of values: no exponent ever, and no point in an integral number. -/
def value : DecimalStyle := ⟨false, fun _ => true⟩

/-- The style of diagnostics: an exponent below `10 ^ -4` and from `10 ^ 16` on, and a point in
every number without one. -/
def diagnostic : DecimalStyle := ⟨true, fun e => -4 ≤ e && e < 16⟩

/-- The text of `digits * 10 ^ p` without an exponent. -/
def layPositional (style : DecimalStyle) (ds : List Char) (p : Int) : List Char :=
  let whole := (ds.length : Int) + p
  if 0 ≤ p then
    ds ++ List.replicate p.toNat '0' ++ (if style.keepsPoint then ['.', '0'] else [])
  else if 0 < whole then
    ds.take whole.toNat ++ ['.'] ++ ds.drop whole.toNat
  else
    ['0', '.'] ++ List.replicate (-whole).toNat '0' ++ ds

/-- The text of `digits * 10 ^ p` with one digit before the point and an exponent. -/
def layExponent (ds : List Char) (p : Int) : List Char :=
  let e := (ds.length : Int) + p - 1
  ds.take 1 ++ (if ds.length ≤ 1 then [] else '.' :: ds.drop 1) ++ ['e'] ++ (toString e).toList

/-- The text of `digits * 10 ^ p`. -/
def lay (style : DecimalStyle) (digits : Nat) (p : Int) : List Char :=
  let ds := Nat.toDigits 10 digits
  if style.positional ((ds.length : Int) + p - 1) then style.layPositional ds p
  else layExponent ds p

end DecimalStyle

/-- The text of a double in a style. -/
def Binary64.text (style : DecimalStyle) (x : Binary64) : String :=
  let sign := if x.isNegative then "-" else ""
  if x.isNaN then "NaN"
  else if x.isInfinite then sign ++ "inf"
  else if x.isZero then sign ++ (if style.keepsPoint then "0.0" else "0")
  else
    let d := Shortest.digits x
    sign ++ String.ofList (style.lay d.1 d.2)

end DynamicLinking
