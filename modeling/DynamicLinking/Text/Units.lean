/-
A script counts and indexes a string in units of 16 bits: a character of the basic plane is one
unit, every other character is a pair of surrogates.

* `Text.unitsOf`, `Text.units` — the units of a character and of a text;
* `Text.unitText` — the text of one unit, with `U+FFFD` for half of a surrogate pair.
-/

set_option autoImplicit false

namespace DynamicLinking.Text

/-- The units of one character. -/
def unitsOf (c : Char) : List Nat :=
  let n := c.toNat
  if n < 0x10000 then [n]
  else [0xD800 + (n - 0x10000) / 0x400, 0xDC00 + (n - 0x10000) % 0x400]

/-- The units of a text, in order. -/
def units (s : String) : List Nat :=
  s.toList.flatMap unitsOf

/-- Is the unit half of a surrogate pair? -/
def isSurrogate (u : Nat) : Bool :=
  0xD800 ≤ u && u ≤ 0xDFFF

/-- The text of a single unit; a unit that is no character of its own reads as the replacement
character. -/
def unitText (u : Nat) : String :=
  String.singleton (if isSurrogate u then '\uFFFD' else Char.ofNat u)

/-- A character of the basic plane is its own single unit. -/
theorem unitsOf_of_lt {c : Char} (h : c.toNat < 0x10000) : unitsOf c = [c.toNat] := by
  simp [unitsOf, h]

/-- Any other character is two units. -/
theorem unitsOf_length_of_le {c : Char} (h : 0x10000 ≤ c.toNat) : (unitsOf c).length = 2 := by
  simp [unitsOf, Nat.not_lt.2 h]

end DynamicLinking.Text
