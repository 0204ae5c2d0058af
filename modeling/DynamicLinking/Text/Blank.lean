/-
Numerals and configuration lines are read after the blanks at both of their ends are dropped.  A
character is blank when it has the Unicode property `White_Space`.

* `Text.isBlank` — the property, as its list of ranges;
* `Text.trimList` — a text without the blanks at its ends;
* `Text.isBlank_of_isWhitespace` — every blank of the ASCII class is blank here.
-/

set_option autoImplicit false

namespace DynamicLinking.Text

/-- The characters with the Unicode property `White_Space`. -/
def isBlank (c : Char) : Bool :=
  let n := c.toNat
  (0x09 ≤ n && n ≤ 0x0D) || n == 0x20 || n == 0x85 || n == 0xA0 || n == 0x1680 ||
    (0x2000 ≤ n && n ≤ 0x200A) || n == 0x2028 || n == 0x2029 || n == 0x202F || n == 0x205F ||
    n == 0x3000

/-- Every blank of the ASCII class is blank. -/
theorem isBlank_of_isWhitespace {c : Char} (h : c.isWhitespace = true) : isBlank c = true := by
  simp only [Char.isWhitespace, Bool.or_eq_true, decide_eq_true_eq] at h
  rcases h with ((rfl | rfl) | rfl) | rfl <;> decide

/-- A list of characters without the members at both ends that satisfy `p`. -/
def stripList (p : Char → Bool) (cs : List Char) : List Char :=
  ((cs.dropWhile p).reverse.dropWhile p).reverse

/-- A list of characters without the blanks at both ends. -/
def trimList (cs : List Char) : List Char :=
  stripList isBlank cs

end DynamicLinking.Text
