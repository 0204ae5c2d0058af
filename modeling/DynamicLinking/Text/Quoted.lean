/-
Diagnostics quote a text between double quotes.  The quote, the backslash and the usual control
characters are written with a backslash; a character without a glyph of its own is written by its
code point.

* `Text.quotedChar`, `Text.quoted` — the written form;
* `Text.hexDigits` — lower-case hexadecimal digits without leading zeros.
-/

import DynamicLinking.Text.Hidden

set_option autoImplicit false

namespace DynamicLinking.Text

/-- The digits of `n` in base 16, in lower case and without leading zeros. -/
def hexDigits (n : Nat) : List Char :=
  Nat.toDigits 16 n

/-- The digits of `n` in base 16, padded with zeros to `width`. -/
def paddedHex (width n : Nat) : String :=
  let ds := hexDigits n
  String.ofList (List.replicate (width - ds.length) '0' ++ ds)

/-- A character as it stands between quotes. -/
def quotedChar (c : Char) : List Char :=
  match c with
  | '\x00' => ['\\', '0']
  | '\t' => ['\\', 't']
  | '\r' => ['\\', 'r']
  | '\n' => ['\\', 'n']
  | '\\' => ['\\', '\\']
  | '"' => ['\\', '"']
  | c =>
      if isHidden c then ['\\', 'u', '\x7b'] ++ hexDigits c.toNat ++ ['\x7d']
      else [c]

/-- A text between double quotes. -/
def quoted (s : String) : String :=
  String.ofList ('"' :: s.toList.flatMap quotedChar ++ ['"'])

end DynamicLinking.Text
