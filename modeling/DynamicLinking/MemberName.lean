/-
The encoding of an operation separates its parts with characters that may also occur in a member
name.  In an encoding such a character is written as a backslash and a letter that stands for it,
and the empty name, which would leave no trace, is written as a backslash and an equals sign.

Main definitions:

* `MemberName.escapes` — the characters that are escaped, with the letters that stand for them;
* `MemberName.encode`, `MemberName.decode` — writing and reading a name; a backslash before any
  other character stands for itself.
-/

set_option autoImplicit false

namespace DynamicLinking.MemberName

/-- The characters that are escaped, each with the letter that stands for it. -/
def escapes : List (Char × Char) :=
  [('/', '|'), ('.', ','), (';', '?'), ('$', '%'), ('<', '^'), ('>', '_'), ('[', '\x7b'),
   (']', '\x7d'), (':', '!'), ('\\', '-')]

/-- The letter that stands for a character, if the character is escaped. -/
def letterOf? (c : Char) : Option Char :=
  (escapes.find? fun e => e.1 == c).map Prod.snd

/-- The character that a letter stands for after a backslash. -/
def charOf? (m : Char) : Option Char :=
  (escapes.find? fun e => e.2 == m).map Prod.fst

/-- The written form of one character. -/
def encodeChar (c : Char) : List Char :=
  match letterOf? c with
  | some m => ['\\', m]
  | none => [c]

/-- The written form of the empty name. -/
def emptyForm : List Char := ['\\', '=']

/-- The written form of a name. -/
def encodeList (cs : List Char) : List Char :=
  if cs = [] then emptyForm else cs.flatMap encodeChar

/-- Replaces every escape by the character it stands for. -/
def decodeChars : List Char → List Char
  | [] => []
  | '\\' :: [] => ['\\']
  | '\\' :: m :: r =>
      match charOf? m with
      | some c => c :: decodeChars r
      | none => '\\' :: m :: decodeChars r
  | c :: r => c :: decodeChars r

/-- The name of a written form. -/
def decodeList (cs : List Char) : List Char :=
  if cs = emptyForm then [] else decodeChars cs

/-- The written form of a name. -/
def encode (name : String) : String :=
  String.ofList (encodeList name.toList)

/-- The name of a written form. -/
def decode (form : String) : String :=
  String.ofList (decodeList form.toList)

end DynamicLinking.MemberName
