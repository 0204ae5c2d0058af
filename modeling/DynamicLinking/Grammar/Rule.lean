/-
The encodings of operations and the written forms of signatures, as patterns.  A member name is
escaped, so no colon of its own occurs in it.

Main definitions:

* `Rule` — the rules;
* `descriptor` — `GET:PROPERTY:name`, `CALL` and the like;
* `signature` — `(Object,int)Boolean`;
* `treeText` — the written form of a parse tree, two blanks for each level;
* `read` — the tree of a text, or the error that names the place of the failure.
-/

import DynamicLinking.Grammar.Pattern
import DynamicLinking.ScriptError

set_option autoImplicit false

namespace DynamicLinking.Grammar

/-- The rules of the grammar. -/
inductive Rule where
  | descriptor
  | operation
  | getOperation
  | getNamespace
  | setOperation
  | setNamespace
  | callOperation
  | newOperation
  | memberName
  | signature
  | parameterList
  | staticType
  | functionalType
  | typeName
  | identifier
  | endOfInput
  deriving DecidableEq, Repr

/-- The name of a rule. -/
def Rule.name : Rule → String
  | .descriptor => "descriptor"
  | .operation => "operation"
  | .getOperation => "get_operation"
  | .getNamespace => "get_namespace"
  | .setOperation => "set_operation"
  | .setNamespace => "set_namespace"
  | .callOperation => "call_operation"
  | .newOperation => "new_operation"
  | .memberName => "member_name"
  | .signature => "signature"
  | .parameterList => "parameter_list"
  | .staticType => "static_type"
  | .functionalType => "functional_type"
  | .typeName => "type_name"
  | .identifier => "identifier"
  | .endOfInput => "EOI"

open Pattern

/-- The given text. -/
def lit (s : String) : Pattern Rule := .word s.toList

/-- A rule whose inner rules count. -/
def plain (r : Rule) (p : Pattern Rule) : Pattern Rule := .rule r false p

/-- A rule that is one unit of the text. -/
def unit (r : Rule) (p : Pattern Rule) : Pattern Rule := .rule r true p

/-- One character of a member name: an escape, or any character but a colon and a backslash. -/
def nameChar : Pattern Rule :=
  .choice (.seq (lit "\\") (.char fun _ => true)) (.char fun c => c != ':' && c != '\\')

/-- An escaped member name. -/
def memberName : Pattern Rule := unit .memberName (repeated nameChar)

/-- An operation. -/
def operation : Pattern Rule :=
  plain .operation <| oneOf
    (plain .getOperation <| sequence
      [lit "GET", lit ":",
       plain .getNamespace <| oneOf (lit "PROPERTY") [lit "ELEMENT", lit "METHOD"]])
    [plain .setOperation <| sequence
      [lit "SET", lit ":", plain .setNamespace <| oneOf (lit "PROPERTY") [lit "ELEMENT"]],
     plain .callOperation (lit "CALL"),
     plain .newOperation (lit "NEW")]

/-- The encoding of an operation, with or without a member name. -/
def descriptor : Pattern Rule :=
  plain .descriptor <| sequence
    [operation, .optional (.seq (lit ":") memberName), .atEnd .endOfInput]

/-- The first character of an identifier. -/
def isIdentifierStart (c : Char) : Bool :=
  c.isAlpha || c == '_' || c == '$'

/-- A further character of an identifier. -/
def isIdentifierPart (c : Char) : Bool :=
  c.isAlphanum || c == '_' || c == '$'

/-- An identifier. -/
def identifier : Pattern Rule :=
  unit .identifier <| .seq (.char isIdentifierStart) (.many (.char isIdentifierPart))

/-- A static type. -/
def staticType : Pattern Rule :=
  plain .staticType <| .choice
    (plain .functionalType (.seq (lit "@") identifier))
    (unit .typeName identifier)

/-- The types of the parameters of a signature that has any. -/
def parameterList : Pattern Rule :=
  plain .parameterList (.seq staticType (.many (.seq (lit ",") staticType)))

/-- The written form of a signature. -/
def signature : Pattern Rule :=
  plain .signature <| sequence
    [lit "(", .optional parameterList, lit ")", staticType, .atEnd .endOfInput]

/-- The place before which the given characters stand. -/
def placeAfter (before : List Char) : Place :=
  before.foldl (fun p c => if c = '\n' then ⟨p.line + 1, 1⟩ else ⟨p.line, p.column + 1⟩) ⟨1, 1⟩

/-- The tree of a text. -/
def read (p : Pattern Rule) (s : String) : Except ScriptError (Node Rule) :=
  match p.parse s.toList with
  | .ok (n :: _) => .ok n
  | .ok [] => .error (.malformed s ⟨1, 1⟩)
  | .error i => .error (.malformed s (placeAfter (s.toList.take i)))

/-- The number of bytes of some characters. -/
def byteCount : List Char → Nat
  | [] => 0
  | c :: r => c.utf8Size + byteCount r

mutual

/-- The lines of a node: its rule, the bytes before and behind its text, and the text; then the
lines of its children, one level deeper. -/
def nodeLines (input : List Char) (level : Nat) : Node Rule → List String
  | .mk r start text children =>
      let first := byteCount (input.take start)
      (String.ofList (List.replicate (2 * level) ' ') ++ r.name ++ " => (" ++ toString first ++
        "," ++ toString (first + byteCount text) ++ ") #" ++ Text.quoted (String.ofList text)) ::
      childLines input (level + 1) children

/-- The lines of several nodes of one level. -/
def childLines (input : List Char) (level : Nat) : List (Node Rule) → List String
  | [] => []
  | n :: r => nodeLines input level n ++ childLines input level r

end

/-- The written form of the parse tree of an operation's encoding. -/
def treeText (encoding : String) : Except ScriptError String :=
  (read descriptor encoding).map fun n =>
    String.intercalate "\n" (nodeLines encoding.toList 0 n)

end DynamicLinking.Grammar
