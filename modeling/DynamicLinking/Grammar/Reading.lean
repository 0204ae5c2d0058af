/-
The encoding of an operation, and the written forms of a type and of a signature, are read off the
trees that the grammar yields for them.

* `parseOperation` — the operation of an encoding and its member name, without its escapes;
* `parseSignature` — the signature of a written form;
* `parseType` — the type of a written form.
-/

import DynamicLinking.Grammar.Rule
import DynamicLinking.MemberName
import DynamicLinking.Operation
import DynamicLinking.Signature

set_option autoImplicit false

namespace DynamicLinking

open Grammar

/-- The operation of an encoding and its member name, if it has one. -/
def parseOperation (encoding : String) : Except ScriptError (Operation × Option String) := do
  let tree ← Grammar.read Grammar.descriptor encoding
  match (tree.child? .operation).bind fun n => Operation.ofMnemonic? (String.ofList n.text) with
  | some o =>
      .ok (o, (tree.child? .memberName).map fun n => MemberName.decode (String.ofList n.text))
  | none => .error (.malformed encoding ⟨1, 1⟩)

/-- The static type of a node. -/
def typeOfNode (n : Node Rule) : Except ScriptError StaticType :=
  match n.text with
  | '@' :: m => .ok (.functional (String.ofList m))
  | t =>
      match StaticType.ofName? (String.ofList t) with
      | some t => .ok t
      | none => .error (.unknownType (String.ofList t))

/-- The signature of a written form.  Of several unknown types the first one is reported. -/
def parseSignature (s : String) : Except ScriptError Signature := do
  let tree ← Grammar.read Grammar.signature s
  let params ← match tree.child? .parameterList with
    | some n => n.children.mapM typeOfNode
    | none => pure []
  match tree.child? .staticType with
  | some n => return ⟨params, ← typeOfNode n⟩
  | none => .error (.malformed s ⟨1, 1⟩)

/-- The type that can stand after an empty parameter list. -/
def parseType (s : String) : Except ScriptError StaticType :=
  (parseSignature ("()" ++ s)).map Signature.result

end DynamicLinking
