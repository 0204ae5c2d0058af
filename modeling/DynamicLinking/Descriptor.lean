/-
What one call site asks the linkers to do: an operation, the name of the member if it is fixed, the
static types and the flags.

* `Descriptor` — the description, with its `Descriptor.encoding` and its `Descriptor.text`;
* `Descriptor.parse` — the description of an encoding;
* `Descriptor.memberValue`, `Descriptor.callReceiver`, `Descriptor.callArguments` — where the
  operands of an operation stand among the arguments of the call site.
-/

import DynamicLinking.CallSiteFlags
import DynamicLinking.Grammar.Reading
import DynamicLinking.Value

set_option autoImplicit false

namespace DynamicLinking

/-- What a call site asks for. -/
structure Descriptor where
  operation : Operation
  /-- The name of the member, if it is fixed. -/
  name? : Option String
  signature : Signature
  flags : CallSiteFlags
  deriving DecidableEq, Repr

namespace Descriptor

/-- The description of an encoding with a signature and flags. -/
def parse (encoding : String) (signature : Signature) (flags : CallSiteFlags) :
    Except ScriptError Descriptor :=
  (parseOperation encoding).map fun (o, n) => ⟨o, n, signature, flags⟩

/-- Does a write that changes nothing fail? -/
def isStrict (d : Descriptor) : Bool :=
  d.flags.isStrict

/-- The encoding of a description. -/
def encoding (d : Descriptor) : String :=
  match d.name? with
  | some n => d.operation.mnemonic ++ ":" ++ MemberName.encode n
  | none => d.operation.mnemonic

/-- The written form of a description. -/
def text (d : Descriptor) : String :=
  d.encoding ++ d.signature.text ++ " [" ++ d.flags.text ++ "]"

/-- The value that a write stores: it follows the receiver, and the key if the key is an
argument. -/
def memberValue (d : Descriptor) (args : List Value) : Value :=
  Value.argument args (if d.name?.isSome then 1 else 2)

/-- The receiver of a call. -/
def callReceiver (args : List Value) : Value :=
  Value.argument args 1

/-- The arguments that a call or a construction passes on. -/
def callArguments (d : Descriptor) (args : List Value) : List Value :=
  args.drop (if d.operation = .new then 1 else 2)

/-- The signature of a candidate for the call site: all parameters are `object`. -/
def genericSignature (d : Descriptor) (result : StaticType) : Signature :=
  (Signature.generic d.signature.arity).withResult result

end Descriptor

end DynamicLinking
