/-
The command line inspects the encodings of operations: describing a descriptor, showing its parse
tree, and escaping and unescaping member names.

* `CommandLine.Reply` — the exit code and what is written to the two outputs;
* `CommandLine.run` — the reply to a list of arguments.
-/

import DynamicLinking.Descriptor

set_option autoImplicit false

namespace DynamicLinking.CommandLine

/-- The exit code of a command and what it writes to the two outputs. -/
structure Reply where
  /-- The exit code. -/
  code : Nat
  /-- What goes to the standard output. -/
  out : String := ""
  /-- What goes to the standard error output. -/
  err : String := ""
  deriving DecidableEq, Repr

/-- How the command is used. -/
def usage : String :=
  "just-link - operation descriptor tool\n" ++
  "\n" ++
  "Usage:\n" ++
  "  just-link describe <encoding> [flags] [signature]\n" ++
  "                              Parse a descriptor, e.g.\n" ++
  "                              describe GET:PROPERTY:x 1 \"(Object)int\"\n" ++
  "  just-link tokens <encoding> Show the parse tree of an encoding\n" ++
  "  just-link encode <name>     Escape a member name\n" ++
  "  just-link decode <name>     Unescape a member name\n"

/-- The reply of a command that wrote a line. -/
def success (line : String) : Reply :=
  { code := 0, out := line ++ "\n" }

/-- The reply of a command that failed with a message. -/
def failure (message : String) : Reply :=
  { code := 1, err := message ++ "\n" }

/-- The number of arguments that an operation takes by convention. -/
def conventionalArity (o : Operation) (isNamed : Bool) : Nat :=
  match o with
  | .call => 2
  | .new => 1
  | o => if o.isSet then (if isNamed then 2 else 3) else if isNamed then 1 else 2

/-- The generic signature by the convention of an encoding. -/
def conventionalSignature (encoding : String) : Signature :=
  match parseOperation encoding with
  | .ok (o, n) => Signature.generic (conventionalArity o n.isSome)
  | .error _ => Signature.generic 1

/-- The lines that describe a descriptor. -/
def description (d : Descriptor) : String :=
  d.text ++ "\n" ++
  "  operation: " ++ d.operation.mnemonic ++ "\n" ++
  "  name:      " ++ d.name?.getD "<from arguments>" ++ "\n" ++
  "  signature: " ++ d.signature.text ++ "\n" ++
  "  flags:     " ++ d.flags.text

/-- The flags that an argument denotes; without one there are none. -/
def readFlags : Option String → Except String CallSiteFlags
  | none => .ok ⟨0⟩
  | some f =>
      match Numeral.unsigned 32 f.toList with
      | .ok n => .ok ⟨UInt32.ofNat n⟩
      | .error e => .error ("Invalid flags: " ++ e.message)

/-- The signature that an argument denotes; without one it is that of the convention. -/
def readSignature (encoding : String) : Option String → Except String Signature
  | none => .ok (conventionalSignature encoding)
  | some s => (parseSignature s).mapError ScriptError.message

/-- The descriptor of an encoding.  Wrong flags are reported before a wrong signature, and that
before a wrong encoding. -/
def readDescriptor (encoding : String) (flags? signature? : Option String) :
    Except String Descriptor := do
  let flags ← readFlags flags?
  let signature ← readSignature encoding signature?
  (Descriptor.parse encoding signature flags).mapError ScriptError.message

/-- Describes an encoding. -/
def describe (encoding : String) (flags? signature? : Option String) : Reply :=
  match readDescriptor encoding flags? signature? with
  | .ok d => success (description d)
  | .error m => failure m

/-- The reply to a list of arguments. -/
def run : List String → Reply
  | "-h" :: _ => { code := 0, err := usage }
  | "--help" :: _ => { code := 0, err := usage }
  | ["describe", e] => describe e none none
  | ["describe", e, f] => describe e (some f) none
  | ["describe", e, f, s] => describe e (some f) (some s)
  | ["tokens", e] =>
      match Grammar.treeText e with
      | .ok t => success t
      | .error e => failure ("Parse error due to " ++ e.text)
  | ["encode", n] => success (MemberName.encode n)
  | ["decode", n] => success (MemberName.decode n)
  | _ => { code := 1, err := usage }

end DynamicLinking.CommandLine
