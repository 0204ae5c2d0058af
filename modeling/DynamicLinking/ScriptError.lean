/-
What scripted code sees as an exception.  Every way in which linking or running an operation fails
is a constructor of its own; programs raise errors of a kind and a text of their choice.

Main definitions:

* `ErrorKind` — the kinds of errors a program tells apart;
* `ScriptError` — the causes;
* `ScriptError.kind`, `ScriptError.text`, `ScriptError.message` — how a cause is reported.
-/

import DynamicLinking.Text.Quoted

set_option autoImplicit false

namespace DynamicLinking

/-- The kinds of errors that a program tells apart. -/
inductive ErrorKind where
  | reference
  | type
  | range
  | syntaxFault
  | security
  /-- A result did not fit the numeric type its call site was compiled for. -/
  | optimism
  deriving DecidableEq, Repr

namespace ErrorKind

/-- The name of a kind of errors. -/
def name : ErrorKind → String
  | .reference => "ReferenceError"
  | .type => "TypeError"
  | .range => "RangeError"
  | .syntaxFault => "SyntaxError"
  | .security => "SecurityError"
  | .optimism => "UnwarrantedOptimism"

/-- All kinds of errors. -/
def all : List ErrorKind :=
  [.reference, .type, .range, .syntaxFault, .security, .optimism]

/-- The kind of errors with a name. -/
def ofName? (n : String) : Option ErrorKind :=
  all.find? fun k => k.name == n

theorem ofName?_name (k : ErrorKind) : ofName? k.name = some k := by
  cases k <;> decide +kernel

end ErrorKind

/-- A place in a text: line and column, both counted from one, in characters. -/
structure Place where
  line : Nat
  column : Nat
  deriving DecidableEq, Repr

/-- The text of a place: an arrow behind as many blanks as the line number has digits, which leaves
room for line numbers below it. -/
def Place.text (p : Place) : String :=
  let line := Nat.toDigits 10 p.line
  String.ofList (List.replicate line.length ' ' ++ "--> ".toList ++ line) ++ ":" ++
    toString p.column

/-- How sensitive a host class is.  Every category but the ordinary one is subject to the access
policy. -/
inductive HostCategory where
  | ordinary
  | reflection
  | dynamicCode
  | classLoading
  deriving DecidableEq, Repr

namespace HostCategory

/-- Is the category subject to the access policy? -/
def isRestricted : HostCategory → Bool
  | .ordinary => false
  | _ => true

/-- The name of a category. -/
def name : HostCategory → String
  | .ordinary => "Ordinary"
  | .reflection => "Reflection"
  | .dynamicCode => "DynamicCode"
  | .classLoading => "ClassLoading"

/-- The category with a name. -/
def ofName? (n : String) : Option HostCategory :=
  [ordinary, reflection, dynamicCode, classLoading].find? fun c => c.name == n

end HostCategory

/-- Why an operation failed. -/
inductive ScriptError where
  /-- A program raised an error of its own. -/
  | raised (kind : ErrorKind) (text : String)
  /-- The callee, shown as a text, is not callable. -/
  | notFunction (callee : String)
  /-- The callee can be called but not constructed. -/
  | notConstructor (callee : String)
  /-- A host class without a constructor was constructed. -/
  | noConstructor (className : String)
  /-- A method reference names a method that its class does not have. -/
  | noMethod (className method : String)
  /-- A method reference was called on a receiver of another class. -/
  | notInstance (receiver className : String)
  /-- A property was added to an object that takes no more properties. -/
  | notExtensible (key : String)
  /-- A value that cannot be called was to become functional. -/
  | notFunctional (value method : String)
  /-- A member of `undefined` or `null` was read. -/
  | unreadable (key receiver : String)
  /-- A member of `undefined` or `null` was written. -/
  | unwritable (key receiver : String)
  /-- A member of a primitive value was written at a strict site. -/
  | primitiveWrite (key receiver : String)
  /-- A foreign operation met a value that is not foreign. -/
  | notForeign (value : String)
  /-- A foreign member does not take writes. -/
  | readOnly (member : String)
  /-- No linker has the operation. -/
  | noOperation (encoding receiver : String)
  /-- A super adapter was to be made of a value that is no host object. -/
  | notAdapter (value : String)
  /-- The signature of a call has no room for the callee and the receiver. -/
  | shortCallSignature (signature : String)
  /-- The access policy denies a restricted class. -/
  | accessDenied (category : HostCategory) (className : String)
  /-- A text does not match its grammar, the furthest failure being at a place. -/
  | malformed (input : String) (place : Place)
  /-- A signature names a type that does not exist. -/
  | unknownType (name : String)
  /-- A result does not fit the type of an optimistic site. -/
  | unwarranted (value : String) (programPoint : Nat)
  deriving DecidableEq, Repr

namespace ScriptError

/-- The kind of an error. -/
def kind : ScriptError → ErrorKind
  | .raised k _ => k
  | .accessDenied _ _ => .security
  | .malformed _ _ => .syntaxFault
  | .unknownType _ => .syntaxFault
  | .unwarranted _ _ => .optimism
  | _ => .type

/-- The text of an error, without its kind. -/
def text : ScriptError → String
  | .raised _ t => t
  | .notFunction c => c ++ " is not a function"
  | .notConstructor c => c ++ " is not a constructor"
  | .noConstructor c => c ++ " has no public constructor"
  | .noMethod c m => c ++ " has no method " ++ m
  | .notInstance v c => v ++ " is not an instance of " ++ c
  | .notExtensible k => "Cannot add property " ++ k ++ ", object is not extensible"
  | .notFunctional v m =>
      "Cannot convert " ++ v ++ " to a functional interface with method " ++ m
  | .unreadable k v => "Cannot read property \"" ++ k ++ "\" of " ++ v
  | .unwritable k v => "Cannot set property \"" ++ k ++ "\" of " ++ v
  | .primitiveWrite k v => "Cannot set property \"" ++ k ++ "\" of primitive " ++ v
  | .notForeign v => v ++ " is not a foreign object"
  | .readOnly m => m ++ " is read-only"
  | .noOperation e v => "No such operation " ++ e ++ " on " ++ v
  | .notAdapter v => v ++ " is not an adapter instance"
  | .shortCallSignature s => "call signature " ++ s ++ " must take a callee and a receiver"
  | .accessDenied k c => "access to " ++ k.name ++ " class " ++ c ++ " denied"
  | .malformed s p =>
      "Malformed " ++ Text.quoted s ++ ": " ++ p.text
  | .unknownType t => "Unknown static type " ++ t
  | .unwarranted v _ => v

/-- The words that introduce an uncaught error of a kind. -/
def ErrorKind.phrase : ErrorKind → String
  | .reference => "Uncaught reference error: "
  | .type => "Uncaught type error: "
  | .range => "Uncaught range error: "
  | .syntaxFault => "Uncaught syntax error: "
  | .security => "Uncaught security error: "
  | .optimism => "Unwarranted optimism at program point "

/-- An error as it is reported when nothing catches it.  The place of a malformed text ends the
line, every other text ends with a period. -/
def message (e : ScriptError) : String :=
  match e with
  | .unwarranted v p => ErrorKind.phrase .optimism ++ toString p ++ ": " ++ v
  | .raised .optimism t => ErrorKind.phrase .optimism ++ "0: " ++ t
  | .malformed _ _ => ErrorKind.phrase .syntaxFault ++ e.text
  | _ => ErrorKind.phrase e.kind ++ e.text ++ "."

/-- Is the error of the kind `type`? -/
def isTypeError (e : ScriptError) : Bool :=
  e.kind == .type

/-- Is the error of the kind `security`? -/
def isSecurityError (e : ScriptError) : Bool :=
  e.kind == .security

end ScriptError

end DynamicLinking
