/-
The fixed vocabulary of what a call site can ask for.

* `Operation` — reading a property, an element or a method, writing a property or an element,
  calling and constructing;
* `Operation.mnemonic`, `Operation.ofMnemonic?` — the written form.
-/

set_option autoImplicit false

namespace DynamicLinking

/-- What a call site asks for. -/
inductive Operation where
  | getProperty
  | getElement
  | getMethod
  | setProperty
  | setElement
  | call
  | new
  deriving DecidableEq, Repr

namespace Operation

/-- Does the operation read a member? -/
def isGet : Operation → Bool
  | .getProperty | .getElement | .getMethod => true
  | _ => false

/-- Does the operation write a member? -/
def isSet : Operation → Bool
  | .setProperty | .setElement => true
  | _ => false

/-- The written form of an operation. -/
def mnemonic : Operation → String
  | .getProperty => "GET:PROPERTY"
  | .getElement => "GET:ELEMENT"
  | .getMethod => "GET:METHOD"
  | .setProperty => "SET:PROPERTY"
  | .setElement => "SET:ELEMENT"
  | .call => "CALL"
  | .new => "NEW"

/-- All operations. -/
def all : List Operation :=
  [.getProperty, .getElement, .getMethod, .setProperty, .setElement, .call, .new]

/-- The operation with a written form. -/
def ofMnemonic? (s : String) : Option Operation :=
  all.find? fun o => o.mnemonic == s

theorem ofMnemonic?_mnemonic (o : Operation) : ofMnemonic? o.mnemonic = some o := by
  cases o <;> decide

/-- A write is no read. -/
theorem isGet_of_isSet {o : Operation} (h : o.isSet = true) : o.isGet = false := by
  cases o <;> first | rfl | cases h

end Operation

end DynamicLinking
