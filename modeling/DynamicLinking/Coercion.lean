/-
An operation that needs a primitive value asks an object for one.  Script objects answer through
their own `toString` and `valueOf`, so user code may run and may fail; foreign objects answer by
their text, and all others are shown.

* `Hint`, `toPrimitive` — the primitive value of an object, and which one is preferred;
* `toNumber`, `toText`, `Value.isTruthy` — numbers, texts and truth of all values.
-/

import DynamicLinking.ScriptFunction
import DynamicLinking.Value.CallableKind

set_option autoImplicit false

namespace DynamicLinking

/-- Which primitive value is preferred. -/
inductive Hint where
  | default
  | string
  | number
  deriving DecidableEq, Repr

/-- The methods that a script object is asked, in order. -/
def Hint.methods : Hint → List String
  | .string => ["toString", "valueOf"]
  | _ => ["valueOf", "toString"]

/-- Asks the methods of a script object one after another: the first primitive answer counts.
Properties that are no script functions are passed over. -/
def askMethods (o : Object) : List String → RunM (Option Primitive)
  | [] => pure none
  | m :: ms => do
      match (← getProperty o m) with
      | .object f =>
          if f.isScriptFunction then
            match (← callFunction f (.object o) []) with
            | .primitive p => return some p
            | .object _ => askMethods o ms
          else askMethods o ms
      | .primitive _ => askMethods o ms

/-- The primitive value of an object. -/
def Object.toPrimitive (o : Object) (hint : Hint) : RunM Primitive :=
  match o with
  | .foreign _ f => do return .string (← ofExcept f.displayText)
  | o =>
      if o.isScript then do
        match (← askMethods o hint.methods) with
        | some p => return p
        | none => return .string (Value.text (.object o))
      else pure (.string (Value.text (.object o)))

/-- The primitive value of a value. -/
def toPrimitive (v : Value) (hint : Hint) : RunM Primitive :=
  match v with
  | .primitive p => pure p
  | .object o => o.toPrimitive hint

/-- The number of a value. -/
def toNumber (v : Value) : RunM Number := do
  return (← toPrimitive v .number).toNumber

/-- The text of a value. -/
def toText (v : Value) : RunM String := do
  return (← toPrimitive v .string).text

/-- Does a value count as true?  All objects do. -/
def Value.isTruthy : Value → Bool
  | .primitive p => p.isTruthy
  | .object _ => true

/-- The key of a member: the fixed name, or the text of the argument behind the receiver. -/
def Descriptor.memberKey (d : Descriptor) (args : List Value) : RunM String :=
  match d.name? with
  | some n => pure n
  | none => toText (Value.argument args 1)

end DynamicLinking
