/-
The values of the script language that are no objects, with their text, their number and their
truth.

* `Primitive` — the values;
* `Primitive.text`, `Primitive.toNumber`, `Primitive.isTruthy` — the conversions, none of which
  can fail or run code;
* `Primitive.equals` — equality as the language sees it.
-/

import DynamicLinking.Number.Basic
import DynamicLinking.Text.Quoted
import DynamicLinking.Text.Units

set_option autoImplicit false

namespace DynamicLinking

/-- A value that is no object. -/
inductive Primitive where
  | undefined
  | null
  | boolean (b : Bool)
  | string (s : String)
  | number (n : Number)
  deriving DecidableEq, Repr

namespace Primitive

instance : Inhabited Primitive := ⟨.undefined⟩

/-- Is the value `undefined` or `null`? -/
def isNullish : Primitive → Bool
  | .undefined | .null => true
  | _ => false

/-- The text of a value. -/
def text : Primitive → String
  | .undefined => "undefined"
  | .null => "null"
  | .boolean b => if b then "true" else "false"
  | .string s => s
  | .number n => n.text

/-- The number of a value. -/
def toNumber : Primitive → Number
  | .undefined => .nan
  | .null => .integer 0
  | .boolean b => .integer (if b then 1 else 0)
  | .string s => Number.ofText s
  | .number n => n

/-- Does a value count as true? -/
def isTruthy : Primitive → Bool
  | .undefined => false
  | .null => false
  | .boolean b => b
  | .string s => !s.isEmpty
  | .number n => n.isTruthy

/-- Equality as the language sees it: values of one kind with equal contents. -/
def equals : Primitive → Primitive → Bool
  | .undefined, .undefined => true
  | .null, .null => true
  | .boolean a, .boolean b => a == b
  | .string a, .string b => a == b
  | .number a, .number b => a.equals b
  | _, _ => false

/-- The name that `typeof` gives to a value. -/
def typeName : Primitive → String
  | .undefined => "undefined"
  | .null => "object"
  | .boolean _ => "boolean"
  | .string _ => "string"
  | .number _ => "number"

/-- The text of a value in diagnostics. -/
def diagnosticText : Primitive → String
  | .undefined => "JsValue::Undefined"
  | .null => "JsValue::Null"
  | .boolean b => "JsValue::Boolean(" ++ (if b then "true" else "false") ++ ")"
  | .string s => "JsValue::String(" ++ Text.quoted s ++ ")"
  | .number n => "JsValue::Number(" ++ n.diagnosticText ++ ")"

/-- The index that a key denotes: its canonical decimal text, within the 64-bit integers. -/
def arrayIndex? (key : String) : Option Nat :=
  let cs := key.toList
  if cs = [] ∨ (1 < cs.length ∧ cs.head? = some '0') then none
  else if cs.all Char.isDigit then
    let n := Numeral.read cs
    if inInt64 n then some n else none
  else none

/-- The member of a string: its length in 16-bit units, or the text of one unit. -/
def stringMember (s key : String) : Primitive :=
  if key = "length" then .number (.integer (Int64.ofNat (Text.units s).length))
  else
    match (arrayIndex? key).bind fun i => (Text.units s)[i]? with
    | some u => .string (Text.unitText u)
    | none => .undefined

end Primitive

end DynamicLinking
