/-
Showing a value never runs user code and never fails: an object is shown by what never changes
about it.

* `Value.text` — the text of a value;
* `Value.typeName` — what `typeof` says;
* `Value.inspectText`, `Value.showCall` — the texts of a call's receiver and arguments;
* `Value.diagnosticText` — the text of a value in diagnostics.
-/

import DynamicLinking.Value

set_option autoImplicit false

namespace DynamicLinking

/-- The class name that a mirror shows: that of its target's kind. -/
def Object.mirrorClassName (target : Object) : String :=
  if target.isScriptFunction then "Function" else "Object"

/-- The text of a foreign object, or the error with which it refuses to be shown. -/
def ForeignObject.displayText (f : ForeignObject) : Except ScriptError String :=
  match f.display with
  | .standard => .ok ("[object " ++ f.className ++ "]")
  | .text s => .ok s
  | .failing e => .error e

/-- The text of a foreign object; one that refuses to be shown is shown by its class. -/
def ForeignObject.safeText (f : ForeignObject) : String :=
  match f.displayText with
  | .ok s => s
  | .error _ => "[object " ++ f.className ++ "]"

/-- The text of a script function. -/
def FunctionCode.text (name : String) : String :=
  "function " ++ name ++ "() \x7b [native code] \x7d"

/-- The text of a value, without running any code. -/
def Value.text : Value → String
  | .primitive p => p.text
  | .object (.ordinary _) => "[object Object]"
  | .object (.function _ c) => FunctionCode.text c.name
  | .object (.boundFunction _ _ c _ _) => FunctionCode.text ("bound " ++ c.name)
  | .object (.bound _ callee _ _) => "[bound " ++ Value.text callee ++ "]"
  | .object (.foreign _ f) => f.safeText
  | .object (.mirror _ t) => "[object " ++ t.mirrorClassName ++ "]"
  | .object (.host _ c) => "[" ++ c.name ++ "]"
  | .object (.proxy i m _) => "[" ++ (HostClass.proxy i m).name ++ "]"
  | .object (.methodRef _ c m _) => "[method " ++ c.name ++ "." ++ m ++ "]"
  | .object (.staticClass _ c) => "[class " ++ c.name ++ "]"
  | .object (.superAdapter _ a) => "[super " ++ Value.text a ++ "]"

/-- The name that `typeof` gives to an object. -/
def Object.typeName : Object → String
  | .function _ _ | .boundFunction _ _ _ _ _ | .bound _ _ _ _ | .methodRef _ _ _ _
  | .staticClass _ _ => "function"
  | .foreign _ f => if f.isFunction then "function" else "object"
  | .mirror _ t => if t.isScriptFunction then "function" else "object"
  | _ => "object"

/-- The name that `typeof` gives to a value. -/
def Value.typeName : Value → String
  | .primitive p => p.typeName
  | .object o => o.typeName

/-- The text of a value in diagnostics. -/
def Value.diagnosticText : Value → String
  | .primitive p => p.diagnosticText
  | .object o => "JsValue::Object(" ++ o.kindName ++ ")"

/-- The receiver and the arguments of a call as one text. -/
def Value.showCall (self : Value) (args : List Value) : String :=
  self.text ++ "(" ++ String.intercalate "," (args.map Value.text) ++ ")"

/-- A number as a text that tells its representation. -/
def Number.inspectText : Number → String
  | .integer i => "int=" ++ toString i.toInt
  | .float x => "float=" ++ if x.isNaN then "nan" else Text.paddedHex 16 x.bits.toNat
  | n => n.text

/-- A value as a text that tells its kind. -/
def Value.inspectText : Value → String
  | .number n => n.inspectText
  | .string s => "string=" ++ s
  | .primitive p => p.text
  | .object o => o.kindName ++ "=" ++ Value.text (.object o)

/-- The arguments of a call as one text that tells their kinds. -/
def Value.inspectAll (args : List Value) : String :=
  String.intercalate "|" (args.map Value.inspectText)

end DynamicLinking
