/-
The type of a value as a guard sees it: instances of host classes are told apart by their class,
foreign objects by their bridge, and everything else by its kind.  An object that stands for a
callable is the only instance of its class.

* `RuntimeType` — the types;
* `Value.runtimeType` — the type of a value;
* `RuntimeType.text` — the type in diagnostics.
-/

import DynamicLinking.Value

set_option autoImplicit false

namespace DynamicLinking

/-- The type of a value as a guard sees it. -/
inductive RuntimeType where
  | undefined
  | null
  | boolean
  | number
  | string
  | scriptObject
  | scriptFunction
  | boundCallable
  | foreign (bridge : BridgeKind)
  | host (cls : HostClass)
  /-- The class of one object that stands for a callable. -/
  | proxy (id : Nat) (method : String) (target : Value)
  | methodRef
  | staticClass
  | superAdapter
  deriving DecidableEq

/-- The type of a primitive value. -/
def Primitive.runtimeType : Primitive → RuntimeType
  | .undefined => .undefined
  | .null => .null
  | .boolean _ => .boolean
  | .string _ => .string
  | .number _ => .number

/-- The type of an object. -/
def Object.runtimeType : Object → RuntimeType
  | .ordinary _ => .scriptObject
  | .function _ _ => .scriptFunction
  | .boundFunction _ _ _ _ _ => .scriptFunction
  | .bound _ _ _ _ => .boundCallable
  | .foreign _ f => .foreign f.bridge
  | .mirror _ _ => .foreign .generic
  | .host _ c => .host c
  | .proxy i m t => .proxy i m t
  | .methodRef _ _ _ _ => .methodRef
  | .staticClass _ _ => .staticClass
  | .superAdapter _ _ => .superAdapter

/-- The type of a value. -/
def Value.runtimeType : Value → RuntimeType
  | .primitive p => p.runtimeType
  | .object o => o.runtimeType

/-- The text of a class in diagnostics. -/
def HostClass.text (c : HostClass) : String :=
  "HostClass(" ++ c.name ++ ")"

/-- The text of a type in diagnostics. -/
def RuntimeType.text : RuntimeType → String
  | .undefined => "Undefined"
  | .null => "Null"
  | .boolean => "Boolean"
  | .number => "Number"
  | .string => "String"
  | .scriptObject => "ScriptObject"
  | .scriptFunction => "ScriptFunction"
  | .boundCallable => "BoundCallable"
  | .foreign k => "Foreign(" ++ k.name ++ ")"
  | .host c => "Host(" ++ c.text ++ ")"
  | .proxy i m _ => "Host(" ++ (HostClass.proxy i m).text ++ ")"
  | .methodRef => "DynamicMethod"
  | .staticClass => "StaticClass"
  | .superAdapter => "SuperAdapter"

end DynamicLinking
