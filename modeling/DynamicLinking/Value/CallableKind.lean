/-
Every value that can be called or constructed is of exactly one of six kinds.  The kind depends on
the value alone.

* `CallableKind`, `Value.callableKind?` — the kinds, and the one of a value;
* `Value.isCallable`, `Value.isStrict` — can a value be called, and is it strict;
* `Value.isMethodRef`, `Value.isFunctionalObject` — finer questions about host callables.
-/

import DynamicLinking.Value.Display

set_option autoImplicit false

namespace DynamicLinking

/-- The kinds of callables. -/
inductive CallableKind where
  | scriptFunction
  | foreignFunction
  | bound
  /-- A host object whose class has exactly one abstract method. -/
  | functionalObject
  | methodRef
  | staticClass
  deriving DecidableEq, Repr

/-- The name of a kind. -/
def CallableKind.name : CallableKind → String
  | .scriptFunction => "NativeFunction"
  | .foreignFunction => "ForeignFunction"
  | .bound => "BoundCallable"
  | .functionalObject => "FunctionalAdapter"
  | .methodRef => "DynamicMethod"
  | .staticClass => "StaticClass"

/-- The kind of an object that can be called. -/
def Object.callableKind? : Object → Option CallableKind
  | .ordinary _ => none
  | .function _ _ => some .scriptFunction
  | .boundFunction _ _ _ _ _ => some .scriptFunction
  | .bound _ _ _ _ => some .bound
  | .foreign _ f => if f.isFunction then some .foreignFunction else none
  | .mirror _ t => if t.isScriptFunction then some .foreignFunction else none
  | .host _ c => if c.functionalMethod?.isSome then some .functionalObject else none
  | .proxy _ _ _ => some .functionalObject
  | .methodRef _ _ _ _ => some .methodRef
  | .staticClass _ _ => some .staticClass
  | .superAdapter _ _ => none

namespace Value

/-- The kind of a value that can be called. -/
def callableKind? (v : Value) : Option CallableKind :=
  v.object?.bind Object.callableKind?

/-- Can the value be called? -/
def isCallable (v : Value) : Bool :=
  v.callableKind?.isSome

/-- Is the value a strict callable?  A bound callable is as strict as what it is bound to. -/
def isStrict : Value → Bool
  | .object (.function _ c) => c.isStrict
  | .object (.boundFunction _ _ c _ _) => c.isStrict
  | .object (.foreign _ f) => f.isFunction && f.isStrict
  | .object (.mirror _ t) => (t.code?.map FunctionCode.isStrict).getD false
  | .object (.bound _ callee _ _) => isStrict callee
  | _ => false

/-- Is the value a strict callable, or an error if it is none at all? -/
def strictness (v : Value) : Except ScriptError Bool :=
  if v.isCallable then .ok v.isStrict else .error (.notFunction v.text)

/-- Is the value a method reference, or one bound to arguments? -/
def isMethodRef : Value → Bool
  | .object (.methodRef _ _ _ _) => true
  | .object (.bound _ (.object (.methodRef _ _ _ _)) _ _) => true
  | _ => false

/-- Is the value an instance whose class has exactly one abstract method? -/
def isFunctionalObject (v : Value) : Bool :=
  (v.hostClass?.bind HostClass.functionalMethod?).isSome

end Value

end DynamicLinking
