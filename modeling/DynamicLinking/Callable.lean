/-
One way to call and one way to construct for all kinds of callables.  A host method gets its
arguments converted to the types that it declares; a bound callable passes its receiver and its
leading arguments on.

* `invokeHost` — a host method on converted arguments;
* `callMethodRef`, `constructClass` — method references and classes as callables;
* `callValue`, `constructValue` — calling and constructing any value;
* `bindValue` — a callable with a fixed receiver and leading arguments.
-/

import DynamicLinking.Conversion
import DynamicLinking.Foreign

set_option autoImplicit false

namespace DynamicLinking

/-- Runs a host method on a receiver and arguments converted to its declared types. -/
def invokeHost (m : HostMethod) (self : Value) (args : List Value) : RunM Value := do
  enter (.host m) self (← convertArguments m.signature.params args)

/-- Calls a method reference.  An instance method needs a receiver of the declaring class. -/
def callMethodRef (c : HostClass) (name : String) (isStatic : Bool) (self : Value)
    (args : List Value) : RunM Value :=
  match if isStatic then c.findStaticMethod? name else c.findMethod? name with
  | none => fail (.noMethod c.name name)
  | some m =>
      if isStatic then invokeHost m .undefined args
      else if self.hostClass?.any fun d => d.isAssignableTo c then invokeHost m self args
      else fail (.notInstance self.text c.name)

/-- Constructs an instance of a host class. -/
def constructClass (c : HostClass) (args : List Value) : RunM Value :=
  match c.own.constructor? with
  | some m => invokeHost m .undefined args
  | none => fail (.noConstructor c.name)

/-- Calls the single abstract method of an instance. -/
def callFunctional (c : HostClass) (self : Value) (args : List Value) : RunM Value :=
  match c.functionalMethod? with
  | some m => invokeHost m self args
  | none => fail (.notFunction self.text)

/-- Calls a value. -/
def callValue : Value → Value → List Value → RunM Value
  | .object (.bound _ callee bound leading), _, args => callValue callee bound (leading ++ args)
  | .object (.methodRef _ c m isStatic), self, args => callMethodRef c m isStatic self args
  | .object (.staticClass _ c), _, args => constructClass c args
  | .object (.host i c), _, args => callFunctional c (.object (.host i c)) args
  | .object (.proxy i m t), _, args =>
      callFunctional (HostClass.proxy i m) (.object (.proxy i m t)) args
  | .object (.function i c), self, args => callFunction (.function i c) self args
  | .object (.boundFunction i t c s l), self, args =>
      callFunction (.boundFunction i t c s l) self args
  | .object (.foreign i f), self, args =>
      if f.isFunction then (Object.foreign i f).callForeign self args
      else fail (.notFunction f.safeText)
  | .object (.mirror i t), self, args =>
      if t.isScriptFunction then (Object.mirror i t).callForeign self args
      else fail (.notFunction (Value.text (.object (.mirror i t))))
  | v, _, _ => fail (.notFunction v.text)

theorem callValue_bound (i : Nat) (callee bound : Value) (leading : List Value) (self : Value)
    (args : List Value) :
    callValue (.object (.bound i callee bound leading)) self args =
      callValue callee bound (leading ++ args) := by
  rw [callValue]

/-- Constructs with a value. -/
def constructValue : Value → List Value → RunM Value
  | .object (.bound _ callee _ leading), args => constructValue callee (leading ++ args)
  | .object (.staticClass _ c), args => constructClass c args
  | .object (.function i c), args => constructFunction (.function i c) args
  | .object (.boundFunction i t c s l), args => constructFunction (.boundFunction i t c s l) args
  | .object (.foreign i f), args =>
      if f.isFunction then (Object.foreign i f).constructForeign args
      else fail (.notFunction f.safeText)
  | .object (.mirror i t), args =>
      if t.isScriptFunction then (Object.mirror i t).constructForeign args
      else fail (.notFunction (Value.text (.object (.mirror i t))))
  | v, _ =>
      match v.callableKind? with
      | some k => fail (.notConstructor k.name)
      | none => fail (.notFunction v.text)

/-- A callable other than a script function bound to a receiver and leading arguments.  A bound
callable keeps its receiver, and the arguments come after its own. -/
def bindGeneric (v self : Value) (leading : List Value) : StoreM Value := do
  let id ← freshId
  match v with
  | .object (.bound _ callee bound l) => return .object (.bound id callee bound (l ++ leading))
  | v => return .object (.bound id v self leading)

/-- A script function bound to a receiver and leading arguments. -/
def bindFunction (o : Object) (self : Value) (leading : List Value) : StoreM Value := do
  match o.bindFunction? (← freshId) self leading with
  | some b => return .object b
  | none => fail (.notFunction o.kindName)

/-- A callable bound to a receiver and leading arguments. -/
def bindValue (v self : Value) (leading : List Value) : StoreM Value :=
  match v with
  | .object o =>
      if o.isScriptFunction then bindFunction o self leading
      else if v.isCallable then bindGeneric v self leading
      else fail (.notFunction v.text)
  | .primitive _ => fail (.notFunction v.text)

/-- What a bound callable is bound to: the target, the receiver and the leading arguments. -/
def Value.binding? : Value → Option (Value × Value × List Value)
  | .object (.bound _ callee self leading) => some (callee, self, leading)
  | .object (.boundFunction _ t c self leading) =>
      some (.object (.function t c), self, leading)
  | _ => none

/-- A wrapper through which the overridden methods of a host object are reached. -/
def superAdapterOf (v : Value) : StoreM Value :=
  if v.hostClass?.isSome then do
    return .object (.superAdapter (← freshId) v)
  else fail (.notAdapter v.text)

end DynamicLinking
