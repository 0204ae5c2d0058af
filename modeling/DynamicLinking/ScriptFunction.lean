/-
Calling a script function runs its code; constructing with it runs the code on a new object, whose
prototype is the object that the function has under the key `prototype`.  A bound function passes
its leading arguments on to its target, which is never bound itself.

* `callFunction`, `constructFunction` — calling and constructing;
* `Object.bindFunction?` — the parts of a function bound once more.
-/

import DynamicLinking.ScriptObject

set_option autoImplicit false

namespace DynamicLinking

/-- Calls a script function. -/
def callFunction (o : Object) (self : Value) (args : List Value) : RunM Value :=
  match o with
  | .function _ c => enter (.code c.body) self args
  | .boundFunction _ _ c bound leading => enter (.code c.body) bound (leading ++ args)
  | o => fail (.notFunction o.kindName)

/-- Constructs with an unbound script function: the code runs on a new object, which is the result
unless the code answers an object. -/
def constructPlain (o : Object) (c : FunctionCode) (args : List Value) : RunM Value := do
  let prototype? := ((← getProperty o "prototype")).script?
  let made := Value.object (← newScriptObject prototype?)
  let r ← enter (.code c.body) made args
  return if r.isPrimitive then made else r

/-- Constructs with a script function. -/
def constructFunction (o : Object) (args : List Value) : RunM Value :=
  match o with
  | .function _ c =>
      if c.isConstructor then constructPlain o c args else fail (.notConstructor c.name)
  | .boundFunction _ t c _ leading =>
      if c.isConstructor then constructPlain (.function t c) c (leading ++ args)
      else fail (.notConstructor ("bound " ++ c.name))
  | o => fail (.notFunction o.kindName)

/-- A script function bound to a receiver and leading arguments, with a new identity.  A function
that is bound already keeps its receiver, and the arguments come after its own. -/
def Object.bindFunction? (o : Object) (id : Nat) (self : Value) (leading : List Value) :
    Option Object :=
  match o with
  | .function t c => some (.boundFunction id t c self leading)
  | .boundFunction _ t c s l => some (.boundFunction id t c s (l ++ leading))
  | _ => none

end DynamicLinking
