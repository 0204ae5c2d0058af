/-
What is done to a heap of script objects, one operation at a time: an object is made, a property is
defined or written, a prototype is replaced, an object is closed.  An operation is data, so that
what has to hold of its operands and what comes of it are said of all operations at once.

* `HeapOperation` — the operations, with the object that one makes a prototype and the value that
  one stores;
* `Store.operate` — **the store after an operation**;
* `Store.operate_put` — a write changes the store as a definition does, strict or not;
* `Store.evolves_operate` — operations are runs of the steps in which the store evolves.
-/

import DynamicLinking.Proofs.RunEvolution

set_option autoImplicit false

namespace DynamicLinking

/-- An operation on script objects. -/
inductive HeapOperation where
  /-- An object is made, possibly with a prototype. -/
  | create (prototype? : Option Object)
  /-- An own property is added or overwritten. -/
  | define (o : Object) (key : String) (v : Value)
  /-- A property is written, strictly or not. -/
  | put (o : Object) (key : String) (v : Value) (isStrict : Bool)
  /-- A prototype is replaced, or taken away. -/
  | setPrototype (o : Object) (prototype? : Option Object)
  /-- An object is kept from taking new properties. -/
  | preventExtensions (o : Object)

namespace HeapOperation

/-- The object that becomes a prototype. -/
def prototype? : HeapOperation → Option Object
  | .create p? => p?
  | .setPrototype _ p? => p?
  | .define _ _ _ => none
  | .put _ _ _ _ => none
  | .preventExtensions _ => none

/-- The value that is stored under a key. -/
def value? : HeapOperation → Option Value
  | .define _ _ v => some v
  | .put _ _ v _ => some v
  | .create _ => none
  | .setPrototype _ _ => none
  | .preventExtensions _ => none

end HeapOperation

namespace Store

/-- The store after an operation. -/
def operate (s : Store) : HeapOperation → Store
  | .create p? => (newScriptObject p?).after s
  | .define o key v => (s.defineProperty o key v).1
  | .put o key v isStrict => (putProperty o key v isStrict).after s
  | .setPrototype o p? => (s.setPrototype o p?).1
  | .preventExtensions o => s.preventExtensions o

/-- A write changes the store as a definition does, whether or not it fails. -/
theorem operate_put (s : Store) (o : Object) (key : String) (v : Value) (isStrict : Bool) :
    s.operate (.put o key v isStrict) = s.operate (.define o key v) := by
  simp only [operate, StoreM.after, putProperty_apply]
  cases (s.defineProperty o key v).2 <;> cases isStrict <;> rfl

/-- Operations are runs of the steps in which the store evolves. -/
theorem evolves_operate (s : Store) (op : HeapOperation) : s.Evolves (s.operate op) := by
  cases op with
  | create p? => exact takes_newScriptObject p? s
  | define o key v => exact .single (.define s o key v)
  | put o key v isStrict => exact takes_putProperty o key v isStrict s
  | setPrototype o p? => exact .single (.setPrototype s o p?)
  | preventExtensions o => exact .single (.preventExtensions s o)

end Store

end DynamicLinking
