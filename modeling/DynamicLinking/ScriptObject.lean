/-
Properties live on an object or on one of the objects on its prototype chain.  The chain is read off
the store as a list; reading a property, asking for one and collecting the layouts that an answer
depends on are questions about that list.

Main definitions:

* `Store.protoChain` — the object and its prototypes, nearest first, up to the first that is no
  script object;
* `Store.getProperty`, `Store.hasProperty`, `Store.layoutPoints` — questions about the chain;
* `Store.defineProperty`, `Store.setPrototype`, `Store.preventExtensions` — the changes, each with
  its answer whether it was made;
* `putProperty` — a write that may fail, or be dropped.
-/

import DynamicLinking.Store

set_option autoImplicit false

namespace DynamicLinking

namespace Store

/-- An object and its prototypes, at most `n` of them. -/
def chainUpTo (s : Store) : Nat → Object → List Object
  | 0, _ => []
  | n + 1, o =>
      if o.isScript then
        o :: match (s.script o.id).prototype? with
          | some p => chainUpTo s n p
          | none => []
      else []

/-- An object and its prototypes, nearest first.  Every member but the last one has a prototype,
so it has an entry in the store, which bounds the length of the chain. -/
def protoChain (s : Store) (o : Object) : List Object :=
  s.chainUpTo (s.scripts.size + 1) o

/-- The own property of a key. -/
def ownProperty? (s : Store) (o : Object) (key : String) : Option Value :=
  (s.script o.id).properties.get? key

/-- Has the object a property of its own under a key? -/
def hasOwnProperty (s : Store) (o : Object) (key : String) : Bool :=
  (s.ownProperty? o key).isSome

/-- Has the object or one of its prototypes a property under a key? -/
def hasProperty (s : Store) (o : Object) (key : String) : Bool :=
  (s.protoChain o).any fun p => s.hasOwnProperty p key

/-- The property of a key: the own one of the nearest object that has one, else `undefined`. -/
def getProperty (s : Store) (o : Object) (key : String) : Value :=
  ((s.protoChain o).findSome? fun p => s.ownProperty? p key).getD .undefined

/-- The present layouts of the object and of its prototypes. -/
def layoutPoints (s : Store) (o : Object) : List SwitchPoint :=
  (s.protoChain o).map fun p => .layout p.id (s.script p.id).layout

/-- Adds or overwrites an own property.  An object that takes no new properties keeps its keys. -/
def defineProperty (s : Store) (o : Object) (key : String) (v : Value) : Store × Bool :=
  let t := s.script o.id
  if t.properties.contains key then
    (s.setScript o.id { t with properties := t.properties.insert key v }, true)
  else if t.isExtensible then
    (s.setScript o.id
      { t with properties := t.properties.insert key v, layout := t.layout + 1 }, true)
  else (s, false)

/-- Replaces the prototype, unless the object takes no new properties or would come to lie on its
own prototype chain. -/
def setPrototype (s : Store) (o : Object) (p? : Option Object) : Store × Bool :=
  let t := s.script o.id
  let isCyclic := p?.any fun p => (s.protoChain p).any fun q => q.id == o.id
  if !t.isExtensible || isCyclic then (s, false)
  else (s.setScript o.id { t with prototype? := p?, layout := t.layout + 1 }, true)

/-- Keeps an object from taking new properties for ever. -/
def preventExtensions (s : Store) (o : Object) : Store :=
  let t := s.script o.id
  s.setScript o.id { t with isExtensible := false, layout := t.layout + 1 }

end Store

/-- The property of a key. -/
def getProperty (o : Object) (key : String) : StoreM Value := do
  return (← get).getProperty o key

theorem getProperty_apply (o : Object) (key : String) (s : Store) :
    getProperty o key s = .ok (s.getProperty o key) s := rfl

/-- Adds or overwrites an own property and tells whether that was possible. -/
def defineProperty (o : Object) (key : String) (v : Value) : StoreM Bool := do
  let (s, done) := (← get).defineProperty o key v
  set s
  return done

/-- Writes a property.  An object that does not take it drops the write, or fails if the write is
strict. -/
def putProperty (o : Object) (key : String) (v : Value) (isStrict : Bool) : StoreM Unit := do
  let done ← defineProperty o key v
  if !done && isStrict then
    fail (.notExtensible key)

theorem putProperty_apply (o : Object) (key : String) (v : Value) (isStrict : Bool) (s : Store) :
    putProperty o key v isStrict s =
      if !(s.defineProperty o key v).2 && isStrict then
        .error (.error (.notExtensible key)) (s.defineProperty o key v).1
      else .ok () (s.defineProperty o key v).1 := by
  have hdefine : defineProperty o key v s =
      .ok (s.defineProperty o key v).2 (s.defineProperty o key v).1 := rfl
  simp only [putProperty, bind, EStateM.bind, hdefine]
  split <;> rfl

/-- A new script object with a prototype.  Giving it the prototype counts as a change of layout. -/
def newScriptObject (prototype? : Option Object) : StoreM Object := do
  let id ← freshId
  match prototype? with
  | some p =>
      modify fun s =>
        s.setScript id { prototype? := some p, layout := (s.script id).layout + 1 }
  | none => pure ()
  return .ordinary id

end DynamicLinking
