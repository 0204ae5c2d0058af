/-
A class is defined by its name, its superclass and its members, one after another; a member replaces
an earlier one of its kind and name.  The values of static properties go into the store.

* `MemberDecl` — one member as it is declared;
* `ClassDecl.add` — a declaration with one more member;
* `ClassHeader`, `defineClass` — defining a class.
-/

import DynamicLinking.Store

set_option autoImplicit false

namespace DynamicLinking

/-- One member as it is declared. -/
inductive MemberDecl where
  | method (name : String) (signature : Signature) (body : Body)
  | staticMethod (name : String) (signature : Signature) (body : Body)
  /-- A read-only property. -/
  | property (name : String) (type : StaticType) (body : Body)
  /-- A property that is the field of the same name. -/
  | field (name : String) (type : StaticType)
  | staticProperty (name : String) (type : StaticType) (value : Value)
  | constructor (signature : Signature) (body : Body)

/-- A declaration with one more member. -/
def ClassDecl.add (d : ClassDecl) : MemberDecl → ClassDecl
  | .method n s b => { d with methods := d.methods.insert n ⟨n, s, .statements b⟩ }
  | .staticMethod n s b =>
      { d with staticMethods := d.staticMethods.insert n ⟨n, s, .statements b⟩ }
  | .property n t b => { d with properties := d.properties.insert n (.readOnly n t b) }
  | .field n t => { d with properties := d.properties.insert n (.ofField n t) }
  | .staticProperty n t _ =>
      { d with staticProperties := d.staticProperties.insert n (.ofStatic d.id n t) }
  | .constructor s b => { d with constructor? := some ⟨"<init>", s, .statements b⟩ }

/-- What a definition says about a class besides its members. -/
structure ClassHeader where
  name : String
  super? : Option HostClass := none
  /-- How sensitive the class is. -/
  category : HostCategory := .ordinary
  /-- The name of the single abstract method. -/
  functional? : Option String := none

/-- The values of the static properties that a list of members declares. -/
def staticValues (ms : List MemberDecl) : List (String × Value) :=
  ms.filterMap fun m =>
    match m with
    | .staticProperty n _ v => some (n, v)
    | _ => none

/-- Defines a class. -/
def defineClass (h : ClassHeader) (ms : List MemberDecl) : StoreM HostClass := do
  let id ← freshId
  let bare : ClassDecl :=
    { id, name := h.name, category := h.category, functional? := h.functional? }
  modify fun s =>
    { s with
      statics := (staticValues ms).foldl (fun t b => t.insert (id, b.1) b.2) s.statics }
  return ⟨ms.foldl ClassDecl.add bare, (h.super?.map HostClass.chain).getD []⟩

end DynamicLinking
