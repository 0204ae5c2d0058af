/-
A host class declares typed methods, properties, static members and a constructor, and inherits
the instance members of its superclass.  A class is kept as its own declaration followed by those of
its ancestors, nearest first, so that inheritance is a matter of lists.

Main definitions:

* `ClassDecl` — what one class declares itself;
* `HostClass` — a declaration together with those of the ancestors;
* `HostClass.findMethod?`, `HostClass.findProperty?` — the member of the nearest class that
  declares it;
* `HostClass.category` — the nearest category that is restricted;
* `HostClass.isAssignableTo` — is a class the other one or a descendant of it;
* `HostClass.proxy` — the class of an object that stands for a callable.
-/

import DynamicLinking.Body
import DynamicLinking.Signature
import DynamicLinking.Table

set_option autoImplicit false

namespace DynamicLinking

/-- What a host member runs. -/
inductive HostBody where
  /-- User code. -/
  | statements (body : Body)
  /-- Reads the field of the receiver. -/
  | readField (key : String)
  /-- Writes the field of the receiver. -/
  | writeField (key : String)
  /-- Reads the value of a static property. -/
  | readStatic (classId : Nat) (key : String)
  /-- Calls the callable that the receiver stands for. -/
  | forward
  deriving DecidableEq, Repr

/-- A typed member function.  Its arguments are converted to the declared types before it runs. -/
structure HostMethod where
  name : String
  signature : Signature
  /-- What it runs. -/
  body : HostBody
  deriving DecidableEq, Repr

/-- A property: a getter and, unless it is read-only, a setter. -/
structure HostProperty where
  getter : HostMethod
  /-- The setter, if the property takes writes. -/
  setter? : Option HostMethod
  deriving DecidableEq, Repr

namespace HostProperty

/-- A read-only property. -/
def readOnly (name : String) (type : StaticType) (body : Body) : HostProperty :=
  ⟨⟨name, ⟨[], type⟩, .statements body⟩, none⟩

/-- A property whose value is the field of the same name. -/
def ofField (name : String) (type : StaticType) : HostProperty :=
  ⟨⟨name, ⟨[], type⟩, .readField name⟩, some ⟨name, ⟨[type], .void⟩, .writeField name⟩⟩

/-- A read-only static property. -/
def ofStatic (classId : Nat) (name : String) (type : StaticType) : HostProperty :=
  ⟨⟨name, ⟨[], type⟩, .readStatic classId name⟩, none⟩

end HostProperty

/-- What one class declares itself. -/
structure ClassDecl where
  /-- The identity of the class. -/
  id : Nat
  name : String
  /-- How sensitive the class is, its ancestors aside. -/
  category : HostCategory := .ordinary
  methods : Table String HostMethod := {}
  properties : Table String HostProperty := {}
  staticMethods : Table String HostMethod := {}
  staticProperties : Table String HostProperty := {}
  constructor? : Option HostMethod := none
  /-- The name of the single abstract method, if the class names one. -/
  functional? : Option String := none
  deriving DecidableEq, Repr

/-- A host class: its own declaration and those of its ancestors, nearest first. -/
structure HostClass where
  /-- What the class declares itself. -/
  own : ClassDecl
  /-- What its ancestors declare, nearest first. -/
  ancestors : List ClassDecl
  deriving DecidableEq, Repr

namespace HostClass

/-- The declarations that an instance inherits from, nearest first. -/
def chain (c : HostClass) : List ClassDecl :=
  c.own :: c.ancestors

/-- The name of a class. -/
def name (c : HostClass) : String :=
  c.own.name

/-- The name of the superclass. -/
def superName? (c : HostClass) : Option String :=
  c.ancestors.head?.map ClassDecl.name

/-- The instance method of the nearest class that declares it. -/
def findMethod? (c : HostClass) (name : String) : Option HostMethod :=
  c.chain.findSome? fun d => d.methods.get? name

/-- The instance property of the nearest class that declares it. -/
def findProperty? (c : HostClass) (name : String) : Option HostProperty :=
  c.chain.findSome? fun d => d.properties.get? name

/-- A static method; static members are not inherited. -/
def findStaticMethod? (c : HostClass) (name : String) : Option HostMethod :=
  c.own.staticMethods.get? name

/-- A static property; static members are not inherited. -/
def findStaticProperty? (c : HostClass) (name : String) : Option HostProperty :=
  c.own.staticProperties.get? name

/-- The category of a class: the nearest one that is restricted, ordinary if none is. -/
def category (c : HostClass) : HostCategory :=
  ((c.chain.find? fun d => d.category.isRestricted).map ClassDecl.category).getD .ordinary

/-- Is the class subject to the access policy? -/
def isRestricted (c : HostClass) : Bool :=
  c.category.isRestricted

/-- The name of the single abstract method, from the nearest class that names one. -/
def functionalName? (c : HostClass) : Option String :=
  c.chain.findSome? ClassDecl.functional?

/-- The single abstract method, if a class names one and one declares it. -/
def functionalMethod? (c : HostClass) : Option HostMethod :=
  c.functionalName?.bind c.findMethod?

/-- Is the class the other one or a descendant of it? -/
def isAssignableTo (c d : HostClass) : Bool :=
  d.chain.isSuffixOf c.chain

/-- The class of an object that stands for a callable: its only method passes calls on. -/
def proxy (id : Nat) (method : String) : HostClass where
  own :=
    { id, name := "$Proxy$" ++ method
      methods := Table.ofList [(method, ⟨method, ⟨[], .object⟩, .forward⟩)]
      functional? := some method }
  ancestors := []

theorem proxy_findMethod? (id : Nat) (m : String) :
    (proxy id m).findMethod? m = some ⟨m, ⟨[], .object⟩, .forward⟩ := by
  simp [proxy, findMethod?, chain, Table.ofList]

theorem proxy_functionalName? (id : Nat) (m : String) :
    (proxy id m).functionalName? = some m := by
  simp [functionalName?, chain, proxy]

theorem proxy_functionalMethod? (id : Nat) (m : String) :
    (proxy id m).functionalMethod? = some ⟨m, ⟨[], .object⟩, .forward⟩ := by
  rw [functionalMethod?, proxy_functionalName?]
  exact proxy_findMethod? id m

end HostClass

end DynamicLinking
