/-
A value is primitive or an object.  An object is an identity together with everything about it that
never changes; what does change — properties, fields, members — is kept in the store under the
identity.  So what an object is, whether it can be called and how it is shown are questions about
the value alone.

Main definitions:

* `Object`, `Value` — the values, mutually inductive because a bound callable holds values;
* `Object.id` — the identity;
* `Object.hostClass?` — the class of an instance;
* `Value.equals` — equality as the language sees it, objects by identity;
* the instance `DecidableEq Value` — equality of everything about two values; since an identity is
  given once, equal objects and objects of one identity are the same.
-/

import DynamicLinking.Host.Class

set_option autoImplicit false

namespace DynamicLinking

/-- Which bridge a foreign object belongs to.  Objects of the browser answer for their own missing
members. -/
inductive BridgeKind where
  | generic
  | browser
  deriving DecidableEq, Repr

/-- The name of a bridge. -/
def BridgeKind.name : BridgeKind → String
  | .generic => "Generic"
  | .browser => "Browser"

/-- How a foreign object shows itself. -/
inductive ForeignDisplay where
  /-- By the name of its class. -/
  | standard
  /-- By a text of its own. -/
  | text (s : String)
  /-- Not at all: showing it fails. -/
  | failing (e : ScriptError)
  deriving DecidableEq, Repr

/-- What never changes about a foreign object. -/
structure ForeignObject where
  /-- The name of its class. -/
  className : String := "Object"
  bridge : BridgeKind := .generic
  isFunction : Bool := false
  isStrict : Bool := false
  /-- Does it refuse writes? -/
  refusesWrites : Bool := false
  /-- Are its slots apart from its members? -/
  hasSlots : Bool := false
  /-- What a call runs, if calling is supported. -/
  callBody? : Option Body := none
  /-- What a construction runs, if constructing is supported. -/
  constructBody? : Option Body := none
  display : ForeignDisplay := .standard
  deriving DecidableEq, Repr

/-- What never changes about a script function. -/
structure FunctionCode where
  name : String
  isStrict : Bool
  isConstructor : Bool
  body : Body
  deriving DecidableEq, Repr

mutual

/-- A value of the script language. -/
inductive Value where
  | primitive (p : Primitive)
  | object (o : Object)

/-- An object: its identity and what never changes about it. -/
inductive Object where
  /-- A plain script object. -/
  | ordinary (id : Nat)
  /-- A script function. -/
  | function (id : Nat) (code : FunctionCode)
  /-- A script function bound to a receiver and leading arguments; its target is the unbound
  function with the given identity and code. -/
  | boundFunction (id target : Nat) (code : FunctionCode) (self : Value) (leading : List Value)
  /-- Any other callable bound to a receiver and leading arguments. -/
  | bound (id : Nat) (callee self : Value) (leading : List Value)
  /-- An object of the outside world, reached through a bridge. -/
  | foreign (id : Nat) (info : ForeignObject)
  /-- A script object as the outside world sees it. -/
  | mirror (id : Nat) (target : Object)
  /-- An instance of a host class. -/
  | host (id : Nat) (cls : HostClass)
  /-- An instance of a class made up for one callable, whose only method calls it. -/
  | proxy (id : Nat) (method : String) (target : Value)
  /-- A host method detached from its receiver. -/
  | methodRef (id : Nat) (cls : HostClass) (name : String) (isStatic : Bool)
  /-- A host class as a value. -/
  | staticClass (id : Nat) (cls : HostClass)
  /-- A wrapper through which the overridden methods of an adapter are reached. -/
  | superAdapter (id : Nat) (adapter : Value)

end

namespace Value

/-- The value `undefined`. -/
@[match_pattern] abbrev undefined : Value := .primitive .undefined

/-- The value `null`. -/
@[match_pattern] abbrev null : Value := .primitive .null

/-- A boolean. -/
@[match_pattern] abbrev boolean (b : Bool) : Value := .primitive (.boolean b)

/-- A string. -/
@[match_pattern] abbrev string (s : String) : Value := .primitive (.string s)

/-- A number. -/
@[match_pattern] abbrev number (n : Number) : Value := .primitive (.number n)

/-- An integer. -/
abbrev int (i : Int) : Value := .number (.integer (Int64.ofInt i))

instance : Inhabited Value := ⟨.undefined⟩

end Value

/-! ### Equality of everything

Callables bound into one another share the values that they hold, so that a value can be reached in
many ways.  The comparison stops wherever both sides are one and the same object in memory. -/

mutual

/-- Equality of values is decidable. -/
def Value.decEq : (v w : Value) → Decidable (v = w)
  | .primitive p, w => by
      cases w with
      | primitive q => exact decidable_of_iff (p = q) (by simp)
      | object _ => exact isFalse nofun
  | .object o, w => by
      cases w with
      | primitive _ => exact isFalse nofun
      | object o' =>
          have := withPtrEqDecEq o o' fun _ => o.decEq o'
          exact decidable_of_iff (o = o') (by simp)

/-- Equality of objects is decidable. -/
def Object.decEq : (o o' : Object) → Decidable (o = o')
  | .ordinary i, o' => by
      cases o' with
      | ordinary j => exact decidable_of_iff (i = j) (by simp)
      | _ => exact isFalse nofun
  | .function i c, o' => by
      cases o' with
      | function j d => exact decidable_of_iff (i = j ∧ c = d) (by simp)
      | _ => exact isFalse nofun
  | .boundFunction i t c s l, o' => by
      cases o' with
      | boundFunction j u d r m =>
          exact
            if h : i = j ∧ t = u ∧ c = d then
              have := s.decEq r
              have := Value.decEqList l m
              decidable_of_iff (s = r ∧ l = m) (by simp [h])
            else isFalse fun e => h (by cases e; simp)
      | _ => exact isFalse nofun
  | .bound i c s l, o' => by
      cases o' with
      | bound j d r m =>
          exact
            if h : i = j then
              have := c.decEq d
              have := s.decEq r
              have := Value.decEqList l m
              decidable_of_iff (c = d ∧ s = r ∧ l = m) (by simp [h])
            else isFalse fun e => h (by cases e; rfl)
      | _ => exact isFalse nofun
  | .foreign i f, o' => by
      cases o' with
      | foreign j g => exact decidable_of_iff (i = j ∧ f = g) (by simp)
      | _ => exact isFalse nofun
  | .mirror i o, o' => by
      cases o' with
      | mirror j p =>
          have := withPtrEqDecEq o p fun _ => o.decEq p
          exact decidable_of_iff (i = j ∧ o = p) (by simp)
      | _ => exact isFalse nofun
  | .host i c, o' => by
      cases o' with
      | host j d => exact decidable_of_iff (i = j ∧ c = d) (by simp)
      | _ => exact isFalse nofun
  | .proxy i m v, o' => by
      cases o' with
      | proxy j n w =>
          have := v.decEq w
          exact decidable_of_iff (i = j ∧ m = n ∧ v = w) (by simp)
      | _ => exact isFalse nofun
  | .methodRef i c m s, o' => by
      cases o' with
      | methodRef j d n t => exact decidable_of_iff (i = j ∧ c = d ∧ m = n ∧ s = t) (by simp)
      | _ => exact isFalse nofun
  | .staticClass i c, o' => by
      cases o' with
      | staticClass j d => exact decidable_of_iff (i = j ∧ c = d) (by simp)
      | _ => exact isFalse nofun
  | .superAdapter i v, o' => by
      cases o' with
      | superAdapter j w =>
          have := v.decEq w
          exact decidable_of_iff (i = j ∧ v = w) (by simp)
      | _ => exact isFalse nofun

/-- Equality of lists of values is decidable. -/
def Value.decEqList : (l m : List Value) → Decidable (l = m)
  | [], [] => isTrue rfl
  | v :: l, w :: m =>
      have := v.decEq w
      have := Value.decEqList l m
      decidable_of_iff (v = w ∧ l = m) (by simp)
  | [], _ :: _ => isFalse nofun
  | _ :: _, [] => isFalse nofun

end

instance : DecidableEq Value := Value.decEq

instance : DecidableEq Object := fun o o' => withPtrEqDecEq o o' fun _ => o.decEq o'

namespace Object

/-- The identity of an object. -/
def id : Object → Nat
  | .ordinary i => i
  | .function i _ => i
  | .boundFunction i _ _ _ _ => i
  | .bound i _ _ _ => i
  | .foreign i _ => i
  | .mirror i _ => i
  | .host i _ => i
  | .proxy i _ _ => i
  | .methodRef i _ _ _ => i
  | .staticClass i _ => i
  | .superAdapter i _ => i

/-- The name of the kind of an object. -/
def kindName : Object → String
  | .ordinary _ => "ScriptObject"
  | .function _ _ => "ScriptFunction"
  | .boundFunction _ _ _ _ _ => "ScriptFunction"
  | .bound _ _ _ _ => "BoundCallable"
  | .foreign _ _ => "ForeignObject"
  | .mirror _ _ => "ForeignObject"
  | .host _ _ => "HostObject"
  | .proxy _ _ _ => "HostObject"
  | .methodRef _ _ _ _ => "DynamicMethod"
  | .staticClass _ _ => "StaticClass"
  | .superAdapter _ _ => "SuperAdapter"

/-- Is the object a script function, bound or not? -/
def isScriptFunction : Object → Bool
  | .function _ _ | .boundFunction _ _ _ _ _ => true
  | _ => false

/-- Has the object properties and a prototype of the script language? -/
def isScript : Object → Bool
  | .ordinary _ => true
  | o => o.isScriptFunction

/-- The class of an instance of a host class. -/
def hostClass? : Object → Option HostClass
  | .host _ c => some c
  | .proxy i m _ => some (HostClass.proxy i m)
  | _ => none

/-- Is the object foreign, and of which bridge?  Mirrors belong to the generic bridge. -/
def bridge? : Object → Option BridgeKind
  | .foreign _ f => some f.bridge
  | .mirror _ _ => some .generic
  | _ => none

/-- The code that a script function runs in the end. -/
def code? : Object → Option FunctionCode
  | .function _ c => some c
  | .boundFunction _ _ c _ _ => some c
  | _ => none

/-- The name of a script function; that of a bound one tells so. -/
def functionName? : Object → Option String
  | .function _ c => some c.name
  | .boundFunction _ _ c _ _ => some ("bound " ++ c.name)
  | _ => none

end Object

namespace Value

/-- Is the value primitive? -/
def isPrimitive : Value → Bool
  | .primitive _ => true
  | .object _ => false

/-- Is the value `undefined` or `null`? -/
def isNullish : Value → Bool
  | .primitive p => p.isNullish
  | .object _ => false

/-- The object that a value is. -/
def object? : Value → Option Object
  | .primitive _ => none
  | .object o => some o

/-- The object that a value is, if it has properties and a prototype of the script language. -/
def script? (v : Value) : Option Object :=
  v.object?.filter Object.isScript

/-- The class of the instance that a value is. -/
def hostClass? (v : Value) : Option HostClass :=
  v.object?.bind Object.hostClass?

/-- Equality as the language sees it: primitive values by their contents, objects by being the
same. -/
def equals : Value → Value → Bool
  | .primitive p, .primitive q => p.equals q
  | .object o, .object o' => o = o'
  | _, _ => false

/-- Argument `i` of a call, `undefined` if absent. -/
def argument (args : List Value) (i : Nat) : Value :=
  args[i]?.getD .undefined

end Value

end DynamicLinking
