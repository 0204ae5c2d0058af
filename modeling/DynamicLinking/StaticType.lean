/-
A parameter or the result of a call site has a static type: a primitive type, the boxed form of
one, or one of the reference types.  A functional type is a host type with a single method, known
by the name of that method.

Main definitions:

* `StaticType` — the types;
* `StaticType.unboxed?`, `StaticType.boxed?` — the passage between a primitive type and its box;
* `StaticType.widensTo` — identity and widening of primitive types;
* `StaticType.convertsTo` — is there a conversion at all;
* `StaticType.text`, `StaticType.ofName?` — the written form.
-/

set_option autoImplicit false

namespace DynamicLinking

/-- The static type of a parameter or of a result.  A boxed type has the value `null` besides the
values of its primitive type. -/
inductive StaticType where
  | void
  | boolean
  | int
  | long
  | double
  | boxedBoolean
  | boxedInt
  | boxedLong
  | boxedDouble
  | string
  | object
  /-- A host type whose only method has the given name. -/
  | functional (method : String)
  deriving DecidableEq, Repr

namespace StaticType

/-- Is the type primitive? -/
def isPrimitive : StaticType → Bool
  | .boolean | .int | .long | .double => true
  | _ => false

/-- Is the type boxed? -/
def isBoxed : StaticType → Bool
  | .boxedBoolean | .boxedInt | .boxedLong | .boxedDouble => true
  | _ => false

/-- Is the type functional? -/
def isFunctional : StaticType → Bool
  | .functional _ => true
  | _ => false

/-- The primitive type in a box. -/
def unboxed? : StaticType → Option StaticType
  | .boxedBoolean => some .boolean
  | .boxedInt => some .int
  | .boxedLong => some .long
  | .boxedDouble => some .double
  | _ => none

/-- The box of a primitive type. -/
def boxed? : StaticType → Option StaticType
  | .boolean => some .boxedBoolean
  | .int => some .boxedInt
  | .long => some .boxedLong
  | .double => some .boxedDouble
  | _ => none

/-- Is a value of type `a` one of type `b`, as it is or by widening a number? -/
def widensTo (a b : StaticType) : Bool :=
  a == b ||
    match a, b with
    | .int, .long | .int, .double | .long, .double => true
    | _, _ => false

/-- Is there a conversion from `a` to `b`?  Script values convert to every type, but only a value
of type `object` can become functional, and a functional value converts only to `object`. -/
def convertsTo (a b : StaticType) : Bool :=
  a == b ||
    match b with
    | .functional _ => a == .object
    | _ => !a.isFunctional || b == .object

/-- The written form of a type. -/
def text : StaticType → String
  | .void => "void"
  | .boolean => "boolean"
  | .int => "int"
  | .long => "long"
  | .double => "double"
  | .boxedBoolean => "Boolean"
  | .boxedInt => "Integer"
  | .boxedLong => "Long"
  | .boxedDouble => "Double"
  | .string => "String"
  | .object => "Object"
  | .functional m => "@" ++ m

/-- The types that have a name. -/
def named : List StaticType :=
  [.void, .boolean, .int, .long, .double, .boxedBoolean, .boxedInt, .boxedLong, .boxedDouble,
   .string, .object]

/-- The type with a name. -/
def ofName? (name : String) : Option StaticType :=
  named.find? fun t => t.text == name

theorem isBoxed_iff_unboxed? (t : StaticType) : t.isBoxed = true ↔ t.unboxed?.isSome = true := by
  cases t <;> simp [isBoxed, unboxed?]

theorem unboxed?_boxed? {t b : StaticType} (h : t.boxed? = some b) : b.unboxed? = some t := by
  cases t <;> simp [boxed?] at h <;> subst h <;> rfl

theorem widensTo_refl (t : StaticType) : t.widensTo t = true := by
  simp [widensTo]

theorem convertsTo_refl (t : StaticType) : t.convertsTo t = true := by
  simp [convertsTo]

end StaticType

end DynamicLinking
