/-
A static type has the values that need no conversion; every other value is converted by the rules
of the language.  A callable becomes functional by way of an object whose only method calls it.

* `StaticType.admits` — the values of a type;
* `functionalProxy` — the object that stands for a callable;
* `convertValue`, `convertArguments` — conversion of a value, and of arguments to parameters.
-/

import DynamicLinking.Coercion

set_option autoImplicit false

namespace DynamicLinking

namespace StaticType

/-- Is the value one of a primitive type, of `void` or of `string`? -/
def admitsPrimitive : StaticType → Primitive → Bool
  | .void, .undefined => true
  | .boolean, .boolean _ => true
  | .int, .number (.integer i) => inInt32 i.toInt
  | .long, .number (.integer _) => true
  | .double, .number _ => true
  | .string, .string _ => true
  | _, _ => false

/-- Is the value one of a type as it is?  A boxed type has `null` and the values in the box; a
functional type has the instances whose single method has the right name. -/
def admits (t : StaticType) (v : Value) : Bool :=
  match t with
  | .object => true
  | .functional m => (v.hostClass?.bind HostClass.functionalName?) == some m
  | t =>
      match v with
      | .primitive .null => t.isBoxed
      | .primitive p => (t.unboxed?.getD t).admitsPrimitive p
      | .object _ => false

end StaticType

/-- A new object whose only method calls the given callable. -/
def functionalProxy (v : Value) (method : String) : StoreM Value :=
  if v.isCallable then do
    return .object (.proxy (← freshId) method v)
  else fail (.notFunctional v.text method)

/-- Converts a value to a primitive type. -/
def convertToPrimitive (v : Value) : StaticType → RunM Value
  | .boolean => pure (.boolean v.isTruthy)
  | .int => do return .number (.ofInt32 (← toNumber v).toInt32)
  | .long => do return .number (.integer (← toNumber v).toInt64)
  | .double => do return .number (.normalize (← toNumber v).toBinary64)
  | _ => pure v

/-- Converts a value to a type.  A value of the type stays as it is. -/
def convertValue (v : Value) (t : StaticType) : RunM Value :=
  if t.admits v then pure v
  else
    match t with
    | .object => pure v
    | .void => pure .undefined
    | .string => do return .string (← toText v)
    | .functional m => functionalProxy v m
    | .boxedBoolean | .boxedInt | .boxedLong | .boxedDouble =>
        if v = .undefined then pure .null else convertToPrimitive v (t.unboxed?.getD t)
    | t => convertToPrimitive v t

/-- Converts arguments to parameters, one after another.  Missing arguments are `undefined`, and
arguments without a parameter stay as they are. -/
def convertArguments : List StaticType → List Value → RunM (List Value)
  | [], args => pure args
  | t :: ts, args => do
      let v ← convertValue (args.head?.getD .undefined) t
      return v :: (← convertArguments ts args.tail)

end DynamicLinking
