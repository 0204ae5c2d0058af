/-
The static types of the parameters and of the result of a call site or of an invocation.

* `Signature.generic` — the signature whose types are all `object`;
* `Signature.text` — the written form, `(Object,int)Boolean`;
* `Mismatch` — why something of one signature cannot stand in for another.
-/

import DynamicLinking.StaticType

set_option autoImplicit false

namespace DynamicLinking

/-- The types of the parameters and of the result. -/
structure Signature where
  params : List StaticType
  result : StaticType
  deriving DecidableEq, Repr

namespace Signature

/-- The signature with `arity` parameters whose types, and that of the result, are `object`. -/
def generic (arity : Nat) : Signature :=
  ⟨List.replicate arity .object, .object⟩

/-- The number of parameters. -/
def arity (s : Signature) : Nat :=
  s.params.length

/-- The signature with another result. -/
def withResult (s : Signature) (t : StaticType) : Signature :=
  { s with result := t }

/-- The signature with other parameters. -/
def withParams (s : Signature) (ps : List StaticType) : Signature :=
  { s with params := ps }

/-- The written form of a signature. -/
def text (s : Signature) : String :=
  "(" ++ String.intercalate "," (s.params.map StaticType.text) ++ ")" ++ s.result.text

@[simp] theorem arity_generic (n : Nat) : (generic n).arity = n := by
  simp [generic, arity]

@[simp] theorem arity_withResult (s : Signature) (t : StaticType) :
    (s.withResult t).arity = s.arity := rfl

end Signature

/-- Why an invocation cannot get other static types. -/
inductive Mismatch where
  /-- One signature has no conversion to the other. -/
  | signatures (actual wanted : Signature)
  /-- A boxed result does not widen to a primitive type. -/
  | results (actual wanted : StaticType)
  deriving DecidableEq, Repr

/-- The report of a mismatch. -/
def Mismatch.message : Mismatch → String
  | .signatures a b => "can not adapt " ++ a.text ++ " to " ++ b.text
  | .results a b => "return type " ++ a.text ++ " can not be narrowed to " ++ b.text

end DynamicLinking
