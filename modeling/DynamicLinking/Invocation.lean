/-
A linker answers with a candidate: something that can be run on the arguments of the call site, the
guard under which it may be run again, and the switch points that must not have been thrown in the
meantime.  All three are data, so that a call site can keep them and a reader can look into them.

Main definitions:

* `Code` — what an invocation does, built up from the operations of the linkers by filters on the
  arguments and on the result;
* `Invocation` — code with its static types;
* `Guard`, `Guard.test` — conditions on the arguments;
* `SwitchPoint` — an assumption that can be revoked, once and for all;
* `Candidate` — the answer of a linker.
-/

import DynamicLinking.AccessPolicy
import DynamicLinking.Descriptor
import DynamicLinking.Value.Display
import DynamicLinking.Value.RuntimeType

set_option autoImplicit false

namespace DynamicLinking

/-! ### Code -/

/-- What is done to the result of an invocation. -/
inductive ResultFilter where
  | convert (type : StaticType)
  /-- Casts it to a primitive type, `null` becoming zero or `false`. -/
  | narrow (type : StaticType)
  | drop
  /-- Gives a script object back for its mirror. -/
  | unwrapMirror
  /-- Fails unless it is a number of the type. -/
  | requireFit (type : StaticType) (programPoint : Nat)
  /-- Replaces it by a text that tells its kind, after a label. -/
  | label (text : String)

/-- What is done to the arguments of an invocation. -/
inductive ArgumentFilter where
  | convert (types : List StaticType)
  /-- Puts mirrors in the place of script objects. -/
  | wrapScripts

/-- What an invocation does with the arguments of a call site. -/
inductive Code where
  | constant (v : Value)
  | failing (e : ScriptError)
  /-- Runs user code with argument 0 as its receiver. -/
  | run (body : Body)
  /-- Calls or constructs argument 0. -/
  | callable (d : Descriptor)
  /-- Calls or constructs argument 0 if the policy grants access to the class behind it. -/
  | checkedCallable (d : Descriptor) (policy : PolicyRef)
  | scriptGet (d : Descriptor)
  | scriptSet (d : Descriptor)
  | stringGet (d : Descriptor)
  /-- Refuses to write a member of a primitive value. -/
  | primitiveSet (d : Descriptor)
  /-- Reads an overridden method through a super adapter. -/
  | superGet (d : Descriptor) (policy : PolicyRef)
  | foreignGet (d : Descriptor)
  | foreignSet (d : Descriptor)
  | foreignCall (d : Descriptor)
  | foreignNew (d : Descriptor)
  | staticGetter (getter : HostMethod)
  | staticSetter (setter : HostMethod) (d : Descriptor)
  /-- Reads the static member that an argument names. -/
  | staticMember (cls : HostClass) (d : Descriptor)
  | hostGetter (getter : HostMethod)
  | hostSetter (setter : HostMethod) (d : Descriptor)
  /-- Calls the single method of a host object. -/
  | hostCall (method : HostMethod) (d : Descriptor)
  /-- Calls the callable that a functional object stands for, whatever argument 0 is. -/
  | proxyCall (method : HostMethod) (proxy : Value) (d : Descriptor)
  /-- Reads or writes the member of a host object that an argument names. -/
  | hostMember (cls : HostClass) (d : Descriptor)
  | methodCall (d : Descriptor)
  /-- Writes a member that no linker knows. -/
  | missingSet (d : Descriptor)
  /-- Calls a value that no linker can call. -/
  | missingCall
  /-- Fails because argument 0 is `undefined` or `null`. -/
  | nullish (d : Descriptor)
  | filterResult (code : Code) (filter : ResultFilter)
  | filterArguments (code : Code) (filter : ArgumentFilter)

/-- Code with its static types. -/
structure Invocation where
  signature : Signature
  code : Code

namespace Invocation

/-- The invocation with its result filtered, which gives the result another type. -/
def filterResult (i : Invocation) (t : StaticType) (f : ResultFilter) : Invocation :=
  ⟨i.signature.withResult t, .filterResult i.code f⟩

/-- The invocation with its arguments filtered, which gives the parameters other types. -/
def filterArguments (i : Invocation) (ps : List StaticType) (f : ArgumentFilter) : Invocation :=
  ⟨i.signature.withParams ps, .filterArguments i.code f⟩

/-- The text of an invocation in diagnostics. -/
def text (i : Invocation) : String :=
  "Invocation" ++ i.signature.text

@[simp] theorem signature_filterResult (i : Invocation) (t : StaticType) (f : ResultFilter) :
    (i.filterResult t f).signature = ⟨i.signature.params, t⟩ := rfl

@[simp] theorem signature_filterArguments (i : Invocation) (ps : List StaticType)
    (f : ArgumentFilter) : (i.filterArguments ps f).signature = ⟨ps, i.signature.result⟩ := rfl

end Invocation

/-! ### Guards -/

/-- A condition on the arguments of a call site. -/
inductive Guard where
  | type (position : Nat) (expected : RuntimeType)
  /-- The argument equals a value; objects have to be the same. -/
  | identity (position : Nat) (expected : Value)
  /-- Argument 0 is the given class as a value. -/
  | staticClass (cls : HostClass)
  | never
  | both (a b : Guard)

namespace Guard

/-- The guard that argument 0 has the type of a value. -/
def receiverType (v : Value) : Guard :=
  .type 0 v.runtimeType

/-- The guard that argument 0 equals a value. -/
def receiverIdentity (v : Value) : Guard :=
  .identity 0 v

/-- Does a value denote the given class? -/
def isStaticClass (cls : HostClass) : Value → Bool
  | .object (.staticClass _ c) => c == cls
  | _ => false

/-- Do arguments satisfy the guard? -/
def test : Guard → List Value → Bool
  | .type i t, args => (Value.argument args i).runtimeType == t
  | .identity i v, args => (Value.argument args i).equals v
  | .staticClass c, args => isStaticClass c (Value.argument args 0)
  | .never, _ => false
  | .both a b, args => a.test args && b.test args

/-- The text of a guard in diagnostics. -/
def text : Guard → String
  | .type i t => "type(#" ++ toString i ++ ") == " ++ t.text
  | .identity i v => "#" ++ toString i ++ " is " ++ v.diagnosticText
  | .staticClass _ => "predicate"
  | .never => "predicate"
  | .both a b => "(" ++ a.text ++ " && " ++ b.text ++ ")"

end Guard

/-! ### Candidates -/

/-- An assumption that can be revoked.  It is either thrown by hand, or thrown by the next change
to the layout of a script object, whose layouts are numbered. -/
inductive SwitchPoint where
  /-- A switch that is thrown by hand. -/
  | manual (id : Nat)
  /-- The layout of an object is still the one of a number. -/
  | layout (object version : Nat)
  deriving DecidableEq, Repr

/-- The answer of a linker.  Without a guard it holds for every call through the descriptor that
it was linked for. -/
structure Candidate where
  invocation : Invocation
  /-- When it may be run again. -/
  guard? : Option Guard := none
  /-- The assumptions it rests on. -/
  switchPoints : List SwitchPoint := []

namespace Candidate

/-- A guarded candidate. -/
def guarded (i : Invocation) (g : Guard) : Candidate :=
  { invocation := i, guard? := some g }

/-- The candidate with further assumptions. -/
def withSwitchPoints (c : Candidate) (ps : List SwitchPoint) : Candidate :=
  { c with switchPoints := c.switchPoints ++ ps }

/-- The candidate with its invocation changed. -/
def mapInvocation (c : Candidate) (f : Invocation → Invocation) : Candidate :=
  { c with invocation := f c.invocation }

/-- Do arguments satisfy the guard of the candidate, if it has one? -/
def admits (c : Candidate) (args : List Value) : Bool :=
  match c.guard? with
  | some g => g.test args
  | none => true

end Candidate

end DynamicLinking
