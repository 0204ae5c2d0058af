/-
How requests about script objects, strings and other primitive values, bound callables and super
adapters are linked.

* `LinkRequest.linkScript?` — script objects and functions; a property that is absent links to
  `undefined` for this object and these layouts;
* `LinkRequest.linkPrimitive?` — primitive values;
* `LinkRequest.linkBound?`, `LinkRequest.linkSuper?` — bound callables and super adapters, if the
  policy grants access.
-/

import DynamicLinking.Linker.Missing
import DynamicLinking.ScriptObject

set_option autoImplicit false

namespace DynamicLinking

namespace LinkRequest

/-- The guard of a call: the identity of the callee, or its type once the site is unstable. -/
def calleeGuard (r : LinkRequest) : Guard :=
  if r.isUnstable then Guard.receiverType r.receiver else Guard.receiverIdentity r.receiver

/-- A candidate whose types are all `object`, guarded by the type of the receiver. -/
def byType (r : LinkRequest) (c : Code) : Candidate :=
  Candidate.guarded ⟨r.genericSignature .object, c⟩ (Guard.receiverType r.receiver)

/-- The candidate for reading a property of a script object.  If the name is fixed and absent, the
answer is `undefined` for this object until a layout changes. -/
def linkScriptGet (r : LinkRequest) (s : Store) (o : Object) : Candidate :=
  if r.descriptor.name?.any fun n => !s.hasProperty o n then
    (Candidate.guarded ⟨r.genericSignature .object, .constant .undefined⟩
      (Guard.receiverIdentity r.receiver)).withSwitchPoints (s.layoutPoints o)
  else r.byType (.scriptGet r.descriptor)

/-- The candidate for an operation on a script object. -/
def linkScript? (r : LinkRequest) (s : Store) : Option Candidate :=
  match r.receiver.script? with
  | none => none
  | some o =>
      match r.descriptor.operation with
      | .getProperty | .getElement | .getMethod => some (r.linkScriptGet s o)
      | .setProperty | .setElement => some (r.byType (.scriptSet r.descriptor))
      | .call | .new =>
          if o.isScriptFunction then
            some (Candidate.guarded ⟨r.genericSignature .object, .callable r.descriptor⟩
              r.calleeGuard)
          else none

/-- The candidate for an operation on a primitive value.  Strings have a length and units, all
other reads give `undefined`, and writes are dropped or refused. -/
def linkPrimitive? (r : LinkRequest) : Option Candidate :=
  match r.descriptor.operation with
  | .getProperty | .getElement | .getMethod =>
      match r.receiver with
      | .string _ => some (r.byType (.stringGet r.descriptor))
      | _ => some (r.byType (.constant .undefined))
  | .setProperty | .setElement =>
      if r.descriptor.isStrict then some (r.byType (.primitiveSet r.descriptor))
      else some (r.byType (.constant .undefined))
  | .call | .new => none

/-- The candidate for calling or constructing a bound callable, if the policy grants access to
the class behind it. -/
def linkBound? (r : LinkRequest) (p : PolicyRef) (s : Store) :
    Except ScriptError (Option Candidate) :=
  match r.descriptor.operation with
  | .call | .new => do
      (s.policy p).checkCallee r.receiver
      return some (Candidate.guarded
        ⟨r.genericSignature .object, .checkedCallable r.descriptor p⟩ r.calleeGuard)
  | _ => .ok none

/-- The candidate for reading a method through a super adapter, if the policy grants access to
the class behind it. -/
def linkSuper? (r : LinkRequest) (p : PolicyRef) (s : Store) :
    Except ScriptError (Option Candidate) :=
  if r.descriptor.operation ≠ .getMethod then .ok none
  else do
    match r.receiver with
    | .object (.superAdapter _ a) => (s.policy p).checkCallee a
    | _ => pure ()
    return some (r.byType (.superGet r.descriptor p))

end LinkRequest

end DynamicLinking
