/-
How requests about foreign objects, host objects, method references and host classes as values are
linked.

* `LinkRequest.linkForeign` — every operation goes through the bridge;
* `LinkRequest.checkReflection` — denies restricted classes that the policy does not grant;
* `LinkRequest.linkStaticClass?` — construction and static members;
* `LinkRequest.linkBean?` — host objects and method references, by their class.
-/

import DynamicLinking.Adaptation
import DynamicLinking.Invocation.Eval
import DynamicLinking.Linker.Missing

set_option autoImplicit false

namespace DynamicLinking

namespace LinkRequest

/-- The candidate for an operation on a foreign object. -/
def linkForeign (r : LinkRequest) : Candidate :=
  let d := r.descriptor
  let code :=
    match d.operation with
    | .getProperty | .getElement | .getMethod => Code.foreignGet d
    | .setProperty | .setElement => .foreignSet d
    | .call => .foreignCall d
    | .new => .foreignNew d
  Candidate.guarded ⟨r.genericSignature .object, code⟩ (Guard.receiverType r.receiver)

/-- Checks access to the class that a host object, a method reference or a class as a value stands
for. -/
def checkReflection (r : LinkRequest) (p : AccessPolicy) : Except ScriptError Unit :=
  match r.receiver with
  | .object (.staticClass _ c) => p.check c true
  | .object (.methodRef _ c _ isStatic) => p.check c isStatic
  | v =>
      match v.hostClass? with
      | some c => p.check c false
      | none => .ok ()

/-! ### Classes as values -/

/-- The invocation that reads a fixed static member: a property before a method. -/
def staticGet? (r : LinkRequest) (c : HostClass) (name : String) :
    StoreM (Option Invocation) :=
  match c.findStaticProperty? name with
  | some p =>
      pure (some ⟨r.genericSignature p.getter.signature.result, .staticGetter p.getter⟩)
  | none =>
      if (c.findStaticMethod? name).isSome then do
        return some ⟨r.genericSignature .object, .constant (← newMethodRef c name true)⟩
      else pure none

/-- The invocation for an operation on a class as a value. -/
def staticInvocation? (r : LinkRequest) (services : Services) (c : HostClass) :
    StoreM (Option Invocation) :=
  let d := r.descriptor
  match d.operation with
  | .call | .new => pure (some (services.hideScripts ⟨r.genericSignature .object, .callable d⟩))
  | .getProperty | .getElement | .getMethod =>
      match d.name? with
      | some n => r.staticGet? c n
      | none => pure (some ⟨r.genericSignature .object, .staticMember c d⟩)
  | .setProperty | .setElement =>
      pure <| ((d.name?.bind c.findStaticProperty?).bind HostProperty.setter?).map fun m =>
        ⟨r.genericSignature .object, .staticSetter m d⟩

/-- The candidate for an operation on a class as a value. -/
def linkStaticClass? (r : LinkRequest) (services : Services) : StoreM (Option Candidate) :=
  match r.receiver with
  | .object (.staticClass _ c) => do
      return (← r.staticInvocation? services c).map fun i =>
        Candidate.guarded i (.staticClass c)
  | _ => pure none

/-! ### Host objects and method references -/

/-- The code of a call of the single abstract method of an instance.  Calls of an instance that
stands for a callable end up in that callable, even where another receiver gets past the guard. -/
def functionalCode (r : LinkRequest) (m : HostMethod) : Code :=
  match r.receiver with
  | .object (.proxy _ _ _) => .proxyCall m r.receiver r.descriptor
  | _ => .hostCall m r.descriptor

/-- The invocation for an operation on an instance; nothing if the class has no such member. -/
def beanInvocation? (r : LinkRequest) (c : HostClass) : StoreM (Option Invocation) :=
  let d := r.descriptor
  match d.operation, d.name? with
  | .call, _ =>
      pure <| c.functionalMethod?.map fun m =>
        ⟨r.genericSignature m.signature.result, r.functionalCode m⟩
  | .new, _ => pure none
  | .getProperty, some n | .getElement, some n | .getMethod, some n =>
      match c.member? n (d.operation == .getMethod) with
      | some (.property m) => pure (some ⟨r.genericSignature m.signature.result, .hostGetter m⟩)
      | some .method => do
          return some ⟨r.genericSignature .object, .constant (← newMethodRef c n false)⟩
      | none => pure none
  | .setProperty, some n | .setElement, some n =>
      pure <| ((c.findProperty? n).bind HostProperty.setter?).map fun m =>
        ⟨r.genericSignature m.signature.result, .hostSetter m d⟩
  | _, none => pure (some ⟨r.genericSignature .object, .hostMember c d⟩)

/-- The candidate for calling a method reference.  The declared type of the result only holds as
long as the callee is fixed. -/
def linkMethodRef (r : LinkRequest) (services : Services) (c : HostClass) (name : String)
    (isStatic : Bool) : Candidate :=
  let method? := if isStatic then c.findStaticMethod? name else c.findMethod? name
  let (result, guard) :=
    match r.isUnstable, method? with
    | false, some m => (m.signature.result, Guard.receiverIdentity r.receiver)
    | _, _ => (.object, Guard.receiverType r.receiver)
  Candidate.guarded
    (services.hideScripts ⟨r.genericSignature result, .methodCall r.descriptor⟩) guard

/-- The candidate for a missing member, unless those are left to others. -/
def beanMissing? (r : LinkRequest) (isExposed : Bool) : Option Candidate :=
  if isExposed then none else r.linkMissing?

/-- The candidate for an operation on an instance or on a method reference. -/
def linkBean? (r : LinkRequest) (services : Services) (isExposed : Bool) :
    StoreM (Option Candidate) :=
  match r.receiver with
  | .object (.methodRef _ c m isStatic) =>
      if r.descriptor.operation = .call then pure (some (r.linkMethodRef services c m isStatic))
      else pure (r.beanMissing? isExposed)
  | v =>
      match v.hostClass? with
      | none => pure none
      | some c => do
          match ← r.beanInvocation? c with
          | some i =>
              return some (Candidate.guarded (services.hideScripts i) (Guard.receiverType v))
          | none => return r.beanMissing? isExposed

end LinkRequest

end DynamicLinking
