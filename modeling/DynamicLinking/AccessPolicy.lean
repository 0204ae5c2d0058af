/-
Whether scripts may reach a restricted host class is decided by a policy, from the name of the
class and from whether the class itself or one of its instances is reached.

* `AccessPolicy` — a policy, with the ones that grant everything and nothing;
* `AccessPolicy.denying` — the policy that denies the classes of a list;
* `AccessPolicy.check` — what a policy says of a class: ordinary classes always pass;
* `AccessPolicy.checkCallee` — what a policy says of the class that a callable ends up in;
* `PolicyRef` — a policy, or the name of one that may be replaced later.
-/

import DynamicLinking.Value

set_option autoImplicit false

namespace DynamicLinking

/-- A policy: does it permit access to the class of a name, statically or not? -/
structure AccessPolicy where
  /-- Is access to the named class permitted, statically or to an instance? -/
  permits : (className : String) → (isStatic : Bool) → Bool

namespace AccessPolicy

/-- The policy that grants every access. -/
def permitAll : AccessPolicy := ⟨fun _ _ => true⟩

/-- The policy that denies every access. -/
def denyAll : AccessPolicy := ⟨fun _ _ => false⟩

/-- The policy that denies what a list names: a class, all classes by an asterisk, or the static
access to a class. -/
def denying (names : List String) : AccessPolicy :=
  ⟨fun c isStatic =>
    !(names.contains c || names.contains "*" || (isStatic && names.contains ("static:" ++ c)))⟩

/-- Access to a class: an error if the class is restricted and the policy denies it. -/
def check (p : AccessPolicy) (c : HostClass) (isStatic : Bool) : Except ScriptError Unit :=
  if c.isRestricted && !p.permits c.name isStatic then
    .error (.accessDenied c.category c.name)
  else .ok ()

/-- Access to the class that a call of a value ends up in.  Bound callables are looked through, and
script and foreign functions are never restricted. -/
def checkCallee (p : AccessPolicy) : Value → Except ScriptError Unit
  | .object (.bound _ callee _ _) => checkCallee p callee
  | .object (.host _ c) => p.check c false
  | .object (.proxy i m _) => p.check (HostClass.proxy i m) false
  | .object (.staticClass _ c) => p.check c true
  | .object (.methodRef _ c _ isStatic) => p.check c isStatic
  | _ => .ok ()

end AccessPolicy

/-- A policy, or the name of one that may be replaced later. -/
inductive PolicyRef where
  | fixed (policy : AccessPolicy)
  /-- The policy that is stored under a name. -/
  | named (name : String)

end DynamicLinking
