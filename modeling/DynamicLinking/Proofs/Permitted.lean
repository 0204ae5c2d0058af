/-
Where every access is granted the default chain never fails to choose, and what it chooses depends
on the store in two ways only: on the properties of a script object, and on the next identity, which
goes to a new method reference.

Main definitions:

* `Lookup` — a search for a member, which finds what it finds in any store;
* `LinkRequest.instanceCandidate`, `LinkRequest.staticCandidate` — the candidates that run what a
  search finds.

Main results:

* `LinkRequest.chosen_primitive`, …, `LinkRequest.chosen_staticClass` — **what is chosen for each
  kind of receiver**.
-/

import DynamicLinking.Proofs.MethodReferences

set_option autoImplicit false

namespace DynamicLinking

/-! ### Members -/

/-- The search finds what it finds in any store; only a method reference is made anew. -/
inductive Lookup : StoreM (Option Invocation) → Prop where
  | found (i? : Option Invocation) : Lookup (pure i?)
  | methodRef {sig : Signature} (h : sig.result = .object) (c : HostClass) (m : String)
      (isStatic : Bool) : Lookup do return some ⟨sig, .constant (← newMethodRef c m isStatic)⟩

namespace LinkRequest

variable {r r' : LinkRequest} {services : Services}

theorem lookup_beanInvocation (r : LinkRequest) (c : HostClass) : Lookup (r.beanInvocation? c) := by
  unfold beanInvocation?
  dsimp only
  split
  · exact .found _
  · exact .found _
  all_goals first
    | exact .found _
    | (split
       · exact .found _
       · exact .methodRef rfl _ _ _
       · exact .found _)

theorem lookup_staticInvocation (r : LinkRequest) (services : Services) (c : HostClass) :
    Lookup (r.staticInvocation? services c) := by
  have hget (n : String) : Lookup (r.staticGet? c n) := by
    unfold staticGet?
    split
    · exact .found _
    · split
      · exact .methodRef rfl _ _ _
      · exact .found _
  unfold staticInvocation?
  dsimp only
  cases r.descriptor.operation with
  | call | new => exact .found _
  | getProperty | getElement | getMethod =>
      dsimp only
      split
      · exact hget _
      · exact .found _
  | setProperty | setElement => exact .found _

/-- What an instance has for an operation depends on what is asked for, not on the call. -/
theorem beanInvocation_congr (hd : r.descriptor = r'.descriptor)
    (hf : ∀ m, r.functionalCode m = r'.functionalCode m) (c : HostClass) :
    r.beanInvocation? c = r'.beanInvocation? c := by
  unfold beanInvocation? genericSignature
  rw [hd]
  simp only [hf]

theorem staticInvocation_congr (hd : r.descriptor = r'.descriptor) (services : Services)
    (c : HostClass) : r.staticInvocation? services c = r'.staticInvocation? services c := by
  unfold staticInvocation? staticGet? genericSignature
  rw [hd]

end LinkRequest

/-! ### What is chosen -/

theorem AccessPolicy.check_permitAll (c : HostClass) (isStatic : Bool) :
    permitAll.check c isStatic = .ok () := by
  simp [check, permitAll]

theorem AccessPolicy.checkCallee_permitAll (v : Value) : permitAll.checkCallee v = .ok () := by
  rcases permitAll.checkCallee_cases v with hok | ⟨c, b, hcheck⟩
  · exact hok
  · rw [hcheck, check_permitAll]

/-- The policy that grants everything. -/
abbrev PolicyRef.permitAll : PolicyRef :=
  .fixed .permitAll

/-- Under it every callee passes. -/
theorem checkCallee_permitAll (v : Value) : checkCallee .permitAll v = pure () := by
  funext s
  rw [checkCallee, StoreM.get_bind, Store.policy_fixed, AccessPolicy.checkCallee_permitAll]
  rfl

namespace LinkRequest

variable {r : LinkRequest} {p : PolicyRef} {s : Store}

theorem chosen_primitive {q : Primitive} (hr : r.receiver = .primitive q) :
    r.chosen p s =
      .ok (if q.isNullish then r.missing else r.linkPrimitive?.getD r.missing) s := by
  rw [chosen_eq_primitive hr]
  rfl

theorem chosen_foreign {o : Object} {k : BridgeKind} (hr : r.receiver = .object o)
    (ho : o.bridge? = some k) : r.chosen p s = .ok r.linkForeign s := by
  rw [chosen_eq_foreign hr ho]
  rfl

theorem chosen_script {o : Object} (hr : r.receiver = .object o) (ho : o.isScript = true) :
    r.chosen p s = .ok ((r.linkScript? s).getD r.missing) s := by
  rw [chosen_eq_script hr ho]
  rfl

theorem chosen_bound {i : Nat} {f a : Value} {l : List Value}
    (hr : r.receiver = .object (.bound i f a l)) :
    r.chosen .permitAll s =
      .ok (if r.descriptor.operation = .call ∨ r.descriptor.operation = .new then
        Candidate.guarded ⟨r.genericSignature .object, .checkedCallable r.descriptor .permitAll⟩
          r.calleeGuard
        else r.missing) s := by
  have hpolicy : (s.policy .permitAll).checkCallee r.receiver = .ok () :=
    AccessPolicy.checkCallee_permitAll _
  rw [chosen_apply_bound hr, hpolicy]
  split <;> rfl

theorem chosen_superAdapter {i : Nat} {a : Value}
    (hr : r.receiver = .object (.superAdapter i a)) :
    r.chosen .permitAll s =
      .ok (if r.descriptor.operation = .getMethod then
        r.byType (.superGet r.descriptor .permitAll) else r.missing) s := by
  have hpolicy : (s.policy .permitAll).checkCallee a = .ok () :=
    AccessPolicy.checkCallee_permitAll _
  rw [chosen_apply_superAdapter hr, hpolicy]
  split <;> rfl

theorem chosen_methodRef {i : Nat} {c : HostClass} {m : String} {isStatic : Bool}
    (hr : r.receiver = .object (.methodRef i c m isStatic)) :
    r.chosen .permitAll s =
      .ok (if r.descriptor.operation = .call then
        r.linkMethodRef { policy := .permitAll } c m isStatic else r.missing) s := by
  rw [chosen_eq_methodRef hr, StoreM.get_bind, Store.policy_fixed, AccessPolicy.check_permitAll]
  rfl

/-- The candidate that runs what an instance has for an operation. -/
def instanceCandidate (r : LinkRequest) (p : PolicyRef) (i? : Option Invocation) : Candidate :=
  (i?.map fun i => Candidate.guarded (Services.hideScripts { policy := p } i)
    (Guard.receiverType r.receiver)).getD r.missing

theorem eval_instanceCandidate (r : LinkRequest) (p : PolicyRef) (i : Invocation)
    (args : List Value) :
    (r.instanceCandidate p (some i)).invocation.eval args =
      (Services.hideScripts { policy := p } i).eval args := rfl

/-- The candidate that runs what a class as a value has for an operation. -/
def staticCandidate (r : LinkRequest) (c : HostClass) (i? : Option Invocation) : Candidate :=
  (i?.map fun i => Candidate.guarded i (.staticClass c)).getD r.missing

theorem chosen_host {o : Object} {c : HostClass} (hr : r.receiver = .object o)
    (ho : o.hostClass? = some c) :
    r.chosen .permitAll s = (r.instanceCandidate .permitAll <$> r.beanInvocation? c) s := by
  rw [chosen_eq_host hr ho, chosenMember, StoreM.get_bind, Store.policy_fixed,
    AccessPolicy.check_permitAll, map_eq_pure_bind]
  rfl

theorem chosen_staticClass {i : Nat} {c : HostClass}
    (hr : r.receiver = .object (.staticClass i c)) :
    r.chosen .permitAll s =
      (r.staticCandidate c <$> r.staticInvocation? { policy := .permitAll } c) s := by
  rw [chosen_eq_staticClass hr, StoreM.get_bind, Store.policy_fixed,
    AccessPolicy.check_permitAll, map_eq_pure_bind]
  rfl

end LinkRequest

end DynamicLinking
