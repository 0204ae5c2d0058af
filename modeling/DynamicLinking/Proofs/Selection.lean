/-
The default chain asks its linkers in turn, but only those that handle the receiver.  For every kind
of receiver these are few: the check of restricted classes, one linker of the kind, and the last
linker, which has a candidate for every missing member.  So the outcome of the search is known in
closed form.

Main definitions:

* `LinkerChain.IsDefault` — a chain of the default linkers, with nothing contributed to them;
* `LinkRequest.chosen` — **the candidate for a request, by the kind of the receiver**.

Main results:

* `LinkRequest.chosen_eq_primitive`, …, `LinkRequest.chosen_eq_host` — what is chosen for each kind
  of receiver;
* `firstCandidate_filter` — linkers that do not handle the receiver make no difference;
* `LinkRequest.first_eq` — the search among the linkers for a receiver finds what is chosen;
* `LinkerChain.IsDefault.select_eq` — **the default chain selects what is chosen**.
-/

import DynamicLinking.Proofs.RunEvolution

set_option autoImplicit false

namespace DynamicLinking

/-! ### The default chain -/

/-- A chain of the default linkers, with nothing contributed to them. -/
structure LinkerChain.IsDefault (c : LinkerChain) (p : PolicyRef) : Prop where
  linkers : c.linkers = defaultPrioritized ++ defaultFallback
  services : c.services = { policy := p }
  prelink : c.prelink? = some .optimistic

/-- Without contributed linkers the chain of an environment is the default one, whatever its
settings are. -/
theorem Environment.chain_isDefault {e : Environment} (h : e.contributed = []) :
    e.chain.IsDefault e.policy where
  linkers := by simp [chain, ChainPlan.build, LinkerChain.linkers, h, LinkerChain.defaultPlan]
  services := rfl
  prelink := rfl

namespace LinkRequest

/-- The candidate for a missing member of any receiver but an object of the browser. -/
def missing (r : LinkRequest) : Candidate :=
  Candidate.guarded ⟨r.genericSignature .object, r.missingCode⟩ (Guard.receiverType r.receiver)

theorem eval_missing_eq (r : LinkRequest) (args : List Value) :
    r.missing.invocation.eval args = r.missingCode.eval args := rfl

theorem eval_byType (r : LinkRequest) (code : Code) (args : List Value) :
    (r.byType code).invocation.eval args = code.eval args := rfl

theorem linkMissing?_eq {r : LinkRequest} (h : r.receiver.answersForMissing = false) :
    r.linkMissing? = some r.missing := by
  simp [linkMissing?, h, missing]

/-- The candidate for an operation on an instance of a class. -/
def chosenMember (r : LinkRequest) (p : PolicyRef) (c : HostClass) : StoreM Candidate := do
  ofExcept (((← get).policy p).check c false)
  let i? ← r.beanInvocation? c
  return (i?.map fun i =>
    Candidate.guarded (Services.hideScripts { policy := p } i)
      (Guard.receiverType r.receiver)).getD r.missing

/-- The candidate that the default chain chooses: what the one linker for receivers of this kind
has for the operation, or else a missing member. -/
def chosen (r : LinkRequest) (p : PolicyRef) : StoreM Candidate :=
  match r.receiver with
  | .primitive q => pure (if q.isNullish then r.missing else r.linkPrimitive?.getD r.missing)
  | .object (.foreign _ _) | .object (.mirror _ _) => pure r.linkForeign
  | .object (.bound _ _ _ _) => do
      return (← ofExcept (r.linkBound? p (← get))).getD r.missing
  | .object (.superAdapter _ _) => do
      return (← ofExcept (r.linkSuper? p (← get))).getD r.missing
  | .object (.staticClass _ c) => do
      ofExcept (((← get).policy p).check c true)
      let i? ← r.staticInvocation? { policy := p } c
      return (i?.map fun i => Candidate.guarded i (.staticClass c)).getD r.missing
  | .object (.methodRef _ c m isStatic) => do
      ofExcept (((← get).policy p).check c isStatic)
      return if r.descriptor.operation = .call then r.linkMethodRef { policy := p } c m isStatic
        else r.missing
  | .object (.host _ c) => r.chosenMember p c
  | .object (.proxy i m _) => r.chosenMember p (HostClass.proxy i m)
  | .object (.ordinary _) | .object (.function _ _) | .object (.boundFunction _ _ _ _ _) => do
      return (r.linkScript? (← get)).getD r.missing

section Kinds

variable {r : LinkRequest} {p : PolicyRef}

theorem chosen_eq_primitive {q : Primitive} (hr : r.receiver = .primitive q) :
    r.chosen p = pure (if q.isNullish then r.missing else r.linkPrimitive?.getD r.missing) := by
  simp only [chosen, hr]

theorem chosen_eq_script {o : Object} (hr : r.receiver = .object o) (ho : o.isScript = true) :
    r.chosen p = (do return (r.linkScript? (← get)).getD r.missing) := by
  simp only [chosen, hr]
  cases o <;> first | rfl | cases ho

theorem chosen_eq_foreign {o : Object} {k : BridgeKind} (hr : r.receiver = .object o)
    (ho : o.bridge? = some k) : r.chosen p = pure r.linkForeign := by
  simp only [chosen, hr]
  cases o <;> first | rfl | cases ho

theorem chosen_eq_bound {i : Nat} {f a : Value} {l : List Value}
    (hr : r.receiver = .object (.bound i f a l)) :
    r.chosen p = (do return (← ofExcept (r.linkBound? p (← get))).getD r.missing) := by
  simp only [chosen, hr]

theorem chosen_eq_superAdapter {i : Nat} {a : Value}
    (hr : r.receiver = .object (.superAdapter i a)) :
    r.chosen p = (do return (← ofExcept (r.linkSuper? p (← get))).getD r.missing) := by
  simp only [chosen, hr]

/-- A bound callable is served if it is called or constructed, and the policy grants access to what
it is bound to. -/
theorem chosen_apply_bound {i : Nat} {f a : Value} {l : List Value}
    (hr : r.receiver = .object (.bound i f a l)) (s : Store) :
    r.chosen p s =
      if r.descriptor.operation = .call ∨ r.descriptor.operation = .new then
        (ofExcept ((s.policy p).checkCallee r.receiver) >>= fun _ =>
          pure (Candidate.guarded ⟨r.genericSignature .object, .checkedCallable r.descriptor p⟩
            r.calleeGuard)) s
      else .ok r.missing s := by
  rw [chosen_eq_bound hr, StoreM.get_bind, linkBound?]
  cases hop : r.descriptor.operation with
  | call | new =>
      rw [if_pos (by simp)]
      cases (s.policy p).checkCallee r.receiver <;> rfl
  | _ =>
      rw [if_neg (by simp)]
      rfl

/-- An adapter is served if a method is read, and the policy grants access to what is adapted. -/
theorem chosen_apply_superAdapter {i : Nat} {a : Value}
    (hr : r.receiver = .object (.superAdapter i a)) (s : Store) :
    r.chosen p s =
      if r.descriptor.operation = .getMethod then
        (ofExcept ((s.policy p).checkCallee a) >>= fun _ =>
          pure (r.byType (.superGet r.descriptor p))) s
      else .ok r.missing s := by
  rw [chosen_eq_superAdapter hr, StoreM.get_bind, linkSuper?, hr, ite_not]
  split
  · dsimp only
    cases (s.policy p).checkCallee a <;> rfl
  · rfl

theorem chosen_eq_staticClass {i : Nat} {c : HostClass}
    (hr : r.receiver = .object (.staticClass i c)) :
    r.chosen p = (do
      ofExcept (((← get).policy p).check c true)
      let i? ← r.staticInvocation? { policy := p } c
      return (i?.map fun i => Candidate.guarded i (.staticClass c)).getD r.missing) := by
  simp only [chosen, hr]

theorem chosen_eq_methodRef {i : Nat} {c : HostClass} {m : String} {isStatic : Bool}
    (hr : r.receiver = .object (.methodRef i c m isStatic)) :
    r.chosen p = (do
      ofExcept (((← get).policy p).check c isStatic)
      return if r.descriptor.operation = .call then r.linkMethodRef { policy := p } c m isStatic
        else r.missing) := by
  simp only [chosen, hr]

theorem chosen_eq_host {o : Object} {c : HostClass} (hr : r.receiver = .object o)
    (ho : o.hostClass? = some c) : r.chosen p = r.chosenMember p c := by
  simp only [chosen, hr]
  cases o with
  | host i d => cases ho; rfl
  | proxy i m t => cases ho; rfl
  | _ => simp [Object.hostClass?] at ho

end Kinds

end LinkRequest

/-! ### The linkers that are asked -/

/-- Linkers that do not handle the receiver make no difference. -/
theorem firstCandidate_filter (r : LinkRequest) (services : Services) (ls : List Linker) :
    firstCandidate r services ls =
      firstCandidate r services (ls.filter fun l => l.handles r.receiver) := by
  -- induction on the linkers: the search skips those that do not handle the receiver, too
  induction ls with
  | nil => rfl
  | cons l ls ih =>
      by_cases hl : l.handles r.receiver = true
      · simp only [firstCandidate, hl, List.filter_cons, if_true]
        rw [ih]
      · simp only [firstCandidate, hl, List.filter_cons]
        exact ih

theorem firstCandidate_bottom {r : LinkRequest} (services : Services)
    (hr : r.receiver.answersForMissing = false) :
    firstCandidate r services [.bottom] = pure (some r.missing) := by
  simp [firstCandidate, Linker.handles, Linker.link, LinkRequest.linkMissing?_eq hr]

/-- A linker before the last one: what it declines is a missing member. -/
theorem firstCandidate_beforeBottom {r : LinkRequest} {services : Services} {l : Linker}
    (hl : l.handles r.receiver = true) (hr : r.receiver.answersForMissing = false) :
    firstCandidate r services [l, .bottom] =
      (fun k? => some (k?.getD r.missing)) <$> l.link r services := by
  rw [firstCandidate, if_pos hl, firstCandidate_bottom services hr, map_eq_pure_bind]
  refine congrArg _ (funext fun k? => ?_)
  cases k? <;> rfl

/-- The check of restricted classes comes before what follows and has no candidate itself. -/
theorem firstCandidate_checked {r : LinkRequest} {services : Services} {ls : List Linker}
    (hl : Linker.reflectionCheck.handles r.receiver = true) :
    firstCandidate r services (.reflectionCheck :: ls) = (do
      ofExcept (r.checkReflection ((← get).policy services.policy))
      firstCandidate r services ls) := by
  simp [firstCandidate, hl, Linker.link]

/-- The default linkers that are asked about a receiver. -/
def Value.defaultLinkers (v : Value) : List Linker :=
  (LinkerChain.defaultPrioritized ++ LinkerChain.defaultFallback).filter fun l => l.handles v

/-- Every receiver has one linker of its own, which may be preceded by the check of restricted
classes. -/
theorem Value.defaultLinkers_primitive (p : Primitive) :
    defaultLinkers (.primitive p) = if p.isNullish then [.bottom] else [.primitive, .bottom] := by
  cases p <;> rfl

theorem Value.defaultLinkers_script {o : Object} (h : o.isScript = true) :
    defaultLinkers (.object o) = [.script, .bottom] := by
  cases o <;> first | rfl | cases h

theorem Value.defaultLinkers_foreign {o : Object} {k : BridgeKind} (h : o.bridge? = some k) :
    defaultLinkers (.object o) = [.foreign k, .bottom] := by
  cases o with
  | foreign i f =>
      have hk : f.bridge = k := Option.some.inj h
      cases k <;>
        simp [defaultLinkers, LinkerChain.defaultPrioritized, LinkerChain.defaultFallback,
          Linker.handles, Linker.beanClass?, object?, script?, hostClass?, isPrimitive,
          Object.isScript, Object.isScriptFunction, Object.bridge?, Object.hostClass?, hk]
  | mirror i t => cases h; rfl
  | _ => cases h

theorem Value.defaultLinkers_bound (i : Nat) (f a : Value) (l : List Value) :
    defaultLinkers (.object (.bound i f a l)) = [.boundCallable, .bottom] := rfl

theorem Value.defaultLinkers_superAdapter (i : Nat) (a : Value) :
    defaultLinkers (.object (.superAdapter i a)) = [.superAdapter, .bottom] := rfl

theorem Value.defaultLinkers_staticClass (i : Nat) (c : HostClass) :
    defaultLinkers (.object (.staticClass i c)) = [.reflectionCheck, .staticClass, .bottom] :=
  rfl

theorem Value.defaultLinkers_methodRef (i : Nat) (c : HostClass) (m : String) (b : Bool) :
    defaultLinkers (.object (.methodRef i c m b)) = [.reflectionCheck, .beans, .bottom] := rfl

theorem Value.defaultLinkers_host {o : Object} {c : HostClass} (h : o.hostClass? = some c) :
    defaultLinkers (.object o) = [.reflectionCheck, .beans, .bottom] := by
  cases o <;> first | rfl | cases h

/-! ### What is chosen -/

namespace LinkRequest

variable {r : LinkRequest} {p : PolicyRef}

theorem first_script {o : Object} (hr : r.receiver = .object o) (ho : o.isScript = true) :
    firstCandidate r { policy := p } r.receiver.defaultLinkers = some <$> r.chosen p := by
  have hm : r.receiver.answersForMissing = false := by
    rw [hr]
    cases o <;> first | rfl | cases ho
  have hl : Linker.script.handles r.receiver = true := by
    simp [hr, Linker.handles, Value.script?, Value.object?, ho]
  rw [hr, Value.defaultLinkers_script ho, firstCandidate_beforeBottom hl hm]
  simp [chosen_eq_script hr ho, Linker.link]

theorem first_primitive {q : Primitive} (hr : r.receiver = .primitive q) :
    firstCandidate r { policy := p } r.receiver.defaultLinkers = some <$> r.chosen p := by
  have hm : r.receiver.answersForMissing = false := by rw [hr]; rfl
  rw [chosen_eq_primitive hr, hr, Value.defaultLinkers_primitive]
  cases hq : q.isNullish
  · have hl : Linker.primitive.handles r.receiver = true := by
      simp [hr, Linker.handles, Value.isPrimitive, Value.isNullish, hq]
    simp [firstCandidate_beforeBottom hl hm, Linker.link]
  · simp [firstCandidate_bottom _ hm]

theorem first_foreign {o : Object} {k : BridgeKind} (hr : r.receiver = .object o)
    (ho : o.bridge? = some k) :
    firstCandidate r { policy := p } r.receiver.defaultLinkers = some <$> r.chosen p := by
  have hl : (Linker.foreign k).handles r.receiver = true := by
    simp [hr, Linker.handles, Value.object?, ho]
  rw [hr, Value.defaultLinkers_foreign ho, firstCandidate, if_pos hl, chosen_eq_foreign hr ho]
  simp [Linker.link]

theorem first_host {o : Object} {c : HostClass} (hr : r.receiver = .object o)
    (ho : o.hostClass? = some c) :
    firstCandidate r { policy := p } r.receiver.defaultLinkers = some <$> r.chosen p := by
  have hm : r.receiver.answersForMissing = false := by
    rw [hr]
    cases o <;> first | rfl | cases ho
  have hbean : Linker.beanClass? r.receiver = some c := by
    rw [hr]
    cases o <;> first | exact ho | cases ho
  have hcheck : Linker.reflectionCheck.handles r.receiver = true := by
    rw [hr] at hbean ⊢
    cases o with
    | staticClass i d => rfl
    | _ => simp [Linker.handles, hbean]
  have hbeans : Linker.beans.handles r.receiver = true := by
    simp [Linker.handles, hbean]
  have hreflection (q : AccessPolicy) : r.checkReflection q = q.check c false := by
    unfold checkReflection
    rw [hr]
    cases o <;> first | (cases ho; rfl) | cases ho
  have hlink : Linker.beans.link r { policy := p } = r.beanInvocation? c >>= fun i? =>
      pure ((i?.map fun i => Candidate.guarded (Services.hideScripts { policy := p } i)
        (Guard.receiverType r.receiver)).or (r.beanMissing? false)) := by
    simp only [Linker.link, linkBean?]
    rw [hr]
    -- instances and proxies of functional interfaces are the receivers that have a class
    cases o with
    | host i d =>
        cases ho
        exact congrArg (r.beanInvocation? c >>= ·) (funext fun i? => by cases i? <;> rfl)
    | proxy i m t =>
        cases ho
        exact congrArg (r.beanInvocation? (HostClass.proxy i m) >>= ·)
          (funext fun i? => by cases i? <;> rfl)
    | _ => simp [Object.hostClass?] at ho
  rw [hr, Value.defaultLinkers_host ho, firstCandidate_checked hcheck,
    firstCandidate_beforeBottom hbeans hm, hlink, chosen_eq_host hr ho, chosenMember]
  simp only [hreflection, map_bind, map_pure]
  refine congrArg _ (funext fun s => congrArg _ (funext fun _ => congrArg _ (funext fun i? => ?_)))
  cases i? <;> simp [beanMissing?, linkMissing?_eq hm]

theorem first_methodRef {i : Nat} {c : HostClass} {m : String} {isStatic : Bool}
    (hr : r.receiver = .object (.methodRef i c m isStatic)) :
    firstCandidate r { policy := p } r.receiver.defaultLinkers = some <$> r.chosen p := by
  have hm : r.receiver.answersForMissing = false := by rw [hr]; rfl
  have hcheck : Linker.reflectionCheck.handles r.receiver = true := by rw [hr]; rfl
  have hbeans : Linker.beans.handles r.receiver = true := by rw [hr]; rfl
  rw [hr, Value.defaultLinkers_methodRef, firstCandidate_checked hcheck,
    firstCandidate_beforeBottom hbeans hm]
  simp only [chosen_eq_methodRef hr, checkReflection, Linker.link, linkBean?, hr, map_bind,
    map_pure]
  refine congrArg _ (funext fun s => congrArg _ (funext fun _ => ?_))
  split <;> simp [beanMissing?, linkMissing?_eq hm]

theorem first_staticClass {i : Nat} {c : HostClass}
    (hr : r.receiver = .object (.staticClass i c)) :
    firstCandidate r { policy := p } r.receiver.defaultLinkers = some <$> r.chosen p := by
  have hm : r.receiver.answersForMissing = false := by rw [hr]; rfl
  have hcheck : Linker.reflectionCheck.handles r.receiver = true := by rw [hr]; rfl
  have hown : Linker.staticClass.handles r.receiver = true := by rw [hr]; rfl
  rw [hr, Value.defaultLinkers_staticClass, firstCandidate_checked hcheck,
    firstCandidate_beforeBottom hown hm]
  simp [chosen_eq_staticClass hr, checkReflection, Linker.link, linkStaticClass?, hr]

theorem first_bound {i : Nat} {f a : Value} {l : List Value}
    (hr : r.receiver = .object (.bound i f a l)) :
    firstCandidate r { policy := p } r.receiver.defaultLinkers = some <$> r.chosen p := by
  have hm : r.receiver.answersForMissing = false := by rw [hr]; rfl
  have hown : Linker.boundCallable.handles r.receiver = true := by rw [hr]; rfl
  rw [hr, Value.defaultLinkers_bound, firstCandidate_beforeBottom hown hm]
  simp [chosen_eq_bound hr, Linker.link]

theorem first_superAdapter {i : Nat} {a : Value}
    (hr : r.receiver = .object (.superAdapter i a)) :
    firstCandidate r { policy := p } r.receiver.defaultLinkers = some <$> r.chosen p := by
  have hm : r.receiver.answersForMissing = false := by rw [hr]; rfl
  have hown : Linker.superAdapter.handles r.receiver = true := by rw [hr]; rfl
  rw [hr, Value.defaultLinkers_superAdapter, firstCandidate_beforeBottom hown hm]
  simp [chosen_eq_superAdapter hr, Linker.link]

/-- The default linkers always have a candidate, unless they fail. -/
theorem first_eq (r : LinkRequest) (p : PolicyRef) :
    firstCandidate r { policy := p } r.receiver.defaultLinkers = some <$> r.chosen p := by
  cases hr : r.receiver with
  | primitive q => rw [← hr]; exact first_primitive hr
  | object o =>
      rw [← hr]
      cases o with
      | ordinary i => exact first_script hr rfl
      | function i c => exact first_script hr rfl
      | boundFunction i t c s l => exact first_script hr rfl
      | bound i f a l => exact first_bound hr
      | foreign i f => exact first_foreign hr rfl
      | mirror i t => exact first_foreign hr rfl
      | host i c => exact first_host hr rfl
      | proxy i m t => exact first_host hr rfl
      | methodRef i c m b => exact first_methodRef hr
      | staticClass i c => exact first_staticClass hr
      | superAdapter i a => exact first_superAdapter hr

end LinkRequest

/-- **What the default chain chooses.** -/
theorem LinkerChain.IsDefault.select_eq {c : LinkerChain} {p : PolicyRef} (h : c.IsDefault p)
    (r : LinkRequest) : c.select r = some <$> r.chosen p := by
  have hfirst : firstCandidate r c.services c.linkers = some <$> r.chosen p := by
    rw [h.services, h.linkers, firstCandidate_filter]
    exact r.first_eq p
  simp [LinkerChain.select, hfirst]

end DynamicLinking
