/-
The candidates that the default chain chooses, by what their code does.  Most of them run no host
member at all.  The others call what a bound callable or a method reference stands for, construct
with a class, or use a member that was found in a class; what was found is kept beside the code.

Main definitions:

* `LinkRequest.MemberInvocation`, `LinkRequest.StaticInvocation` — the invocations for the members
  of an instance and of a class;
* `LinkRequest.Choice` — **the candidates that are chosen, by what they run**.

Main results:

* `LinkRequest.choice_of_chosen` — every chosen candidate is one of them;
* `LinkRequest.eq_of_chosen_property`, `LinkRequest.eq_of_chosen_staticProperty` — the candidates
  for reads of properties that exist.
-/

import DynamicLinking.Proofs.Guards
import DynamicLinking.Proofs.HostEntries
import DynamicLinking.Proofs.MethodReferences

set_option autoImplicit false

namespace DynamicLinking

namespace LinkRequest

/-! ### Members -/

/-- The invocations for what an instance of a class has for an operation. -/
inductive MemberInvocation (r : LinkRequest) (c : HostClass) : Invocation → Prop where
  | call {m : HostMethod} (hop : r.descriptor.operation = .call)
      (hm : c.functionalMethod? = some m) :
      MemberInvocation r c ⟨r.genericSignature m.signature.result, r.functionalCode m⟩
  | getter {n : String} {m : HostMethod} (hop : r.descriptor.operation.isGet = true)
      (hn : r.descriptor.name? = some n)
      (hm : c.member? n (r.descriptor.operation == .getMethod) = some (.property m)) :
      MemberInvocation r c ⟨r.genericSignature m.signature.result, .hostGetter m⟩
  | method {n : String} (i : Nat) :
      MemberInvocation r c
        ⟨r.genericSignature .object, .constant (.object (.methodRef i c n false))⟩
  | setter {n : String} {m : HostMethod} (hop : r.descriptor.operation.isSet = true)
      (hn : r.descriptor.name? = some n)
      (hm : (c.findProperty? n).bind HostProperty.setter? = some m) :
      MemberInvocation r c ⟨r.genericSignature m.signature.result, .hostSetter m r.descriptor⟩
  | named (hop : r.descriptor.operation.isGet = true ∨ r.descriptor.operation.isSet = true)
      (hn : r.descriptor.name? = none) :
      MemberInvocation r c ⟨r.genericSignature .object, .hostMember c r.descriptor⟩

/-- The invocations for what a class as a value has for an operation. -/
inductive StaticInvocation (r : LinkRequest) (p : PolicyRef) (c : HostClass) :
    Invocation → Prop where
  | construct (hop : r.descriptor.operation = .call ∨ r.descriptor.operation = .new) :
      StaticInvocation r p c
        (Services.hideScripts { policy := p }
          ⟨r.genericSignature .object, .callable r.descriptor⟩)
  | getter {n : String} {q : HostProperty} (hop : r.descriptor.operation.isGet = true)
      (hn : r.descriptor.name? = some n) (hq : c.findStaticProperty? n = some q) :
      StaticInvocation r p c ⟨r.genericSignature q.getter.signature.result, .staticGetter q.getter⟩
  | method {n : String} (i : Nat) :
      StaticInvocation r p c
        ⟨r.genericSignature .object, .constant (.object (.methodRef i c n true))⟩
  | setter {n : String} {m : HostMethod}
      (hm : (c.findStaticProperty? n).bind HostProperty.setter? = some m) :
      StaticInvocation r p c ⟨r.genericSignature .object, .staticSetter m r.descriptor⟩
  | named (hop : r.descriptor.operation.isGet = true) (hn : r.descriptor.name? = none) :
      StaticInvocation r p c ⟨r.genericSignature .object, .staticMember c r.descriptor⟩

variable {r : LinkRequest} {p : PolicyRef} {c : HostClass} {i : Invocation} {s t : Store}

theorem memberInvocation_of_ok (h : r.beanInvocation? c s = .ok (some i) t) :
    r.MemberInvocation c i := by
  unfold beanInvocation? at h
  cases hop : r.descriptor.operation with
  | call =>
      simp only [hop] at h
      obtain ⟨hi, -⟩ := EStateM.Result.ok.inj h
      obtain ⟨m, hm, rfl⟩ := Option.map_eq_some_iff.mp hi
      exact .call hop hm
  | new =>
      simp only [hop] at h
      cases h
  | getProperty | getElement | getMethod =>
      cases hn : r.descriptor.name? with
      | none =>
          simp only [hop, hn] at h
          cases h
          exact .named (.inl (by rw [hop]; rfl)) hn
      | some n =>
          simp only [hop, hn] at h
          cases hm : c.member? n (r.descriptor.operation == .getMethod) with
          | none =>
              rw [hop] at hm
              rw [hm] at h
              cases h
          | some m =>
              have hget : r.descriptor.operation.isGet = true := by rw [hop]; rfl
              cases m with
              | property m =>
                  have hmember := hm
                  rw [hop] at hm
                  rw [hm] at h
                  cases h
                  exact .getter hget hn hmember
              | method =>
                  rw [hop] at hm
                  rw [hm] at h
                  cases h
                  exact .method _
  | setProperty | setElement =>
      cases hn : r.descriptor.name? with
      | none =>
          simp only [hop, hn] at h
          cases h
          exact .named (.inr (by rw [hop]; rfl)) hn
      | some n =>
          simp only [hop, hn] at h
          obtain ⟨hi, -⟩ := EStateM.Result.ok.inj h
          obtain ⟨m, hm, rfl⟩ := Option.map_eq_some_iff.mp hi
          exact .setter (by rw [hop]; rfl) hn hm

theorem staticInvocation_of_ok (h : r.staticInvocation? { policy := p } c s = .ok (some i) t) :
    r.StaticInvocation p c i := by
  have hget (n : String) (hop : r.descriptor.operation.isGet = true)
      (hn : r.descriptor.name? = some n) (h : r.staticGet? c n s = .ok (some i) t) :
      r.StaticInvocation p c i := by
    unfold staticGet? at h
    cases hq : c.findStaticProperty? n with
    | some q =>
        rw [hq] at h
        cases h
        exact .getter hop hn hq
    | none =>
        rw [hq] at h
        dsimp only at h
        split at h
        · cases h
          exact .method _
        · cases h
  unfold staticInvocation? at h
  cases hop : r.descriptor.operation with
  | call | new =>
      simp only [hop] at h
      cases h
      exact .construct (by simp [hop])
  | getProperty | getElement | getMethod =>
      have hisGet : r.descriptor.operation.isGet = true := by rw [hop]; rfl
      cases hn : r.descriptor.name? with
      | some n =>
          simp only [hop, hn] at h
          exact hget n hisGet hn h
      | none =>
          simp only [hop, hn] at h
          cases h
          exact .named hisGet hn
  | setProperty | setElement =>
      simp only [hop] at h
      obtain ⟨hi, -⟩ := EStateM.Result.ok.inj h
      obtain ⟨m, hm, rfl⟩ := Option.map_eq_some_iff.mp hi
      obtain ⟨q, hq, hm⟩ := Option.bind_eq_some_iff.mp hm
      obtain ⟨n, -, hn⟩ := Option.bind_eq_some_iff.mp hq
      exact .setter (n := n) (by rw [hn]; exact hm)

/-! ### Reads and writes -/

section

variable {n : String} {k : Candidate}

/-- A read of a fixed member is linked for what the class has of that name. -/
theorem beanInvocation?_of_fixed_read (hop : r.descriptor.operation.isGet = true)
    (hn : r.descriptor.name? = some n) (c : HostClass) :
    r.beanInvocation? c =
      match c.member? n (r.descriptor.operation == .getMethod) with
      | some (.property m) => pure (some ⟨r.genericSignature m.signature.result, .hostGetter m⟩)
      | some .method => do
          return some ⟨r.genericSignature .object, .constant (← newMethodRef c n false)⟩
      | none => pure none := by
  generalize hm : c.member? n (r.descriptor.operation == .getMethod) = m?
  unfold beanInvocation?
  cases h : r.descriptor.operation with
  | getProperty | getElement | getMethod =>
      rw [h] at hm
      rcases m? with _ | _ | _ <;> simp only [h, hn, hm]
  | _ =>
      rw [h] at hop
      cases hop

/-- A write of a fixed member is linked for the setter of the property of that name. -/
theorem beanInvocation?_of_fixed_write (hop : r.descriptor.operation.isSet = true)
    (hn : r.descriptor.name? = some n) (c : HostClass) :
    r.beanInvocation? c =
      pure (((c.findProperty? n).bind HostProperty.setter?).map fun m =>
        ⟨r.genericSignature m.signature.result, .hostSetter m r.descriptor⟩) := by
  unfold beanInvocation?
  cases h : r.descriptor.operation with
  | setProperty | setElement => simp only [h, hn]
  | _ =>
      rw [h] at hop
      cases hop

/-- If the name is an argument, the member is looked up when it is read or written. -/
theorem beanInvocation?_of_computed
    (hop : r.descriptor.operation.isGet = true ∨ r.descriptor.operation.isSet = true)
    (hn : r.descriptor.name? = none) (c : HostClass) :
    r.beanInvocation? c =
      pure (some ⟨r.genericSignature .object, .hostMember c r.descriptor⟩) := by
  unfold beanInvocation?
  cases h : r.descriptor.operation with
  | call | new =>
      rw [h] at hop
      rcases hop with hop | hop <;> cases hop
  | _ => simp only [h, hn]

theorem beanInvocation?_of_property {m : HostMethod} (hop : r.descriptor.operation.isGet = true)
    (hn : r.descriptor.name? = some n)
    (hm : c.member? n (r.descriptor.operation == .getMethod) = some (.property m)) :
    r.beanInvocation? c =
      pure (some ⟨r.genericSignature m.signature.result, .hostGetter m⟩) := by
  rw [beanInvocation?_of_fixed_read hop hn, hm]

/-- A read of a fixed static member is linked for what the class has of that name. -/
theorem staticInvocation?_of_fixed_read (hop : r.descriptor.operation.isGet = true)
    (hn : r.descriptor.name? = some n) (services : Services) (c : HostClass) :
    r.staticInvocation? services c = r.staticGet? c n := by
  unfold staticInvocation?
  cases h : r.descriptor.operation with
  | getProperty | getElement | getMethod => simp only [h, hn]
  | _ =>
      rw [h] at hop
      cases hop

/-- If the name is an argument, the static member is looked up when it is read. -/
theorem staticInvocation?_of_computed_read (hop : r.descriptor.operation.isGet = true)
    (hn : r.descriptor.name? = none) (services : Services) (c : HostClass) :
    r.staticInvocation? services c =
      pure (some ⟨r.genericSignature .object, .staticMember c r.descriptor⟩) := by
  unfold staticInvocation?
  cases h : r.descriptor.operation with
  | getProperty | getElement | getMethod => simp only [h, hn]
  | _ =>
      rw [h] at hop
      cases hop

/-- A write of a static member is linked for the setter of a property whose name is fixed. -/
theorem staticInvocation?_of_write (hop : r.descriptor.operation.isSet = true)
    (services : Services) (c : HostClass) :
    r.staticInvocation? services c =
      pure (((r.descriptor.name?.bind c.findStaticProperty?).bind HostProperty.setter?).map fun m =>
        ⟨r.genericSignature .object, .staticSetter m r.descriptor⟩) := by
  unfold staticInvocation?
  cases h : r.descriptor.operation with
  | setProperty | setElement => simp only [h]
  | _ =>
      rw [h] at hop
      cases hop

theorem staticInvocation?_of_property {services : Services} {q : HostProperty}
    (hop : r.descriptor.operation.isGet = true) (hn : r.descriptor.name? = some n)
    (hq : c.findStaticProperty? n = some q) :
    r.staticInvocation? services c =
      pure (some ⟨r.genericSignature q.getter.signature.result, .staticGetter q.getter⟩) := by
  rw [staticInvocation?_of_fixed_read hop hn, staticGet?, hq]

/-- What an instance has for an operation is linked behind the filter for host code. -/
theorem eq_of_chosen_bean (hr : r.receiver.hostClass? = some c)
    (hlink : r.beanInvocation? c = pure (some i)) (hk : r.chosen p s = .ok k t) :
    k = Candidate.guarded (Services.hideScripts { policy := p } i)
      (Guard.receiverType r.receiver) := by
  cases ho : r.receiver with
  | primitive q =>
      rw [ho] at hr
      cases hr
  | object o =>
      rw [ho] at hr
      rw [chosen_eq_host ho hr, chosenMember, hlink] at hk
      obtain ⟨_, _, -, hk⟩ := StoreM.bind_eq_ok hk
      obtain ⟨_, _, -, hk⟩ := StoreM.bind_eq_ok hk
      cases hk
      rw [ho]
      rfl

/-- A read of a property of an instance is linked for the property. -/
theorem eq_of_chosen_property {m : HostMethod}
    (hr : r.receiver.hostClass? = some c) (hop : r.descriptor.operation.isGet = true)
    (hn : r.descriptor.name? = some n)
    (hm : c.member? n (r.descriptor.operation == .getMethod) = some (.property m))
    (hk : r.chosen p s = .ok k t) :
    k = Candidate.guarded
      (Services.hideScripts { policy := p }
        ⟨r.genericSignature m.signature.result, .hostGetter m⟩)
      (Guard.receiverType r.receiver) :=
  eq_of_chosen_bean hr (beanInvocation?_of_property hop hn hm) hk

/-- A read of a static property is linked for the property. -/
theorem eq_of_chosen_staticProperty {q : HostProperty} {i : Nat}
    (hr : r.receiver = .object (.staticClass i c)) (hop : r.descriptor.operation.isGet = true)
    (hn : r.descriptor.name? = some n) (hq : c.findStaticProperty? n = some q)
    (hk : r.chosen p s = .ok k t) :
    k = Candidate.guarded ⟨r.genericSignature q.getter.signature.result, .staticGetter q.getter⟩
      (.staticClass c) := by
  rw [chosen_eq_staticClass hr, staticInvocation?_of_property hop hn hq] at hk
  obtain ⟨_, _, -, hk⟩ := StoreM.bind_eq_ok hk
  obtain ⟨_, _, -, hk⟩ := StoreM.bind_eq_ok hk
  cases hk
  rfl

end

/-! ### Candidates -/

/-- The candidates that the default chain chooses, by what they run. -/
inductive Choice (r : LinkRequest) (p : PolicyRef) : Candidate → Prop where
  /-- No host member is run for any call that is admitted. -/
  | plain {k : Candidate} (hresult : k.result = .object)
      (henters : ∀ P args, k.admits args = true → EntersOnly P (k.invocation.eval args)) :
      Choice r p k
  /-- What a bound callable is bound to is called or constructed. -/
  | bound {i : Nat} {f a : Value} {l : List Value} (hr : r.receiver = .object (.bound i f a l))
      (hop : r.descriptor.operation = .call ∨ r.descriptor.operation = .new) :
      Choice r p
        (Candidate.guarded ⟨r.genericSignature .object, .checkedCallable r.descriptor p⟩
          r.calleeGuard)
  | methodRef {i : Nat} {c : HostClass} {m : String} {isStatic : Bool}
      (hr : r.receiver = .object (.methodRef i c m isStatic))
      (hop : r.descriptor.operation = .call) :
      Choice r p (r.linkMethodRef { policy := p } c m isStatic)
  | static {i : Nat} {c : HostClass} {j : Invocation}
      (hr : r.receiver = .object (.staticClass i c)) (hj : r.StaticInvocation p c j) :
      Choice r p (Candidate.guarded j (.staticClass c))
  | member {o : Object} {c : HostClass} {j : Invocation} (hr : r.receiver = .object o)
      (ho : o.hostClass? = some c) (hj : r.MemberInvocation c j) :
      Choice r p
        (Candidate.guarded (Services.hideScripts { policy := p } j)
          (Guard.receiverType r.receiver))

/-- Code that runs no host member on any arguments. -/
theorem choice_plain {k : Candidate} (hresult : k.result = .object)
    (henters : ∀ (P : HostUse) args, EntersOnly P (k.invocation.eval args)) : r.Choice p k :=
  .plain hresult fun P args _ => henters P args

theorem choice_missing (r : LinkRequest) (p : PolicyRef) : r.Choice p r.missing := by
  refine choice_plain rfl fun P args => ?_
  rw [eval_missing_eq, missingCode]
  split
  · exact entersOnly_evalNullish _ _
  · split <;> simp [Code.eval]

theorem choice_getD {k? : Option Candidate} (h : ∀ k, k? = some k → r.Choice p k) :
    r.Choice p (k?.getD r.missing) := by
  cases k? with
  | none => exact r.choice_missing p
  | some k => exact h k rfl

/-- A script function that is called or constructed runs no host member. -/
theorem entersOnly_evalCallable_of_script {P : HostUse} {o : Object} (ho : o.isScript = true)
    (d : Descriptor) {args : List Value} (hargs : Value.argument args 0 = .object o) :
    EntersOnly P (evalCallable d args) := by
  unfold evalCallable
  dsimp only
  rw [hargs]
  cases o with
  | ordinary i => split <;> exact entersOnly_lift _
  | function i c => split <;> simp [callValue, constructValue]
  | boundFunction i t c b l => split <;> simp [callValue, constructValue]
  | _ => cases ho

theorem argument_of_calleeGuard {o : Object} (ho : o.isScript = true)
    (hr : r.receiver = .object o) {i : Invocation} {args : List Value}
    (hadmits : (Candidate.guarded i r.calleeGuard).admits args = true) :
    ∃ o', Value.argument args 0 = .object o' ∧ o'.isScript = true := by
  have htest : r.calleeGuard.test args = true := hadmits
  unfold calleeGuard at htest
  split at htest
  · have htype : (Value.argument args 0).runtimeType = r.receiver.runtimeType := by
      simpa [Guard.receiverType, Guard.test] using htest
    rw [hr] at htype
    obtain ⟨o', ho', hscript, -⟩ := Value.eq_of_runtimeType_script ho htype
    exact ⟨o', ho', hscript⟩
  · have hequals : (Value.argument args 0).equals r.receiver = true := htest
    rw [hr] at hequals
    exact ⟨o, Value.eq_of_equals_object hequals, ho⟩

theorem choice_linkScript {k : Candidate} (h : r.linkScript? s = some k) : r.Choice p k := by
  unfold linkScript? at h
  split at h
  · cases h
  · rename_i o ho
    have hr : r.receiver = .object o := object_of_script? ho
    have hscript : o.isScript = true := by
      rw [hr] at ho
      obtain ⟨-, hscript⟩ := Option.filter_eq_some_iff.mp ho
      exact hscript
    have hget : r.Choice p (r.linkScriptGet s o) := by
      unfold linkScriptGet
      split
      · exact choice_plain rfl fun P args => entersOnly_pure _
      · exact choice_plain rfl fun P args => entersOnly_evalScriptGet _ _
    cases hop : r.descriptor.operation with
    | getProperty | getElement | getMethod =>
        simp only [hop] at h
        cases h
        exact hget
    | setProperty | setElement =>
        simp only [hop] at h
        cases h
        exact choice_plain rfl fun P args => entersOnly_evalScriptSet _ _
    | call | new =>
        simp only [hop] at h
        split at h
        · cases h
          refine .plain rfl fun P args hadmits => ?_
          obtain ⟨o', ho', hscript'⟩ := argument_of_calleeGuard hscript hr hadmits
          exact entersOnly_evalCallable_of_script hscript' _ ho'
        · cases h

theorem choice_linkPrimitive {k : Candidate} (h : r.linkPrimitive? = some k) : r.Choice p k := by
  unfold linkPrimitive? at h
  cases hop : r.descriptor.operation with
  | getProperty | getElement | getMethod =>
      simp only [hop] at h
      split at h
      · cases h
        exact choice_plain rfl fun P args => entersOnly_evalStringGet _ _
      · cases h
        exact choice_plain rfl fun P args => entersOnly_pure _
  | setProperty | setElement =>
      simp only [hop] at h
      split at h
      · cases h
        exact choice_plain rfl fun P args => entersOnly_bind (by simp) fun key => by simp
      · cases h
        exact choice_plain rfl fun P args => entersOnly_pure _
  | call | new =>
      simp only [hop] at h
      cases h

theorem choice_linkForeign (r : LinkRequest) (p : PolicyRef) : r.Choice p r.linkForeign := by
  refine choice_plain rfl fun P args => ?_
  unfold linkForeign
  dsimp only
  cases r.descriptor.operation with
  | getProperty | getElement | getMethod => exact entersOnly_evalForeignGet _ _
  | setProperty | setElement => exact entersOnly_evalForeignSet _ _
  | call | new => exact entersOnly_bind (by simp) fun o => by simp

theorem choice_linkBound {i : Nat} {f a : Value} {l : List Value}
    (hr : r.receiver = .object (.bound i f a l)) {k? : Option Candidate}
    (h : r.linkBound? p s = .ok k?) : r.Choice p (k?.getD r.missing) := by
  refine choice_getD fun k hk => ?_
  subst hk
  obtain ⟨hop, rfl⟩ := linkBound?_eq_some h
  exact .bound hr hop

theorem choice_linkSuper {k? : Option Candidate} (h : r.linkSuper? p s = .ok k?) :
    r.Choice p (k?.getD r.missing) := by
  refine choice_getD fun k hk => ?_
  subst hk
  rw [linkSuper?_eq_some h]
  exact choice_plain rfl fun P args => entersOnly_evalSuperGet _ _ _

/-- **Every candidate that the default chain chooses is one of these.** -/
theorem choice_of_chosen (r : LinkRequest) (p : PolicyRef) :
    Yields (r.Choice p) (r.chosen p) := by
  have hscript {o : Object} (hr : r.receiver = .object o) (ho : o.isScript = true) :
      Yields (r.Choice p) (r.chosen p) := by
    rw [chosen_eq_script hr ho]
    exact yields_after fun s => yields_pure (choice_getD fun k => choice_linkScript)
  have hforeign {o : Object} {b : BridgeKind} (hr : r.receiver = .object o)
      (ho : o.bridge? = some b) : Yields (r.Choice p) (r.chosen p) := by
    rw [chosen_eq_foreign hr ho]
    exact yields_pure (r.choice_linkForeign p)
  have hhost {o : Object} {c : HostClass} (hr : r.receiver = .object o)
      (ho : o.hostClass? = some c) : Yields (r.Choice p) (r.chosen p) := by
    rw [chosen_eq_host hr ho]
    refine yields_after fun s => yields_after fun _ =>
      yields_bind (Q := fun i? => ∀ i, i? = some i → r.MemberInvocation c i) ?_
        fun i? hi => yields_pure (choice_getD fun k hk => ?_)
    · rintro s i? t h i rfl
      exact memberInvocation_of_ok h
    · obtain ⟨i, rfl, rfl⟩ := Option.map_eq_some_iff.mp hk
      exact .member hr ho (hi i rfl)
  cases hr : r.receiver with
  | primitive q =>
      rw [chosen_eq_primitive hr]
      refine yields_pure ?_
      split
      · exact r.choice_missing p
      · exact choice_getD fun k => choice_linkPrimitive
  | object o =>
      cases o with
      | ordinary i => exact hscript hr rfl
      | function i c => exact hscript hr rfl
      | boundFunction i t c s l => exact hscript hr rfl
      | foreign i f => exact hforeign hr rfl
      | mirror i t => exact hforeign hr rfl
      | host i c => exact hhost hr rfl
      | proxy i m t => exact hhost hr rfl
      | bound i f a l =>
          rw [chosen_eq_bound hr]
          refine yields_after fun s => ?_
          exact yields_bind (yields_ofExcept fun k? => choice_linkBound hr)
            fun k? hk => yields_pure hk
      | superAdapter i a =>
          rw [chosen_eq_superAdapter hr]
          refine yields_after fun s => ?_
          exact yields_bind (yields_ofExcept fun k? => choice_linkSuper) fun k? hk =>
            yields_pure hk
      | methodRef i c m isStatic =>
          rw [chosen_eq_methodRef hr]
          refine yields_after fun s => yields_after fun _ => yields_pure ?_
          split
          · rename_i hop
            exact .methodRef hr hop
          · exact r.choice_missing p
      | staticClass i c =>
          rw [chosen_eq_staticClass hr]
          refine yields_after fun s => yields_after fun _ =>
            yields_bind (Q := fun i? => ∀ i, i? = some i → r.StaticInvocation p c i) ?_
              fun i? hi => yields_pure (choice_getD fun k hk => ?_)
          · rintro s i? t h i rfl
            exact staticInvocation_of_ok h
          · obtain ⟨j, rfl, rfl⟩ := Option.map_eq_some_iff.mp hk
            exact .static hr (hi j rfl)

end LinkRequest

end DynamicLinking
