/-
A policy denies the classes that scripts must not reach.  The linkers ask it when they link, so that
a call that has to link is denied with an error of the policy; a call that a cached candidate serves
is not linked, and is denied only if the guard of the candidate tells the denied receiver from the
permitted one that it was linked for.  The type of an instance tells its class; a guard that accepts
all method references or all classes as values does not, and the candidates behind those guards
never ask the policy themselves.

Main definitions:

* `AccessPolicy.Denies` — a policy denies the class that an operation on a value reaches;
* `Guard.isKind` — a guard accepts all method references, or all classes as values;
* `CallSite.ServesByKind` — **a site would serve calls on a value only because of its kind**.

Main results:

* `LinkRequest.chosen_of_denied` — no candidate is chosen for a denied receiver;
* `LinkRequest.accepts_denied` — a candidate that accepts a denied receiver accepts all of its kind,
  or checks the access itself;
* `not_isDenial_of_servesByKind` — a call that is served by kind is not denied;
* `denied_iff_not_servesByKind` — **when denied accesses are denied**.
-/

import DynamicLinking.Proofs.Guards
import DynamicLinking.Proofs.Members
import DynamicLinking.Proofs.MethodReferences
import DynamicLinking.Proofs.Outcomes
import DynamicLinking.Proofs.Provenance

set_option autoImplicit false

namespace DynamicLinking

/-! ### Denied receivers -/

/-- The policy denies the class that an operation on the value reaches: that of an instance, of a
method reference or of a class as a value, and, if the value is called or constructed, that of the
callable that it is bound to. -/
def AccessPolicy.Denies (p : AccessPolicy) (o : Operation) (v : Value) (e : ScriptError) : Prop :=
  p.checkCallee v = .error e ∧ (v.isBound = true → o = .call ∨ o = .new)

theorem AccessPolicy.check_eq_error {p : AccessPolicy} {c : HostClass} {b : Bool}
    {e : ScriptError} (h : p.check c b = .error e) : e = .accessDenied c.category c.name := by
  unfold check at h
  split at h
  · exact (Except.error.inj h).symm
  · cases h

/-- What a policy denies is a matter of security. -/
theorem AccessPolicy.checkCallee_eq_error {p : AccessPolicy} {v : Value} {e : ScriptError}
    (h : p.checkCallee v = .error e) : ∃ k n, e = .accessDenied k n := by
  rcases p.checkCallee_cases v with hok | ⟨c, b, hcheck⟩
  · rw [hok] at h
    cases h
  · rw [hcheck] at h
    exact ⟨_, _, check_eq_error h⟩

namespace LinkRequest

variable {r : LinkRequest} {p : AccessPolicy} {s t : Store} {e : ScriptError}

/-- No candidate is chosen for a denied receiver. -/
theorem chosen_of_denied (h : p.Denies r.descriptor.operation r.receiver e) (s : Store) :
    r.chosen (.fixed p) s = .error (.error e) s := by
  obtain ⟨hcheck, hbound⟩ := h
  have hmember {c : HostClass} (hc : p.check c false = .error e) :
      r.chosenMember (.fixed p) c s = .error (.error e) s := by
    rw [chosenMember, StoreM.get_bind, Store.policy_fixed, hc]
    rfl
  cases hr : r.receiver with
  | primitive q => rw [hr] at hcheck; cases hcheck
  | object o =>
      rw [hr] at hcheck hbound
      cases o with
      | bound i f a l =>
          rw [chosen_apply_bound hr, if_pos (hbound rfl), Store.policy_fixed, hr, hcheck]
          rfl
      | host i c =>
          rw [chosen_eq_host hr rfl]
          exact hmember hcheck
      | proxy i m t =>
          rw [chosen_eq_host hr rfl]
          exact hmember hcheck
      | methodRef i c m b =>
          have hdenied : p.check c b = .error e := hcheck
          rw [chosen_eq_methodRef hr, StoreM.get_bind, Store.policy_fixed, hdenied]
          rfl
      | staticClass i c =>
          have hdenied : p.check c true = .error e := hcheck
          rw [chosen_eq_staticClass hr, StoreM.get_bind, Store.policy_fixed, hdenied]
          rfl
      | _ => cases hcheck

end LinkRequest

/-! ### Guards by kind -/

/-- Does the guard accept all method references, or all classes as values, whatever their class
is? -/
def Guard.isKind : Guard → Bool
  | .type 0 .methodRef => true
  | .type 0 .staticClass => true
  | _ => false

/-- Neither of the kinds is that of a script object. -/
theorem Guard.script?_of_isKind {g : Guard} (hkind : g.isKind = true) {v : Value}
    {rest : List Value} (htest : g.test (v :: rest) = true) : v.script? = none := by
  unfold isKind at hkind
  split at hkind
  · have hv : v.runtimeType = .methodRef := of_decide_eq_true htest
    obtain ⟨i, d, m, b, rfl⟩ := Value.eq_of_runtimeType_methodRef hv
    rfl
  · have hv : v.runtimeType = .staticClass := of_decide_eq_true htest
    obtain ⟨i, d, rfl⟩ := Value.eq_of_runtimeType_staticClass hv
    rfl
  · cases hkind

namespace LinkRequest

variable {r : LinkRequest} {p : AccessPolicy} {s t : Store} {k : Candidate} {e : ScriptError}

/-- A candidate for a bound callable checks the access whenever it runs. -/
theorem chosen_of_bound {i : Nat} {f a : Value} {l : List Value}
    (hr : r.receiver = .object (.bound i f a l))
    (hop : r.descriptor.operation = .call ∨ r.descriptor.operation = .new)
    (hk : r.chosen (.fixed p) s = .ok k t) :
    k.invocation.code = .checkedCallable r.descriptor (.fixed p) := by
  rw [chosen_apply_bound hr, if_pos hop] at hk
  cases hcheck : (s.policy (.fixed p)).checkCallee r.receiver with
  | error e =>
      rw [hcheck] at hk
      cases hk
  | ok u =>
      rw [hcheck] at hk
      cases hk
      rfl

/-- **A guard that accepts a denied receiver** accepts all of its kind, or lets the candidate check
the access itself. -/
theorem accepts_denied (hk : r.chosen (.fixed p) s = .ok k t) {args : List Value}
    (hadmits : k.admits args = true)
    (hd : p.Denies r.descriptor.operation (Value.argument args 0) e) :
    (∃ g, k.guard? = some g ∧ g.isKind = true) ∨
      (Value.argument args 0).isBound = true ∧
        k.invocation.code = .checkedCallable r.descriptor (.fixed p) := by
  have hreceiver : r.receiver ≠ Value.argument args 0 := by
    intro hr
    rw [← hr] at hd
    rw [chosen_of_denied hd s] at hk
    cases hk
  have hdenied (hcheck : p.checkCallee r.receiver = .error e)
      (hbound : r.receiver.isBound = false) : False := by
    rw [chosen_of_denied ⟨hcheck, by rw [hbound]; simp⟩ s] at hk
    cases hk
  have hfits : r.Fits k := r.fits_chosen _ s k t hk
  have htype := hfits.runtimeType_eq hadmits
  rcases hfits.guard with hg | ⟨o, ho, hg⟩ | ⟨i, c, hi, hg⟩
  · -- the guard is the type of the receiver, which tells the class except for two kinds
    cases hv : Value.argument args 0 with
    | primitive q => rw [hv] at hd; cases hd.1
    | object o =>
        rw [hv] at hd htype hreceiver
        cases o with
        | host i c =>
            obtain ⟨j, hj⟩ := Value.eq_of_runtimeType_host htype.symm
            exact (hdenied (by rw [hj]; exact hd.1) (by rw [hj]; rfl)).elim
        | proxy i m u => exact (hreceiver (Value.eq_of_runtimeType_proxy htype.symm)).elim
        | bound i f a l =>
            obtain ⟨_, _, _, _, hj⟩ := Value.eq_of_runtimeType_bound htype.symm
            exact .inr ⟨rfl, chosen_of_bound hj (hd.2 rfl) hk⟩
        | methodRef i c m b => exact .inl ⟨_, hg, by rw [Guard.receiverType, ← htype]; rfl⟩
        | staticClass i c => exact .inl ⟨_, hg, by rw [Guard.receiverType, ← htype]; rfl⟩
        | _ => cases hd.1
  · -- the guard is the identity of the receiver, which was not denied
    have htest : (Value.argument args 0).equals r.receiver = true :=
      Candidate.test_of_admits hadmits hg
    rw [ho] at htest hreceiver
    exact (hreceiver (Value.eq_of_equals_object htest).symm).elim
  · -- the guard is the class that the receiver is as a value
    obtain ⟨j, hj⟩ := Guard.eq_of_isStaticClass (Candidate.test_of_admits hadmits hg)
    rw [hj] at hd
    exact (hdenied (by rw [hi]; exact hd.1) (by rw [hi]; rfl)).elim

end LinkRequest

/-! ### Denied calls -/

/-- The site holds a candidate that would serve calls on the value only because of its kind. -/
def CallSite.ServesByKind (c : CallSite) (s : Store) (v : Value) : Prop :=
  ∃ k g, c.cached? s [v] = some k ∧ k.guard? = some g ∧ g.isKind = true

/-- A guard by kind looks at the receiver alone, so that the other arguments do not matter. -/
theorem CallSite.servesByKind_of_cached? {c : CallSite} {s : Store} {v : Value}
    {rest : List Value} {k : Candidate} {g : Guard} (hhit : c.cached? s (v :: rest) = some k)
    (hg : k.guard? = some g) (hkind : g.isKind = true) : c.ServesByKind s v := by
  refine ⟨k, g, ?_, hg, hkind⟩
  have htest : g.test [v] = g.test (v :: rest) := by
    unfold Guard.isKind at hkind
    split at hkind <;> first | rfl | cases hkind
  have hadmits : k.admits [v] = k.admits (v :: rest) := by
    unfold Candidate.admits
    rw [hg]
    exact htest
  unfold CallSite.cached? Store.accepts at hhit ⊢
  split at hhit
  · cases hhit
  · rename_i hm
    rw [if_neg hm]
    obtain ⟨htarget, haccepts⟩ := Option.filter_eq_some_iff.mp hhit
    exact Option.filter_eq_some_iff.mpr ⟨htarget, by rw [hadmits]; exact haccepts⟩

section

variable {chain : LinkerChain} {p : AccessPolicy} {s t u : Store} {id : Nat} {c : CallSite}
  {args : List Value} {e : ScriptError}

/-- A denied call that has to link fails, and nothing but the state of the site changes. -/
theorem invokeSite_of_denied_miss (hchain : c.chain.IsDefault (.fixed p))
    (hsite : s.sites.get? id = some c) (hmiss : c.cached? s args = none)
    (hd : p.Denies c.descriptor.operation (Value.argument args 0) e) (run : Runner) :
    invokeSite id args run s =
      .error (.error e) (s.withSite id (c.countInvoke false).countLink) := by
  have hlink := hchain.link_of_error (r := ⟨c.descriptor, args, (c.countInvoke false).isUnstable⟩)
    (LinkRequest.chosen_of_denied (r := ⟨c.descriptor, args, (c.countInvoke false).isUnstable⟩) hd
      (s.withSite id (c.countInvoke false).countLink))
  have hresolve : resolve id args s = _ := resolveBy_of_miss (link_leavesSite id) hsite hmiss
  rw [hlink] at hresolve
  rw [invokeSite_apply, hresolve]

/-- A denied call that the cache serves fails when it runs, unless it is served by kind. -/
theorem invokeSite_of_denied_hit (hchain : c.chain.IsDefault (.fixed p))
    (hsourced : s.Sourced) (hsite : s.sites.get? id = some c) {k : Candidate}
    (hhit : c.cached? s args = some k)
    (hd : p.Denies c.descriptor.operation (Value.argument args 0) e)
    (hkind : ∀ g, k.guard? = some g → g.isKind = false) (run : Runner) :
    invokeSite id args run s = .error (.error e) (s.withSite id (c.countInvoke true)) := by
  have htarget := CallSite.of_cached? hhit
  obtain ⟨b, args₁, s₁, s₂, -, hl⟩ := hsourced id c k hsite htarget.1
  obtain ⟨k₀, k', f?, hk', hchosen, -, hadapts⟩ := hchain.link_inv hl
  cases hk'
  have hadmits : k₀.admits args = true := by
    rw [← Candidate.admits_of_guard hadapts.guard]
    exact (Store.admits_of_accepts htarget.2).2
  rcases LinkRequest.accepts_denied hchosen hadmits hd with ⟨g, hg, hk⟩ | ⟨hbound, hcode⟩
  · rw [← hadapts.guard] at hg
    rw [hkind g hg] at hk
    cases hk
  · -- the candidate checks the access before it runs anything
    have hresolve : resolve id args s = _ := resolveBy_of_cached hsite hhit
    rw [invokeSite_apply, hresolve]
    dsimp only
    rw [hadapts.eval, Invocation.eval, hcode, Code.eval, Descriptor.argument_passes]
    refine RunM.bind_of_error (RunM.bind_of_error ?_ _) _
    rw [RunM.lift_apply, checkCallee, StoreM.get_bind, Store.policy_fixed, hd.1]
    rfl

end

/-! ### Calls that are served by kind -/

/-- User code that gets nowhere. -/
def stuck : Runner :=
  fun _ _ _ => throw .tooDeep

/-- The result is that of a denied access. -/
def IsDenial {α : Type} (x : EStateM.Result Fault Store α) : Prop :=
  ∃ k n t, x = .error (.error (.accessDenied k n)) t

/-- The result is a failure, but not that of a denied access. -/
def FailsOtherwise {α : Type} (x : EStateM.Result Fault Store α) : Prop :=
  ∃ f t, x = .error f t ∧ ∀ k n, f ≠ .error (.accessDenied k n)

theorem not_isDenial_ok {α : Type} {a : α} {s : Store} {x : EStateM.Result Fault Store α}
    (h : x = .ok a s) : ¬ IsDenial x := by
  rintro ⟨k, n, t, hx⟩
  rw [hx] at h
  cases h

theorem FailsOtherwise.not_isDenial {α : Type} {x : EStateM.Result Fault Store α}
    (h : FailsOtherwise x) : ¬ IsDenial x := by
  obtain ⟨f, t, hf, hne⟩ := h
  rintro ⟨k, n, u, hx⟩
  rw [hf] at hx
  cases hx
  exact hne k n rfl

/-- The fault comes from what a candidate runs: it is neither that of a policy nor that of a chain
that has no candidate. -/
def Fault.IsInner (f : Fault) : Prop :=
  (∀ k n, f ≠ .error (.accessDenied k n)) ∧ ∀ e x, f ≠ .error (.noOperation e x)

/-- The result is a failure that comes from what a candidate runs. -/
def FailsInside {α : Type} (x : EStateM.Result Fault Store α) : Prop :=
  ∃ f t, x = .error f t ∧ f.IsInner

theorem FailsInside.not_isDenial {α : Type} {x : EStateM.Result Fault Store α}
    (h : FailsInside x) : ¬ IsDenial x := by
  obtain ⟨f, t, hf, hinner⟩ := h
  exact FailsOtherwise.not_isDenial ⟨f, t, hf, hinner.1⟩

theorem FailsInside.bind {α β : Type} {m : RunM α} {f : α → RunM β} {run : Runner} {s : Store}
    (h : FailsInside (m run s)) : FailsInside ((m >>= f) run s) := by
  obtain ⟨e, t, he, hinner⟩ := h
  exact ⟨e, t, RunM.bind_of_error he f, hinner⟩

/-- A primitive value converts to a primitive one without user code, or not at all. -/
theorem convertValue_primitive (q : Primitive) (t : StaticType) (run : Runner) (s : Store) :
    (∃ p, convertValue (.primitive q) t run s = .ok (.primitive p) s) ∨
      ∃ x m, convertValue (.primitive q) t run s = .error (.error (.notFunctional x m)) s := by
  by_cases hadmits : t.admits (.primitive q) = true
  · rw [convertValue_of_admits hadmits]
    exact .inl ⟨q, rfl⟩
  unfold convertValue
  rw [if_neg hadmits]
  cases t with
  | functional m => exact .inr ⟨_, m, rfl⟩
  | boxedBoolean | boxedInt | boxedLong | boxedDouble =>
      dsimp only
      split <;> exact .inl ⟨_, rfl⟩
  | _ => exact .inl ⟨_, rfl⟩

theorem convertArguments_undefined (ts : List StaticType) {args : List Value}
    (h : ∀ a ∈ args, a = .undefined) (run : Runner) (s : Store) :
    (∃ ws, convertArguments ts args run s = .ok ws s) ∨
      ∃ x m, convertArguments ts args run s = .error (.error (.notFunctional x m)) s := by
  -- induction on the parameters: arguments that are absent are `undefined` as well
  induction ts generalizing args with
  | nil => exact .inl ⟨args, rfl⟩
  | cons t ts ih =>
      have hhead : args.head?.getD .undefined = .undefined := by
        cases args with
        | nil => rfl
        | cons a as => exact h a (by simp)
      rw [convertArguments, hhead]
      rcases convertValue_primitive .undefined t run s with ⟨w, hw⟩ | ⟨x, m, hx⟩
      · rw [RunM.bind_of_ok hw]
        have htail : ∀ a ∈ args.tail, a = .undefined := fun a ha => h a (List.mem_of_mem_tail ha)
        rcases ih htail with ⟨ws, hws⟩ | ⟨x, m, hx⟩
        · exact .inl ⟨.primitive w :: ws, by rw [RunM.bind_of_ok hws]; rfl⟩
        · exact .inr ⟨x, m, by rw [RunM.bind_of_error hx]⟩
      · exact .inr ⟨x, m, by rw [RunM.bind_of_error hx]⟩

/-- What a filter makes of a primitive value is primitive, or a failure of the filter. -/
theorem finish_primitive (f? : Option ResultFilter) (q : Primitive) (run : Runner) (s : Store) :
    (∃ p, finish f? (.primitive q) run s = .ok (.primitive p) s) ∨
      FailsInside (finish f? (.primitive q) run s) := by
  cases f? with
  | none => exact .inl ⟨q, rfl⟩
  | some f =>
      cases f with
      | convert t =>
          rcases convertValue_primitive q t run s with h | ⟨x, m, hx⟩
          · exact .inl h
          · exact .inr ⟨_, s, hx, by simp [Fault.IsInner]⟩
      | requireFit t n =>
          by_cases hfits : fits t (.primitive q) = true
          · exact .inl ⟨q, requireFit_of_fits hfits n run s⟩
          · rw [finish_some, requireFit_of_unfit (by simpa using hfits)]
            exact .inr ⟨_, s, rfl, by simp [Fault.IsInner]⟩
      | narrow t =>
          have hnarrowed : ∃ p, narrowed t (.primitive q) = .primitive p := by
            cases t <;> cases q <;> first
              | exact ⟨_, rfl⟩
              | (rename_i n; cases n <;> exact ⟨_, rfl⟩)
          obtain ⟨p, hp⟩ := hnarrowed
          exact .inl ⟨p, congrArg (EStateM.Result.ok · s) hp⟩
      | _ => exact .inl ⟨_, rfl⟩

/-- A method reference that is called without arguments fails because its method cannot be called,
or gets nowhere in it. -/
theorem failsInside_callMethodRef (c : HostClass) (m : String) (isStatic : Bool)
    {args : List Value} (h : ∀ a ∈ args, a = .undefined) (s : Store) :
    FailsInside (callMethodRef c m isStatic .undefined args stuck s) := by
  cases isStatic with
  | false =>
      cases hm : c.findMethod? m <;>
      · simp only [callMethodRef, hm]
        exact ⟨_, s, rfl, by simp [Fault.IsInner]⟩
  | true =>
      cases hm : c.findStaticMethod? m with
      | none =>
          simp only [callMethodRef, hm, if_true]
          exact ⟨_, s, rfl, by simp [Fault.IsInner]⟩
      | some method =>
          simp only [callMethodRef, hm, if_true, invokeHost]
          rcases convertArguments_undefined method.signature.params h stuck s with
            ⟨ws, hws⟩ | ⟨x, n, hx⟩
          · rw [RunM.bind_of_ok hws]
            exact ⟨_, s, rfl, by simp [Fault.IsInner]⟩
          · rw [RunM.bind_of_error hx]
            exact ⟨_, s, rfl, by simp [Fault.IsInner]⟩

/-- The same through the code of a candidate for calls of method references. -/
theorem failsInside_evalMethodCall (d : Descriptor) (v : Value) {rest : List Value}
    (h : ∀ a ∈ rest, a = .undefined) (s : Store) :
    FailsInside (evalMethodCall d (v :: rest) stuck s) := by
  have hself : Descriptor.callReceiver (v :: rest) = .undefined := by
    cases rest with
    | nil => rfl
    | cons a as => exact h a (by simp)
  have hargs : ∀ a ∈ d.callArguments (v :: rest), a = .undefined := by
    intro a ha
    refine h a ?_
    unfold Descriptor.callArguments at ha
    split at ha
    · exact ha
    · exact List.mem_of_mem_drop ha
  unfold evalMethodCall
  rw [hself]
  have hother (w : Value) : FailsInside ((fail (.notFunction w.text) : RunM Value) stuck s) :=
    ⟨_, _, rfl, by simp [Fault.IsInner]⟩
  cases v with
  | primitive q => exact hother _
  | object o =>
      cases o with
      | methodRef i c m b => exact failsInside_callMethodRef c m b hargs _
      | _ => exact hother _

/-- Whether script objects are hidden from it makes no difference. -/
theorem failsInside_hideScripts (services : Services) (d : Descriptor) (sig : Signature)
    {v : Value} (hv : v.script? = none) {rest : List Value} (h : ∀ a ∈ rest, a = .undefined)
    (s : Store) :
    FailsInside ((services.hideScripts ⟨sig, .methodCall d⟩).eval (v :: rest) stuck s) := by
  rw [Services.hideScripts]
  split
  · have hscripts : ∀ a ∈ v :: rest, a.script? = none := by
      intro a ha
      rcases List.mem_cons.mp ha with rfl | ha
      · exact hv
      · rw [h a ha]
        rfl
    obtain ⟨as, n, has, hsame⟩ := wrapScripts_apply (v :: rest) stuck s
    rw [hsame hscripts] at has
    rw [Invocation.eval_filterResult, Invocation.eval_filterArguments]
    refine FailsInside.bind ?_
    rw [RunM.bind_of_ok has]
    exact failsInside_evalMethodCall d v h _
  · exact failsInside_evalMethodCall d v h s

/-- The arguments that are passed on when there is only a receiver. -/
theorem passes_singleton (d : Descriptor) (v : Value) :
    ∃ rest, d.passes [v] = v :: rest ∧ ∀ a ∈ rest, a = .undefined := by
  have hpadded (n : Nat) : ∀ a ∈ padded n [], a = .undefined := by
    induction n with
    | zero => simp [padded]
    | succ n ih => simpa [padded] using ih
  unfold Descriptor.passes
  split
  · exact ⟨[], rfl, by simp⟩
  · cases d.signature.arity with
    | zero => exact ⟨[], rfl, by simp⟩
    | succ n => exact ⟨padded n [], rfl, hpadded n⟩

section

variable {r : LinkRequest} {p : PolicyRef} {s t : Store} {k : Candidate}

/-- The candidates whose guard is a kind are for missing members and for calls of method
references. -/
theorem code_of_isKind (hk : r.chosen p s = .ok k t) {g : Guard} (hg : k.guard? = some g)
    (hkind : g.isKind = true) :
    r.receiver.isNullish = false ∧
      (k = r.missing ∨ k.invocation.code = r.descriptor.methodCode) := by
  have hfits : r.Fits k := r.fits_chosen p s k t hk
  have hkinds : k.guard? = some (.type 0 .methodRef) ∨ k.guard? = some (.type 0 .staticClass) := by
    rw [hg]
    unfold Guard.isKind at hkind
    split at hkind
    · exact .inl rfl
    · exact .inr rfl
    · cases hkind
  rcases hkinds with hmethod | hclass
  · have htype := hfits.runtimeType_of_guard hmethod
    obtain ⟨i, c, m, b, hr⟩ := Value.eq_of_runtimeType_methodRef htype
    refine ⟨by rw [hr]; rfl, ?_⟩
    rw [LinkRequest.chosen_eq_methodRef hr, StoreM.get_bind] at hk
    obtain ⟨_, u, -, hk⟩ := StoreM.bind_eq_ok hk
    cases hk
    split
    · exact .inr (r.code_linkMethodRef p c m b)
    · exact .inl rfl
  · have htype := hfits.runtimeType_of_guard hclass
    obtain ⟨i, c, hr⟩ := Value.eq_of_runtimeType_staticClass htype
    refine ⟨by rw [hr]; rfl, ?_⟩
    rw [LinkRequest.chosen_eq_staticClass hr, StoreM.get_bind] at hk
    obtain ⟨_, u, -, hk⟩ := StoreM.bind_eq_ok hk
    obtain ⟨i?, u', -, hk⟩ := StoreM.bind_eq_ok hk
    cases hk
    cases i? with
    | none => exact .inl rfl
    | some i =>
        -- what a class has is guarded by the class
        cases hg
        cases hkind

end

/-- **A call that is served by kind is not denied**, whatever the policy says. -/
theorem not_isDenial_of_servesByKind {p : PolicyRef} {s : Store} {id : Nat} {c : CallSite}
    {v : Value} (hchain : c.chain.IsDefault p) (hsourced : s.Sourced)
    (hsite : s.sites.get? id = some c) (h : c.ServesByKind s v) :
    ¬ IsDenial (invokeSite id [v] stuck s) := by
  obtain ⟨k, g, hhit, hg, hkind⟩ := h
  obtain ⟨htarget, haccepts⟩ := CallSite.of_cached? hhit
  obtain ⟨b, args₁, s₁, s₂, -, hl⟩ := hsourced id c k hsite htarget
  obtain ⟨k₀, k', f?, hk', hchosen, -, hadapts⟩ := hchain.link_inv hl
  cases hk'
  obtain ⟨hnullish, hcode⟩ := code_of_isKind hchosen (hadapts.guard ▸ hg) hkind
  have hscript : v.script? = none :=
    Guard.script?_of_isKind hkind
      (Candidate.test_of_admits (Store.admits_of_accepts haccepts).2 hg)
  have hresolve : resolve id [v] s = _ := resolveBy_of_cached hsite hhit
  obtain ⟨rest, hrest, hundefined⟩ := passes_singleton c.descriptor v
  rw [invokeSite_apply, hresolve]
  dsimp only
  rw [hadapts.eval, hrest]
  -- without arguments neither candidate gets as far as the body of a method
  rcases hcode with rfl | hcode
  · have hfirst : (Value.argument (v :: rest) 0).script? = none := hscript
    rcases LinkRequest.eval_missing hnullish hfirst stuck
      (s.withSite id (c.countInvoke true)) with hok | ⟨-, x, hx⟩
    · rw [RunM.bind_of_ok hok]
      rcases finish_primitive f? .undefined stuck _ with ⟨q, hq⟩ | hfails
      · exact not_isDenial_ok hq
      · exact hfails.not_isDenial
    · rw [RunM.bind_of_error hx]
      exact FailsOtherwise.not_isDenial ⟨_, _, rfl, by simp⟩
  · rw [Invocation.eval, hcode]
    exact (failsInside_hideScripts { policy := p } _ (c.descriptor.genericSignature .object)
      hscript hundefined _).bind.not_isDenial

/-! ### The law -/

/-- **When denied accesses are denied.**  In every run of the call sites of an environment without
contributed linkers, whatever its threshold is, a call whose receiver the policy denies fails with
the error of the policy, having run no code and changed nothing but the state of the site, exactly
if the site holds no candidate that would serve the call by kind. -/
theorem denied_iff_not_servesByKind {e : Environment} {p : AccessPolicy}
    (hpolicy : e.policy = .fixed p) (hcontributed : e.contributed = []) {s : Store}
    (hs : s.Reachable) {id : Nat} {c : CallSite} (hsite : s.sites.get? id = some c)
    (hchain : c.chain = e.chain) {v : Value} {err : ScriptError}
    (hd : p.Denies c.descriptor.operation v err) :
    err.kind = .security ∧
      ((∀ rest, ∃ sites, ∀ run,
          invokeSite id (v :: rest) run s = .error (.error err) { s with sites }) ↔
        ¬ c.ServesByKind s v) := by
  have hdefault : c.chain.IsDefault (.fixed p) := by
    rw [hchain, ← hpolicy]
    exact e.chain_isDefault hcontributed
  obtain ⟨category, name, rfl⟩ := AccessPolicy.checkCallee_eq_error hd.1
  refine ⟨rfl, fun hdenied hkind => ?_, fun hkind rest => ?_⟩
  · -- one call without arguments, with user code that gets nowhere, is enough to see it
    obtain ⟨sites, hrun⟩ := hdenied []
    exact not_isDenial_of_servesByKind hdefault hs.sourced hsite hkind
      ⟨category, name, _, hrun stuck⟩
  · cases hhit : c.cached? s (v :: rest) with
    | none => exact ⟨_, invokeSite_of_denied_miss hdefault hsite hhit hd⟩
    | some k =>
        refine ⟨_, invokeSite_of_denied_hit hdefault hs.sourced hsite hhit hd fun g hg => ?_⟩
        by_contra hne
        exact hkind (CallSite.servesByKind_of_cached? hhit hg (by simpa using hne))

/-! ### A denied class behind a cached candidate -/

namespace DeniedCall

/-- What the classes declare: a static method. -/
def members : List MemberDecl := [.staticMethod "run" ⟨[], .string⟩ []]

/-- The policy that denies one class. -/
def policy : AccessPolicy := .denying ["Vault"]

/-- An environment under the policy whose sites stop caching with the first relink. -/
def environment : Environment :=
  { config := { threshold := 0 }, policy := .fixed policy }

/-- A site of the environment that calls. -/
def site : CallSite :=
  environment.newSite ⟨.call, none, Signature.generic 2, ⟨0⟩⟩

/-- A store with the new site. -/
def store : Store := ({} : Store).withSite 0 site

/-- The method of an ordinary class. -/
def permitted : Value :=
  .object (.methodRef 1 (.ofMembers 10 "Lamp" members .ordinary) "run" true)

/-- The method of the denied class. -/
def denied : Value :=
  .object (.methodRef 2 (.ofMembers 11 "Vault" members .reflection) "run" true)

/-- At the new site the call is denied. -/
theorem denied_at_new_site :
    store.Reachable ∧ policy.Denies site.descriptor.operation denied
      (.accessDenied .reflection "Vault") ∧
    ∀ rest, ∃ sites, ∀ run, invokeSite 0 (denied :: rest) run store =
      .error (.error (.accessDenied .reflection "Vault")) { store with sites } := by
  have hreachable : store.Reachable := Store.reachable_newSite rfl _ _ _
  have hdenies : policy.Denies site.descriptor.operation denied
      (.accessDenied .reflection "Vault") := ⟨rfl, fun h => nomatch h⟩
  refine ⟨hreachable, hdenies, ?_⟩
  refine (denied_iff_not_servesByKind (e := environment) (c := site) rfl rfl hreachable rfl rfl
    hdenies).2.mpr ?_
  rintro ⟨k, g, hk, -⟩
  cases hk

/-- Once the site has called the permitted method, it calls the denied one as well: denied accesses
are not always denied. -/
theorem not_always_denied :
    ¬ ∀ (e : Environment) (p : AccessPolicy) (s : Store) (id : Nat) (c : CallSite) (v : Value)
        (rest : List Value) (err : ScriptError),
      e.policy = .fixed p → e.contributed = [] → s.Reachable → s.sites.get? id = some c →
      c.chain = e.chain → p.Denies c.descriptor.operation v err →
      ∃ sites, ∀ run, invokeSite id (v :: rest) run s = .error (.error err) { s with sites } := by
  intro h
  have hnew : store.Reachable := Store.reachable_newSite rfl _ _ _
  have hreachable : ((resolve 0 [permitted, .undefined]).after store).Reachable :=
    hnew.evolves (.single (.serve store 0 _))
  obtain ⟨sites, hrun⟩ := h environment policy _ 0 _ denied [.undefined]
    (.accessDenied .reflection "Vault") rfl rfl hreachable rfl rfl ⟨rfl, fun h => nomatch h⟩
  have hopened : ∃ t, invokeSite 0 [denied, .undefined]
      (fun _ _ _ => pure (.string "vault opened"))
      ((resolve 0 [permitted, .undefined]).after store) = .ok (.string "vault opened") t :=
    ⟨_, rfl⟩
  obtain ⟨t, ht⟩ := hopened
  rw [hrun] at ht
  cases ht

end DeniedCall

end DynamicLinking
