/-
The last linker of the default chain has a candidate for every missing member, so the chain never
runs out of candidates.  Linking fails in two ways only.  The policy may deny the restricted class
that the receiver stands for; which class that is depends on the operation, because bound callables
are looked through when they are called and adapters when a method is read.  And the types of a
candidate may have no conversion to those of the call site; the parameters always have one, and
results have one unless a functional type is involved.

Main definitions:

* `Value.unbound`, `Value.reflected?` — a value behind its layers of binding, and the class that a
  value stands for;
* `LinkRequest.Denied` — **the policy denies the class behind the receiver**;
* `LinkRequest.InvolvesFunctional` — a functional type is that of the results of the call site, or
  of those of a member of the class of the receiver.

Main results:

* `LinkRequest.chosen_cases` — a choice fails exactly if the receiver is denied;
* `LinkerChain.signature_of_link` — a candidate that any chain links has the types of the call site;
* `LinkerChain.IsDefault.link_cases` — what can come of a link;
* `link_total` — **the default chain always has an answer**.
-/

import DynamicLinking.Proofs.AccessControl
import DynamicLinking.Proofs.Choices
import DynamicLinking.Proofs.Permitted

set_option autoImplicit false

namespace DynamicLinking

/-! ### Denied receivers -/

/-- The value behind all layers of binding. -/
def Value.unbound : Value → Value
  | .object (.bound _ callee _ _) => callee.unbound
  | v => v

/-- The host class that a value stands for, and whether it is reached statically. -/
def Value.reflected? : Value → Option (HostClass × Bool)
  | .object (.host _ c) => some (c, false)
  | .object (.proxy i m _) => some (HostClass.proxy i m, false)
  | .object (.staticClass _ c) => some (c, true)
  | .object (.methodRef _ c _ isStatic) => some (c, isStatic)
  | _ => none

/-- An instance stands for its class. -/
theorem Value.reflected?_of_hostClass? {o : Object} {c : HostClass} (h : o.hostClass? = some c) :
    (Value.object o).reflected? = some (c, false) := by
  cases o with
  | host i d =>
      cases h
      rfl
  | proxy i m t =>
      cases h
      rfl
  | _ => cases h

namespace AccessPolicy

variable {p : AccessPolicy} {c : HostClass} {b : Bool} {v : Value}

/-- The class is restricted, and the policy does not permit access to it. -/
def Refuses (p : AccessPolicy) (c : HostClass) (isStatic : Bool) : Prop :=
  c.isRestricted = true ∧ p.permits c.name isStatic = false

/-- The value stands for a restricted class that the policy refuses. -/
def Forbids (p : AccessPolicy) (v : Value) : Prop :=
  ∃ c b, v.reflected? = some (c, b) ∧ p.Refuses c b

theorem check_of_refuses (h : p.Refuses c b) :
    p.check c b = .error (.accessDenied c.category c.name) := by
  simp [check, h.1, h.2]

theorem check_of_not_refuses (h : ¬ p.Refuses c b) : p.check c b = .ok () := by
  unfold check
  rw [if_neg]
  intro hdenied
  simp only [Bool.and_eq_true, Bool.not_eq_true'] at hdenied
  exact h hdenied

/-- Of a callable the class behind its layers of binding is checked. -/
theorem checkCallee_eq (p : AccessPolicy) (v : Value) :
    p.checkCallee v = (v.unbound.reflected?.map fun x => p.check x.1 x.2).getD (.ok ()) := by
  -- induction on the layers of binding
  fun_induction Value.unbound v with
  | case1 i callee self leading ih => rw [checkCallee, ih]
  | case2 v hv =>
      cases v with
      | primitive q => rfl
      | object o =>
          cases o with
          | bound i callee self leading => exact (hv _ _ _ _ rfl).elim
          | _ => rfl

theorem checkCallee_of_forbids (h : p.Forbids v.unbound) :
    ∃ e, p.checkCallee v = .error e ∧ e.kind = .security := by
  obtain ⟨c, b, hc, hrefuses⟩ := h
  refine ⟨.accessDenied c.category c.name, ?_, rfl⟩
  rw [checkCallee_eq, hc]
  exact check_of_refuses hrefuses

theorem checkCallee_of_not_forbids (h : ¬ p.Forbids v.unbound) : p.checkCallee v = .ok () := by
  rw [checkCallee_eq]
  cases hc : v.unbound.reflected? with
  | none => rfl
  | some x => exact check_of_not_refuses fun hrefuses => h ⟨x.1, x.2, hc, hrefuses⟩

end AccessPolicy

namespace LinkRequest

/-- The policy denies the restricted class behind the receiver: the one that the receiver itself
stands for; if a bound callable is called or constructed, the one that it is bound to; and if a
method is read through an adapter, the one that is adapted. -/
inductive Denied (r : LinkRequest) (p : AccessPolicy) : Prop where
  | direct (h : p.Forbids r.receiver)
  | bound (hop : r.descriptor.operation = .call ∨ r.descriptor.operation = .new)
      (hr : r.receiver.isBound = true) (h : p.Forbids r.receiver.unbound)
  | adapted {i : Nat} {a : Value} (hop : r.descriptor.operation = .getMethod)
      (hr : r.receiver = .object (.superAdapter i a)) (h : p.Forbids a.unbound)

/-- The choice fails with an error of the policy, or else it succeeds; which of them is decided by
a condition. -/
def ChoiceBy (m : StoreM Candidate) (s : Store) (denied : Prop) : Prop :=
  (denied ∧ ∃ e, m s = .error (.error e) s ∧ e.kind = .security) ∨
    (¬ denied ∧ ∃ k t, m s = .ok k t)

section

variable {r : LinkRequest} {p : PolicyRef} {s : Store} {m : StoreM Candidate}

theorem ChoiceBy.of_iff {P Q : Prop} (h : ChoiceBy m s P) (hPQ : P ↔ Q) : ChoiceBy m s Q := by
  rcases h with ⟨hP, hfails⟩ | ⟨hP, hok⟩
  · exact .inl ⟨hPQ.mp hP, hfails⟩
  · exact .inr ⟨fun hQ => hP (hPQ.mpr hQ), hok⟩

theorem choiceBy_of_ok {P : Prop} {k : Candidate} {t : Store} (hP : ¬ P) (h : m s = .ok k t) :
    ChoiceBy m s P :=
  .inr ⟨hP, k, t, h⟩

/-- A choice behind the check of a class. -/
theorem choiceBy_checked {c : HostClass} {b : Bool} (hm : ∃ k t, m s = .ok k t) :
    ChoiceBy (do ofExcept (((← get).policy p).check c b); m) s ((s.policy p).Refuses c b) := by
  rw [ChoiceBy, StoreM.get_bind]
  by_cases h : (s.policy p).Refuses c b
  · refine .inl ⟨h, .accessDenied c.category c.name, ?_, rfl⟩
    rw [AccessPolicy.check_of_refuses h]
    rfl
  · refine .inr ⟨h, ?_⟩
    rw [AccessPolicy.check_of_not_refuses h]
    exact hm

/-- A choice behind the check of a callee. -/
theorem choiceBy_checkedCallee {v : Value} {k : Candidate}
    (h : m s = (ofExcept ((s.policy p).checkCallee v) >>= fun _ => pure k) s) :
    ChoiceBy m s ((s.policy p).Forbids v.unbound) := by
  by_cases hforbids : (s.policy p).Forbids v.unbound
  · obtain ⟨e, he, hkind⟩ := AccessPolicy.checkCallee_of_forbids hforbids
    refine .inl ⟨hforbids, e, ?_, hkind⟩
    rw [h, he]
    rfl
  · refine .inr ⟨hforbids, k, s, ?_⟩
    rw [h, AccessPolicy.checkCallee_of_not_forbids hforbids]
    rfl

/-- A search for a member does not fail. -/
theorem ok_of_lookup {m : StoreM (Option Invocation)} (hm : Lookup m)
    (f : Option Invocation → Candidate) :
    ∃ k t, (m >>= fun i? => pure (f i?)) s = .ok k t := by
  cases hm with
  | found i? => exact ⟨f i?, s, rfl⟩
  | methodRef hsig c name isStatic => exact ⟨_, _, rfl⟩

/-- The value stands for a class itself, so that nothing but this class can be denied. -/
theorem denied_iff_of_reflected {c : HostClass} {b : Bool} {q : AccessPolicy}
    (hr : r.receiver.reflected? = some (c, b)) : r.Denied q ↔ q.Refuses c b := by
  constructor
  · intro h
    cases h with
    | direct h =>
        obtain ⟨c', b', hc, hrefuses⟩ := h
        rw [hr] at hc
        cases hc
        exact hrefuses
    | bound hop hbound h =>
        -- bound callables stand for no class
        cases hv : r.receiver with
        | primitive x => rw [hv] at hbound; cases hbound
        | object o =>
            rw [hv] at hbound hr
            cases o with
            | bound i callee self leading => cases hr
            | _ => cases hbound
    | adapted hop ha h =>
        rw [ha] at hr
        cases hr
  · intro h
    exact .direct ⟨c, b, hr, h⟩

/-- A value that stands for no class, is bound to nothing and adapts nothing. -/
theorem not_denied {q : AccessPolicy} (hreflected : r.receiver.reflected? = none)
    (hbound : r.receiver.isBound = false)
    (hadapter : ∀ i a, r.receiver ≠ .object (.superAdapter i a)) : ¬ r.Denied q := by
  intro h
  cases h with
  | direct h =>
      obtain ⟨c, b, hc, -⟩ := h
      rw [hreflected] at hc
      cases hc
  | bound hop hb h =>
      rw [hbound] at hb
      cases hb
  | adapted hop ha h => exact hadapter _ _ ha

end

section

variable {r : LinkRequest} {p : PolicyRef} {s : Store}

theorem choice_of_host {o : Object} {c : HostClass} (hr : r.receiver = .object o)
    (ho : o.hostClass? = some c) : ChoiceBy (r.chosen p) s (r.Denied (s.policy p)) := by
  have hreflected : r.receiver.reflected? = some (c, false) := by
    rw [hr]
    exact Value.reflected?_of_hostClass? ho
  rw [chosen_eq_host hr ho]
  exact (choiceBy_checked (ok_of_lookup (r.lookup_beanInvocation c) _)).of_iff
    (denied_iff_of_reflected hreflected).symm

theorem choice_of_staticClass {i : Nat} {c : HostClass}
    (hr : r.receiver = .object (.staticClass i c)) :
    ChoiceBy (r.chosen p) s (r.Denied (s.policy p)) := by
  rw [chosen_eq_staticClass hr]
  exact (choiceBy_checked (ok_of_lookup (r.lookup_staticInvocation _ c) _)).of_iff
    (denied_iff_of_reflected (by rw [hr]; rfl)).symm

theorem choice_of_methodRef {i : Nat} {c : HostClass} {m : String} {isStatic : Bool}
    (hr : r.receiver = .object (.methodRef i c m isStatic)) :
    ChoiceBy (r.chosen p) s (r.Denied (s.policy p)) := by
  rw [chosen_eq_methodRef hr]
  exact (choiceBy_checked ⟨_, s, rfl⟩).of_iff (denied_iff_of_reflected (by rw [hr]; rfl)).symm

/-- A bound callable is looked through if it is called or constructed. -/
theorem choice_of_bound {i : Nat} {f a : Value} {l : List Value}
    (hr : r.receiver = .object (.bound i f a l)) :
    ChoiceBy (r.chosen p) s (r.Denied (s.policy p)) := by
  have hdenied : r.Denied (s.policy p) ↔
      (r.descriptor.operation = .call ∨ r.descriptor.operation = .new) ∧
        (s.policy p).Forbids r.receiver.unbound := by
    constructor
    · intro h
      cases h with
      | direct h =>
          obtain ⟨c, b, hc, -⟩ := h
          rw [hr] at hc
          cases hc
      | bound hop hb h => exact ⟨hop, h⟩
      | adapted hop ha h =>
          rw [hr] at ha
          cases ha
    · rintro ⟨hop, h⟩
      exact .bound hop (by rw [hr]; rfl) h
  refine ChoiceBy.of_iff ?_ hdenied.symm
  have hchosen := chosen_apply_bound (p := p) hr s
  by_cases hop : r.descriptor.operation = .call ∨ r.descriptor.operation = .new
  · rw [if_pos hop] at hchosen
    exact (choiceBy_checkedCallee hchosen).of_iff (and_iff_right hop).symm
  · -- other operations on a bound callable do not reach what it is bound to
    rw [if_neg hop] at hchosen
    exact choiceBy_of_ok (fun h => hop h.1) hchosen

/-- An adapter is looked through if a method is read. -/
theorem choice_of_superAdapter {i : Nat} {a : Value}
    (hr : r.receiver = .object (.superAdapter i a)) :
    ChoiceBy (r.chosen p) s (r.Denied (s.policy p)) := by
  have hdenied : r.Denied (s.policy p) ↔
      r.descriptor.operation = .getMethod ∧ (s.policy p).Forbids a.unbound := by
    constructor
    · intro h
      cases h with
      | direct h =>
          obtain ⟨c, b, hc, -⟩ := h
          rw [hr] at hc
          cases hc
      | bound hop hb h =>
          rw [hr] at hb
          cases hb
      | adapted hop ha h =>
          rw [hr] at ha
          cases ha
          exact ⟨hop, h⟩
    · rintro ⟨hop, h⟩
      exact .adapted hop hr h
  refine ChoiceBy.of_iff ?_ hdenied.symm
  have hchosen := chosen_apply_superAdapter (p := p) hr s
  by_cases hop : r.descriptor.operation = .getMethod
  · rw [if_pos hop] at hchosen
    exact (choiceBy_checkedCallee hchosen).of_iff (and_iff_right hop).symm
  · rw [if_neg hop] at hchosen
    exact choiceBy_of_ok (fun h => hop h.1) hchosen

/-- **A choice fails exactly if the receiver is denied.** -/
theorem chosen_cases (r : LinkRequest) (p : PolicyRef) (s : Store) :
    ChoiceBy (r.chosen p) s (r.Denied (s.policy p)) := by
  -- values of the script language and of the outside world are not subject to the policy
  have hscript {o : Object} (hr : r.receiver = .object o) (ho : o.isScript = true) :
      ChoiceBy (r.chosen p) s (r.Denied (s.policy p)) := by
    refine choiceBy_of_ok (not_denied ?_ ?_ ?_) (chosen_script hr ho)
    all_goals rw [hr]; cases o <;> simp_all [Value.reflected?, Value.isBound, Object.isScript,
      Object.isScriptFunction]
  have hforeign {o : Object} {b : BridgeKind} (hr : r.receiver = .object o)
      (ho : o.bridge? = some b) : ChoiceBy (r.chosen p) s (r.Denied (s.policy p)) := by
    refine choiceBy_of_ok (not_denied ?_ ?_ ?_) (chosen_foreign hr ho)
    all_goals rw [hr]; cases o <;> simp_all [Value.reflected?, Value.isBound, Object.bridge?]
  cases hr : r.receiver with
  | primitive q =>
      refine choiceBy_of_ok (not_denied ?_ ?_ ?_) (chosen_primitive hr)
      all_goals rw [hr]; simp [Value.reflected?, Value.isBound]
  | object o =>
      cases o with
      | ordinary i => exact hscript hr rfl
      | function i c => exact hscript hr rfl
      | boundFunction i t c b l => exact hscript hr rfl
      | foreign i f => exact hforeign hr rfl
      | mirror i t => exact hforeign hr rfl
      | host i c => exact choice_of_host hr rfl
      | proxy i m t => exact choice_of_host hr rfl
      | bound i f a l => exact choice_of_bound hr
      | superAdapter i a => exact choice_of_superAdapter hr
      | methodRef i c m isStatic => exact choice_of_methodRef hr
      | staticClass i c => exact choice_of_staticClass hr

end

end LinkRequest

/-! ### Functional types -/

/-- The class has the member, its own or an inherited one: a method, the getter or the setter of a
property, a static method or the getter of a static property. -/
inductive HostClass.Has (c : HostClass) : HostMethod → Prop where
  | method {n : String} {m : HostMethod} (h : c.findMethod? n = some m) : Has c m
  | getter {n : String} {q : HostProperty} (h : c.findProperty? n = some q) : Has c q.getter
  | setter {n : String} {q : HostProperty} {m : HostMethod} (h : c.findProperty? n = some q)
      (hm : q.setter? = some m) : Has c m
  | staticMethod {n : String} {m : HostMethod} (h : c.findStaticMethod? n = some m) : Has c m
  | staticGetter {n : String} {q : HostProperty} (h : c.findStaticProperty? n = some q) :
      Has c q.getter

namespace LinkRequest

/-- The value is of a class with a member that has results of the type. -/
def Promises (v : Value) (t : StaticType) : Prop :=
  ∃ c b m, v.reflected? = some (c, b) ∧ c.Has m ∧ m.signature.result = t

/-- The results of the call site, or those of a member of the class of the receiver, are of a
functional type. -/
def InvolvesFunctional (r : LinkRequest) : Prop :=
  r.descriptor.signature.result.isFunctional = true ∨
    ∃ t, Promises r.receiver t ∧ t.isFunctional = true

variable {r : LinkRequest} {p : PolicyRef} {c : HostClass} {k : Candidate}

theorem result_hideScripts (services : Services) (i : Invocation) :
    (services.hideScripts i).signature.result = i.signature.result := by
  unfold Services.hideScripts
  split <;> rfl

theorem has_of_member? {n : String} {b : Bool} {m : HostMethod}
    (h : c.member? n b = some (.property m)) : c.Has m := by
  obtain ⟨q, hq, rfl⟩ := HostClass.exists_of_member? h
  exact .getter hq

theorem MemberInvocation.result_cases {i : Invocation} (h : r.MemberInvocation c i) :
    i.signature.result = .object ∨ ∃ m, c.Has m ∧ m.signature.result = i.signature.result := by
  cases h with
  | call hop hm =>
      obtain ⟨n, -, hn⟩ := Option.bind_eq_some_iff.mp hm
      exact .inr ⟨_, .method hn, rfl⟩
  | getter hop hn hm => exact .inr ⟨_, has_of_member? hm, rfl⟩
  | method i => exact .inl rfl
  | setter hop hn hm =>
      obtain ⟨q, hq, hm⟩ := Option.bind_eq_some_iff.mp hm
      exact .inr ⟨_, .setter hq hm, rfl⟩
  | named hop hn => exact .inl rfl

theorem StaticInvocation.result_cases {i : Invocation} (h : r.StaticInvocation p c i) :
    i.signature.result = .object ∨ ∃ m, c.Has m ∧ m.signature.result = i.signature.result := by
  cases h with
  | getter hop hn hq => exact .inr ⟨_, .staticGetter hq, rfl⟩
  | _ => exact .inl rfl

theorem result_linkMethodRef_cases (r : LinkRequest) (services : Services) (c : HostClass)
    (n : String) (isStatic : Bool) :
    (r.linkMethodRef services c n isStatic).result = .object ∨
      ∃ m, c.Has m ∧
        m.signature.result = (r.linkMethodRef services c n isStatic).result := by
  unfold linkMethodRef
  cases r.isUnstable with
  | true => exact .inl (result_hideScripts _ _)
  | false =>
      cases hm : (if isStatic then c.findStaticMethod? n else c.findMethod? n) with
      | none => exact .inl (result_hideScripts _ _)
      | some m =>
          refine .inr ⟨m, ?_, (result_hideScripts services
            ⟨r.genericSignature m.signature.result, .methodCall r.descriptor⟩).symm⟩
          cases isStatic with
          | true => exact .staticMethod hm
          | false => exact .method hm

/-- The results of a chosen candidate are of type `object`, or of the type that a member of the
class of the receiver declares. -/
theorem result_chosen {s t : Store} (hk : r.chosen p s = .ok k t) :
    k.result = .object ∨ Promises r.receiver k.result := by
  have hchoice : r.Choice p k := r.choice_of_chosen p s k t hk
  cases hchoice with
  | plain hresult _ => exact .inl hresult
  | bound hr hop => exact .inl rfl
  | @methodRef i c m isStatic hr hop =>
      rcases r.result_linkMethodRef_cases { policy := p } c m isStatic with h | ⟨m', hm', h⟩
      · exact .inl h
      · exact .inr ⟨c, isStatic, m', by rw [hr]; rfl, hm', h⟩
  | @static i c j hr hj =>
      rcases hj.result_cases with h | ⟨m, hm, h⟩
      · exact .inl h
      · exact .inr ⟨c, true, m, by rw [hr]; rfl, hm, h⟩
  | @member o c j hr ho hj =>
      have hreflected : r.receiver.reflected? = some (c, false) := by
        rw [hr]
        exact Value.reflected?_of_hostClass? ho
      have hresult : (Candidate.guarded (Services.hideScripts { policy := p } j)
          (Guard.receiverType r.receiver)).result = j.signature.result := result_hideScripts _ _
      rw [hresult]
      rcases hj.result_cases with h | ⟨m, hm, h⟩
      · exact .inl h
      · exact .inr ⟨c, false, m, hreflected, hm, h⟩

end LinkRequest

/-- Results have a conversion unless one of the types is functional. -/
theorem StaticType.isFunctional_of_filterTo? {a b : StaticType} (h : a.filterTo? b = none) :
    a.isFunctional = true ∨ b.isFunctional = true := by
  have hconverts : a.convertsTo b = false := by
    unfold filterTo? at h
    split at h
    · cases h
    · split at h
      · cases h
      · split at h
        · cases h
        · split at h
          · cases h
          · rename_i hne
            exact Bool.eq_false_iff.mpr hne
  cases b with
  | functional m => exact .inr rfl
  | _ =>
      left
      simp only [convertsTo, Bool.or_eq_false_iff, Bool.not_eq_false'] at hconverts
      exact hconverts.2.1

theorem Descriptor.isFunctional_of_resultFilter? {d : Descriptor} {a : StaticType}
    (h : d.resultFilter? a = none) :
    a.isFunctional = true ∨ d.signature.result.isFunctional = true := by
  by_cases hopt : (d.flags.isOptimistic && d.signature.result.isNumeric) = true
  · rw [resultFilter?_of_optimistic hopt] at h
    cases h
  · rw [resultFilter?_of_pessimistic hopt] at h
    exact StaticType.isFunctional_of_filterTo? h

/-! ### The types of what is linked -/

/-- An adapted invocation has exactly the wanted types. -/
theorem Invocation.signature_asType {i j : Invocation} {wanted : Signature}
    (h : i.asType wanted = .ok j) : j.signature = wanted := by
  have hparams {a b : Invocation} (hab : a.convertParams wanted = .ok b) :
      b.signature.params = wanted.params := by
    unfold convertParams at hab
    split at hab
    · rename_i heq
      cases hab
      exact heq
    · split at hab
      · cases hab
        rfl
      · cases hab
  have hunbox {a b : Invocation} {t : StaticType} (hab : a.unboxResult t = .ok b) :
      b.signature.params = a.signature.params := by
    unfold unboxResult at hab
    split at hab
    · split at hab
      · cases hab
        rfl
      · cases hab
    · split at hab <;> (cases hab; rfl)
  have hresult {a b : Invocation} {declared : Signature}
      (hab : a.convertResult declared wanted = .ok b) :
      b.signature = ⟨a.signature.params, wanted.result⟩ := by
    unfold convertResult at hab
    split at hab
    · rename_i heq
      cases hab
      rw [← heq]
    · split at hab
      · cases hab
        rfl
      · cases hab
  unfold asType at h
  split at h
  · rename_i heq
    cases h
    exact heq
  · split at h
    · cases h
    · -- the parameters are converted first, and the other two steps leave them alone
      cases hp : i.convertParams wanted with
      | error m => simp [hp, bind, Except.bind] at h
      | ok a =>
          simp only [hp, bind, Except.bind] at h
          split at h
          · cases hu : a.unboxResult wanted.result with
            | error m => simp [hu] at h
            | ok b =>
                simp only [hu] at h
                rw [hresult h, hunbox hu, hparams hp]
          · rw [hresult h, hparams hp]

namespace LinkerChain

variable {c : LinkerChain} {p : PolicyRef} {r : LinkRequest} {s t : Store} {k : Candidate}

/-- **A candidate that a chain links has exactly the types of the call site**, whatever its linkers
are. -/
theorem signature_of_link (h : c.link r s = .ok (some k) t) :
    k.invocation.signature = r.descriptor.signature := by
  obtain ⟨k?, u, -, h⟩ := StoreM.bind_eq_ok h
  cases k? with
  | none => cases h
  | some k₀ =>
      obtain ⟨k₁, v, hadapt, h⟩ := StoreM.bind_eq_ok h
      cases h
      unfold adapt Candidate.adaptTo at hadapt
      cases htype : (c.prelink k₀ r.descriptor).invocation.asType r.descriptor.signature with
      | error m =>
          rw [htype] at hadapt
          cases hadapt
      | ok j =>
          rw [htype] at hadapt
          cases hadapt
          exact Invocation.signature_asType htype

/-- What can come of a link: a denied receiver fails, and any other one has a candidate, unless a
functional type has no conversion. -/
theorem IsDefault.link_cases (h : c.IsDefault p) (r : LinkRequest) (s : Store) :
    (r.Denied (s.policy p) ∧ ∃ e, c.link r s = .error (.error e) s ∧ e.kind = .security) ∨
      (¬ r.Denied (s.policy p) ∧
        ((∃ k t, c.link r s = .ok (some k) t) ∨
          (r.InvolvesFunctional ∧ ∃ m t, c.link r s = .error (.broken m) t))) := by
  rcases r.chosen_cases p s with ⟨hdenied, e, he, hkind⟩ | ⟨hdenied, k, t, hk⟩
  · exact .inl ⟨hdenied, e, h.link_of_error he, hkind⟩
  · refine .inr ⟨hdenied, ?_⟩
    cases hf : r.descriptor.resultFilter? k.result with
    | some f? =>
        obtain ⟨k', hk', -⟩ := h.link_of_ok hk hf
        exact .inl ⟨k', t, hk'⟩
    | none =>
        obtain ⟨m, hm⟩ := h.link_of_mismatch hk hf
        refine .inr ⟨?_, m, t, hm⟩
        rcases Descriptor.isFunctional_of_resultFilter? hf with hdeclared | hsite
        · rcases LinkRequest.result_chosen hk with hobject | hpromises
          · rw [hobject] at hdeclared
            cases hdeclared
          · exact .inr ⟨_, hpromises, hdeclared⟩
        · exact .inl hsite

end LinkerChain

/-- **The default chain always has an answer.**  It never declines; it fails with an error exactly
if the policy denies the class behind the receiver, and then with one of security; otherwise it
links a candidate with exactly the types of the call site, unless a functional type has no
conversion. -/
theorem link_total {e : Environment} (he : e.contributed = []) (r : LinkRequest) (s : Store) :
    (∀ t, e.chain.link r s ≠ .ok none t) ∧
    ((∃ f t, e.chain.link r s = .error (.error f) t) ↔ r.Denied (s.policy e.policy)) ∧
    (∀ f t, e.chain.link r s = .error (.error f) t → f.kind = .security) ∧
    (¬ r.Denied (s.policy e.policy) →
      (∃ k t, e.chain.link r s = .ok (some k) t ∧
        k.invocation.signature = r.descriptor.signature) ∨
      ∃ m t, e.chain.link r s = .error (.broken m) t) ∧
    (¬ r.InvolvesFunctional → ∀ m t, e.chain.link r s ≠ .error (.broken m) t) := by
  have hchain := Environment.chain_isDefault he
  rcases hchain.link_cases r s with ⟨hdenied, f, hf, hkind⟩ | ⟨hdenied, hlinked⟩
  · refine ⟨by simp [hf], ⟨fun _ => hdenied, fun _ => ⟨f, s, hf⟩⟩, fun f' t hf' => ?_,
      fun h => absurd hdenied h, by simp [hf]⟩
    rw [hf] at hf'
    cases hf'
    exact hkind
  · rcases hlinked with ⟨k, t, hk⟩ | ⟨hfunctional, m, t, hm⟩
    · have hsignature := LinkerChain.signature_of_link hk
      refine ⟨by simp [hk], ⟨?_, fun h => absurd h hdenied⟩, by simp [hk],
        fun _ => .inl ⟨k, t, hk, hsignature⟩, by simp [hk]⟩
      rintro ⟨f, u, hf⟩
      rw [hk] at hf
      cases hf
    · refine ⟨by simp [hm], ⟨?_, fun h => absurd h hdenied⟩, by simp [hm],
        fun _ => .inr ⟨m, t, hm⟩, fun h => absurd hfunctional h⟩
      rintro ⟨f, u, hf⟩
      rw [hm] at hf
      cases hf

namespace DeniedCall

/-- The denied method behind two layers of binding. -/
def bound : Value :=
  .object (.bound 4 (.object (.bound 3 denied .undefined [])) .undefined [])

/-- A call of the bound method, and a read of one of its properties. -/
def callOfBound : LinkRequest :=
  ⟨⟨.call, none, Signature.generic 2, ⟨0⟩⟩, [bound], false⟩

def readOfBound : LinkRequest :=
  ⟨⟨.getProperty, some "name", Signature.generic 1, ⟨0⟩⟩, [bound], false⟩

/-- The call is denied through both layers; the read does not reach the class and is linked. -/
theorem link_of_bound :
    environment.contributed = [] ∧
    (∃ f t, environment.chain.link callOfBound {} = .error (.error f) t) ∧
    ∃ k t, environment.chain.link readOfBound {} = .ok (some k) t ∧
      k.invocation.signature = Signature.generic 1 := by
  have hcall : callOfBound.Denied policy :=
    .bound (.inl rfl) rfl ⟨_, true, rfl, rfl, by decide⟩
  have hread : ¬ readOfBound.Denied policy := by
    rintro (⟨c, b, hc, -⟩ | ⟨hop | hop, -, -⟩ | ⟨hop, -, -⟩)
    · cases hc
    all_goals cases hop
  have hplain : ¬ readOfBound.InvolvesFunctional := by
    rintro (hsite | ⟨t, ⟨c, b, m, hc, -⟩, -⟩)
    · cases hsite
    · cases hc
  refine ⟨rfl, (link_total rfl callOfBound {}).2.1.mpr hcall, ?_⟩
  obtain ⟨-, -, -, hlinked, hnever⟩ := link_total (e := environment) rfl readOfBound {}
  rcases hlinked hread with hk | ⟨m, t, hm⟩
  · exact hk
  · exact (hnever hplain m t hm).elim

end DeniedCall

end DynamicLinking
