/-
Linking asks linkers, checks the policy and may give out a new identity, but touches neither script
objects nor call sites.  What it comes to is a candidate that was chosen and then adapted to the
call site, and every chosen candidate fits the request: it has the types of the operation, and its
guard looks at the receiver in one of three ways.

Main definitions:

* `Store.Asked` — what linking may change;
* `LinkRequest.Fits` — **the types and the guard of a candidate for a request**;
* `Yields` — the results of a computation have a property.

Main results:

* `takes_link`, `asked_after_link` — no linker of any chain touches anything but the next identity
  and what is noted of contributed linkers;
* `LinkRequest.fits_chosen` — **every chosen candidate fits the request**;
* `LinkerChain.IsDefault.link_eq`, `LinkerChain.IsDefault.link_inv` — a link of the default chain is
  a choice and an adaptation.
-/

import DynamicLinking.Proofs.Selection
import DynamicLinking.Proofs.SiteTypes

set_option autoImplicit false

namespace DynamicLinking

open Store

/-! ### Linking and the store -/

/-- The stores differ at most in what contributed linkers were asked and in the next identity, and
identities were only given out. -/
def Store.Asked (s t : Store) : Prop :=
  t = { s with inquiries := t.inquiries, nextId := t.nextId } ∧ s.nextId ≤ t.nextId

namespace Store.Asked

theorem refl (s : Store) : s.Asked s :=
  ⟨rfl, Nat.le_refl _⟩

theorem trans {s t u : Store} (h : s.Asked t) (h' : t.Asked u) : s.Asked u := by
  refine ⟨?_, Nat.le_trans h.2 h'.2⟩
  rw [h'.1, h.1]

instance : AllowsIds Asked where
  fresh _ := ⟨rfl, Nat.le_succ _⟩

end Store.Asked

theorem takes_staticInvocation (r : LinkRequest) (services : Services) (c : HostClass) :
    Takes Asked (r.staticInvocation? services c) := by
  have hget (n : String) : Takes Asked (r.staticGet? c n) := by
    unfold LinkRequest.staticGet?
    split
    · simp
    · split <;> simp
  unfold LinkRequest.staticInvocation?
  dsimp only
  split
  · simp
  · simp
  all_goals first
    | (split
       · exact hget _
       · simp)
    | simp

theorem takes_beanInvocation (r : LinkRequest) (c : HostClass) :
    Takes Asked (r.beanInvocation? c) := by
  unfold LinkRequest.beanInvocation?
  dsimp only
  split
  · simp
  · simp
  all_goals first
    | (split <;> simp)
    | simp

theorem takes_linkBean (r : LinkRequest) (services : Services) (isExposed : Bool) :
    Takes Asked (r.linkBean? services isExposed) := by
  unfold LinkRequest.linkBean?
  split
  · split <;> simp
  · split
    · simp
    · refine takes_bind (takes_beanInvocation r _) fun i? => ?_
      split <;> simp

theorem takes_contributed (c : ContributedLinker) (r : LinkRequest) : Takes Asked (c.link r) := by
  refine takes_bind (takes_modify fun s => ⟨rfl, Nat.le_refl _⟩) fun _ => ?_
  split
  · simp
  · split <;> simp

theorem takes_linkerLink (l : Linker) (r : LinkRequest) (services : Services) :
    Takes Asked (l.link r services) := by
  cases l with
  | staticClass =>
      simp only [Linker.link, LinkRequest.linkStaticClass?]
      split
      · exact takes_bind (takes_staticInvocation r services _) fun i? => by simp
      · simp
  | beans => exact takes_linkBean r services _
  | exposedBeans => exact takes_linkBean r services _
  | beansOf c => exact takes_linkBean r services _
  | contributed c => exact takes_contributed c r
  | _ => simp [Linker.link]

/-- No linker of any chain does more than to be asked and to take identities. -/
theorem takes_link (c : LinkerChain) (r : LinkRequest) : Takes Asked (c.link r) := by
  have hfirst (ls : List Linker) : Takes Asked (firstCandidate r c.services ls) := by
    -- a linker that declines leaves the rest of the list to be asked
    induction ls with
    | nil => simp [firstCandidate]
    | cons l ls ih =>
        unfold firstCandidate
        split
        · refine takes_bind (takes_linkerLink l r c.services) fun k? => ?_
          split
          · simp
          · exact ih
        · exact ih
  have hselect : Takes Asked (c.select r) := by
    refine takes_bind (hfirst c.linkers) fun k? => ?_
    split <;> simp
  refine takes_bind hselect fun k? => ?_
  split
  · simp
  · unfold LinkerChain.adapt
    split <;> simp

theorem asked_after_link (c : LinkerChain) (r : LinkRequest) (s : Store) :
    s.Asked ((c.link r).after s) :=
  (takes_link c r).single Asked.refl Asked.trans s

theorem sites_after_link (c : LinkerChain) (r : LinkRequest) (s : Store) :
    ((c.link r).after s).sites = s.sites := by
  rw [(asked_after_link c r s).1]

/-! ### Policies -/

/-- What a policy says of a callee is what it says of a class, if it says anything. -/
theorem AccessPolicy.checkCallee_cases (p : AccessPolicy) (v : Value) :
    p.checkCallee v = .ok () ∨ ∃ c isStatic, p.checkCallee v = p.check c isStatic := by
  fun_induction AccessPolicy.checkCallee p v with
  | case1 i callee self leading ih => exact ih
  | case2 i c => exact .inr ⟨_, _, rfl⟩
  | case3 i m t => exact .inr ⟨_, _, rfl⟩
  | case4 i c => exact .inr ⟨_, _, rfl⟩
  | case5 i c m b => exact .inr ⟨_, _, rfl⟩
  | case6 v => exact .inl rfl

/-! ### The shape of a candidate -/

/-- What holds of every candidate for a request: all its types are `object` but for that of the
result, and its guard looks at the type or the identity of the receiver, or at the class that the
receiver is as a value. -/
structure LinkRequest.Fits (r : LinkRequest) (k : Candidate) : Prop where
  generic : k.IsGeneric r.descriptor
  guard :
    k.guard? = some (Guard.receiverType r.receiver) ∨
    (∃ o, r.receiver = .object o ∧ k.guard? = some (Guard.receiverIdentity r.receiver)) ∨
    ∃ i c, r.receiver = .object (.staticClass i c) ∧ k.guard? = some (.staticClass c)

/-- The results of a computation have a property. -/
def Yields {α : Type} (P : α → Prop) (m : StoreM α) : Prop :=
  ∀ s a t, m s = .ok a t → P a

section Yields

variable {α β : Type} {P : α → Prop} {Q : β → Prop}

theorem yields_pure {a : α} (h : P a) : Yields P (pure a : StoreM α) := by
  rintro s b t hb
  cases hb
  exact h

theorem yields_bind {m : StoreM β} {f : β → StoreM α} (hm : Yields Q m)
    (hf : ∀ b, Q b → Yields P (f b)) : Yields P (m >>= f) := by
  intro s a t h
  obtain ⟨b, u, hb, ha⟩ := StoreM.bind_eq_ok h
  exact hf b (hm s b u hb) u a t ha

theorem yields_after {m : StoreM β} {f : β → StoreM α} (hf : ∀ b, Yields P (f b)) :
    Yields P (m >>= f) :=
  yields_bind (Q := fun _ => True) (fun _ _ _ _ => trivial) fun b _ => hf b

theorem yields_ofExcept {x : Except ScriptError α} (h : ∀ a, x = .ok a → P a) :
    Yields P (ofExcept x) := by
  intro s a t ha
  cases x with
  | ok b => cases ha; exact h _ rfl
  | error e => cases ha

end Yields

namespace LinkRequest

variable {r : LinkRequest} {p : PolicyRef} {k : Candidate}

theorem fits_byType {i : Invocation}
    (hi : i.signature = r.descriptor.genericSignature i.signature.result) :
    r.Fits (Candidate.guarded i (Guard.receiverType r.receiver)) :=
  ⟨hi, .inl rfl⟩

theorem fits_missing (r : LinkRequest) : r.Fits r.missing :=
  ⟨rfl, .inl rfl⟩

theorem fits_getD {k? : Option Candidate} (h : ∀ k, k? = some k → r.Fits k) :
    r.Fits (k?.getD r.missing) := by
  cases k? with
  | none => exact r.fits_missing
  | some k => exact h k rfl

theorem fits_calleeGuard {i : Invocation} {o : Object} (hr : r.receiver = .object o)
    (hi : i.signature = r.descriptor.genericSignature i.signature.result) :
    r.Fits (Candidate.guarded i r.calleeGuard) := by
  unfold calleeGuard
  split
  · exact ⟨hi, .inl rfl⟩
  · exact ⟨hi, .inr (.inl ⟨o, hr, rfl⟩)⟩

theorem object_of_script? {v : Value} {o : Object} (h : v.script? = some o) : v = .object o := by
  cases v with
  | primitive q => simp [Value.script?, Value.object?] at h
  | object o' =>
      obtain ⟨ho, -⟩ := Option.filter_eq_some_iff.mp h
      rw [Option.some.inj ho]

theorem fits_linkScript {s : Store} (h : r.linkScript? s = some k) : r.Fits k := by
  unfold linkScript? at h
  split at h
  · cases h
  · rename_i o ho
    have hr : r.receiver = .object o := object_of_script? ho
    have hget : r.Fits (r.linkScriptGet s o) := by
      unfold linkScriptGet
      split
      · exact ⟨rfl, .inr (.inl ⟨o, hr, rfl⟩)⟩
      · exact fits_byType rfl
    cases hop : r.descriptor.operation with
    | getProperty | getElement | getMethod =>
        rw [hop] at h
        rw [← Option.some.inj h]
        exact hget
    | setProperty | setElement =>
        rw [hop] at h
        rw [← Option.some.inj h]
        exact fits_byType rfl
    | call | new =>
        rw [hop] at h
        simp only [Option.ite_none_right_eq_some] at h
        rw [← Option.some.inj h.2]
        exact fits_calleeGuard hr rfl

theorem fits_linkPrimitive (h : r.linkPrimitive? = some k) : r.Fits k := by
  unfold linkPrimitive? at h
  cases hop : r.descriptor.operation with
  | getProperty | getElement | getMethod =>
      rw [hop] at h
      dsimp only at h
      split at h <;> (rw [← Option.some.inj h]; exact fits_byType rfl)
  | setProperty | setElement =>
      rw [hop] at h
      dsimp only at h
      split at h <;> (rw [← Option.some.inj h]; exact fits_byType rfl)
  | call | new =>
      rw [hop] at h
      cases h

/-- What the linker of bound callables has for a call, if the policy grants access. -/
theorem linkBound?_eq_some {s : Store} (h : r.linkBound? p s = .ok (some k)) :
    (r.descriptor.operation = .call ∨ r.descriptor.operation = .new) ∧
      k = Candidate.guarded ⟨r.genericSignature .object, .checkedCallable r.descriptor p⟩
        r.calleeGuard := by
  unfold linkBound? at h
  cases hop : r.descriptor.operation with
  | call | new =>
      rw [hop] at h
      cases hc : (s.policy p).checkCallee r.receiver with
      | error e => simp [hc, bind, Except.bind] at h
      | ok u =>
          simp only [hc, bind, Except.bind, pure, Except.pure, Except.ok.injEq,
            Option.some.injEq] at h
          exact ⟨by simp, h.symm⟩
  | _ => simp [hop] at h

theorem fits_linkBound {o : Object} (hr : r.receiver = .object o) {s : Store}
    {k? : Option Candidate} (h : r.linkBound? p s = .ok k?) : r.Fits (k?.getD r.missing) := by
  refine fits_getD fun k hk => ?_
  subst hk
  rw [(linkBound?_eq_some h).2]
  exact fits_calleeGuard hr rfl

/-- What the linker of super adapters has for a read of a method, if the policy grants access. -/
theorem linkSuper?_eq_some {s : Store} (h : r.linkSuper? p s = .ok (some k)) :
    k = r.byType (.superGet r.descriptor p) := by
  unfold linkSuper? at h
  split at h
  · cases h
  · split at h
    · rename_i a _
      cases hc : (s.policy p).checkCallee a with
      | error e => simp [hc, bind, Except.bind] at h
      | ok u =>
          simp only [hc, bind, Except.bind, pure, Except.pure, Except.ok.injEq,
            Option.some.injEq] at h
          exact h.symm
    · cases h
      rfl

theorem fits_linkSuper {s : Store} {k? : Option Candidate} (h : r.linkSuper? p s = .ok k?) :
    r.Fits (k?.getD r.missing) := by
  refine fits_getD fun k hk => ?_
  subst hk
  rw [linkSuper?_eq_some h]
  exact fits_byType rfl

/-- The types of an invocation are `object` but for that of the result. -/
def HasTypes (r : LinkRequest) (i? : Option Invocation) : Prop :=
  ∀ i, i? = some i → i.signature = r.descriptor.genericSignature i.signature.result

theorem hasTypes_none (r : LinkRequest) : r.HasTypes none :=
  fun _ h => nomatch h

theorem hasTypes_some (r : LinkRequest) (t : StaticType) (c : Code) :
    r.HasTypes (some ⟨r.genericSignature t, c⟩) := by
  rintro i ⟨⟩
  rfl

theorem hasTypes_map {α : Type} (r : LinkRequest) (x? : Option α) (t : α → StaticType)
    (c : α → Code) : r.HasTypes (x?.map fun x => ⟨r.genericSignature (t x), c x⟩) := by
  cases x? with
  | none => exact r.hasTypes_none
  | some x => exact r.hasTypes_some (t x) (c x)

theorem hasTypes_beanInvocation (r : LinkRequest) (c : HostClass) :
    Yields r.HasTypes (r.beanInvocation? c) := by
  unfold beanInvocation?
  dsimp only
  split
  · exact yields_pure (r.hasTypes_map _ _ _)
  · exact yields_pure r.hasTypes_none
  all_goals first
    | exact yields_pure (r.hasTypes_map _ _ _)
    | exact yields_pure (r.hasTypes_some _ _)
    | (split
       · exact yields_pure (r.hasTypes_some _ _)
       · exact yields_after fun v => yields_pure (r.hasTypes_some _ _)
       · exact yields_pure r.hasTypes_none)

theorem hasTypes_staticInvocation (r : LinkRequest) (services : Services) (c : HostClass) :
    Yields r.HasTypes (r.staticInvocation? services c) := by
  have hget (n : String) : Yields r.HasTypes (r.staticGet? c n) := by
    unfold staticGet?
    split
    · exact yields_pure (r.hasTypes_some _ _)
    · split
      · exact yields_after fun v => yields_pure (r.hasTypes_some _ _)
      · exact yields_pure r.hasTypes_none
  unfold staticInvocation?
  dsimp only
  cases hop : r.descriptor.operation with
  | call | new =>
      refine yields_pure fun i hi => ?_
      rw [← Option.some.inj hi]
      unfold Services.hideScripts
      split <;> rfl
  | getProperty | getElement | getMethod =>
      dsimp only
      split
      · exact hget _
      · exact yields_pure (r.hasTypes_some _ _)
  | setProperty | setElement => exact yields_pure (r.hasTypes_map _ _ _)

theorem fits_hidden {services : Services} {i : Invocation}
    (hi : i.signature = r.descriptor.genericSignature i.signature.result) :
    r.Fits (Candidate.guarded (services.hideScripts i) (Guard.receiverType r.receiver)) := by
  refine fits_byType ?_
  unfold Services.hideScripts
  split <;> exact hi

theorem fits_chosenMember (c : HostClass) : Yields r.Fits (r.chosenMember p c) := by
  -- neither the store nor the check has a say in the shape of the candidate
  refine yields_after fun s => yields_after fun _ =>
    yields_bind (r.hasTypes_beanInvocation c) fun i? hi => yields_pure (fits_getD fun k hk => ?_)
  obtain ⟨i, rfl, rfl⟩ := Option.map_eq_some_iff.mp hk
  exact fits_hidden (hi i rfl)

theorem fits_linkMethodRef (r : LinkRequest) {o : Object} (hr : r.receiver = .object o)
    (services : Services) (c : HostClass) (m : String) (isStatic : Bool) :
    r.Fits (r.linkMethodRef services c m isStatic) := by
  have hhidden (t : StaticType) :
      (services.hideScripts ⟨r.genericSignature t, .methodCall r.descriptor⟩).signature =
        r.descriptor.genericSignature
          (services.hideScripts ⟨r.genericSignature t, .methodCall r.descriptor⟩).signature.result
      := by
    unfold Services.hideScripts
    split <;> rfl
  unfold linkMethodRef
  dsimp only
  split
  · exact ⟨hhidden _, .inr (.inl ⟨o, hr, rfl⟩)⟩
  · exact ⟨hhidden _, .inl rfl⟩

/-- Every candidate that the default chain chooses fits the request. -/
theorem fits_chosen (r : LinkRequest) (p : PolicyRef) : Yields r.Fits (r.chosen p) := by
  have hscript {o : Object} (hr : r.receiver = .object o) (ho : o.isScript = true) :
      Yields r.Fits (r.chosen p) := by
    rw [chosen_eq_script hr ho]
    exact yields_after fun s => yields_pure (fits_getD fun k => fits_linkScript)
  have hforeign {o : Object} {b : BridgeKind} (hr : r.receiver = .object o)
      (ho : o.bridge? = some b) : Yields r.Fits (r.chosen p) := by
    rw [chosen_eq_foreign hr ho]
    exact yields_pure (fits_byType rfl)
  have hhost {o : Object} {c : HostClass} (hr : r.receiver = .object o)
      (ho : o.hostClass? = some c) : Yields r.Fits (r.chosen p) := by
    rw [chosen_eq_host hr ho]
    exact fits_chosenMember c
  cases hr : r.receiver with
  | primitive q =>
      rw [chosen_eq_primitive hr]
      refine yields_pure ?_
      split
      · exact r.fits_missing
      · exact fits_getD fun k => fits_linkPrimitive
  | object o =>
      cases o with
      | ordinary i => exact hscript hr rfl
      | function i c => exact hscript hr rfl
      | boundFunction i t c s l => exact hscript hr rfl
      | foreign i f => exact hforeign hr rfl
      | mirror i t => exact hforeign hr rfl
      | host i c => exact hhost hr rfl
      | proxy i m t => exact hhost hr rfl
      | bound i f a l =>
          rw [chosen_eq_bound hr]
          refine yields_after fun s => ?_
          exact yields_bind (yields_ofExcept fun k? => fits_linkBound hr)
            fun k? hk => yields_pure hk
      | superAdapter i a =>
          rw [chosen_eq_superAdapter hr]
          refine yields_after fun s => ?_
          exact yields_bind (yields_ofExcept fun k? => fits_linkSuper) fun k? hk => yields_pure hk
      | methodRef i c m isStatic =>
          rw [chosen_eq_methodRef hr]
          refine yields_after fun s => yields_after fun _ => yields_pure ?_
          split
          · exact r.fits_linkMethodRef hr _ c m isStatic
          · exact r.fits_missing
      | staticClass i c =>
          rw [chosen_eq_staticClass hr]
          refine yields_after fun s => yields_after fun _ =>
            yields_bind (r.hasTypes_staticInvocation _ c) fun i? hi =>
              yields_pure (fits_getD fun k hk => ?_)
          obtain ⟨j, rfl, rfl⟩ := Option.map_eq_some_iff.mp hk
          exact ⟨hi j rfl, .inr (.inr ⟨i, c, hr, rfl⟩)⟩

end LinkRequest

/-! ### What a chain links -/

namespace LinkerChain.IsDefault

variable {c : LinkerChain} {p : PolicyRef} {r : LinkRequest} {s t : Store} {k : Candidate}

theorem link_eq (h : c.IsDefault p) (r : LinkRequest) :
    c.link r = r.chosen p >>= fun k =>
      some <$> adapt (k.requireOptimism r.descriptor) r.descriptor.signature := by
  have hprelink (k : Candidate) : c.prelink k r.descriptor = k.requireOptimism r.descriptor := by
    simp [LinkerChain.prelink, h.prelink, PrelinkFilter.apply]
  simp [link, h.select_eq, hprelink]

/-- A failure of the choice is one of the link. -/
theorem link_of_error (h : c.IsDefault p) {f : Fault} (hk : r.chosen p s = .error f t) :
    c.link r s = .error f t := by
  rw [h.link_eq, StoreM.bind_of_error hk]

/-- A candidate whose result has a conversion is adapted and linked. -/
theorem link_of_ok (h : c.IsDefault p) (hk : r.chosen p s = .ok k t) {f? : Option ResultFilter}
    (hf : r.descriptor.resultFilter? k.result = some f?) :
    ∃ k', c.link r s = .ok (some k') t ∧ k'.Adapts k r.descriptor f? := by
  have := (r.fits_chosen p s k t hk).generic.adapt_eq
  rw [hf] at this
  obtain ⟨k', hk', hadapts⟩ := this
  refine ⟨k', ?_, hadapts⟩
  rw [h.link_eq, StoreM.bind_of_ok hk, hk']
  rfl

/-- A candidate whose result has no conversion breaks the contract of the chain. -/
theorem link_of_mismatch (h : c.IsDefault p) (hk : r.chosen p s = .ok k t)
    (hf : r.descriptor.resultFilter? k.result = none) : ∃ m, c.link r s = .error (.broken m) t := by
  have := (r.fits_chosen p s k t hk).generic.adapt_eq
  rw [hf] at this
  obtain ⟨m, hm⟩ := this
  refine ⟨m, ?_⟩
  rw [h.link_eq, StoreM.bind_of_ok hk, hm]
  rfl

/-- **What was linked was chosen and adapted.** -/
theorem link_inv (h : c.IsDefault p) {k'? : Option Candidate} (hl : c.link r s = .ok k'? t) :
    ∃ k k' f?, k'? = some k' ∧ r.chosen p s = .ok k t ∧
      r.descriptor.resultFilter? k.result = some f? ∧ k'.Adapts k r.descriptor f? := by
  cases hk : r.chosen p s with
  | error f u => simp [h.link_of_error hk] at hl
  | ok k u =>
      cases hf : r.descriptor.resultFilter? k.result with
      | none =>
          obtain ⟨m, hm⟩ := h.link_of_mismatch hk hf
          simp [hm] at hl
      | some f? =>
          obtain ⟨k', hk', hadapts⟩ := h.link_of_ok hk hf
          rw [hk'] at hl
          cases hl
          exact ⟨k, k', f?, rfl, rfl, hf, hadapts⟩

end LinkerChain.IsDefault

end DynamicLinking
