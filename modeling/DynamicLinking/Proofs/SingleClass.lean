/-
The only linker of a chain is for one host class: it is asked about the instances of the class and
about its method references.  Nothing has a candidate for a receiver of another class, so that a
call on one that has to link fails for want of an operation.  A call that the cache serves is not
linked again, and then the class of the receiver is what the guard has seen of it.  The type of an
instance tells its class, and an identity tells everything; the type of a method reference tells
that it is one.

Main definitions:

* `LinkerChain.IsFor` — the only linker of a chain is for a class.

Main results:

* `LinkerChain.IsFor.link_of_other` — nothing is linked for a receiver of another class;
* `LinkerChain.IsFor.isKind_of_admits` — a candidate that admits one is guarded by kind;
* `not_isRefusal_of_servesByKind` — a call that is served by kind does not fail for want of an
  operation;
* `refused_iff_not_servesByKind` — **when receivers of other classes are refused**.
-/

import DynamicLinking.Proofs.AccessControl

set_option autoImplicit false

namespace DynamicLinking

/-- The only linker of the chain is for the class, and nothing stands in for missing members. -/
structure LinkerChain.IsFor (c : LinkerChain) (cls : HostClass) : Prop where
  linkers : c.linkers = [.beansOf cls]
  synthesizes : c.synthesizesMissing = false

/-! ### What the linker has -/

section

variable {r : LinkRequest} {services : Services} {isExposed : Bool} {k : Candidate} {s t : Store}

theorem beanMissing?_eq_some (h : r.beanMissing? isExposed = some k) : k = r.missing := by
  unfold LinkRequest.beanMissing? LinkRequest.linkMissing? at h
  split at h
  · cases h
  · split at h
    · cases h
    · exact (Option.some.inj h).symm

/-- Candidates for instances and method references fit the request. -/
theorem fits_linkBean (r : LinkRequest) (services : Services) (isExposed : Bool) :
    Yields (fun k? => ∀ k, k? = some k → r.Fits k) (r.linkBean? services isExposed) := by
  have hmissing (k : Candidate) (hk : r.beanMissing? isExposed = some k) : r.Fits k := by
    rw [beanMissing?_eq_some hk]
    exact r.fits_missing
  unfold LinkRequest.linkBean?
  split
  · rename_i i c m isStatic hr
    split
    · refine yields_pure fun k hk => ?_
      rw [← Option.some.inj hk]
      exact r.fits_linkMethodRef hr services c m isStatic
    · exact yields_pure hmissing
  · split
    · exact yields_pure fun k hk => nomatch hk
    · refine yields_bind (r.hasTypes_beanInvocation _) fun i? hi => ?_
      split
      · refine yields_pure fun k hk => ?_
        rw [← Option.some.inj hk]
        exact LinkRequest.fits_hidden (hi _ rfl)
      · exact yields_pure hmissing

/-- The candidates for method references: calls, and missing members. -/
theorem linkBean?_of_methodRef {i : Nat} {c : HostClass} {m : String} {isStatic : Bool}
    (hr : r.receiver = .object (.methodRef i c m isStatic))
    (h : r.linkBean? services isExposed s = .ok (some k) t) :
    k = r.missing ∨ k = r.linkMethodRef services c m isStatic := by
  unfold LinkRequest.linkBean? at h
  rw [hr] at h
  dsimp only at h
  split at h
  · cases h
    exact .inr rfl
  · obtain ⟨h, -⟩ := EStateM.Result.ok.inj h
    exact .inl (beanMissing?_eq_some h)

/-- A call of a method reference hides script objects if the services ask for it. -/
theorem exists_hideScripts_of_linkMethodRef (r : LinkRequest) (services : Services) (c : HostClass)
    (m : String) (isStatic : Bool) :
    ∃ sig, (r.linkMethodRef services c m isStatic).invocation =
      services.hideScripts ⟨sig, .methodCall r.descriptor⟩ := by
  unfold LinkRequest.linkMethodRef
  dsimp only
  split <;> exact ⟨_, rfl⟩

end

/-! ### What the chain makes of it -/

section

variable {c : LinkerChain} {d : Descriptor} {k₀ k : Candidate} {s t : Store}

/-- The filter of a chain leaves a candidate its guard and its parameters, and puts at most one
filter on its results. -/
theorem prelink_eq (c : LinkerChain) (hk : k₀.IsGeneric d) :
    (c.prelink k₀ d).guard? = k₀.guard? ∧ (c.prelink k₀ d).IsGeneric d ∧
      ∃ g?, ∀ args, (c.prelink k₀ d).invocation.eval args =
        k₀.invocation.eval args >>= finish g? := by
  have hparams := congrArg Signature.params hk
  have hplain : k₀.guard? = k₀.guard? ∧ k₀.IsGeneric d ∧
      ∃ g?, ∀ args, k₀.invocation.eval args = k₀.invocation.eval args >>= finish g? :=
    ⟨rfl, hk, none, fun args => (bind_pure _).symm⟩
  have hfiltered (u : StaticType) (f : ResultFilter) :
      let k₁ := k₀.mapInvocation fun i => i.filterResult u f
      k₁.guard? = k₀.guard? ∧ k₁.IsGeneric d ∧
        ∃ g?, ∀ args, k₁.invocation.eval args = k₀.invocation.eval args >>= finish g? := by
    exact ⟨rfl, congrArg (Signature.mk · u) hparams, some f, fun args => rfl⟩
  unfold LinkerChain.prelink
  split
  · rename_i f _
    cases f with
    | label l => exact hfiltered _ _
    | optimistic =>
        unfold PrelinkFilter.apply Candidate.requireOptimism
        dsimp only
        split
        · exact hfiltered _ _
        · exact hplain
  · exact hplain

/-- A candidate with the types of the call site is one whose results go through two filters. -/
theorem adapt_prelink_inv (hk : k₀.IsGeneric d)
    (h : LinkerChain.adapt (c.prelink k₀ d) d.signature s = .ok k t) :
    k.guard? = k₀.guard? ∧ ∃ g? f?, ∀ args,
      k.invocation.eval args = (k₀.invocation.eval (d.passes args) >>= finish g?) >>= finish f? := by
  obtain ⟨hguard, hgeneric, g?, heval⟩ := prelink_eq c hk
  have hadapted := Invocation.asType_eq hgeneric
  unfold LinkerChain.adapt Candidate.adaptTo at h
  cases hf : (c.prelink k₀ d).invocation.signature.result.filterTo? d.signature.result with
  | none =>
      rw [hf] at hadapted
      obtain ⟨m, hm⟩ := hadapted
      rw [hm] at h
      cases h
  | some f? =>
      rw [hf] at hadapted
      obtain ⟨j, hj, hjeval⟩ := hadapted
      rw [hj] at h
      cases h
      exact ⟨hguard, g?, f?, fun args => by rw [hjeval, heval]⟩

namespace LinkerChain.IsFor

variable {cls : HostClass} {r : LinkRequest}

/-- **Nothing is linked for a receiver of another class.** -/
theorem link_of_other (h : c.IsFor cls) (hr : Linker.beanClass? r.receiver ≠ some cls)
    (s : Store) : c.link r s = .ok none s := by
  have hhandles : (Linker.beansOf cls).handles r.receiver = false := by
    simpa [Linker.handles] using hr
  have hfirst : firstCandidate r c.services c.linkers = pure none := by
    rw [h.linkers, firstCandidate, if_neg (by simp [hhandles])]
    rfl
  rw [link, select, hfirst, h.synthesizes]
  rfl

/-- What is linked is what the linker has for an instance or a method reference of its class. -/
theorem link_inv (h : c.IsFor cls) (hl : c.link r s = .ok (some k) t) :
    Linker.beanClass? r.receiver = some cls ∧
      ∃ k₀ u, r.linkBean? c.services false s = .ok (some k₀) u ∧ k.guard? = k₀.guard? ∧
        ∃ g? f?, ∀ args, k.invocation.eval args =
          (k₀.invocation.eval (r.descriptor.passes args) >>= finish g?) >>= finish f? := by
  have hclass : Linker.beanClass? r.receiver = some cls := by
    by_contra hr
    rw [h.link_of_other hr] at hl
    cases hl
  have hhandles : (Linker.beansOf cls).handles r.receiver = true := by
    simpa [Linker.handles] using hclass
  obtain ⟨k?, u, hselect, hl⟩ := StoreM.bind_eq_ok hl
  have hfirst : firstCandidate r c.services c.linkers = r.linkBean? c.services false := by
    rw [h.linkers, firstCandidate, if_pos hhandles]
    refine (congrArg _ (funext fun k? => ?_)).trans (bind_pure _)
    cases k? <;> rfl
  obtain ⟨k₀?, u', hbean, hselect⟩ := StoreM.bind_eq_ok hselect
  rw [hfirst] at hbean
  refine ⟨hclass, ?_⟩
  cases k₀? with
  | none =>
      rw [h.synthesizes] at hselect
      cases hselect
      cases hl
  | some k₀ =>
      cases hselect
      obtain ⟨k', u'', hadapt, hl⟩ := StoreM.bind_eq_ok hl
      cases hl
      have hfits := fits_linkBean r c.services false s _ u hbean k₀ rfl
      obtain ⟨hguard, heval⟩ := adapt_prelink_inv hfits.generic hadapt
      exact ⟨k₀, u, hbean, hguard, heval⟩

/-- **A candidate that admits a receiver of another class is guarded by kind**, and was linked for a
method reference. -/
theorem isKind_of_admits (h : c.IsFor cls) (hl : c.link r s = .ok (some k) t)
    {args : List Value} (hadmits : k.admits args = true) {v : Value}
    (hv : Value.argument args 0 = v) {other : HostClass}
    (hother : Linker.beanClass? v = some other) (hne : other ≠ cls) :
    ∃ g, k.guard? = some g ∧ g.isKind = true := by
  obtain ⟨hclass, k₀, u, hbean, hguard, -⟩ := h.link_inv hl
  have hfits := fits_linkBean r c.services false s _ u hbean k₀ rfl
  have hadmits₀ : k₀.admits args = true := by
    rwa [← Candidate.admits_of_guard hguard]
  have hreceiver (hr : Linker.beanClass? r.receiver = some other) : False := by
    rw [hr] at hclass
    exact hne (Option.some.inj hclass)
  have htype := hfits.runtimeType_eq hadmits₀
  rw [hv] at htype
  rcases hfits.guard with hg | ⟨o, ho, hg⟩ | ⟨i, d, hi, -⟩
  · -- the guard is the type of the receiver, which tells the class of an instance
    cases v with
    | primitive q => cases hother
    | object o =>
        cases o with
        | host i d =>
            obtain ⟨j, hj⟩ := Value.eq_of_runtimeType_host htype.symm
            exact (hreceiver (by rw [hj]; exact hother)).elim
        | proxy i m u =>
            exact (hreceiver (by rw [Value.eq_of_runtimeType_proxy htype.symm]; exact hother)).elim
        | methodRef i d m b =>
            exact ⟨_, hguard.trans hg, by rw [Guard.receiverType, ← htype]; rfl⟩
        | _ => cases hother
  · have hsame := Candidate.receiver_of_identity hadmits₀ hg ho
    rw [hv] at hsame
    exact (hreceiver (by rw [ho, ← hsame]; exact hother)).elim
  · rw [hi] at hclass
    cases hclass

/-- A candidate that is guarded by kind and admits a receiver of the linker of a class was linked
for a method reference. -/
theorem exists_methodRef_of_isKind (h : c.IsFor cls) (hl : c.link r s = .ok (some k) t) {g : Guard}
    (hg : k.guard? = some g) (hkind : g.isKind = true) :
    ∃ i m b, r.receiver = .object (.methodRef i cls m b) := by
  obtain ⟨hclass, k₀, u, hbean, hguard, -⟩ := h.link_inv hl
  have hfits := fits_linkBean r c.services false s _ u hbean k₀ rfl
  rw [hguard] at hg
  unfold Guard.isKind at hkind
  split at hkind
  · obtain ⟨i, d, m, b, hr⟩ :=
      Value.eq_of_runtimeType_methodRef (hfits.runtimeType_of_guard hg)
    rw [hr] at hclass
    cases hclass
    exact ⟨i, m, b, hr⟩
  · obtain ⟨i, d, hr⟩ := Value.eq_of_runtimeType_staticClass (hfits.runtimeType_of_guard hg)
    rw [hr] at hclass
    cases hclass
  · cases hkind

end LinkerChain.IsFor

end

/-! ### Calls -/

section

variable {s : Store} {id : Nat} {c : CallSite} {cls other : HostClass} {v : Value}

/-- The call fails for want of an operation. -/
def IsRefusal {α : Type} (x : EStateM.Result Fault Store α) : Prop :=
  ∃ e m t, x = .error (.error (.noOperation e m)) t

theorem FailsInside.not_isRefusal {α : Type} {x : EStateM.Result Fault Store α}
    (h : FailsInside x) : ¬ IsRefusal x := by
  obtain ⟨f, t, hf, hinner⟩ := h
  rintro ⟨e, m, u, hx⟩
  rw [hf] at hx
  cases hx
  exact hinner.2 e m rfl

theorem not_isRefusal_of_ok {α : Type} {a : α} {t : Store} {x : EStateM.Result Fault Store α}
    (h : x = .ok a t) : ¬ IsRefusal x := by
  rintro ⟨e, m, u, hx⟩
  rw [hx] at h
  cases h

/-- What two filters make of `undefined` is no refusal. -/
theorem not_isRefusal_finish (g? f? : Option ResultFilter) (run : Runner) (s : Store) :
    ¬ IsRefusal ((finish g? .undefined >>= finish f?) run s) := by
  rcases finish_primitive g? .undefined run s with ⟨p, hp⟩ | hfails
  · rw [RunM.bind_of_ok hp]
    rcases finish_primitive f? p run s with ⟨q, hq⟩ | hfails
    · exact not_isRefusal_of_ok hq
    · exact hfails.not_isRefusal
  · exact hfails.bind.not_isRefusal

/-- **A call that is served by kind does not fail for want of an operation.** -/
theorem not_isRefusal_of_servesByKind (hchain : c.chain.IsFor cls) (hsourced : s.Sourced)
    (hsite : s.sites.get? id = some c) (h : c.ServesByKind s v) :
    ¬ IsRefusal (invokeSite id [v] stuck s) := by
  obtain ⟨k, g, hhit, hg, hkind⟩ := h
  obtain ⟨htarget, haccepts⟩ := CallSite.of_cached? hhit
  obtain ⟨b, args₁, s₁, s₂, -, hl⟩ := hsourced id c k hsite htarget
  obtain ⟨i, m, isStatic, hr⟩ := hchain.exists_methodRef_of_isKind hl hg hkind
  obtain ⟨-, k₀, u, hbean, -, g?, f?, heval⟩ := hchain.link_inv hl
  have hscript : v.script? = none :=
    Guard.script?_of_isKind hkind
      (Candidate.test_of_admits (Store.admits_of_accepts haccepts).2 hg)
  have hresolve : resolve id [v] s = _ := resolveBy_of_cached hsite hhit
  obtain ⟨rest, hrest, hundefined⟩ := passes_singleton c.descriptor v
  rw [invokeSite_apply, hresolve]
  dsimp only
  rw [heval, hrest]
  -- without arguments neither candidate gets as far as the body of a method
  rcases linkBean?_of_methodRef hr hbean with rfl | rfl
  · have hfirst : (Value.argument (v :: rest) 0).script? = none := hscript
    have hnullish : (LinkRequest.receiver ⟨c.descriptor, args₁, b⟩).isNullish = false := by
      rw [hr]
      rfl
    rcases LinkRequest.eval_missing hnullish hfirst stuck
      (s.withSite id (c.countInvoke true)) with hok | ⟨-, x, hx⟩
    · rw [bind_assoc, RunM.bind_of_ok hok]
      exact not_isRefusal_finish g? f? stuck _
    · rw [bind_assoc, RunM.bind_of_error hx]
      exact FailsInside.not_isRefusal ⟨_, _, rfl, by simp [Fault.IsInner]⟩
  · obtain ⟨sig, hsig⟩ :=
      exists_hideScripts_of_linkMethodRef ⟨c.descriptor, args₁, b⟩ c.chain.services cls m isStatic
    rw [hsig]
    exact (failsInside_hideScripts c.chain.services c.descriptor sig hscript hundefined
      _).bind.bind.not_isRefusal

/-- A call on a receiver of another class that has to link fails, and nothing but the state of the
site changes. -/
theorem invokeSite_of_other_miss (hchain : c.chain.IsFor cls) (hsite : s.sites.get? id = some c)
    (hother : Linker.beanClass? v = some other) (hne : other ≠ cls) {rest : List Value}
    (hmiss : c.cached? s (v :: rest) = none) (run : Runner) :
    invokeSite id (v :: rest) run s =
      .error (.error (.noOperation c.descriptor.encoding v.text))
        (s.withSite id (c.countInvoke false).countLink) := by
  have hreceiver : Linker.beanClass? (LinkRequest.receiver
      ⟨c.descriptor, v :: rest, (c.countInvoke false).isUnstable⟩) ≠ some cls :=
    fun h => hne (Option.some.inj (hother.symm.trans h))
  have hresolve : resolve id (v :: rest) s = _ := resolveBy_of_miss (link_leavesSite id) hsite hmiss
  rw [hchain.link_of_other hreceiver] at hresolve
  rw [invokeSite_apply, hresolve]
  rfl

/-- **When receivers of other classes are refused.**  In every run of the call sites of a chain
whose only linker is for one class, a call on an instance or a method reference of another class
fails for want of an operation, having run no code and changed nothing but the state of the site,
exactly if the site holds no candidate that would serve the call by kind. -/
theorem refused_iff_not_servesByKind (hs : s.Reachable) (hsite : s.sites.get? id = some c)
    (hchain : c.chain.IsFor cls) (hother : Linker.beanClass? v = some other) (hne : other ≠ cls) :
    (∀ rest, ∃ sites, ∀ run, invokeSite id (v :: rest) run s =
        .error (.error (.noOperation c.descriptor.encoding v.text)) { s with sites }) ↔
      ¬ c.ServesByKind s v := by
  constructor
  · -- one call without arguments, with user code that gets nowhere, is enough to see it
    intro hrefused hkind
    obtain ⟨sites, hrun⟩ := hrefused []
    exact not_isRefusal_of_servesByKind hchain hs.sourced hsite hkind ⟨_, _, _, hrun stuck⟩
  · intro hkind rest
    cases hhit : c.cached? s (v :: rest) with
    | none => exact ⟨_, invokeSite_of_other_miss hchain hsite hother hne hhit⟩
    | some k =>
        -- what the site holds admits no such receiver, unless it is guarded by kind
        obtain ⟨htarget, haccepts⟩ := CallSite.of_cached? hhit
        obtain ⟨b, args₁, s₁, s₂, -, hl⟩ := hs.sourced id c k hsite htarget
        obtain ⟨g, hg, hgkind⟩ := hchain.isKind_of_admits hl
          (Store.admits_of_accepts haccepts).2 (v := v) rfl hother hne
        exact absurd (CallSite.servesByKind_of_cached? hhit hg hgkind) hkind

end

/-! ### A method of another class behind a cached candidate -/

namespace OtherMethod

/-- The class that the linker is for. -/
def lamp : HostClass := .ofMembers 10 "Lamp" DeniedCall.members .ordinary

/-- Another class. -/
def desk : HostClass := .ofMembers 11 "Desk" DeniedCall.members .ordinary

/-- A chain with one linker, whose sites stop caching with the first relink. -/
def chain : LinkerChain :=
  ChainPlan.build { fallback := [.beansOf lamp], synthesizesMissing := false, threshold := 0 }

/-- A site of the chain that calls. -/
def site : CallSite := { descriptor := ⟨.call, none, Signature.generic 2, ⟨0⟩⟩, chain }

/-- A store with the new site. -/
def store : Store := ({} : Store).withSite 0 site

/-- The method of the class. -/
def ownMethod : Value := .object (.methodRef 1 lamp "run" true)

/-- The method of the other class. -/
def otherMethod : Value := .object (.methodRef 2 desk "run" true)

theorem isFor_chain : chain.IsFor lamp := ⟨rfl, rfl⟩

theorem desk_ne_lamp : desk ≠ lamp := fun h => nomatch congrArg HostClass.name h

/-- At the new site the call is refused. -/
theorem refused_at_new_site :
    store.Reachable ∧ chain.IsFor lamp ∧ Linker.beanClass? otherMethod = some desk ∧
      desk ≠ lamp ∧
      ∀ rest, ∃ sites, ∀ run, invokeSite 0 (otherMethod :: rest) run store =
        .error (.error (.noOperation site.descriptor.encoding otherMethod.text))
          { store with sites } := by
  have hsite : store.sites.get? 0 = some site := rfl
  have hother : Linker.beanClass? otherMethod = some desk := rfl
  have hreachable : store.Reachable := Store.reachable_newSite rfl _ _ _
  refine ⟨hreachable, isFor_chain, hother, desk_ne_lamp, ?_⟩
  refine (refused_iff_not_servesByKind hreachable hsite isFor_chain hother desk_ne_lamp).mpr ?_
  rintro ⟨k, g, hk, -⟩
  cases hk

/-- Once the site has called the method of its class, it calls that of the other class as well:
receivers of other classes are not always refused. -/
theorem not_always_refused :
    ¬ ∀ (cls other : HostClass) (s : Store) (id : Nat) (c : CallSite) (v : Value)
        (rest : List Value),
      s.Reachable → s.sites.get? id = some c → c.chain.IsFor cls →
      Linker.beanClass? v = some other → other ≠ cls →
      ∃ sites, ∀ run, invokeSite id (v :: rest) run s =
        .error (.error (.noOperation c.descriptor.encoding v.text)) { s with sites } := by
  intro h
  have hnew : store.Reachable := Store.reachable_newSite rfl _ _ _
  have hreachable : ((resolve 0 [ownMethod, .undefined]).after store).Reachable :=
    hnew.evolves (.single (.serve store 0 _))
  obtain ⟨sites, hrun⟩ := h lamp desk _ 0 _ otherMethod [.undefined] hreachable rfl isFor_chain rfl
    desk_ne_lamp
  have hcalled : ∃ t, invokeSite 0 [otherMethod, .undefined] (fun _ _ _ => pure (.string "desk"))
      ((resolve 0 [ownMethod, .undefined]).after store) = .ok (.string "desk") t :=
    ⟨_, rfl⟩
  obtain ⟨t, ht⟩ := hcalled
  rw [hrun] at ht
  cases ht

end OtherMethod

end DynamicLinking
