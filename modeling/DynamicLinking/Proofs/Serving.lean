/-
A call of a site with the default chain runs a candidate that the chain chose for the descriptor of
the site and that admits the call, whether the candidate comes from the cache or is linked for the
call.  Until then nothing has changed but the state of sites and the identities that are given out,
and no user code was run.  What holds of all candidates that admit a call holds of the calls of
sites in this way.

Main definitions:

* `Store.ServedIn` — a store in which a call is served;
* `CallSite.Serves` — a chosen candidate that serves the call, and the filter for its result;
* `Candidate.delivers` — what a site whose types are all `object` answers with a candidate.

Main results:

* `alike_after_chosen` — a choice changes nothing but the next identity;
* `LinkRequest.Fits.admits_self` — what was chosen for a call admits the call;
* `resolve_cases` — **a call of a site fails before anything is run, or it is served**;
* `resolve_of_chosen` — what a site whose types are all `object` delivers if it has to link;
* `invokeSite_cases` — **a call of a site fails without running user code, or runs what serves it**;
* `invokeSite_of_code` — what it runs where all candidates for such receivers run the same code;
* `invokeSite_delivers` — what becomes of that at a site whose types are all `object`.
-/

import DynamicLinking.Proofs.Guards
import DynamicLinking.Proofs.Outcomes
import DynamicLinking.Proofs.Permitted
import DynamicLinking.Proofs.Provenance

set_option autoImplicit false

namespace DynamicLinking

/-! ### What a choice changes -/

instance : Store.AllowsIds Store.Alike where
  fresh s := (rfl : s.Alike { s with nextId := s.nextId + 1 })

/-- What takes steps that leave everything but the next identity alone does so. -/
theorem Takes.alike {α : Type} {m : StoreM α} (hm : Takes Store.Alike m) (s : Store) :
    s.Alike (m.after s) :=
  hm.single Store.Alike.refl Store.Alike.trans s

theorem Lookup.takes_alike {m : StoreM (Option Invocation)} (h : Lookup m) :
    Takes Store.Alike m := by
  cases h with
  | found i? => simp
  | methodRef _ c m isStatic => exact takes_bind (takes_newMethodRef c m isStatic) (by simp)

theorem takes_alike_chosen (r : LinkRequest) (p : PolicyRef) :
    Takes Store.Alike (r.chosen p) := by
  have hmember (c : HostClass) : Takes Store.Alike (r.chosenMember p c) :=
    takes_bind takes_get fun s => takes_bind (takes_ofExcept _) fun _ =>
      takes_bind (r.lookup_beanInvocation c).takes_alike fun i? => takes_pure _
  unfold LinkRequest.chosen
  split
  case h_6 =>
    exact takes_bind takes_get fun s => takes_bind (takes_ofExcept _) fun _ =>
      takes_bind (r.lookup_staticInvocation _ _).takes_alike fun i? => takes_pure _
  case h_8 => exact hmember _
  case h_9 => exact hmember _
  all_goals simp

/-- A choice changes nothing but the next identity. -/
theorem alike_after_chosen {r : LinkRequest} {p : PolicyRef} {s t : Store} {k : Candidate}
    (h : r.chosen p s = .ok k t) : s.Alike t := by
  have halike := (takes_alike_chosen r p).alike s
  rwa [StoreM.after_of_ok h] at halike

/-! ### What admits a call -/

/-- Values are equal to themselves, if they are objects. -/
theorem Value.equals_object_self (o : Object) :
    Value.equals (.object o) (.object o) = true := by
  simp [Value.equals]

/-- What was chosen for a call admits the call. -/
theorem LinkRequest.Fits.admits_self {r : LinkRequest} {k : Candidate} (h : r.Fits k) :
    k.admits r.args = true := by
  have hargument : Value.argument r.args 0 = r.receiver := rfl
  unfold Candidate.admits
  rcases h.guard with hg | ⟨o, ho, hg⟩ | ⟨i, c, hi, hg⟩ <;> rw [hg]
  · simp [Guard.receiverType, Guard.test, hargument]
  · simp [Guard.receiverIdentity, Guard.test, hargument, ho, Value.equals_object_self]
  · simp [Guard.test, hargument, hi, Guard.isStaticClass]

/-- Guards look at single arguments, which a call site passes on. -/
theorem Guard.test_passes (g : Guard) (d : Descriptor) (args : List Value) :
    g.test (d.passes args) = g.test args := by
  induction g with
  | both a b iha ihb => simp [Guard.test, iha, ihb]
  | _ => simp [Guard.test]

theorem Candidate.admits_passes (k : Candidate) (d : Descriptor) (args : List Value) :
    k.admits (d.passes args) = k.admits args := by
  unfold Candidate.admits
  cases k.guard? with
  | none => rfl
  | some g => exact g.test_passes d args

/-- So does the key of a member. -/
theorem Descriptor.memberKey_passes (d : Descriptor) (args : List Value) :
    d.memberKey (d.passes args) = d.memberKey args := by
  unfold memberKey
  rw [d.argument_passes]

/-! ### New sites -/

/-- A new call site of the default environment that calls; all its types are `object`. -/
def newCallSite (n : Nat) : CallSite :=
  { descriptor := ⟨.call, none, Signature.generic n, ⟨0⟩⟩, chain := ({} : Environment).chain }

/-- An encoding that is understood has a shared descriptor, which may be new. -/
theorem internDescriptor_of_parse {encoding : String} {signature : Signature}
    {flags : CallSiteFlags} {d : Descriptor}
    (hd : Descriptor.parse encoding signature flags = .ok d) (s : Store) :
    ∃ i t, internDescriptor encoding signature flags s = .ok ⟨i, d⟩ t := by
  have hok : (ofExcept (.ok d) : StoreM Descriptor) = pure d := rfl
  unfold internDescriptor
  rw [hd, hok, pure_bind]
  split
  · exact ⟨_, _, rfl⟩
  · dsimp only
    rw [StoreM.get_bind]
    cases s.descriptors.get? (encoding, signature, flags) <;> exact ⟨_, _, rfl⟩

/-- This is the site that is made where there is room for the callee and the receiver. -/
theorem get?_after_bootstrapCall {n : Nat} (hn : 2 ≤ n) (s : Store) :
    ∃ id t, bootstrapCall (Signature.generic n) s = .ok id t ∧
      t.sites.get? id = some (newCallSite n) := by
  have hparse : Descriptor.parse Operation.call.mnemonic (Signature.generic n) ⟨0⟩ =
      .ok (newCallSite n).descriptor := rfl
  obtain ⟨i, u, hu⟩ := internDescriptor_of_parse hparse s
  refine ⟨u.nextId, { u with nextId := u.nextId + 1 }.withSite u.nextId (newCallSite n), ?_, ?_⟩
  · unfold bootstrapCall
    rw [if_neg (by rw [Signature.arity_generic]; omega)]
    exact StoreM.bind_of_ok hu _
  · exact Store.get?_withSite_self _ _ _

/-! ### Calls -/

/-- The stores differ at most in the state of call sites and in the next identity. -/
def Store.ServedIn (s t : Store) : Prop :=
  t = { s with sites := t.sites, nextId := t.nextId }

theorem Store.ServedIn.symm {s t : Store} (h : s.ServedIn t) : t.ServedIn s := by
  unfold ServedIn at h ⊢
  rw [h]

theorem scripts_of_servedIn {s t : Store} (h : s.ServedIn t) : t.scripts = s.scripts := by
  rw [h]

theorem policy_withSite (s : Store) (id : Nat) (c : CallSite) (p : PolicyRef) :
    (s.withSite id c).policy p = s.policy p := by
  cases p <;> rfl

theorem Store.servedIn_withSite {s t : Store} {id : Nat} {c : CallSite} (h : s.ServedIn t) :
    s.ServedIn (t.withSite id c) := by
  unfold ServedIn at h ⊢
  rw [h]
  rfl

theorem Store.ServedIn.of_alike {s t u : Store} (h : s.ServedIn t) (halike : t.Alike u) :
    s.ServedIn u := by
  unfold ServedIn Store.Alike at *
  rw [halike, h]

/-- The candidate was chosen for the site, for the call or for an earlier one from which it is
cached, and it admits the call; there is a filter for its result. -/
structure CallSite.Serves (c : CallSite) (p : PolicyRef) (s : Store) (args : List Value)
    (r : LinkRequest) (k : Candidate) (f? : Option ResultFilter) : Prop where
  descriptor : r.descriptor = c.descriptor
  chosen : ∃ s t, r.chosen p s = .ok k t
  origin : c.cached? s args = none ∧ r.args = args ∨
    ∃ k', c.cached? s args = some k' ∧ k'.guard? = k.guard?
  filter : c.descriptor.resultFilter? k.result = some f?
  admits : k.admits (c.descriptor.passes args) = true

section

variable {c : CallSite} {p : PolicyRef} {s : Store} {id : Nat} {args : List Value}

/-- The cached candidate that serves a call was chosen for the site. -/
theorem resolve_of_cached (hchain : c.chain.IsDefault p) (hsourced : s.Sourced)
    (hsite : s.sites.get? id = some c) {k : Candidate} (hk : c.cached? s args = some k) :
    ∃ r k₀ f? i t, c.Serves p s args r k₀ f? ∧ s.ServedIn t ∧ resolve id args s = .ok i t ∧
      ∀ as, i.eval as = k₀.invocation.eval (c.descriptor.passes as) >>= finish f? := by
  obtain ⟨htarget, haccepts⟩ := CallSite.of_cached? hk
  obtain ⟨b, args₁, s₁, s₂, -, hl⟩ := hsourced id c k hsite htarget
  obtain ⟨k₀, k', f?, hk', hchosen, hf, hadapts⟩ := hchain.link_inv hl
  cases hk'
  have hadmits : k₀.admits args = true := by
    rw [← Candidate.admits_of_guard hadapts.guard]
    exact (Store.admits_of_accepts haccepts).2
  refine ⟨_, k₀, f?, k.invocation, s.withSite id (c.countInvoke true), ⟨rfl, ⟨_, _, hchosen⟩,
    .inr ⟨k, hk, hadapts.guard⟩, hf, ?_⟩, rfl, resolveBy_of_cached hsite hk, hadapts.eval⟩
  rwa [Candidate.admits_passes]

/-- The candidate that is linked for a call was chosen for the call. -/
theorem resolve_of_miss (hchain : c.chain.IsDefault p) (hsite : s.sites.get? id = some c)
    (hk : c.cached? s args = none) :
    (∃ f t, resolve id args s = .error f t) ∨
    ∃ r k f? i t, c.Serves p s args r k f? ∧ s.ServedIn t ∧ resolve id args s = .ok i t ∧
      ∀ as, i.eval as = k.invocation.eval (c.descriptor.passes as) >>= finish f? := by
  rcases resolveBy_miss_cases (link_leavesSite id) hsite hk with ⟨k', t, hl, hres⟩ | ⟨f, t, hres, -⟩
  · right
    obtain ⟨k, k₁, f?, hk₁, hchosen, hf, hadapts⟩ := hchain.link_inv hl
    cases hk₁
    have hlinked : s.ServedIn (s.withSite id (c.countInvoke false).countLink) := rfl
    have hserved : s.ServedIn t := hlinked.of_alike (alike_after_chosen hchosen)
    have hfits : LinkRequest.Fits _ k := LinkRequest.fits_chosen _ p _ k t hchosen
    refine ⟨_, k, f?, k'.invocation, t.withSite id ((c.countInvoke false).countLink.cache k'),
      ⟨rfl, ⟨_, _, hchosen⟩, .inl ⟨hk, rfl⟩, hf, ?_⟩, Store.servedIn_withSite hserved, hres,
      hadapts.eval⟩
    rw [Candidate.admits_passes]
    exact hfits.admits_self
  · exact .inl ⟨f, t, hres⟩

/-- **A call of a site fails before anything is run, or it is served by a candidate** that was
chosen for the site, wherever that comes from. -/
theorem resolve_cases (hchain : c.chain.IsDefault p) (hs : s.Reachable)
    (hsite : s.sites.get? id = some c) (args : List Value) :
    (∃ f t, resolve id args s = .error f t) ∨
    ∃ r k f? i t, c.Serves p s args r k f? ∧ s.ServedIn t ∧ resolve id args s = .ok i t ∧
      ∀ as, i.eval as = k.invocation.eval (c.descriptor.passes as) >>= finish f? := by
  cases hk : c.cached? s args with
  | some k => exact .inr (resolve_of_cached hchain hs.sourced hsite hk)
  | none => exact resolve_of_miss hchain hsite hk

/-- A call that fails before anything is run is one that has to be linked, and then nothing is
chosen for it, or what is chosen has results without a conversion. -/
theorem chosen_of_resolve_error (hchain : c.chain.IsDefault p) (hsite : s.sites.get? id = some c)
    {f : Fault} {t : Store} (h : resolve id args s = .error f t) :
    c.cached? s args = none ∧
      ((LinkRequest.chosen ⟨c.descriptor, args, (c.countInvoke false).isUnstable⟩ p
          (s.withSite id (c.countInvoke false).countLink) = .error f t) ∨
        ∃ k u, LinkRequest.chosen ⟨c.descriptor, args, (c.countInvoke false).isUnstable⟩ p
            (s.withSite id (c.countInvoke false).countLink) = .ok k u ∧
          c.descriptor.resultFilter? k.result = none) := by
  cases hk : c.cached? s args with
  | some k =>
      have hresolve : resolve id args s = _ := resolveBy_of_cached hsite hk
      rw [hresolve] at h
      cases h
  | none =>
      refine ⟨rfl, ?_⟩
      have hresolve : resolve id args s = _ := resolveBy_of_miss (link_leavesSite id) hsite hk
      rw [hresolve] at h
      cases hchosen : LinkRequest.chosen ⟨c.descriptor, args, (c.countInvoke false).isUnstable⟩ p
          (s.withSite id (c.countInvoke false).countLink) with
      | error f' u =>
          rw [hchain.link_of_error hchosen] at h
          cases h
          exact .inl rfl
      | ok k u =>
          refine .inr ⟨k, u, rfl, ?_⟩
          cases hf : c.descriptor.resultFilter? k.result with
          | none => rfl
          | some f? =>
              obtain ⟨k', hk', -⟩ := hchain.link_of_ok hchosen hf
              rw [hk'] at h
              cases h

/-- What a call site whose types are all `object` answers with a candidate: its result, if it has
one. -/
def Candidate.delivers (k : Candidate) (args : List Value) : RunM Value := do
  let v ← k.invocation.eval args
  return if k.result = .void then .undefined else v

theorem Candidate.delivers_of_result {k : Candidate} {as : List Value} (h : k.result ≠ .void) :
    k.delivers as = k.invocation.eval as := by
  unfold delivers
  simp only [if_neg h, bind_pure]

theorem Candidate.delivers_of_object {k : Candidate} {as : List Value} (h : k.result = .object) :
    k.delivers as = k.invocation.eval as := by
  have hresult : k.result ≠ .void := by
    intro hvoid
    rw [h] at hvoid
    cases hvoid
  exact delivers_of_result hresult

/-- What is filtered for a site whose types are all `object` is what the site delivers. -/
theorem Candidate.eval_finish_of_generic {d : Descriptor} {n : Nat}
    (hd : d.signature = Signature.generic n) {k : Candidate} {f? : Option ResultFilter}
    (hf : d.resultFilter? k.result = some f?) (as : List Value) :
    k.invocation.eval (d.passes as) >>= finish f? = k.delivers as := by
  obtain ⟨f', hf', hfinish⟩ := k.result.exists_filterTo?_object
  rw [Descriptor.resultFilter?_of_generic hd, hf'] at hf
  cases hf
  rw [Descriptor.passes_of_generic hd]
  exact congrArg _ (funext hfinish)

/-- A site whose types are all `object` delivers what is chosen for a call that it has to link. -/
theorem resolve_of_chosen (hchain : c.chain.IsDefault p) {n : Nat}
    (hd : c.descriptor.signature = Signature.generic n) (hsite : s.sites.get? id = some c)
    (hmiss : c.cached? s args = none) {k : Candidate} {t : Store}
    (hchosen : LinkRequest.chosen ⟨c.descriptor, args, (c.countInvoke false).isUnstable⟩ p
      (s.withSite id (c.countInvoke false).countLink) = .ok k t) :
    ∃ i u, resolve id args s = .ok i u ∧ s.ServedIn u ∧ ∀ as, i.eval as = k.delivers as := by
  obtain ⟨f?, hf, -⟩ := k.result.exists_filterTo?_object
  have hfilter : c.descriptor.resultFilter? k.result = some f? := by
    rw [Descriptor.resultFilter?_of_generic hd, hf]
  obtain ⟨k', hk', hadapts⟩ := hchain.link_of_ok hchosen hfilter
  have hresolve : resolve id args s = _ := resolveBy_of_miss (link_leavesSite id) hsite hmiss
  rw [hk'] at hresolve
  have hlinked : s.ServedIn (s.withSite id (c.countInvoke false).countLink) := rfl
  have hserved : s.ServedIn t := hlinked.of_alike (alike_after_chosen hchosen)
  refine ⟨_, _, hresolve, Store.servedIn_withSite hserved, fun as => ?_⟩
  rw [hadapts.eval]
  exact Candidate.eval_finish_of_generic hd hfilter as

/-- If nothing is chosen for a call that a site has to link, the call fails. -/
theorem resolve_of_chosen_error (hchain : c.chain.IsDefault p) (hsite : s.sites.get? id = some c)
    (hmiss : c.cached? s args = none) {f : Fault} {t : Store}
    (hchosen : LinkRequest.chosen ⟨c.descriptor, args, (c.countInvoke false).isUnstable⟩ p
      (s.withSite id (c.countInvoke false).countLink) = .error f t) :
    resolve id args s = .error f t := by
  have hresolve : resolve id args s = _ := resolveBy_of_miss (link_leavesSite id) hsite hmiss
  rwa [hchain.link_of_error hchosen] at hresolve

/-- **A call of a site fails without running user code, or runs what serves it.** -/
theorem invokeSite_cases (hchain : c.chain.IsDefault p) (hs : s.Reachable)
    (hsite : s.sites.get? id = some c) (args : List Value) :
    (∃ f t, ∀ run, invokeSite id args run s = .error f t) ∨
    ∃ r k f? t, c.Serves p s args r k f? ∧ s.ServedIn t ∧ ∀ run, invokeSite id args run s =
      (k.invocation.eval (c.descriptor.passes args) >>= finish f?) run t := by
  rcases resolve_cases hchain hs hsite args with
    ⟨f, t, hresolve⟩ | ⟨r, k, f?, i, t, hserves, hserved, hresolve, heval⟩
  · exact .inl ⟨f, t, fun run => by rw [invokeSite_apply, hresolve]⟩
  · refine .inr ⟨r, k, f?, t, hserves, hserved, fun run => ?_⟩
    rw [invokeSite_apply, hresolve]
    dsimp only
    rw [heval]

/-- **Where all candidates for receivers of a type run the same code**, and declare no type for its
result, so does a call of the site with a receiver of the type, whatever the site holds. -/
theorem invokeSite_of_code (hchain : c.chain.IsDefault p) (hs : s.Reachable)
    (hsite : s.sites.get? id = some c) (args : List Value) (code : Code)
    (hcode : ∀ (r : LinkRequest) (u : Store), r.descriptor = c.descriptor →
      r.receiver.runtimeType = (Value.argument args 0).runtimeType →
      ∃ k t, r.chosen p u = .ok k t ∧ k.result = .object ∧ k.invocation.code = code) :
    s.ServedIn ((resolve id args).after s) ∧ ∀ run, invokeSite id args run s =
      (code.eval (c.descriptor.passes args) >>= finish c.descriptor.anyFilter?) run
        ((resolve id args).after s) := by
  rcases resolve_cases hchain hs hsite args with
    ⟨f, t, hresolve⟩ | ⟨r, k, f?, i, t, hserves, hserved, hresolve, heval⟩
  · -- something is chosen, and its result has a filter
    obtain ⟨-, hchosen⟩ := chosen_of_resolve_error hchain hsite hresolve
    obtain ⟨k, t', hk, hresult, -⟩ :=
      hcode ⟨c.descriptor, args, (c.countInvoke false).isUnstable⟩
        (s.withSite id (c.countInvoke false).countLink) rfl rfl
    rcases hchosen with hchosen | ⟨k', u, hk', hnone⟩
    · rw [hk] at hchosen
      cases hchosen
    · rw [hk] at hk'
      cases hk'
      rw [hresult, Descriptor.resultFilter?_object] at hnone
      cases hnone
  · obtain ⟨s₁, s₂, hk⟩ := hserves.chosen
    have htype := (r.fits_chosen p s₁ k s₂ hk).runtimeType_eq hserves.admits
    rw [Descriptor.argument_passes] at htype
    obtain ⟨k', t', hk', hresult, hcode⟩ := hcode r s₁ hserves.descriptor htype.symm
    rw [hk] at hk'
    cases hk'
    have hfilter := hserves.filter
    rw [hresult, Descriptor.resultFilter?_object] at hfilter
    cases hfilter
    rw [StoreM.after_of_ok hresolve]
    refine ⟨hserved, fun run => ?_⟩
    rw [invokeSite_apply, hresolve]
    dsimp only
    rw [heval, Invocation.eval, hcode]

/-- A site whose types are all `object` runs the code as it is. -/
theorem invokeSite_of_code_of_generic (hchain : c.chain.IsDefault p) (hs : s.Reachable)
    (hsite : s.sites.get? id = some c) {n : Nat}
    (hd : c.descriptor.signature = Signature.generic n) (args : List Value) (code : Code)
    (hcode : ∀ (r : LinkRequest) (u : Store), r.descriptor = c.descriptor →
      r.receiver.runtimeType = (Value.argument args 0).runtimeType →
      ∃ k t, r.chosen p u = .ok k t ∧ k.result = .object ∧ k.invocation.code = code) :
    s.ServedIn ((resolve id args).after s) ∧ ∀ run, invokeSite id args run s =
      code.eval args run ((resolve id args).after s) := by
  obtain ⟨hserved, hrun⟩ := invokeSite_of_code hchain hs hsite args code hcode
  have hobject : c.descriptor.signature.result = .object := by rw [hd]; rfl
  refine ⟨hserved, fun run => ?_⟩
  rw [hrun, Descriptor.anyFilter?_of_object hobject, finish_none, bind_pure,
    Descriptor.passes_of_generic hd]

/-- **A call of a site whose types are all `object`** fails because nothing is chosen for it, or
delivers what a candidate that admits it has for its descriptor. -/
theorem invokeSite_delivers (hchain : c.chain.IsDefault p) (hs : s.Reachable)
    (hsite : s.sites.get? id = some c) {n : Nat}
    (hd : c.descriptor.signature = Signature.generic n) (args : List Value) :
    (∃ f t, LinkRequest.chosen ⟨c.descriptor, args, (c.countInvoke false).isUnstable⟩ p
        (s.withSite id (c.countInvoke false).countLink) = .error f t ∧
      ∀ run, invokeSite id args run s = .error f t) ∨
    ∃ (r : LinkRequest) (k : Candidate) (t : Store), r.descriptor = c.descriptor ∧
      (∃ s₁ s₂, r.chosen p s₁ = .ok k s₂) ∧ k.admits args = true ∧ s.ServedIn t ∧
      ∀ run, invokeSite id args run s = k.delivers args run t := by
  rcases resolve_cases hchain hs hsite args with
    ⟨f, t, hresolve⟩ | ⟨r, k, f?, i, t, hserves, hserved, hresolve, heval⟩
  · left
    obtain ⟨-, hchosen | ⟨k, u, -, hnone⟩⟩ := chosen_of_resolve_error hchain hsite hresolve
    · exact ⟨f, t, hchosen, fun run => by rw [invokeSite_apply, hresolve]⟩
    · -- the results of all candidates have a filter
      obtain ⟨f?, hf, -⟩ := k.result.exists_filterTo?_object
      rw [Descriptor.resultFilter?_of_generic hd, hf] at hnone
      cases hnone
  · right
    have hadmits : k.admits args = true := by
      rw [← Candidate.admits_passes, hserves.admits]
    refine ⟨r, k, t, hserves.descriptor, hserves.chosen, hadmits, hserved, fun run => ?_⟩
    rw [invokeSite_apply, hresolve]
    dsimp only
    rw [heval, Candidate.eval_finish_of_generic hd hserves.filter]

end

end DynamicLinking
