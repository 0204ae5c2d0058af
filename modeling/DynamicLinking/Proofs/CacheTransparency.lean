/-
A call that is served from the cache of its site should have the outcome that linking it afresh
would give.  Script objects may have changed since the cached candidate was linked, and it may have
been linked for other arguments.

* `LinkerChain.FreshAlike` — **a fresh link has a given outcome**, up to new identities;
* `LinkerChain.IsDefault.freshAlike_iff` — when a linked candidate that serves another call does
  what a fresh link would do;
* `cached_iff_fresh` — **in every run a cached candidate does what a fresh link would do, except
  where it overlooks a static member, or the declared type of a method**.
-/

import DynamicLinking.Proofs.DeclaredResults
import DynamicLinking.Proofs.Members
import DynamicLinking.Proofs.Provenance
import DynamicLinking.Proofs.Relinking

set_option autoImplicit false

namespace DynamicLinking

/-- Linking the request afresh, and running what is linked, has an outcome like the given one. -/
def LinkerChain.FreshAlike (c : LinkerChain) (r : LinkRequest) (run : Runner) (t : Store)
    (x : Outcome) : Prop :=
  ∃ k t', c.link r t = .ok (some k) t' ∧ x.Alike (k.invocation.eval r.args run t')

/-- What overlooks a member answers `undefined` in its place. -/
theorem Candidate.Adapts.eval_of_overlooksMember {r r₁ : LinkRequest} {k k₁ : Candidate}
    {f? : Option ResultFilter} {run : Runner} {s t u : Store}
    (hk : k.Adapts k₁ r.descriptor f?) (hd : r.descriptor = r₁.descriptor)
    (hk₁ : r₁.chosen .permitAll s = .ok k₁ u)
    (hf : r.descriptor.resultFilter? k₁.result = some f?)
    (h : r.OverlooksMember k₁) :
    k.invocation.eval r.args run t = finish r.descriptor.anyFilter? .undefined run t := by
  obtain ⟨hresult, heval⟩ := LinkRequest.eval_of_overlooksMember hd hk₁ h run t
  rw [hresult, r.descriptor.resultFilter?_object] at hf
  cases hf
  rw [hk.eval, RunM.bind_of_ok heval]

namespace LinkerChain.IsDefault

variable {c : LinkerChain} {r r₁ : LinkRequest} {k k₁ : Candidate} {f? : Option ResultFilter}
  {run : Runner} {s t u : Store}

/-- What answers like a candidate that is chosen anew is linked alike. -/
theorem freshAlike_of_chosenAlike (hc : c.IsDefault .permitAll) (h : r.ChosenAlike k₁ t)
    (hf : r.descriptor.resultFilter? k₁.result = some f?) (hk : k.Adapts k₁ r.descriptor f?) :
    c.FreshAlike r run t (k.invocation.eval r.args run t) := by
  obtain ⟨k', t', hk', hanswers⟩ := h
  obtain ⟨l, hl, hadapts⟩ := hc.link_of_ok hk' (by rw [hanswers.result]; exact hf)
  refine ⟨l, t', hl, ?_⟩
  rw [hk.eval, hadapts.eval]
  exact hanswers.runs run f? hf

/-- What overlooks a method agrees with a fresh link exactly if the type that the method declares
makes no difference. -/
theorem freshAlike_iff_indifferent (hc : c.IsDefault .permitAll)
    (hd : r.descriptor = r₁.descriptor) (hu : r.isUnstable = r₁.isUnstable)
    (hk₁ : r₁.chosen .permitAll s = .ok k₁ u)
    (hf : r.descriptor.resultFilter? k₁.result = some f?) (hk : k.Adapts k₁ r.descriptor f?)
    {m : HostMethod} (h : r.OverlooksMethod k₁ m) (run : Runner) :
    c.FreshAlike r run t (k.invocation.eval r.args run t) ↔
      r.descriptor.Indifferent m.signature.result
        (r.descriptor.methodCode.eval (r.descriptor.passes r.args) run t) := by
  obtain ⟨hinvocation, k', hk', hdeclared⟩ := LinkRequest.chosen_of_overlooksMethod hd hu hk₁ h t
  have hresult : k₁.result = .object := by
    rw [Candidate.result, hinvocation]
    rfl
  rw [hresult, r.descriptor.resultFilter?_object] at hf
  cases hf
  rw [← alike_declared_iff hc rfl hk' hdeclared hk (by rw [hinvocation]) r.args run]
  constructor
  · rintro ⟨l, t', hl, halike⟩
    obtain ⟨k₀, l', f?, hl', hk₀, -, -⟩ := hc.link_inv hl
    rw [hk'] at hk₀
    cases hk₀
    exact ⟨l, hl, halike.symm⟩
  · rintro ⟨l, hl, halike⟩
    exact ⟨l, t, hl, halike.symm⟩

/-- A linked candidate that serves another call has the outcome of a fresh link exactly if nothing
is overlooked that matters. -/
theorem freshAlike_iff (hc : c.IsDefault .permitAll) (hd : r.descriptor = r₁.descriptor)
    (hu : r.isUnstable = r₁.isUnstable) (hk₁ : r₁.chosen .permitAll s = .ok k₁ u)
    (hf : r.descriptor.resultFilter? k₁.result = some f?) (hk : k.Adapts k₁ r.descriptor f?)
    (hprecedes : s.Precedes t) (haccepts : t.accepts k r.args = true) (run : Runner) :
    c.FreshAlike r run t (k.invocation.eval r.args run t) ↔
      (r.OverlooksMember k → c.FreshAlike r run t
        (finish r.descriptor.anyFilter? .undefined run t)) ∧
      ∀ m, r.OverlooksMethod k m → r.descriptor.Indifferent m.signature.result
        (r.descriptor.methodCode.eval (r.descriptor.passes r.args) run t) := by
  have haccepts₁ : t.accepts k₁ r.args = true := by
    rwa [← hk.accepts_eq]
  have hmember : r.OverlooksMember k ↔ r.OverlooksMember k₁ := by
    unfold LinkRequest.OverlooksMember
    rw [hk.guard]
  have hmethod (m : HostMethod) : r.OverlooksMethod k m ↔ r.OverlooksMethod k₁ m := by
    unfold LinkRequest.OverlooksMethod
    rw [hk.guard]
  -- no candidate overlooks both a member and a method, since they have different guards
  by_cases hover : r.OverlooksMember k
  · rw [hk.eval_of_overlooksMember hd hk₁ hf (hmember.mp hover)]
    refine ⟨fun h => ⟨fun _ => h, fun m hm => ?_⟩, fun h => h.1 hover⟩
    have hguard := hover.1.symm.trans hm.1
    cases hguard
  · by_cases hany : ∃ m, r.OverlooksMethod k m
    · obtain ⟨m, hm⟩ := hany
      rw [hc.freshAlike_iff_indifferent hd hu hk₁ hf hk ((hmethod m).mp hm) run]
      constructor
      · intro h
        refine ⟨fun hm' => absurd hm' hover, fun m' hm' => ?_⟩
        have heq := hm.2.2.2.symm.trans hm'.2.2.2
        cases heq
        exact h
      · intro h
        exact h.2 m hm
    · have halike : r.ChosenAlike k₁ t :=
        LinkRequest.chosenAlike hd hu hk₁ hprecedes haccepts₁ (fun h => hover (hmember.mpr h))
          fun m hm => hany ⟨m, (hmethod m).mpr hm⟩
      refine ⟨fun _ => ⟨fun h => absurd h hover, fun m hm => absurd ⟨m, hm⟩ hany⟩, fun _ => ?_⟩
      exact hc.freshAlike_of_chosenAlike halike hf hk

end LinkerChain.IsDefault

/-! ### The law -/

/-- **When the cache is transparent.**  In every run of the call sites of an environment that grants
everything and contributes no linkers, every candidate that serves a call from the cache was linked
for its site.  The call has the outcome that linking it afresh with the same stability would give,
up to new identities, exactly if nothing is overlooked that matters: where a static member is
overlooked that another class did not have, the member would have to answer what `undefined` gives,
and where a method is overlooked, the type that it declares must make no difference. -/
theorem cached_iff_fresh {e : Environment} (hpolicy : e.policy = .permitAll)
    (hcontributed : e.contributed = []) {s : Store} (hs : s.Reachable) {id : Nat} {c : CallSite}
    (hsite : s.sites.get? id = some c) (hchain : c.chain = e.chain) {args : List Value}
    {k : Candidate} (hk : c.cached? s args = some k) :
    (∃ isUnstable, s.LinkedBefore c isUnstable k) ∧
      ∀ isUnstable, s.LinkedBefore c isUnstable k → ∀ run,
        let r : LinkRequest := ⟨c.descriptor, args, isUnstable⟩
        let t := s.withSite id (c.countInvoke true)
        (c.chain.FreshAlike r run t (invokeSite id args run s) ↔
          (r.OverlooksMember k → c.chain.FreshAlike r run t
            (finish r.descriptor.anyFilter? .undefined run t)) ∧
          ∀ m, r.OverlooksMethod k m → r.descriptor.Indifferent m.signature.result
            (r.descriptor.methodCode.eval (r.descriptor.passes args) run t)) := by
  have hc : c.chain.IsDefault .permitAll := by
    rw [hchain, ← hpolicy]
    exact e.chain_isDefault hcontributed
  obtain ⟨htarget, haccepts⟩ := CallSite.of_cached? hk
  refine ⟨hs.sourced id c k hsite htarget, ?_⟩
  rintro isUnstable ⟨args₁, s₁, s₂, hprecedes, hl⟩ run r t
  obtain ⟨k₁, k', f?, hk', hk₁, hf, hadapts⟩ := hc.link_inv hl
  cases hk'
  have hserved : invokeSite id args run s = k.invocation.eval r.args run t := by
    have hresolve : resolve id args s = _ := resolveBy_of_cached hsite hk
    rw [invokeSite_apply, hresolve]
  -- serving the call counts it, which changes no script object
  have hprecedes' : s₁.Precedes t := hprecedes.trans (.of_scripts rfl)
  rw [hserved]
  exact hc.freshAlike_iff (r := r) (t := t) (by rfl) (by rfl) hk₁ hf hadapts hprecedes' haccepts run

/-! ### A member behind a candidate for a missing one -/

namespace OverlookedMember

/-- A class without members, as a value. -/
def lamp : Value := .object (.staticClass 1 (.ofMembers 10 "Lamp" [] .ordinary))

/-- A class with a static property, as a value. -/
def desk : Value :=
  .object (.staticClass 2
    (.ofMembers 11 "Desk" [.staticProperty "key" .string (.string "k")] .ordinary))

/-- A site of the default environment that reads the property. -/
def site : CallSite :=
  ({} : Environment).newSite ⟨.getProperty, some "key", Signature.generic 1, ⟨0⟩⟩

/-- A store with the new site. -/
def start : Store := ({} : Store).withSite 0 site

/-- The store after the property was read from the class that does not have it. -/
def store : Store := (resolve 0 [lamp]).after start

theorem reachable_store : store.Reachable :=
  (Store.reachable_newSite rfl _ _ _ : start.Reachable).evolves (.single (.serve start 0 _))

/-- Reading the property of the same class again is transparent. -/
theorem lamp_again :
    ∃ c k, store.sites.get? 0 = some c ∧ c.cached? store [lamp] = some k ∧ ∀ run,
      c.chain.FreshAlike ⟨c.descriptor, [lamp], false⟩ run
        (store.withSite 0 (c.countInvoke true)) (invokeSite 0 [lamp] run store) := by
  refine ⟨_, _, rfl, rfl, fun run => ?_⟩
  refine ((cached_iff_fresh (e := {}) rfl rfl reachable_store rfl rfl rfl).2 false
    ⟨[lamp], start.withSite 0 (site.countInvoke false).countLink, _, .of_scripts rfl, rfl⟩ run).mpr
    ⟨?_, ?_⟩
  · rintro ⟨-, i, c, hr, hmember⟩
    cases hr
    cases hmember
  · rintro m ⟨hguard, -⟩
    cases hguard

/-- Reading the property of the other class answers `undefined` from the cache, and the property
after a fresh link: the cache is not transparent. -/
theorem desk_from_cache :
    ¬ ∀ (e : Environment) (s : Store) (id : Nat) (c : CallSite) (args : List Value) (k : Candidate)
        (isUnstable : Bool) (run : Runner),
      e.policy = .permitAll → e.contributed = [] → s.Reachable → s.sites.get? id = some c →
      c.chain = e.chain → c.cached? s args = some k → s.LinkedBefore c isUnstable k →
      c.chain.FreshAlike ⟨c.descriptor, args, isUnstable⟩ run
        (s.withSite id (c.countInvoke true)) (invokeSite id args run s) := by
  intro h
  have hfresh := h {} store 0 _ [desk] _ false (fun _ _ _ => pure (.string "k")) rfl rfl
    reachable_store rfl rfl rfl
    ⟨[lamp], start.withSite 0 (site.countInvoke false).countLink, _, .of_scripts rfl, rfl⟩
  obtain ⟨k, t, hl, halike⟩ := hfresh
  cases hl
  generalize hserved : invokeSite 0 [desk] (fun _ _ _ => pure (.string "k")) store = x at halike
  cases hserved
  cases halike with
  | ok hv _ => cases hv

end OverlookedMember

end DynamicLinking
