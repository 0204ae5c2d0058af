/-
A call site never holds a candidate that was not linked for it: for some call of the site, with the
descriptor and the chain that the site still has, in a store whose layouts come before the present
ones.

* `Store.Sourced` — every cached candidate was linked for its site;
* `Store.Reachable.sourced` — **this is so in every store that a run leads to**.
-/

import DynamicLinking.Proofs.Layout

set_option autoImplicit false

namespace DynamicLinking

namespace Store

/-- The candidate was linked for a call of the site with the given stability, in a store that came
before. -/
def LinkedBefore (s : Store) (c : CallSite) (isUnstable : Bool) (k : Candidate) : Prop :=
  ∃ args s₁ s₂, s₁.Precedes s ∧ c.chain.link ⟨c.descriptor, args, isUnstable⟩ s₁ = .ok (some k) s₂

/-- Every cached candidate was linked for its site. -/
def Sourced (s : Store) : Prop :=
  ∀ id c k, s.sites.get? id = some c → c.target? = some k → ∃ b, s.LinkedBefore c b k

variable {s t : Store}

theorem LinkedBefore.mono {c c' : CallSite} {b : Bool} {k : Candidate} (h : s.LinkedBefore c b k)
    (hst : s.Precedes t) (hd : c'.descriptor = c.descriptor) (hc : c'.chain = c.chain) :
    t.LinkedBefore c' b k := by
  obtain ⟨args, s₁, s₂, hs₁, hl⟩ := h
  exact ⟨args, s₁, s₂, hs₁.trans hst, by rw [hd, hc]; exact hl⟩

theorem Untouched.sourced (h : s.Untouched) : s.Sourced := by
  intro id c k hc hk
  rw [h id c hc] at hk
  cases hk

theorem Sourced.of_sites (h : s.Sourced) (hst : s.Precedes t) (hsites : t.sites = s.sites) :
    t.Sourced := by
  intro id c k hc hk
  rw [hsites] at hc
  obtain ⟨b, hb⟩ := h id c k hc hk
  exact ⟨b, hb.mono hst rfl rfl⟩

/-- A site that was linked keeps the candidate that was linked for it, or the one that it had. -/
theorem Sourced.of_resolve (h : s.Sourced) (id : Nat) (args : List Value) :
    ((resolve id args).after s).Sourced := by
  have hst : s.Precedes ((resolve id args).after s) :=
    .of_scripts (scripts_after_resolve id args s)
  -- the site is the one that was called, or another one that is as it was
  intro j c' k hc' hk
  rcases eq_or_ne id j with rfl | hj
  · cases hc : s.sites.get? id with
    | none =>
        rw [resolve_eq, StoreM.after_of_error (resolveBy_of_unknown hc)] at hc'
        rw [hc] at hc'
        cases hc'
    | some c =>
        obtain ⟨c₀, hc₀, hd, hch, hheld⟩ := site_after_resolveBy (link_leavesSite id) hc args
        rw [resolve_eq, hc₀] at hc'
        cases hc'
        rcases hheld k hk with hkept | ⟨u, hl⟩
        · obtain ⟨b, hb⟩ := h id c k hc hkept
          exact ⟨b, hb.mono hst hd hch⟩
        · -- the candidate was linked for this call, which then changed no script object
          have hbefore : (s.withSite id (c.countInvoke false).countLink).Precedes
              ((resolve id args).after s) :=
            .of_scripts (by rw [scripts_after_resolve, scripts_withSite])
          exact ⟨_, args, _, u, hbefore, by rw [hd, hch]; exact hl⟩
  · rw [resolve_eq, get?_after_resolveBy_of_ne hj (link_leavesSite id) (link_leavesSite j)] at hc'
    obtain ⟨b, hb⟩ := h j c' k hc' hk
    exact ⟨b, hb.mono hst rfl rfl⟩

theorem sourced_of_step (hstep : Step s t) (h : s.Sourced) : t.Sourced := by
  have hst := precedes_of_step hstep
  cases hstep with
  | apart hapart => exact h.of_sites hst hapart.2
  | define o key v => exact h.of_sites hst (by simp)
  | setPrototype o p? => exact h.of_sites hst (by simp)
  | preventExtensions o => exact h.of_sites hst rfl
  | create id p => exact h.of_sites hst rfl
  | addSite d chain hnone =>
      intro j c k hc hk
      rw [Table.get?_insert] at hc
      split at hc
      · cases hc
        cases hk
      · obtain ⟨b, hb⟩ := h j c k hc hk
        exact ⟨b, hb.mono hst rfl rfl⟩
  | serve id args => exact h.of_resolve id args

/-- **Every cached candidate of every run was linked for its site**, before the layouts that are
there now. -/
theorem Reachable.sourced (h : s.Reachable) : s.Sourced := by
  obtain ⟨s₀, hnew, hrun⟩ := h
  exact hrun.preserves (fun s t hstep => sourced_of_step hstep) hnew.sourced

end Store

end DynamicLinking
