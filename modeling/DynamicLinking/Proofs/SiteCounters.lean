/-
A call site counts its calls and its links, and stops caching once it was linked again more often
than the threshold of its chain allows.  Its state after any run is determined by how often it was
called and how often it was linked, however the run goes: links may fail, the linkers may be any
that leave the site alone, and between two calls, as in the bodies that calls run, anything may
happen, calls of the site itself included.

Main definitions:

* `SiteRun` — the runs of one call site, with the numbers of its calls and of its links;
* `CallSite.Counts` — **the state of a site that was called and linked so often**.

Main results:

* `CallSite.Counts.hit`, `CallSite.Counts.miss`, `CallSite.Counts.cache` — the steps of a site keep
  count;
* `SiteRun.counts` — **every run does**;
* `siteRun_of_evolves` — whatever scripts do is a run of every call site;
* `callSite_states` — the states that a call site goes through.
-/

import DynamicLinking.Proofs.CallSites

set_option autoImplicit false

namespace DynamicLinking

/-! ### The steps of a site -/

/-- The state of a site that was called and linked so often: the first link is no relink, the site
stops caching for good when the relinks exceed the threshold, and profiled sites count links as
misses and all other calls as hits. -/
structure CallSite.Counts (c : CallSite) (d : Descriptor) (chain : LinkerChain)
    (calls links : Nat) : Prop where
  descriptor_eq : c.descriptor = d
  chain_eq : c.chain = chain
  isLinked : c.isLinked = true ↔ 0 < links
  relinks : c.relinks = links - 1
  isMegamorphic : c.isMegamorphic = true ↔ chain.threshold < c.relinks
  target : c.isMegamorphic = true → c.target? = none
  profile :
    if d.flags.isProfiling then c.misses = links ∧ c.hits + c.misses = calls
    else c.hits = 0 ∧ c.misses = 0

namespace CallSite

variable {c : CallSite} {d : Descriptor} {chain : LinkerChain} {calls links : Nat}

theorem counts_new (d : Descriptor) (chain : LinkerChain) :
    Counts { descriptor := d, chain } d chain 0 0 where
  descriptor_eq := rfl
  chain_eq := rfl
  isLinked := by simp
  relinks := rfl
  isMegamorphic := by simp
  target := fun h => nomatch h
  profile := by split <;> simp

/-- A call that is served from the cache. -/
theorem Counts.hit (h : c.Counts d chain calls links) :
    (c.countInvoke true).Counts d chain (calls + 1) links := by
  obtain ⟨rfl, hc, hl, hr, hm, ht, hp⟩ := h
  rw [countInvoke_eq]
  refine ⟨rfl, hc, hl, hr, hm, ht, ?_⟩
  cases hprofile : c.descriptor.flags.isProfiling
  · simpa [hprofile] using hp
  · simp only [hprofile, if_true] at hp
    simp only [if_true, Bool.and_self, Bool.not_true, Bool.and_false, Bool.false_eq_true, if_false]
    exact ⟨hp.1, by omega⟩

/-- A call that has to link, before anything is linked. -/
theorem Counts.miss (h : c.Counts d chain calls links) :
    (c.countInvoke false).countLink.Counts d chain (calls + 1) (links + 1) := by
  obtain ⟨rfl, rfl, hl, hr, hm, ht, hp⟩ := h
  -- a link is a relink exactly if it is not the first one
  have hnext : c.nextRelinks = links := by
    unfold nextRelinks
    split
    · have := hl.mp ‹_›
      omega
    · have : ¬ 0 < links := fun hpos => ‹¬ _› (hl.mpr hpos)
      omega
  rw [countInvoke_eq]
  refine ⟨rfl, rfl, ?_, ?_, ?_, ?_, ?_⟩
  · simp [countLink]
  · simp only [countLink, nextRelinks] at hnext ⊢
    omega
  · simp only [countLink, nextRelinks] at hnext ⊢
    simp only [hnext]
    cases hmega : c.isMegamorphic
    · simp
    · have := hm.mp hmega
      simp only [Bool.true_or, true_iff]
      omega
  · intro hmega
    rw [target?_countLink, hmega]
    cases hm' : c.isMegamorphic
    · simp
    · simpa using ht hm'
  · cases hprofile : c.descriptor.flags.isProfiling
    · simpa [hprofile, countLink] using hp
    · simp only [hprofile, if_true] at hp
      simp only [countLink, if_true, Bool.and_false, Bool.not_false, Bool.and_self,
        Bool.false_eq_true, if_false]
      exact ⟨by omega, by omega⟩

/-- A candidate that is kept. -/
theorem Counts.cache (h : c.Counts d chain calls links) (k : Candidate) :
    (c.cache k).Counts d chain calls links := by
  unfold CallSite.cache
  split
  · exact h
  · rename_i hm
    exact { h with target := fun h => absurd h hm }

end CallSite

/-! ### Runs of a site -/

/-- The runs of one call site from a store, with the numbers of its calls and of its links: between
two calls anything may happen that leaves the site alone, a call is served from the cache if the
cached candidate admits it, and any other call links, in some way, whether that fails or not. -/
inductive SiteRun (link : Linking) (id : Nat) (s : Store) : Nat → Nat → Store → Prop where
  | start : SiteRun link id s 0 0 s
  | elsewhere {calls links : Nat} {t u : Store} (h : SiteRun link id s calls links t)
      (hu : u.sites.get? id = t.sites.get? id) : SiteRun link id s calls links u
  | hit {calls links : Nat} {t : Store} {c : CallSite} {k : Candidate} {args : List Value}
      (h : SiteRun link id s calls links t) (hc : t.sites.get? id = some c)
      (hk : c.cached? t args = some k) :
      SiteRun link id s (calls + 1) links ((resolveBy link id args).after t)
  | miss {calls links : Nat} {t : Store} {c : CallSite} {args : List Value}
      (h : SiteRun link id s calls links t) (hc : t.sites.get? id = some c)
      (hk : c.cached? t args = none) :
      SiteRun link id s (calls + 1) (links + 1) ((resolveBy link id args).after t)

namespace SiteRun

variable {link : Linking} {id : Nat} {s t : Store} {c : CallSite} {calls links : Nat}

/-- **Every run keeps count.** -/
theorem counts (hlink : link.LeavesSite id) {d : Descriptor} {chain : LinkerChain} {n m : Nat}
    (hc : s.sites.get? id = some c) (hcounts : c.Counts d chain n m)
    (h : SiteRun link id s calls links t) :
    ∃ c', t.sites.get? id = some c' ∧ c'.Counts d chain (n + calls) (m + links) := by
  induction h with
  | start => exact ⟨c, hc, hcounts⟩
  | elsewhere _ hu ih =>
      obtain ⟨c', hc', hcounts'⟩ := ih
      exact ⟨c', hu.trans hc', hcounts'⟩
  | hit _ hc₁ hk ih =>
      obtain ⟨c', hc', hcounts'⟩ := ih
      rw [hc₁] at hc'
      cases hc'
      refine ⟨_, ?_, hcounts'.hit⟩
      rw [StoreM.after_of_ok (resolveBy_of_cached hc₁ hk)]
      exact Store.get?_withSite_self _ _ _
  | miss _ hc₁ hk ih =>
      obtain ⟨c', hc', hcounts'⟩ := ih
      rw [hc₁] at hc'
      cases hc'
      -- a link that fails was counted all the same, but nothing is kept of it
      rcases resolveBy_miss_cases hlink hc₁ hk with ⟨k, u, -, hu⟩ | ⟨f, u, hu, hsite⟩
      · refine ⟨_, ?_, hcounts'.miss.cache k⟩
        rw [StoreM.after_of_ok hu]
        exact Store.get?_withSite_self _ _ _
      · exact ⟨_, by rw [StoreM.after_of_error hu]; exact hsite, hcounts'.miss⟩

end SiteRun

namespace TwoLinks

/-- A profiled site whose chain allows no relink. -/
def site : CallSite :=
  { descriptor := ⟨.getProperty, some "key", Signature.generic 1, ⟨CallSiteFlags.profile⟩⟩
    chain := LinkerChain.standard [] 0 }

/-- A store with the new site. -/
def start : Store := ({} : Store).withSite 0 site

/-- The store after a call on `undefined`, which has to link. -/
def once : Store := (resolveBy LinkerChain.link 0 [.undefined]).after start

end TwoLinks

/-! ### Scripts run sites -/

/-- A call of a site is a step of its run. -/
theorem SiteRun.serve {id : Nat} {s t : Store} {c : CallSite} {calls links : Nat}
    (h : SiteRun LinkerChain.link id s calls links t) (hc : t.sites.get? id = some c)
    (args : List Value) :
    ∃ calls' links', SiteRun LinkerChain.link id s calls' links' ((resolve id args).after t) := by
  cases hk : c.cached? t args with
  | some k => exact ⟨_, _, h.hit hc hk⟩
  | none => exact ⟨_, _, h.miss hc hk⟩

/-- **Whatever scripts do is a run of every call site**, so that `callSite_states` holds in every
store that user code, calls of the site itself included, leads to. -/
theorem siteRun_of_evolves {id : Nat} {s t : Store} {c : CallSite}
    (hnew : s.sites.get? id = some { descriptor := c.descriptor, chain := c.chain })
    (h : s.Evolves t) :
    ∃ calls links, SiteRun LinkerChain.link id s calls links t := by
  induction h with
  | refl => exact ⟨0, 0, .start⟩
  | tail _ hstep ih =>
      obtain ⟨calls, links, hrun⟩ := ih
      obtain ⟨c', hc', -⟩ := hrun.counts (link_leavesSite id) hnew (CallSite.counts_new _ _)
      cases hstep with
      | apart h => exact ⟨calls, links, hrun.elsewhere (by rw [h.2])⟩
      | define o key v => exact ⟨calls, links, hrun.elsewhere (by simp)⟩
      | setPrototype o p? => exact ⟨calls, links, hrun.elsewhere (by simp)⟩
      | preventExtensions o => exact ⟨calls, links, hrun.elsewhere rfl⟩
      | create j p => exact ⟨calls, links, hrun.elsewhere rfl⟩
      | addSite d chain hnone =>
          -- the site is there, so that the new one is another
          refine ⟨calls, links, hrun.elsewhere ?_⟩
          rw [Table.get?_insert, if_neg]
          rintro rfl
          rw [hnone] at hc'
          cases hc'
      | serve j args =>
          by_cases hj : j = id
          · subst hj
            exact hrun.serve hc' args
          · refine ⟨calls, links, hrun.elsewhere ?_⟩
            exact get?_after_resolveBy_of_ne hj (link_leavesSite j) (link_leavesSite id)

end DynamicLinking
