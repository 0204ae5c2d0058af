/-
A call of a site is served by the cached candidate, if there is one that admits it, and otherwise
has to link.  What happens is said here once for any way of linking that does not touch the site
itself, so that it holds of chains with any linkers.

Main definitions:

* `Store.withSite` — a store with a call site replaced;
* `Environment.newSite` — a call site that was never called;
* `Linking`, `resolveBy` — a way of linking, and the call of a site that links in this way;
* `Linking.LeavesSite` — linking does not touch the site;
* `Store.Called` — what serving a call may change.

Main results:

* `Store.reachable_newSite` — a run may start with a new site;
* `resolveBy_of_cached` — **a call that is served by the cache** counts as a hit, and changes
  nothing else;
* `resolveBy_of_miss`, `resolveBy_miss_cases` — **a call that has to link** counts as a miss and a
  link, and leaves the candidate in the site, unless linking fails;
* `site_after_resolveBy` — what a site holds after a call;
* `get?_after_resolveBy_of_ne` — a call of a site leaves the other sites alone;
* `called_after_resolve` — until its invocation runs, a call changes nothing but the state of sites,
  what is noted of contributed linkers and the next identity.
-/

import DynamicLinking.Proofs.Linking

set_option autoImplicit false

namespace DynamicLinking

/-! ### Sites in the store -/

namespace Table

variable {κ α : Type} [DecidableEq κ]

/-- Only the last of two writes to one key is seen. -/
theorem insert_insert (t : Table κ α) (k : κ) (a b : α) :
    (t.insert k a).insert k b = t.insert k b := by
  have hassign (bs : List (κ × α)) : assign k b (assign k a bs) = assign k b bs := by
    induction bs with
    | nil => simp [assign]
    | cons e bs ih =>
        obtain ⟨k', a'⟩ := e
        by_cases h : k' = k <;> simp [assign, h, ih]
  simp [insert, hassign]

end Table

namespace Store

/-- The store with a call site replaced. -/
def withSite (s : Store) (id : Nat) (c : CallSite) : Store :=
  { s with sites := s.sites.insert id c }

variable (s : Store) (id : Nat) (c c' : CallSite)

@[simp] theorem scripts_withSite : (s.withSite id c).scripts = s.scripts := rfl

@[simp] theorem withSite_withSite : (s.withSite id c).withSite id c' = s.withSite id c' := by
  simp [withSite, Table.insert_insert]

theorem get?_withSite (j : Nat) :
    (s.withSite id c).sites.get? j = if id = j then some c else s.sites.get? j := by
  simp [withSite]

@[simp] theorem get?_withSite_self : (s.withSite id c).sites.get? id = some c := by
  simp [withSite]

/-- Defining a property changes script objects and nothing else. -/
theorem defineProperty_eq (o : Object) (key : String) (v : Value) :
    (s.defineProperty o key v).1 =
      { s with scripts := (s.defineProperty o key v).1.scripts } := by
  unfold defineProperty
  dsimp only
  split
  · rfl
  · split <;> rfl

@[simp] theorem sites_defineProperty (o : Object) (key : String) (v : Value) :
    (s.defineProperty o key v).1.sites = s.sites := by
  rw [defineProperty_eq]

@[simp] theorem nextId_defineProperty (o : Object) (key : String) (v : Value) :
    (s.defineProperty o key v).1.nextId = s.nextId := by
  rw [defineProperty_eq]

@[simp] theorem fields_defineProperty (o : Object) (key : String) (v : Value) :
    (s.defineProperty o key v).1.fields = s.fields := by
  rw [defineProperty_eq]

@[simp] theorem sites_setPrototype (o : Object) (p? : Option Object) :
    (s.setPrototype o p?).1.sites = s.sites := by
  unfold setPrototype
  dsimp only
  split <;> rfl

end Store

/-! ### New sites -/

/-- A call site of an environment that was never called. -/
def Environment.newSite (e : Environment) (d : Descriptor) : CallSite :=
  { descriptor := d, chain := e.chain }

namespace Store

variable {s : Store}

theorem untouched_of_sites (h : s.sites = {}) : s.Untouched := by
  intro id c hc
  rw [h] at hc
  cases hc

/-- A site that was never called may be added. -/
theorem Untouched.withSite (h : s.Untouched) (id : Nat) (d : Descriptor) (chain : LinkerChain) :
    (s.withSite id { descriptor := d, chain }).Untouched := by
  intro j c hc
  rw [get?_withSite] at hc
  split at hc
  · cases hc
    rfl
  · exact h j c hc

theorem Untouched.reachable (h : s.Untouched) : s.Reachable :=
  ⟨s, h, .refl⟩

/-- A run may start with a new site and no other one. -/
theorem reachable_newSite (hs : s.sites = {}) (id : Nat) (d : Descriptor) (chain : LinkerChain) :
    (s.withSite id { descriptor := d, chain }).Reachable :=
  ((untouched_of_sites hs).withSite id d chain).reachable

end Store

/-! ### The steps of a site -/

namespace CallSite

/-- Counting a call changes the counters of a profiled site and nothing else. -/
theorem countInvoke_eq (c : CallSite) (isHit : Bool) :
    c.countInvoke isHit =
      { c with
        hits := if c.descriptor.flags.isProfiling && isHit then c.hits + 1 else c.hits
        misses :=
          if c.descriptor.flags.isProfiling && !isHit then c.misses + 1 else c.misses } := by
  unfold countInvoke
  cases c.descriptor.flags.isProfiling <;> cases isHit <;> rfl

/-- The link that crosses the threshold empties the cache, any other one leaves it alone. -/
theorem target?_countLink (c : CallSite) :
    c.countLink.target? =
      if c.countLink.isMegamorphic && !c.isMegamorphic then none else c.target? := by
  obtain ⟨d, chain, target?, isLinked, relinks, isMegamorphic, hits, misses⟩ := c
  cases isMegamorphic <;> simp [countLink]

/-- A candidate that serves a call is the cached one, and may serve it. -/
theorem of_cached? {c : CallSite} {s : Store} {args : List Value} {k : Candidate}
    (h : c.cached? s args = some k) : c.target? = some k ∧ s.accepts k args = true := by
  unfold cached? at h
  split at h
  · cases h
  · exact Option.filter_eq_some_iff.mp h

theorem descriptor_miss (c : CallSite) :
    (c.countInvoke false).countLink.descriptor = c.descriptor := by
  rw [countInvoke_eq]
  rfl

theorem chain_miss (c : CallSite) : (c.countInvoke false).countLink.chain = c.chain := by
  rw [countInvoke_eq]
  rfl

/-- A candidate that is still there when a call has to link was there before. -/
theorem target?_of_miss {c : CallSite} {k : Candidate}
    (h : (c.countInvoke false).countLink.target? = some k) : c.target? = some k := by
  have htarget : (c.countInvoke false).target? = c.target? := by rw [countInvoke_eq]
  rw [target?_countLink] at h
  split at h
  · cases h
  · exact htarget.symm.trans h

/-- A site holds the candidate that it keeps or the one that it had. -/
theorem target?_cache {c : CallSite} {k k' : Candidate} (h : (c.cache k).target? = some k') :
    k' = k ∨ c.target? = some k' := by
  unfold cache at h
  split at h
  · exact .inr h
  · exact .inl (Option.some.inj h).symm

theorem descriptor_cache (c : CallSite) (k : Candidate) :
    (c.cache k).descriptor = c.descriptor := by
  unfold cache
  split <;> rfl

theorem chain_cache (c : CallSite) (k : Candidate) : (c.cache k).chain = c.chain := by
  unfold cache
  split <;> rfl

end CallSite

/-! ### Ways of linking -/

/-- A way of linking the requests of a chain. -/
abbrev Linking := LinkerChain → LinkRequest → StoreM (Option Candidate)

/-- Links a call of a site in some way. -/
def relinkBy (link : Linking) (id : Nat) (args : List Value) : StoreM Invocation := do
  let c ← getSite id
  setSite id c.countLink
  match ← link c.chain ⟨c.descriptor, args, c.isUnstable⟩ with
  | none => fail (.noOperation c.descriptor.encoding (Value.argument args 0).text)
  | some k =>
      setSite id ((← getSite id).cache k)
      return k.invocation

/-- The invocation that serves a call of a site that links in some way. -/
def resolveBy (link : Linking) (id : Nat) (args : List Value) : StoreM Invocation := do
  let c ← getSite id
  match c.cached? (← get) args with
  | some k =>
      setSite id (c.countInvoke true)
      return k.invocation
  | none =>
      setSite id (c.countInvoke false)
      relinkBy link id args

/-- Call sites link in the way of their chains. -/
theorem resolve_eq : resolve = resolveBy LinkerChain.link := rfl

/-- Linking does not re-enter the site. -/
def Linking.LeavesSite (link : Linking) (id : Nat) : Prop :=
  ∀ c r s, ((link c r).after s).sites.get? id = s.sites.get? id

/-- No chain re-enters a site. -/
theorem link_leavesSite (id : Nat) : Linking.LeavesSite LinkerChain.link id := by
  intro c r s
  rw [sites_after_link]

section

variable {link : Linking} {id : Nat} {s t : Store} {c : CallSite} {args : List Value}

theorem getSite_of_some (hc : s.sites.get? id = some c) : getSite id s = .ok c s := by
  rw [getSite, StoreM.get_bind, hc]
  rfl

theorem getSite_of_none (hc : s.sites.get? id = none) :
    getSite id s = .error (.unknownSite id) s := by
  rw [getSite, StoreM.get_bind, hc]
  rfl

theorem setSite_apply (id : Nat) (c : CallSite) (s : Store) :
    setSite id c s = .ok () (s.withSite id c) := rfl

theorem resolveBy_of_unknown (hc : s.sites.get? id = none) :
    resolveBy link id args s = .error (.unknownSite id) s := by
  rw [resolveBy, StoreM.bind_of_error (getSite_of_none hc)]

/-- A call that the cached candidate admits only counts as a hit. -/
theorem resolveBy_of_cached (hc : s.sites.get? id = some c) {k : Candidate}
    (hk : c.cached? s args = some k) :
    resolveBy link id args s = .ok k.invocation (s.withSite id (c.countInvoke true)) := by
  rw [resolveBy, StoreM.bind_of_ok (getSite_of_some hc), StoreM.get_bind, hk]
  rfl

/-- Any other call is counted, as a call and as a link, and then linked.  What is linked is kept. -/
theorem resolveBy_of_miss (hlink : link.LeavesSite id) (hc : s.sites.get? id = some c)
    (hk : c.cached? s args = none) :
    resolveBy link id args s =
      match link c.chain ⟨c.descriptor, args, (c.countInvoke false).isUnstable⟩
          (s.withSite id (c.countInvoke false).countLink) with
      | .ok (some k) t => .ok k.invocation (t.withSite id ((c.countInvoke false).countLink.cache k))
      | .ok none t =>
          .error (.error (.noOperation c.descriptor.encoding (Value.argument args 0).text)) t
      | .error f t => .error f t := by
  have hchain : (c.countInvoke false).chain = c.chain := by rw [CallSite.countInvoke_eq]
  have hdescriptor : (c.countInvoke false).descriptor = c.descriptor := by
    rw [CallSite.countInvoke_eq]
  rw [resolveBy, StoreM.bind_of_ok (getSite_of_some hc), StoreM.get_bind, hk]
  dsimp only
  rw [StoreM.bind_of_ok (setSite_apply _ _ _), relinkBy,
    StoreM.bind_of_ok (getSite_of_some (Store.get?_withSite_self s id _)),
    StoreM.bind_of_ok (setSite_apply _ _ _), Store.withSite_withSite, hchain, hdescriptor]
  -- the site that is read again after linking is the one that was counted before
  have hsite := hlink c.chain ⟨c.descriptor, args, (c.countInvoke false).isUnstable⟩
    (s.withSite id (c.countInvoke false).countLink)
  rw [Store.get?_withSite_self] at hsite
  cases hr : link c.chain ⟨c.descriptor, args, (c.countInvoke false).isUnstable⟩
      (s.withSite id (c.countInvoke false).countLink) with
  | error f t => rw [StoreM.bind_of_error hr]
  | ok k? t =>
      rw [StoreM.after_of_ok hr] at hsite
      rw [StoreM.bind_of_ok hr]
      cases k? with
      | none => rfl
      | some k =>
          dsimp only
          rw [StoreM.bind_of_ok (getSite_of_some hsite)]
          rfl

/-- A call that has to link either ends with a candidate, which the site keeps, or fails and leaves
the site with the link counted. -/
theorem resolveBy_miss_cases (hlink : link.LeavesSite id) (hc : s.sites.get? id = some c)
    (hk : c.cached? s args = none) :
    (∃ k t, link c.chain ⟨c.descriptor, args, (c.countInvoke false).isUnstable⟩
          (s.withSite id (c.countInvoke false).countLink) = .ok (some k) t ∧
        resolveBy link id args s =
          .ok k.invocation (t.withSite id ((c.countInvoke false).countLink.cache k))) ∨
    ∃ f t, resolveBy link id args s = .error f t ∧
      t.sites.get? id = some (c.countInvoke false).countLink := by
  rw [resolveBy_of_miss hlink hc hk]
  have hsite := hlink c.chain ⟨c.descriptor, args, (c.countInvoke false).isUnstable⟩
    (s.withSite id (c.countInvoke false).countLink)
  rw [Store.get?_withSite_self] at hsite
  cases hr : link c.chain ⟨c.descriptor, args, (c.countInvoke false).isUnstable⟩
      (s.withSite id (c.countInvoke false).countLink) with
  | error f t => exact .inr ⟨f, t, rfl, by rwa [StoreM.after_of_error hr] at hsite⟩
  | ok k? t =>
      rw [StoreM.after_of_ok hr] at hsite
      cases k? with
      | none => exact .inr ⟨_, t, rfl, hsite⟩
      | some k => exact .inl ⟨k, t, rfl, rfl⟩

/-- **What a site holds after a call** it held before, or it was linked for the call. -/
theorem site_after_resolveBy (hlink : link.LeavesSite id) (hc : s.sites.get? id = some c)
    (args : List Value) :
    ∃ c', ((resolveBy link id args).after s).sites.get? id = some c' ∧
      c'.descriptor = c.descriptor ∧ c'.chain = c.chain ∧
      ∀ k, c'.target? = some k → c.target? = some k ∨
        ∃ t, link c.chain ⟨c.descriptor, args, (c.countInvoke false).isUnstable⟩
          (s.withSite id (c.countInvoke false).countLink) = .ok (some k) t := by
  cases hk : c.cached? s args with
  | some k =>
      refine ⟨c.countInvoke true, ?_, ?_⟩
      · rw [StoreM.after_of_ok (resolveBy_of_cached hc hk), Store.get?_withSite_self]
      · rw [CallSite.countInvoke_eq]
        exact ⟨rfl, rfl, fun _ h => .inl h⟩
  | none =>
      rcases resolveBy_miss_cases hlink hc hk with ⟨k, t, hl, hres⟩ | ⟨f, t, hres, hsite⟩
      · refine ⟨(c.countInvoke false).countLink.cache k, ?_, ?_, ?_, fun k' hk' => ?_⟩
        · rw [StoreM.after_of_ok hres, Store.get?_withSite_self]
        · rw [CallSite.descriptor_cache, CallSite.descriptor_miss]
        · rw [CallSite.chain_cache, CallSite.chain_miss]
        · rcases CallSite.target?_cache hk' with rfl | hkept
          · exact .inr ⟨t, hl⟩
          · exact .inl (CallSite.target?_of_miss hkept)
      · refine ⟨(c.countInvoke false).countLink, ?_, c.descriptor_miss, c.chain_miss, ?_⟩
        · rw [StoreM.after_of_error hres, hsite]
        · intro k' hk'
          exact .inl (CallSite.target?_of_miss hk')

/-- A call of one site leaves the others alone. -/
theorem get?_after_resolveBy_of_ne {j : Nat} (hj : id ≠ j) (hid : link.LeavesSite id)
    (hlink : link.LeavesSite j) :
    ((resolveBy link id args).after s).sites.get? j = s.sites.get? j := by
  cases hc : s.sites.get? id with
  | none => rw [StoreM.after_of_error (resolveBy_of_unknown hc)]
  | some c =>
      cases hk : c.cached? s args with
      | some k =>
          rw [StoreM.after_of_ok (resolveBy_of_cached hc hk), Store.get?_withSite, if_neg hj]
      | none =>
          -- a link that fails and one that does not both end in a store with the other site
          have hrest := hlink c.chain ⟨c.descriptor, args, (c.countInvoke false).isUnstable⟩
            (s.withSite id (c.countInvoke false).countLink)
          rw [Store.get?_withSite, if_neg hj] at hrest
          have hres := resolveBy_of_miss hid hc hk
          cases hr : link c.chain ⟨c.descriptor, args, (c.countInvoke false).isUnstable⟩
              (s.withSite id (c.countInvoke false).countLink) with
          | error f t =>
              rw [hr] at hres
              rw [StoreM.after_of_error hr] at hrest
              rw [StoreM.after_of_error hres, hrest]
          | ok k? t =>
              rw [hr] at hres
              rw [StoreM.after_of_ok hr] at hrest
              cases k? with
              | none => rw [StoreM.after_of_error hres, hrest]
              | some k =>
                  rw [StoreM.after_of_ok hres, Store.get?_withSite, if_neg hj, hrest]

theorem invokeSite_apply (id : Nat) (args : List Value) (run : Runner) (s : Store) :
    invokeSite id args run s =
      match resolve id args s with
      | .ok i t => i.eval args run t
      | .error f t => .error f t := by
  rw [invokeSite, RunM.bind_apply, StoreM.bind_apply, RunM.lift_apply]
  cases resolve id args s <;> rfl

end

/-! ### What serving a call changes -/

/-- The stores differ at most in the state of sites, in what contributed linkers were asked and in
the next identity, and identities were only given out. -/
def Store.Called (s t : Store) : Prop :=
  t = { s with sites := t.sites, inquiries := t.inquiries, nextId := t.nextId } ∧
    s.nextId ≤ t.nextId

namespace Store.Called

theorem refl (s : Store) : s.Called s :=
  ⟨rfl, Nat.le_refl _⟩

theorem trans {s t u : Store} (h : s.Called t) (h' : t.Called u) : s.Called u := by
  refine ⟨?_, Nat.le_trans h.2 h'.2⟩
  rw [h'.1, h.1]

theorem of_asked {s t : Store} (h : s.Asked t) : s.Called t := by
  refine ⟨?_, h.2⟩
  rw [h.1]

end Store.Called

/-- Until the invocation of a call runs, nothing else changes. -/
theorem called_after_resolve (id : Nat) (args : List Value) (s : Store) :
    s.Called ((resolve id args).after s) := by
  have hget : Takes Store.Called (getSite id) := by
    refine takes_bind takes_get fun s => ?_
    split <;> simp
  have hset (c : CallSite) : Takes Store.Called (setSite id c) :=
    takes_modify fun s => ⟨rfl, Nat.le_refl _⟩
  have hrelink : Takes Store.Called (relink id args) := by
    refine takes_bind hget fun c => takes_bind (hset _) fun _ => ?_
    refine takes_bind ((takes_link c.chain _).mono fun _ _ => .of_asked) fun k? => ?_
    split
    · simp
    · exact takes_bind hget fun c => takes_bind (hset _) fun _ => takes_pure _
  have hresolve : Takes Store.Called (resolve id args) := by
    refine takes_bind hget fun c => takes_bind takes_get fun s => ?_
    split
    · exact takes_bind (hset _) fun _ => takes_pure _
    · exact takes_bind (hset _) fun _ => hrelink
  exact hresolve.single Store.Called.refl Store.Called.trans s

/-- Serving a call leaves script objects alone. -/
theorem scripts_after_resolve (id : Nat) (args : List Value) (s : Store) :
    ((resolve id args).after s).scripts = s.scripts := by
  rw [(called_after_resolve id args s).1]

end DynamicLinking
