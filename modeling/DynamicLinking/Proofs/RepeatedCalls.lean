/-
After a call that was served, from the cache or by linking, a call site that still caches holds a
candidate that would serve the same call once more: every candidate admits the receiver that it was
linked for, and the switch points that it carries are those of the layouts at that moment.

What else happens in between does not matter as long as it spares the receiver and its prototypes,
and the site itself.  Guards look at the receiver alone, so that the other arguments may differ; and
switch points are only carried by candidates for absent properties, which admit one object and rest
on the layouts of its prototype chain.

Main definitions:

* `Store.Holds` — the objects that a value is, or has on its prototype chain;
* `Store.Spares` — **a change that spares some objects and a site**;
* `LinkRequest.RestsOn` — what a candidate rests on: nothing, or the layouts of one object.

Main results:

* `LinkRequest.restsOn_of_chosen` — every chosen candidate rests on nothing, or on the layouts of
  the one object that it admits;
* `accepts_of_resolve` — what a site holds after a call may serve the call;
* `Store.accepts_of_layouts` — and still may as long as the layouts of the receiver are the same;
* `repeated_call_hits` — **a repeated call is a hit**, unless an object on the prototype chain of
  the receiver got a new layout or the site was called.
-/

import DynamicLinking.Proofs.PropertyHeap

set_option autoImplicit false

namespace DynamicLinking

namespace Store

/-! ### Changes that spare objects -/

/-- The identity is that of the value or of an object on its prototype chain. -/
def Holds (s : Store) (v : Value) (j : Nat) : Prop :=
  ∃ o, v = .object o ∧ ∃ q ∈ s.protoChain o, q.id = j

/-- One change of the store in which no object that is held gains a property, has its prototype set,
is kept from taking new properties or is made, and which is no call of the site. -/
inductive Spares (id : Nat) (held : Nat → Prop) : Store → Store → Prop where
  | apart {s t : Store} (h : s.Apart t) : Spares id held s t
  | define (s : Store) (o : Object) (key : String) (v : Value)
      (h : held o.id → s.hasOwnProperty o key = true ∨ (s.script o.id).isExtensible = false) :
      Spares id held s (s.defineProperty o key v).1
  | setPrototype (s : Store) (o : Object) (p? : Option Object)
      (h : held o.id → (s.setPrototype o p?).2 = false) : Spares id held s (s.setPrototype o p?).1
  | preventExtensions (s : Store) (o : Object) (h : ¬ held o.id) :
      Spares id held s (s.preventExtensions o)
  | create (s : Store) (i : Nat) (p : Object) (h : ¬ held i) :
      Spares id held s (s.setScript i { prototype? := some p, layout := (s.script i).layout + 1 })
  | addSite {s : Store} {j : Nat} (d : Descriptor) (chain : LinkerChain)
      (h : s.sites.get? j = none) :
      Spares id held s { s with sites := s.sites.insert j { descriptor := d, chain } }
  | serve (s : Store) (j : Nat) (args : List Value) (h : j ≠ id) :
      Spares id held s ((resolve j args).after s)

namespace Spares

variable {id : Nat} {held : Nat → Prop} {s t : Store}

/-- It is one of the changes that there are. -/
theorem step (h : Spares id held s t) : Step s t := by
  cases h with
  | apart h => exact .apart h
  | define o key v h => exact .define s o key v
  | setPrototype o p? h => exact .setPrototype s o p?
  | preventExtensions o h => exact .preventExtensions s o
  | create i p h => exact .create s i p
  | addSite d chain h => exact .addSite d chain h
  | serve j args h => exact .serve s j args

/-- The layouts of the objects that are held are not replaced. -/
theorem layout_eq (h : Spares id held s t) {j : Nat} (hj : held j) :
    (t.script j).layout = (s.script j).layout := by
  cases h with
  | apart h => simp [script, h.1]
  | define o key v h =>
      unfold Store.defineProperty
      dsimp only
      split
      · rw [script_setScript]
        split
        · rename_i hid
          rw [hid]
        · rfl
      · rename_i hnew
        split
        · -- the property is new and the object takes it, so that it is not one of those held
          rename_i hextensible
          have hne : o.id ≠ j := by
            rintro rfl
            rcases h hj with hown | hfixed
            · exact hnew hown
            · rw [hfixed] at hextensible
              cases hextensible
          rw [script_setScript, if_neg hne]
        · rfl
  | setPrototype o p? h =>
      unfold Store.setPrototype at h ⊢
      dsimp only at h ⊢
      split
      · rfl
      · rename_i haccepted
        have hne : o.id ≠ j := by
          rintro rfl
          have hrefused := h hj
          rw [if_neg haccepted] at hrefused
          cases hrefused
        rw [script_setScript, if_neg hne]
  | preventExtensions o h =>
      have hne : o.id ≠ j := by
        rintro rfl
        exact h hj
      unfold Store.preventExtensions
      dsimp only
      rw [script_setScript, if_neg hne]
  | create i p h =>
      have hne : i ≠ j := by
        rintro rfl
        exact h hj
      rw [script_setScript, if_neg hne]
  | addSite d chain h => rfl
  | serve k args h =>
      have hscripts := scripts_after_resolve k args s
      simp [script, hscripts]

/-- The site is left alone. -/
theorem site_eq (h : Spares id held s t) {c : CallSite} (hc : s.sites.get? id = some c) :
    t.sites.get? id = some c := by
  cases h with
  | apart h => rwa [h.2]
  | define o key v h => rwa [sites_defineProperty]
  | setPrototype o p? h => rwa [sites_setPrototype]
  | preventExtensions o h => exact hc
  | create i p h => exact hc
  | @addSite j d chain h =>
      have hne : j ≠ id := by
        rintro rfl
        rw [h] at hc
        cases hc
      rwa [Table.get?_insert, if_neg hne]
  | serve k args h =>
      rwa [resolve_eq, get?_after_resolveBy_of_ne h (link_leavesSite k) (link_leavesSite id)]

/-- What single changes spare is spared by runs of them. -/
theorem of_run (h : Relation.ReflTransGen (Spares id held) s t) {c : CallSite}
    (hc : s.sites.get? id = some c) :
    t.sites.get? id = some c ∧
      ∀ j, held j → (t.script j).layout = (s.script j).layout := by
  induction h with
  | refl => exact ⟨hc, fun _ _ => rfl⟩
  | tail _ hstep ih =>
      exact ⟨hstep.site_eq ih.1, fun j hj => (hstep.layout_eq hj).trans (ih.2 j hj)⟩

end Spares

end Store

/-! ### What candidates rest on -/

namespace LinkRequest

variable {r : LinkRequest} {p : PolicyRef} {k : Candidate} {s t : Store}

/-- The candidate rests on nothing, or it admits the receiver alone and rests on its layouts. -/
def RestsOn (r : LinkRequest) (s : Store) (k : Candidate) : Prop :=
  k.switchPoints = [] ∨
    ∃ o, r.receiver = .object o ∧ k.guard? = some (Guard.receiverIdentity r.receiver) ∧
      k.switchPoints = s.layoutPoints o

theorem switchPoints_getD {k? : Option Candidate} (h : ∀ k, k? = some k → k.switchPoints = []) :
    (k?.getD r.missing).switchPoints = [] := by
  cases k? with
  | none => rfl
  | some k => exact h k rfl

theorem switchPoints_map {i? : Option Invocation} {f : Invocation → Invocation} {g : Guard} :
    ((i?.map fun i => Candidate.guarded (f i) g).getD r.missing).switchPoints = [] := by
  cases i? <;> rfl

theorem switchPoints_linkPrimitive (h : r.linkPrimitive? = some k) : k.switchPoints = [] := by
  unfold linkPrimitive? at h
  cases hop : r.descriptor.operation with
  | getProperty | getElement | getMethod =>
      rw [hop] at h
      dsimp only at h
      split at h <;> (cases h; rfl)
  | setProperty | setElement =>
      rw [hop] at h
      dsimp only at h
      split at h <;> (cases h; rfl)
  | call | new =>
      rw [hop] at h
      cases h

theorem restsOn_linkScript (h : r.linkScript? s = some k) : r.RestsOn s k := by
  unfold linkScript? at h
  split at h
  · cases h
  · rename_i o ho
    have hget : r.RestsOn s (r.linkScriptGet s o) := by
      rcases r.linkScriptGet_cases s o with hasks | ⟨n, -, -, hconstant⟩
      · rw [hasks]
        exact .inl rfl
      · rw [hconstant]
        exact .inr ⟨o, object_of_script? ho, rfl, rfl⟩
    cases hop : r.descriptor.operation with
    | getProperty | getElement | getMethod =>
        rw [hop] at h
        cases h
        exact hget
    | setProperty | setElement =>
        rw [hop] at h
        cases h
        exact .inl rfl
    | call | new =>
        rw [hop] at h
        simp only [Option.ite_none_right_eq_some] at h
        rw [← Option.some.inj h.2]
        exact .inl rfl

/-- **Every chosen candidate rests on nothing, or on the layouts of the one object that it
admits.** -/
theorem restsOn_of_chosen (hk : r.chosen p s = .ok k t) : r.RestsOn s k := by
  have hscript {o : Object} (hr : r.receiver = .object o) (ho : o.isScript = true) :
      r.RestsOn s k := by
    rw [chosen_eq_script hr ho, StoreM.get_bind] at hk
    cases hk
    cases hlink : r.linkScript? s with
    | none => exact .inl rfl
    | some k => exact restsOn_linkScript hlink
  have hforeign {o : Object} {b : BridgeKind} (hr : r.receiver = .object o)
      (ho : o.bridge? = some b) : r.RestsOn s k := by
    rw [chosen_eq_foreign hr ho] at hk
    cases hk
    exact .inl rfl
  have hhost {o : Object} {c : HostClass} (hr : r.receiver = .object o)
      (ho : o.hostClass? = some c) : r.RestsOn s k := by
    rw [chosen_eq_host hr ho] at hk
    obtain ⟨_, _, -, hk⟩ := StoreM.bind_eq_ok hk
    obtain ⟨_, _, -, hk⟩ := StoreM.bind_eq_ok hk
    obtain ⟨i?, _, -, hk⟩ := StoreM.bind_eq_ok hk
    cases hk
    exact .inl switchPoints_map
  cases hr : r.receiver with
  | primitive q =>
      rw [chosen_eq_primitive hr] at hk
      cases hk
      left
      split
      · rfl
      · exact switchPoints_getD fun k => switchPoints_linkPrimitive
  | object o =>
      cases o with
      | ordinary i => exact hscript hr rfl
      | function i c => exact hscript hr rfl
      | boundFunction i t c s l => exact hscript hr rfl
      | foreign i f => exact hforeign hr rfl
      | mirror i t => exact hforeign hr rfl
      | host i c => exact hhost hr rfl
      | proxy i m t => exact hhost hr rfl
      | bound i f a l =>
          rw [chosen_apply_bound hr] at hk
          split at hk
          · obtain ⟨_, _, -, hk⟩ := StoreM.bind_eq_ok hk
            cases hk
            exact .inl rfl
          · cases hk
            exact .inl rfl
      | superAdapter i a =>
          rw [chosen_apply_superAdapter hr] at hk
          split at hk
          · obtain ⟨_, _, -, hk⟩ := StoreM.bind_eq_ok hk
            cases hk
            exact .inl rfl
          · cases hk
            exact .inl rfl
      | methodRef i c m isStatic =>
          rw [chosen_eq_methodRef hr] at hk
          obtain ⟨_, _, -, hk⟩ := StoreM.bind_eq_ok hk
          obtain ⟨_, _, -, hk⟩ := StoreM.bind_eq_ok hk
          cases hk
          left
          split
          · unfold linkMethodRef
            dsimp only
            split <;> rfl
          · rfl
      | staticClass i c =>
          rw [chosen_eq_staticClass hr] at hk
          obtain ⟨_, _, -, hk⟩ := StoreM.bind_eq_ok hk
          obtain ⟨_, _, -, hk⟩ := StoreM.bind_eq_ok hk
          obtain ⟨i?, _, -, hk⟩ := StoreM.bind_eq_ok hk
          cases hk
          exact .inl switchPoints_map

/-- Guards look at the receiver alone. -/
theorem Fits.admits_congr (h : r.Fits k) {args args' : List Value}
    (hargs : Value.argument args' 0 = Value.argument args 0) :
    k.admits args' = k.admits args := by
  unfold Candidate.admits
  rcases h.guard with hg | ⟨o, -, hg⟩ | ⟨i, c, -, hg⟩ <;> rw [hg]
  · simp [Guard.receiverType, Guard.test, hargs]
  · simp [Guard.receiverIdentity, Guard.test, hargs]
  · simp [Guard.test, hargs]

end LinkRequest

/-! ### What a site holds after a call -/

namespace Store

variable {s t : Store}

/-- **A candidate that may serve a call may serve it again** as long as the layouts of the receiver
and of its prototypes are not replaced, whatever the other arguments are. -/
theorem accepts_of_layouts {c : CallSite} {p : PolicyRef} {b : Bool} {k : Candidate}
    {args args' : List Value} (hchain : c.chain.IsDefault p) (hlinked : s.LinkedBefore c b k)
    (haccepts : s.accepts k args = true)
    (hargs : Value.argument args' 0 = Value.argument args 0)
    (hlayouts : ∀ j, s.Holds (Value.argument args 0) j →
      (t.script j).layout = (s.script j).layout) :
    t.accepts k args' = true := by
  obtain ⟨args₀, u, u', hprecedes, hl⟩ := hlinked
  obtain ⟨k₀, k', f?, hk', hchosen, -, hadapts⟩ := hchain.link_inv hl
  cases hk'
  rw [hadapts.accepts_eq] at haccepts ⊢
  obtain ⟨hvalid, hadmits⟩ := admits_of_accepts haccepts
  have hagain : k₀.admits args' = true := by
    rw [(LinkRequest.fits_chosen _ p u k₀ u' hchosen).admits_congr hargs, hadmits]
  have hunthrown : k₀.switchPoints.any t.isThrown = false := by
    rcases LinkRequest.restsOn_of_chosen hchosen with hnone | ⟨o, hr, hguard, hpoints⟩
    · rw [hnone]
      rfl
    · -- the candidate admits one object, so that this is the receiver of both calls
      have ho : Value.argument args 0 = .object o :=
        Candidate.receiver_of_identity hadmits hguard hr
      rw [isInvalidated, hpoints] at hvalid
      rw [hpoints]
      refine any_isThrown_of_layouts fun q hq => ?_
      obtain ⟨n, -, hn⟩ := (u.mem_chainUpTo _ o q).mp hq
      have hstill : s.ancestor? n o = some q := by
        rw [ancestor?_eq_of_unthrown hprecedes hvalid, hn]
      obtain ⟨q', hq', hid⟩ := exists_mem_protoChain hstill
      rw [hlayouts q.id ⟨o, ho, q', hq', hid⟩]
      exact layout_eq_of_unthrown hvalid hn
  simp [accepts, isInvalidated, hunthrown, hagain]

end Store

section

variable {s s₁ s₂ : Store} {id : Nat} {c c₁ : CallSite} {p : PolicyRef} {args args' : List Value}
  {i : Invocation}

/-- What a chain links for a call may serve the call. -/
theorem accepts_of_link {chain : LinkerChain} (hchain : chain.IsDefault p) {r : LinkRequest}
    {k : Candidate} (hl : chain.link r s = .ok (some k) s₁) : s₁.accepts k r.args = true := by
  obtain ⟨k₀, k', f?, hk', hchosen, -, hadapts⟩ := hchain.link_inv hl
  cases hk'
  have hadmits := (LinkRequest.fits_chosen r p s k₀ s₁ hchosen).admits_self
  have hunthrown : k₀.switchPoints.any s₁.isThrown = false := by
    rcases LinkRequest.restsOn_of_chosen hchosen with hnone | ⟨o, -, -, hpoints⟩
    · rw [hnone]
      rfl
    · -- a choice replaces no layout
      rw [hpoints]
      refine Store.any_isThrown_of_layouts fun q _ => ?_
      have halike := alike_after_chosen hchosen
      unfold Store.Alike at halike
      rw [halike]
      rfl
  rw [hadapts.accepts_eq]
  simp [Store.accepts, Store.isInvalidated, hunthrown, hadmits]

/-- **What a site holds after a call may serve the call**, unless the site has stopped caching. -/
theorem accepts_of_resolve (hchain : c.chain.IsDefault p) (hc : s.sites.get? id = some c)
    (hresolve : resolve id args s = .ok i s₁) (hc₁ : s₁.sites.get? id = some c₁)
    (hcaches : c₁.isMegamorphic = false) :
    ∃ k, c₁.target? = some k ∧ s₁.accepts k args = true := by
  cases hk : c.cached? s args with
  | some k =>
      have hcached : resolve id args s = _ := resolveBy_of_cached hc hk
      rw [hcached] at hresolve
      cases hresolve
      rw [Store.get?_withSite_self] at hc₁
      cases hc₁
      obtain ⟨htarget, haccepts⟩ := CallSite.of_cached? hk
      exact ⟨k, by rw [CallSite.countInvoke_eq]; exact htarget, haccepts⟩
  | none =>
      rw [resolve_eq] at hresolve
      rcases resolveBy_miss_cases (link_leavesSite id) hc hk with
        ⟨k, t, hl, hlinked⟩ | ⟨f, t, hf, -⟩
      · rw [hlinked] at hresolve
        cases hresolve
        rw [Store.get?_withSite_self] at hc₁
        cases hc₁
        refine ⟨k, ?_, accepts_of_link hchain hl⟩
        unfold CallSite.cache at hcaches ⊢
        split
        · rename_i hmegamorphic
          rw [if_pos hmegamorphic, hmegamorphic] at hcaches
          cases hcaches
        · rfl
      · rw [hf] at hresolve
        cases hresolve

/-- **A repeated call is a hit.**  After a call that was served and left the site caching, a call
with the same argument 0 is served by what the site holds, however the site would link it, and the
number of relinks stays, provided that in between no object that the receiver is or has on its
prototype chain gained a property, had its prototype set or was kept from new properties, and the
site was not called. -/
theorem repeated_call_hits (hs : s.Reachable) (hc : s.sites.get? id = some c)
    (hchain : c.chain.IsDefault p) (hresolve : resolve id args s = .ok i s₁)
    (hc₁ : s₁.sites.get? id = some c₁) (hcaches : c₁.isMegamorphic = false)
    (hspares : Relation.ReflTransGen (Store.Spares id (s₁.Holds (Value.argument args 0))) s₁ s₂)
    (hargs : Value.argument args' 0 = Value.argument args 0) :
    ∃ k, c₁.cached? s₂ args' = some k ∧
      (∀ link : Linking, resolveBy link id args' s₂ =
        .ok k.invocation (s₂.withSite id (c₁.countInvoke true))) ∧
      (∀ run : Runner, invokeSite id args' run s₂ =
        k.invocation.eval args' run (s₂.withSite id (c₁.countInvoke true))) ∧
      (c₁.countInvoke true).relinks = c₁.relinks := by
  obtain ⟨k, htarget, haccepts⟩ := accepts_of_resolve hchain hc hresolve hc₁ hcaches
  have hafter : (resolve id args).after s = s₁ := StoreM.after_of_ok hresolve
  have hs₁ : s₁.Reachable := by
    rw [← hafter]
    exact hs.evolves (.single (.serve s id args))
  obtain ⟨b, hlinked⟩ := hs₁.sourced id c₁ k hc₁ htarget
  have hchain₁ : c₁.chain.IsDefault p := by
    obtain ⟨c', hc', -, hsame, -⟩ := site_after_resolveBy (link_leavesSite id) hc args
    rw [← resolve_eq, hafter, hc₁] at hc'
    cases hc'
    rwa [hsame]
  obtain ⟨hc₂, hlayouts⟩ := Store.Spares.of_run hspares hc₁
  have hcached : c₁.cached? s₂ args' = some k := by
    rw [CallSite.cached?, if_neg (by simp [hcaches]), htarget]
    exact Option.filter_eq_some_iff.mpr
      ⟨rfl, Store.accepts_of_layouts hchain₁ hlinked haccepts hargs hlayouts⟩
  have hhit (link : Linking) : resolveBy link id args' s₂ =
      .ok k.invocation (s₂.withSite id (c₁.countInvoke true)) := resolveBy_of_cached hc₂ hcached
  refine ⟨k, hcached, hhit, fun run => ?_, by rw [CallSite.countInvoke_eq]⟩
  rw [invokeSite_apply, resolve_eq, hhit]

end

namespace RepeatedRead

/-- A store with an object that takes no properties, and with a site that reads one of it and was
never called. -/
def unread : Store :=
  (({} : Store).preventExtensions (.ordinary 0)).withSite 0 AbsentRead.reader

/-- What the site links. -/
def absent : Candidate where
  invocation := ⟨Signature.generic 1, .constant .undefined⟩
  guard? := some (Guard.receiverIdentity AbsentRead.object)
  switchPoints := [.layout 0 1]

/-- The site after the first read. -/
def linked : CallSite :=
  { AbsentRead.reader with target? := some absent, isLinked := true }

/-- The store after the first read. -/
def read : Store :=
  unread.withSite 0 linked

theorem reachable_unread : unread.Reachable :=
  Store.reachable_newSite rfl 0 _ _

theorem resolve_unread :
    resolve 0 [AbsentRead.object] unread = .ok absent.invocation read := rfl

/-- A property of another object does not keep the site from serving the next read from its
cache. -/
theorem hit_after_write :
    unread.Reachable ∧ AbsentRead.reader.chain.IsDefault (.fixed .permitAll) ∧
    resolve 0 [AbsentRead.object] unread = .ok absent.invocation read ∧
    Relation.ReflTransGen (Store.Spares 0 (read.Holds AbsentRead.object)) read
      (read.defineProperty (.ordinary 1) "x" .null).1 ∧
    ∃ k, linked.cached? (read.defineProperty (.ordinary 1) "x" .null).1
      [AbsentRead.object, .null] = some k := by
  have hchain : AbsentRead.reader.chain.IsDefault (.fixed .permitAll) :=
    Environment.chain_isDefault (e := {}) rfl
  have hspares : Relation.ReflTransGen (Store.Spares 0 (read.Holds AbsentRead.object)) read
      (read.defineProperty (.ordinary 1) "x" .null).1 := by
    refine .single (.define read (.ordinary 1) "x" .null ?_)
    rintro ⟨o, ho, q, hq, hid⟩
    cases ho
    have hchain : read.protoChain (.ordinary 0) = [.ordinary 0] := rfl
    rw [hchain, List.mem_singleton] at hq
    rw [hq] at hid
    cases hid
  have hargs : Value.argument [AbsentRead.object, .null] 0 =
      Value.argument [AbsentRead.object] 0 := rfl
  obtain ⟨k, hk, -⟩ := repeated_call_hits reachable_unread (Store.get?_withSite_self _ _ _) hchain
    resolve_unread (Store.get?_withSite_self _ _ _) rfl hspares hargs
  exact ⟨reachable_unread, hchain, resolve_unread, hspares, k, hk⟩

/-- To keep an object from new properties that takes none anyway gives it a new layout. -/
theorem heap_preventExtensions :
    (read.preventExtensions (.ordinary 0)).heap = read.heap := by
  have hscript (id : Nat) : (read.preventExtensions (.ordinary 0)).script id =
      if 0 = id then { isExtensible := false, layout := 2 } else read.script id := by
    unfold Store.preventExtensions
    rw [Store.script_setScript]
    rfl
  unfold Store.heap
  simp only [hscript]
  congr 1
  all_goals
    funext id
    split
    · rename_i hid
      rw [← hid]
      rfl
    · rfl

/-- **It is not enough that no object has another property or another prototype or takes fewer
properties** than after the first call. -/
theorem not_hit_of_same_heap :
    ¬ ∀ (s s₁ s₂ : Store) (id : Nat) (c c₁ : CallSite) (p : PolicyRef) (args args' : List Value)
        (i : Invocation),
      s.Reachable → s.sites.get? id = some c → c.chain.IsDefault p →
      resolve id args s = .ok i s₁ → s₁.sites.get? id = some c₁ → c₁.isMegamorphic = false →
      s₁.Step s₂ → s₂.sites = s₁.sites → s₂.heap = s₁.heap →
      Value.argument args' 0 = Value.argument args 0 →
      ∃ k, c₁.cached? s₂ args' = some k := by
  intro h
  obtain ⟨k, hk⟩ := h unread read (read.preventExtensions (.ordinary 0)) 0 AbsentRead.reader
    linked (.fixed .permitAll) [AbsentRead.object] [AbsentRead.object] absent.invocation
    reachable_unread (Store.get?_withSite_self _ _ _) (Environment.chain_isDefault (e := {}) rfl)
    resolve_unread (Store.get?_withSite_self _ _ _) rfl (.preventExtensions _ _) rfl
    heap_preventExtensions rfl
  -- the layout that the cached candidate rests on was replaced
  have hmiss : linked.cached? (read.preventExtensions (.ordinary 0)) [AbsentRead.object] = none :=
    rfl
  rw [hmiss] at hk
  cases hk

end RepeatedRead

end DynamicLinking
