/-
A call site that reads or writes a property of a script object does what the object would do itself,
whatever the site holds.  A candidate that was linked for another script object asks the object at
hand, and one that answers `undefined` right away was linked for this object, when the property was
absent and the layouts were those of today.

Main definitions:

* `Access` — a read or a write of a property of a script object;
* `Descriptor.access?` — the access that a call asks for, if its key is fixed or a string;
* `Access.serve` — **what the object does itself**;
* `CallSite.Accesses` — a site of a default environment whose types are all `object`, and a call of
  it that asks for an access.

Main results:

* `LinkRequest.eval_of_chosen` — a candidate that may serve the call does what the object does;
* `invokeSite_of_accesses` — **so does the call site**, in any state of its cache.
-/

import DynamicLinking.Proofs.Serving

set_option autoImplicit false

namespace DynamicLinking

/-! ### Accesses -/

/-- A read or a write of a property of a script object. -/
inductive Access where
  | read (o : Object) (key : String)
  | write (o : Object) (key : String) (v : Value) (isStrict : Bool)

/-- What the object does itself: it reads the property, or it writes it and gives no result. -/
def Access.serve : Access → StoreM Value
  | .read o key => getProperty o key
  | .write o key v isStrict => do
      putProperty o key v isStrict
      return .undefined

namespace Descriptor

/-- The key of a member, if it is fixed or a string. -/
def stringKey? (d : Descriptor) (args : List Value) : Option String :=
  match d.name? with
  | some n => some n
  | none =>
      match Value.argument args 1 with
      | .string key => some key
      | _ => none

/-- The access that a call asks for, if it reads or writes a property of a script object under a key
that is fixed or a string. -/
def access? (d : Descriptor) (args : List Value) : Option Access :=
  match (Value.argument args 0).script?, d.stringKey? args with
  | some o, some key =>
      if d.operation.isGet then some (.read o key)
      else if d.operation.isSet then some (.write o key (d.memberValue args) d.isStrict)
      else none
  | _, _ => none

variable {d : Descriptor} {args : List Value} {key : String} {o : Object}

theorem access?_cases {a : Access} (h : d.access? args = some a) :
    ∃ o key, (Value.argument args 0).script? = some o ∧ d.stringKey? args = some key ∧
      (d.operation.isGet = true ∧ a = .read o key ∨
        d.operation.isSet = true ∧ a = .write o key (d.memberValue args) d.isStrict) := by
  unfold access? at h
  cases ho : (Value.argument args 0).script? with
  | none => simp [ho] at h
  | some o =>
      cases hkey : d.stringKey? args with
      | none => simp [ho, hkey] at h
      | some key =>
          refine ⟨o, key, rfl, rfl, ?_⟩
          simp only [ho, hkey] at h
          split at h
          · rename_i hget
            exact .inl ⟨hget, (Option.some.inj h).symm⟩
          · split at h
            · rename_i hset
              exact .inr ⟨hset, (Option.some.inj h).symm⟩
            · cases h

/-- A key that is fixed or a string needs no conversion. -/
theorem memberKey_of_stringKey? (h : d.stringKey? args = some key) :
    d.memberKey args = pure key := by
  unfold stringKey? at h
  unfold memberKey
  cases hn : d.name? with
  | some n =>
      rw [hn] at h
      cases h
      rfl
  | none =>
      rw [hn] at h
      dsimp only at h ⊢
      split at h
      · rename_i _ hv
        cases h
        rw [hv]
        rfl
      · cases h

theorem evalScriptGet_apply (ho : (Value.argument args 0).script? = some o)
    (hkey : d.stringKey? args = some key) (run : Runner) (s : Store) :
    evalScriptGet d args run s = (Access.read o key).serve s := by
  rw [evalScriptGet, memberKey_of_stringKey? hkey, pure_bind, ho]
  rfl

theorem evalScriptSet_apply (ho : (Value.argument args 0).script? = some o)
    (hkey : d.stringKey? args = some key) (run : Runner) (s : Store) :
    evalScriptSet d args run s =
      (Access.write o key (d.memberValue args) d.isStrict).serve s := by
  rw [evalScriptSet, memberKey_of_stringKey? hkey, pure_bind, ho]
  rfl

end Descriptor

/-! ### Candidates -/

namespace Store

variable {s t : Store}

/-- What an object reads depends on script objects only. -/
theorem getProperty_congr (h : t.scripts = s.scripts) (o : Object) (key : String) :
    t.getProperty o key = s.getProperty o key := by
  have hscript (id : Nat) : t.script id = s.script id := by simp [script, h]
  have hchain (n : Nat) (o : Object) : t.chainUpTo n o = s.chainUpTo n o := by
    induction n generalizing o with
    | zero => rfl
    | succ n ih => simp only [chainUpTo, hscript, ih]
  simp only [getProperty, protoChain, h, hchain, ownProperty?, hscript]

/-- Layout points of objects that still have these layouts are not thrown. -/
theorem any_isThrown_of_layouts {o : Object}
    (h : ∀ q ∈ s.protoChain o, (t.script q.id).layout = (s.script q.id).layout) :
    (s.layoutPoints o).any t.isThrown = false := by
  rw [List.any_eq_false]
  intro point hpoint
  obtain ⟨q, hq, rfl⟩ := List.mem_map.mp hpoint
  simp [isThrown, h q hq]

/-- Collected layout points are those of the present layouts. -/
theorem any_isThrown_layoutPoints (s : Store) (o : Object) :
    (s.layoutPoints o).any s.isThrown = false :=
  any_isThrown_of_layouts fun _ _ => rfl

end Store

namespace LinkRequest

variable {r : LinkRequest} {p : PolicyRef} {k : Candidate} {s s₁ s₂ : Store} {o : Object}

theorem script?_of_isScript (ho : o.isScript = true) : (Value.object o).script? = some o := by
  simp [Value.script?, Value.object?, ho]

/-- The candidate for a read of a script object. -/
theorem eq_of_chosen_read (hr : r.receiver = .object o) (ho : o.isScript = true)
    (hop : r.descriptor.operation.isGet = true) (hk : r.chosen p s₁ = .ok k s₂) :
    k = r.linkScriptGet s₁ o := by
  have hlink : r.linkScript? s₁ = some (r.linkScriptGet s₁ o) := by
    unfold linkScript?
    rw [hr, script?_of_isScript ho]
    cases h : r.descriptor.operation <;> first | rfl | (rw [h] at hop; cases hop)
  rw [chosen_script hr ho, hlink] at hk
  cases hk
  rfl

/-- The candidate for a write of a script object. -/
theorem eq_of_chosen_write (hr : r.receiver = .object o) (ho : o.isScript = true)
    (hop : r.descriptor.operation.isSet = true) (hk : r.chosen p s₁ = .ok k s₂) :
    k = r.byType (.scriptSet r.descriptor) := by
  have hlink : r.linkScript? s₁ = some (r.byType (.scriptSet r.descriptor)) := by
    unfold linkScript?
    rw [hr, script?_of_isScript ho]
    cases h : r.descriptor.operation <;> first | rfl | (rw [h] at hop; cases hop)
  rw [chosen_script hr ho, hlink] at hk
  cases hk
  rfl

/-- A candidate for a read asks the object, or it answers `undefined` for one object without the
property, as long as no layout of its chain is replaced. -/
theorem linkScriptGet_cases (r : LinkRequest) (s : Store) (o : Object) :
    r.linkScriptGet s o = r.byType (.scriptGet r.descriptor) ∨
    ∃ n, r.descriptor.name? = some n ∧ s.hasProperty o n = false ∧
      r.linkScriptGet s o =
        (Candidate.guarded ⟨r.genericSignature .object, .constant .undefined⟩
          (Guard.receiverIdentity r.receiver)).withSwitchPoints (s.layoutPoints o) := by
  unfold linkScriptGet
  split
  · rename_i habsent
    cases hn : r.descriptor.name? with
    | none => simp [hn] at habsent
    | some n => exact .inr ⟨n, rfl, by simpa [hn] using habsent, rfl⟩
  · exact .inl rfl

/-- **A candidate that may serve a call does what the object does itself**: one that was chosen for
any call, at a store with older layouts, and that rests on no layout that was replaced since. -/
theorem eval_of_chosen (hk : r.chosen p s₁ = .ok k s₂) (hprecedes : s₁.Precedes s)
    (hvalid : s.isInvalidated k = false) {args : List Value} (hadmits : k.admits args = true)
    {a : Access} (ha : r.descriptor.access? args = some a) :
    k.result = .object ∧ ∀ (run : Runner) (t : Store), t.scripts = s.scripts →
      k.invocation.eval args run t = a.serve t := by
  obtain ⟨o, key, ho, hkey, hcases⟩ := Descriptor.access?_cases ha
  have hobject : Value.argument args 0 = .object o := object_of_script? ho
  have hscript : o.isScript = true := by
    rw [hobject] at ho
    exact (Option.filter_eq_some_iff.mp ho).2
  -- the candidate was chosen for a script object, because it admits one
  have htype := (r.fits_chosen p s₁ k s₂ hk).runtimeType_eq hadmits
  rw [hobject] at htype
  obtain ⟨o₁, hr, hscript₁, -⟩ := Value.eq_of_runtimeType_script hscript htype.symm
  rcases hcases with ⟨hop, rfl⟩ | ⟨hop, rfl⟩
  · obtain rfl := eq_of_chosen_read hr hscript₁ hop hk
    rcases r.linkScriptGet_cases s₁ o₁ with hasks | ⟨n, hn, habsent, hconstant⟩
    · rw [hasks]
      exact ⟨rfl, fun run t _ => Descriptor.evalScriptGet_apply ho hkey run t⟩
    · rw [hconstant] at hadmits hvalid ⊢
      obtain rfl : n = key := by
        simp only [Descriptor.stringKey?, hn] at hkey
        exact Option.some.inj hkey
      obtain rfl : o = o₁ := by
        have hsame := Candidate.receiver_of_identity hadmits rfl hr
        rw [hobject] at hsame
        exact Value.object.inj hsame
      -- the layouts are still those under which the property was absent
      have hnow : s.hasProperty o n = false :=
        Store.hasProperty_eq_false_of_unthrown hprecedes hvalid habsent
      refine ⟨rfl, fun run t ht => ?_⟩
      have hread : t.getProperty o n = .undefined := by
        rw [Store.getProperty_congr ht]
        exact Store.getProperty_of_absent hnow
      rw [Access.serve, getProperty_apply, hread]
      rfl
  · obtain rfl := eq_of_chosen_write hr hscript₁ hop hk
    exact ⟨rfl, fun run t _ => Descriptor.evalScriptSet_apply ho hkey run t⟩

/-- What is chosen for a call that asks for an access rests on the present layouts. -/
theorem chosen_of_access {a : Access} (ha : r.descriptor.access? r.args = some a)
    (p : PolicyRef) (s : Store) :
    ∃ k, r.chosen p s = .ok k s ∧ s.isInvalidated k = false := by
  obtain ⟨o, key, ho, -, hcases⟩ := Descriptor.access?_cases ha
  have hr : r.receiver = .object o := object_of_script? ho
  have hscript : o.isScript = true := by
    have hfilter : (Value.object o).script? = some o := by rw [← hr]; exact ho
    exact (Option.filter_eq_some_iff.mp hfilter).2
  have hk := chosen_script (p := p) (s := s) hr hscript
  refine ⟨_, hk, ?_⟩
  rcases hcases with ⟨hop, -⟩ | ⟨hop, -⟩
  · rw [eq_of_chosen_read hr hscript hop hk]
    rcases r.linkScriptGet_cases s o with hasks | ⟨n, -, -, hconstant⟩
    · rw [hasks]
      rfl
    · rw [hconstant]
      exact s.any_isThrown_layoutPoints o
  · rw [eq_of_chosen_write hr hscript hop hk]
    rfl

end LinkRequest

/-! ### Call sites -/

/-- The site is one of an environment without contributed linkers, all its types are `object`, and
the call asks for an access. -/
structure CallSite.Accesses (c : CallSite) (args : List Value) (a : Access) : Prop where
  chain : ∃ e : Environment, e.contributed = [] ∧ c.chain = e.chain
  signature : ∃ n, c.descriptor.signature = Signature.generic n
  access : c.descriptor.access? args = some a

section

variable {s : Store} {id : Nat} {c : CallSite} {args : List Value} {a : Access}

/-- **A call site does what the object does itself**, whatever it holds; serving the call changes
nothing but the site. -/
theorem invokeSite_of_accesses (hs : s.Reachable) (hsite : s.sites.get? id = some c)
    (ha : c.Accesses args a) (run : Runner) :
    s.ServedIn ((resolve id args).after s) ∧
      invokeSite id args run s = a.serve ((resolve id args).after s) := by
  obtain ⟨e, he, hc⟩ := ha.chain
  obtain ⟨n, hd⟩ := ha.signature
  have hchain : c.chain.IsDefault e.policy := by
    rw [hc]
    exact Environment.chain_isDefault he
  have hscripts := scripts_after_resolve id args s
  cases hk : c.cached? s args with
  | some k' =>
      obtain ⟨htarget, haccepts⟩ := CallSite.of_cached? hk
      -- the cached candidate was linked for an earlier call of the site
      obtain ⟨b, args₁, s₁, s₂, hprecedes, hl⟩ := hs.sourced id c k' hsite htarget
      obtain ⟨k, _, f?, hk', hchosen, hf, hadapts⟩ := hchain.link_inv hl
      cases hk'
      rw [hadapts.accepts_eq] at haccepts
      obtain ⟨hvalid, hadmits⟩ := Store.admits_of_accepts haccepts
      obtain ⟨hresult, heval⟩ :=
        LinkRequest.eval_of_chosen hchosen hprecedes hvalid hadmits ha.access
      have hresolve : resolve id args s = _ := resolveBy_of_cached hsite hk
      rw [StoreM.after_of_ok hresolve] at hscripts ⊢
      refine ⟨rfl, ?_⟩
      rw [invokeSite_apply, hresolve]
      dsimp only
      rw [hadapts.eval, Candidate.eval_finish_of_generic hd hf,
        Candidate.delivers_of_object hresult]
      exact heval run _ hscripts
  | none =>
      obtain ⟨k, hchosen, hvalid⟩ := LinkRequest.chosen_of_access
        (r := ⟨c.descriptor, args, (c.countInvoke false).isUnstable⟩) ha.access e.policy
        (s.withSite id (c.countInvoke false).countLink)
      have hfits : LinkRequest.Fits _ k := LinkRequest.fits_chosen _ e.policy _ k _ hchosen
      obtain ⟨hresult, heval⟩ :=
        LinkRequest.eval_of_chosen hchosen (.refl _) hvalid hfits.admits_self ha.access
      obtain ⟨i, u, hresolve, hserved, hi⟩ := resolve_of_chosen hchain hd hsite hk hchosen
      rw [StoreM.after_of_ok hresolve] at hscripts ⊢
      refine ⟨hserved, ?_⟩
      rw [invokeSite_apply, hresolve]
      dsimp only
      rw [hi, Candidate.delivers_of_object hresult]
      exact heval run _ hscripts

end

end DynamicLinking
