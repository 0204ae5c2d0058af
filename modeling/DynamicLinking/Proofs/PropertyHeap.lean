/-
What call sites do to script objects is described without call sites.  A heap tells the own
properties of every object, its prototype and whether it takes new properties.  A read finds the
nearest own property on the prototype chain; a write changes one own property of one object, unless
the object would have to take a new property that it does not take.

Any sequence of reads and writes through call sites has the results that the heap gives, and leaves
the contents that the heap is left with.  The invariant is that of the caches: what a site holds was
linked for it, under layouts that come before the present ones.

Main definitions:

* `Heap`, `Heap.Reads`, `Heap.write` — **the reference**, with its reads and writes;
* `Heap.Step`, `Heap.Run` — one access and a sequence of them, with their answers;
* `Store.heap` — the heap of the script objects of a store;
* `serveCalls` — calls of sites, one after another.

Main results:

* `Heap.Run.unique` — the accesses determine the answers and the heap that is left;
* `Store.reads_getProperty`, `Store.step_serve` — a script object does what the heap does;
* `run_serveCalls` — **so do calls of sites**, one after another;
* `serveCalls_refine` — the results and the final contents are those of the reference.
-/

import DynamicLinking.Proofs.PrototypeChains
import DynamicLinking.Proofs.ScriptAccess
import Mathlib.Data.List.Forall2

set_option autoImplicit false

namespace DynamicLinking

/-! ### The reference -/

/-- A plain prototype store: the own properties of every object, its prototype, and whether it takes
new properties. -/
structure Heap where
  own : (id : Nat) → (key : String) → Option Value
  prototype? : (id : Nat) → Option Object
  isExtensible : (id : Nat) → Bool

namespace Heap

/-- The object `n` steps up the prototype chain. -/
def ancestor? (h : Heap) : Nat → Object → Option Object
  | 0, o => if o.isScript then some o else none
  | n + 1, o => if o.isScript then (h.prototype? o.id).bind (h.ancestor? n) else none

/-- A read gives the own property of the nearest object on the prototype chain that has one, and
`undefined` if none has. -/
inductive Reads (h : Heap) (o : Object) (key : String) : Value → Prop where
  | found {n : Nat} {q : Object} {v : Value} (hq : h.ancestor? n o = some q)
      (hv : h.own q.id key = some v)
      (hnearest : ∀ m < n, ∀ x, h.ancestor? m o = some x → h.own x.id key = none) :
      Reads h o key v
  | absent (hnone : ∀ n x, h.ancestor? n o = some x → h.own x.id key = none) :
      Reads h o key .undefined

/-- The heap with one own property written. -/
def write (h : Heap) (id : Nat) (key : String) (v : Value) : Heap :=
  { h with own := fun i k => if i = id ∧ k = key then some v else h.own i k }

/-- The object takes a write: the property is there already, or it takes new ones. -/
def Admits (h : Heap) (o : Object) (key : String) : Prop :=
  (h.own o.id key).isSome = true ∨ h.isExtensible o.id = true

/-- One access to the heap, with its answer and with the heap that it leaves. -/
inductive Step (h : Heap) : Access → Except ScriptError Value → Heap → Prop where
  | read {o : Object} {key : String} {v : Value} (hv : h.Reads o key v) :
      Step h (.read o key) (.ok v) h
  | written {o : Object} {key : String} (v : Value) (isStrict : Bool) (hadmits : h.Admits o key) :
      Step h (.write o key v isStrict) (.ok .undefined) (h.write o.id key v)
  /-- Nothing is written, and nobody is told. -/
  | dropped {o : Object} {key : String} (v : Value) (hadmits : ¬ h.Admits o key) :
      Step h (.write o key v false) (.ok .undefined) h
  /-- Nothing is written, and the write fails. -/
  | refused {o : Object} {key : String} (v : Value) (hadmits : ¬ h.Admits o key) :
      Step h (.write o key v true) (.error (.notExtensible key)) h

/-- Accesses one after another, with their answers and with the heap that they leave. -/
inductive Run : Heap → List Access → List (Except ScriptError Value) → Heap → Prop where
  | nil (h : Heap) : Run h [] [] h
  | cons {h h' h'' : Heap} {a : Access} {x : Except ScriptError Value} {as : List Access}
      {xs : List (Except ScriptError Value)} (hstep : h.Step a x h') (hrun : Run h' as xs h'') :
      Run h (a :: as) (x :: xs) h''

variable {h h₁ h₂ : Heap} {o : Object} {key : String} {a : Access}

/-- A read gives one value. -/
theorem Reads.unique {v w : Value} (hv : h.Reads o key v) (hw : h.Reads o key w) : v = w := by
  cases hv with
  | @found n q v hq hv hnearest =>
      cases hw with
      | @found m x w hx hw hnearest' =>
          -- neither of the two objects is nearer than the other one
          obtain hlt | rfl | hlt := Nat.lt_trichotomy n m
          · rw [hnearest' n hlt q hq] at hv
            cases hv
          · rw [hq] at hx
            cases hx
            exact Option.some.inj (hv.symm.trans hw)
          · rw [hnearest m hlt x hx] at hw
            cases hw
      | absent hnone =>
          rw [hnone n q hq] at hv
          cases hv
  | absent hnone =>
      cases hw with
      | @found m x w hx hw _ =>
          rw [hnone m x hx] at hw
          cases hw
      | absent _ => rfl

/-- An access has one answer and leaves one heap. -/
theorem Step.unique {x₁ x₂ : Except ScriptError Value} (hs₁ : h.Step a x₁ h₁)
    (hs₂ : h.Step a x₂ h₂) : x₁ = x₂ ∧ h₁ = h₂ := by
  cases hs₁ with
  | read hv =>
      cases hs₂ with
      | read hw => exact ⟨congrArg _ (hv.unique hw), rfl⟩
  | written v isStrict hadmits =>
      cases hs₂ with
      | written _ _ _ => exact ⟨rfl, rfl⟩
      | dropped _ hnot => exact (hnot hadmits).elim
      | refused _ hnot => exact (hnot hadmits).elim
  | dropped v hnot =>
      cases hs₂ with
      | written _ _ hadmits => exact (hnot hadmits).elim
      | dropped _ _ => exact ⟨rfl, rfl⟩
  | refused v hnot =>
      cases hs₂ with
      | written _ _ hadmits => exact (hnot hadmits).elim
      | refused _ _ => exact ⟨rfl, rfl⟩

/-- **The accesses determine the answers and the heap that is left.** -/
theorem Run.unique {as : List Access} {xs₁ xs₂ : List (Except ScriptError Value)}
    (hr₁ : h.Run as xs₁ h₁) (hr₂ : h.Run as xs₂ h₂) : xs₁ = xs₂ ∧ h₁ = h₂ := by
  induction hr₁ generalizing xs₂ h₂ with
  | nil =>
      cases hr₂
      exact ⟨rfl, rfl⟩
  | cons hstep _ ih =>
      cases hr₂ with
      | cons hstep' hrun' =>
          obtain ⟨rfl, rfl⟩ := hstep.unique hstep'
          obtain ⟨rfl, rfl⟩ := ih hrun'
          exact ⟨rfl, rfl⟩

/-- A write that fails fails with an error of the kind `type`. -/
theorem Step.kind_of_error {e : ScriptError} {h' : Heap} (hstep : h.Step a (.error e) h') :
    e.kind = .type := by
  cases hstep
  rfl

theorem Run.kind_of_error {as : List Access} {xs : List (Except ScriptError Value)} {h' : Heap}
    (hrun : h.Run as xs h') {e : ScriptError} (he : .error e ∈ xs) : e.kind = .type := by
  induction hrun with
  | nil => cases he
  | cons hstep _ ih =>
      rcases List.mem_cons.mp he with rfl | he
      · exact hstep.kind_of_error
      · exact ih he

end Heap

/-! ### Script objects -/

namespace Store

variable {s t : Store}

/-- The heap of the script objects of a store. -/
def heap (s : Store) : Heap where
  own id key := (s.script id).properties.get? key
  prototype? id := (s.script id).prototype?
  isExtensible id := (s.script id).isExtensible

theorem heap_congr (h : t.scripts = s.scripts) : t.heap = s.heap := by
  have hscript (id : Nat) : t.script id = s.script id := by simp [script, h]
  simp only [heap, hscript]

theorem ancestor?_heap (s : Store) (n : Nat) (o : Object) :
    s.heap.ancestor? n o = s.ancestor? n o := by
  induction n generalizing o with
  | zero => rfl
  | succ n ih =>
      simp only [Heap.ancestor?, ancestor?]
      split
      · exact congrArg _ (funext ih)
      · rfl

/-- **A script object reads what the heap gives.** -/
theorem reads_getProperty (s : Store) (o : Object) (key : String) :
    s.heap.Reads o key (s.getProperty o key) := by
  unfold getProperty
  cases hfound : (s.protoChain o).findSome? fun p => s.ownProperty? p key with
  | some v =>
      obtain ⟨before, q, after, hchain, hv, hbefore⟩ := List.findSome?_eq_some_iff.mp hfound
      -- the place of the object in the list is the number of steps up to it
      have hplace (m : Nat) (hm : m ≤ before.length) :
          s.ancestor? m o = (before ++ q :: after)[m]? := by
        have hlength := congrArg List.length hchain
        have hget := s.getElem?_chainUpTo (s.scripts.size + 1) o m
        rw [← protoChain, hchain] at hget
        rw [hget]
        split
        · rfl
        · rename_i hlong
          have hlt : m < (before ++ q :: after).length := by simp; omega
          rw [if_neg hlong, List.getElem?_eq_getElem hlt] at hget
          cases hget
      refine .found (n := before.length) (q := q) ?_ hv fun m hm x hx => ?_
      · rw [ancestor?_heap, hplace _ le_rfl]
        simp
      · rw [ancestor?_heap, hplace m hm.le, List.getElem?_append_left hm] at hx
        exact hbefore x (List.mem_of_getElem? hx)
  | none =>
      refine .absent fun n x hx => ?_
      rw [ancestor?_heap] at hx
      obtain ⟨p, hp, hid⟩ := exists_mem_protoChain hx
      have hnone : s.ownProperty? p key = none := List.findSome?_eq_none_iff.mp hfound p hp
      rw [ownProperty?, hid] at hnone
      exact hnone

/-- Replacing the properties of an object by those with one of them written. -/
theorem heap_setScript {o : Object} {u : ScriptState} {key : String} {v : Value}
    (hown : u.properties = (s.script o.id).properties.insert key v)
    (hprototype : u.prototype? = (s.script o.id).prototype?)
    (hextensible : u.isExtensible = (s.script o.id).isExtensible) :
    (s.setScript o.id u).heap = s.heap.write o.id key v := by
  have hscript (id : Nat) := s.script_setScript o.id id u
  unfold heap Heap.write
  congr 1
  · funext id k
    rw [hscript]
    by_cases hid : o.id = id
    · subst hid
      simp [hown, eq_comm]
    · simp [hid, Ne.symm hid]
  · funext id
    rw [hscript]
    split
    · rename_i hid
      rw [hprototype, hid]
    · rfl
  · funext id
    rw [hscript]
    split
    · rename_i hid
      rw [hextensible, hid]
    · rfl

theorem defineProperty_of_admits {o : Object} {key : String} (h : s.heap.Admits o key)
    (v : Value) :
    (s.defineProperty o key v).1.heap = s.heap.write o.id key v ∧
      (s.defineProperty o key v).2 = true := by
  unfold defineProperty
  dsimp only
  split
  · exact ⟨heap_setScript rfl rfl rfl, rfl⟩
  · rename_i hnone
    rcases h with hown | hextensible
    · exact (hnone hown).elim
    · have hextensible : (s.script o.id).isExtensible = true := hextensible
      rw [if_pos hextensible]
      exact ⟨heap_setScript rfl rfl rfl, rfl⟩

theorem defineProperty_of_not_admits {o : Object} {key : String} (h : ¬ s.heap.Admits o key)
    (v : Value) : s.defineProperty o key v = (s, false) := by
  have hown : ¬ (s.script o.id).properties.contains key = true := fun hown => h (.inl hown)
  have hclosed : ¬ (s.script o.id).isExtensible = true := fun hextensible => h (.inr hextensible)
  unfold defineProperty
  dsimp only
  rw [if_neg hown, if_neg hclosed]

end Store

/-! ### Accesses -/

/-- The result of a computation. -/
def StoreM.result {α : Type} (m : StoreM α) (s : Store) : Except Fault α :=
  match m s with
  | .ok a _ => .ok a
  | .error f _ => .error f

/-- An answer of the heap as a result. -/
def answered (x : Except ScriptError Value) : Except Fault Value :=
  x.mapError Fault.error

/-- A write fails if it is strict and could not be made. -/
theorem Access.serve_write (o : Object) (key : String) (v : Value) (isStrict : Bool) (s : Store) :
    (Access.write o key v isStrict).serve s =
      if !(s.defineProperty o key v).2 && isStrict then
        .error (.error (.notExtensible key)) (s.defineProperty o key v).1
      else .ok .undefined (s.defineProperty o key v).1 := by
  have hput := putProperty_apply o key v isStrict s
  by_cases hrefused : (!(s.defineProperty o key v).2 && isStrict) = true
  · rw [if_pos hrefused] at hput ⊢
    exact StoreM.bind_of_error hput _
  · rw [if_neg hrefused] at hput ⊢
    exact StoreM.bind_of_ok hput _

/-- **A script object does what the heap does.** -/
theorem Store.step_serve (s : Store) (a : Access) :
    ∃ x, s.heap.Step a x (a.serve.after s).heap ∧ a.serve.result s = answered x := by
  cases a with
  | read o key => exact ⟨_, .read (s.reads_getProperty o key), rfl⟩
  | write o key v isStrict =>
      have hserve := Access.serve_write o key v isStrict s
      by_cases hadmits : s.heap.Admits o key
      · obtain ⟨hheap, hdone⟩ := defineProperty_of_admits hadmits v
        rw [hdone] at hserve
        refine ⟨.ok .undefined, ?_, by rw [StoreM.result, hserve]; rfl⟩
        rw [StoreM.after_of_ok hserve, hheap]
        exact .written v isStrict hadmits
      · rw [defineProperty_of_not_admits hadmits] at hserve
        cases isStrict with
        | false =>
            refine ⟨.ok .undefined, ?_, by rw [StoreM.result, hserve]; rfl⟩
            rw [StoreM.after_of_ok hserve]
            exact .dropped v hadmits
        | true =>
            refine ⟨.error (.notExtensible key), ?_, by rw [StoreM.result, hserve]; rfl⟩
            rw [StoreM.after_of_error hserve]
            exact .refused v hadmits

theorem Access.takes_serve (a : Access) : Takes Store.Step a.serve := by
  cases a with
  | read o key => exact takes_getProperty o key
  | write o key v isStrict =>
      exact takes_bind (takes_putProperty o key v isStrict) fun _ => takes_pure _

/-- An access leaves call sites alone, and everything else that is no script object. -/
theorem Access.after_serve (a : Access) (s : Store) :
    a.serve.after s = { s with scripts := (a.serve.after s).scripts } := by
  have hsetScript (id : Nat) (u : ScriptState) :
      s.setScript id u = { s with scripts := (s.setScript id u).scripts } := rfl
  have hdefine (o : Object) (key : String) (v : Value) :
      (s.defineProperty o key v).1 =
        { s with scripts := (s.defineProperty o key v).1.scripts } := by
    unfold Store.defineProperty
    dsimp only
    split
    · exact hsetScript _ _
    · split
      · exact hsetScript _ _
      · rfl
  cases a with
  | read o key => rfl
  | write o key v isStrict =>
      have hafter : (Access.write o key v isStrict).serve.after s =
          (s.defineProperty o key v).1 := by
        by_cases hrefused : (!(s.defineProperty o key v).2 && isStrict) = true
        · exact StoreM.after_of_error (by rw [serve_write, if_pos hrefused])
        · exact StoreM.after_of_ok (by rw [serve_write, if_neg hrefused])
      rw [hafter]
      exact hdefine o key v

/-! ### Runs of call sites -/

/-- The stores differ at most in script objects, in call sites and in the next identity. -/
def Store.AgreesOutside (s t : Store) : Prop :=
  t = { s with scripts := t.scripts, sites := t.sites, nextId := t.nextId }

theorem Store.AgreesOutside.trans {s t u : Store} (h : s.AgreesOutside t)
    (h' : t.AgreesOutside u) : s.AgreesOutside u := by
  unfold AgreesOutside at h h' ⊢
  rw [h', h]

theorem Store.ServedIn.agreesOutside {s t : Store} (h : s.ServedIn t) : s.AgreesOutside t := by
  unfold ServedIn at h
  unfold AgreesOutside
  rw [h]

theorem Access.agreesOutside_serve (a : Access) (s : Store) :
    s.AgreesOutside (a.serve.after s) := by
  unfold Store.AgreesOutside
  rw [a.after_serve s]

/-- A call of a site: which site, and the arguments. -/
abbrev SiteCall := Nat × List Value

/-- The results of calls of sites, one after another, and the store that they leave.  A call that
fails does not keep the next one from being made. -/
def serveCalls (run : Runner) : List SiteCall → Store → List (Except Fault Value) × Store
  | [], s => ([], s)
  | call :: calls, s =>
      let m : StoreM Value := invokeSite call.1 call.2 run
      let rest := serveCalls run calls (m.after s)
      (m.result s :: rest.1, rest.2)

namespace Store

variable {s t : Store} {call : SiteCall} {a : Access}

/-- The call is one of a site of a default environment whose types are all `object`, and asks for
an access to a script object. -/
def Accesses (s : Store) (call : SiteCall) (a : Access) : Prop :=
  ∃ c, s.sites.get? call.1 = some c ∧ c.Accesses call.2 a

theorem Accesses.of_sites (h : s.Accesses call a) (hsites : t.sites = s.sites) :
    t.Accesses call a := by
  obtain ⟨c, hc, ha⟩ := h
  exact ⟨c, by rw [hsites]; exact hc, ha⟩

/-- Sites keep their descriptors and their chains when they are called. -/
theorem site_after_resolve {c : CallSite} {i : Nat} (hc : s.sites.get? i = some c) (id : Nat)
    (args : List Value) :
    ∃ c', ((resolve id args).after s).sites.get? i = some c' ∧ c'.descriptor = c.descriptor ∧
      c'.chain = c.chain := by
  rcases eq_or_ne id i with rfl | hne
  · obtain ⟨c', hc', hdescriptor, hchain, -⟩ := site_after_resolveBy (link_leavesSite id) hc args
    exact ⟨c', hc', hdescriptor, hchain⟩
  · have hother : ((resolveBy LinkerChain.link id args).after s).sites.get? i = s.sites.get? i :=
      get?_after_resolveBy_of_ne hne (link_leavesSite id) (link_leavesSite i)
    exact ⟨c, by rw [resolve_eq, hother]; exact hc, rfl, rfl⟩

theorem Accesses.resolve (h : s.Accesses call a) (id : Nat) (args : List Value) :
    ((resolve id args).after s).Accesses call a := by
  obtain ⟨c, hc, ha⟩ := h
  obtain ⟨c', hc', hdescriptor, hchain⟩ := site_after_resolve hc id args
  refine ⟨c', hc', ?_, ?_, ?_⟩
  · rw [hchain]
    exact ha.chain
  · rw [hdescriptor]
    exact ha.signature
  · rw [hdescriptor]
    exact ha.access

/-- **One call of a site does what the heap does**, whatever the site holds. -/
theorem step_invokeSite (hs : s.Reachable) (h : s.Accesses call a) (run : Runner) :
    ∃ x, s.heap.Step a x (StoreM.after (invokeSite call.1 call.2 run) s).heap ∧
      StoreM.result (invokeSite call.1 call.2 run) s = answered x ∧
      s.AgreesOutside (StoreM.after (invokeSite call.1 call.2 run) s) ∧
      (StoreM.after (invokeSite call.1 call.2 run) s).Reachable ∧
      ∀ call' a', s.Accesses call' a' →
        (StoreM.after (invokeSite call.1 call.2 run) s).Accesses call' a' := by
  obtain ⟨c, hc, ha⟩ := h
  obtain ⟨hserved, hinvoke⟩ := invokeSite_of_accesses hs hc ha run
  obtain ⟨t, ht⟩ : ∃ t, t = (DynamicLinking.resolve call.1 call.2).after s := ⟨_, rfl⟩
  rw [← ht] at hserved hinvoke
  have hafter : StoreM.after (invokeSite call.1 call.2 run) s = a.serve.after t := by
    rw [StoreM.after, hinvoke]
    rfl
  have hheap : t.heap = s.heap := heap_congr (by rw [ht]; exact scripts_after_resolve _ _ _)
  have hreachable : t.Reachable := by
    rw [ht]
    exact hs.evolves (.single (.serve s call.1 call.2))
  obtain ⟨x, hstep, hresult⟩ := t.step_serve a
  refine ⟨x, ?_, ?_, ?_, ?_, fun call' a' ha' => ?_⟩
  · rw [hafter, ← hheap]
    exact hstep
  · rw [StoreM.result, hinvoke]
    exact hresult
  · rw [hafter]
    exact hserved.agreesOutside.trans (a.agreesOutside_serve t)
  · rw [hafter]
    exact hreachable.evolves (a.takes_serve t)
  · rw [hafter]
    refine Accesses.of_sites ?_ (by rw [a.after_serve t])
    rw [ht]
    exact ha'.resolve call.1 call.2

end Store

/-- **Calls of sites do what the heap does**, one after another. -/
theorem run_serveCalls (run : Runner) {calls : List SiteCall} {as : List Access} {s : Store}
    (hs : s.Reachable) (h : List.Forall₂ s.Accesses calls as) :
    ∃ xs, s.heap.Run as xs (serveCalls run calls s).2.heap ∧
      (serveCalls run calls s).1 = xs.map answered ∧
      s.AgreesOutside (serveCalls run calls s).2 := by
  -- induction on the calls; what the later sites are is not changed by the earlier calls
  induction calls generalizing as s with
  | nil =>
      cases h
      exact ⟨[], .nil _, rfl, rfl⟩
  | cons call calls ih =>
      cases h with
      | cons hcall hrest =>
          obtain ⟨x, hstep, hresult, hagrees, hreachable, hkeeps⟩ :=
            Store.step_invokeSite hs hcall run
          obtain ⟨xs, hrun, hresults, hagrees'⟩ :=
            ih hreachable (hrest.imp fun call' a' => hkeeps call' a')
          refine ⟨x :: xs, .cons hstep hrun, ?_, hagrees.trans hagrees'⟩
          rw [serveCalls, List.map_cons, hresult, hresults]

/-- **Call sites over script objects implement the plain prototype store.**  Any sequence of reads
and writes through sites of default environments has exactly the results and the final contents that
the heap of the script objects gives, whatever the sites hold at the start; what fails fails with an
error of the kind `type`, and nothing but script objects and sites is changed. -/
theorem serveCalls_refine (run : Runner) {calls : List SiteCall} {as : List Access} {s : Store}
    (hs : s.Reachable) (h : List.Forall₂ s.Accesses calls as) :
    (∃ xs h', s.heap.Run as xs h') ∧
    ∀ xs h', s.heap.Run as xs h' →
      (serveCalls run calls s).1 = xs.map answered ∧ (serveCalls run calls s).2.heap = h' ∧
      s.AgreesOutside (serveCalls run calls s).2 ∧ ∀ e, .error e ∈ xs → e.kind = .type := by
  obtain ⟨xs, hrun, hresults, hagrees⟩ := run_serveCalls run hs h
  refine ⟨⟨xs, _, hrun⟩, fun xs' h' hrun' => ?_⟩
  obtain ⟨rfl, rfl⟩ := hrun.unique hrun'
  exact ⟨hresults, rfl, hagrees, fun e he => hrun.kind_of_error he⟩

namespace AbsentRead

/-- A script object. -/
def object : Value := .object (.ordinary 0)

/-- A site that reads a property. -/
def reader : CallSite :=
  ({} : Environment).newSite ⟨.getProperty, some "x", Signature.generic 1, ⟨0⟩⟩

/-- A strict site that writes the property that an argument names. -/
def writer : CallSite :=
  ({} : Environment).newSite ⟨.setElement, none, Signature.generic 3, ⟨1⟩⟩

/-- A store with the two sites, in which the reader has cached that the property is absent. -/
def store : Store :=
  (resolve 0 [object]).after ((({} : Store).withSite 0 reader).withSite 1 writer)

/-- The property is read, written and read again. -/
def calls : List SiteCall :=
  [(0, [object]), (1, [object, .string "x", .null]), (0, [object])]

def accesses : List Access :=
  [.read (.ordinary 0) "x", .write (.ordinary 0) "x" .null true, .read (.ordinary 0) "x"]

theorem reachable_store : store.Reachable := by
  have hsites := ((Store.untouched_of_sites (s := {}) rfl).withSite 0 reader.descriptor
    reader.chain).withSite 1 writer.descriptor writer.chain
  exact hsites.reachable.evolves (.single (.serve _ 0 [object]))

theorem accesses_store : List.Forall₂ store.Accesses calls accesses := by
  have hreader : store.Accesses (0, [object]) (.read (.ordinary 0) "x") :=
    Store.Accesses.resolve ⟨reader, rfl, ⟨{}, rfl, rfl⟩, ⟨1, rfl⟩, rfl⟩ 0 [object]
  have hwriter : store.Accesses (1, [object, .string "x", .null])
      (.write (.ordinary 0) "x" .null true) :=
    Store.Accesses.resolve ⟨writer, rfl, ⟨{}, rfl, rfl⟩, ⟨3, rfl⟩, rfl⟩ 0 [object]
  exact .cons hreader (.cons hwriter (.cons hreader .nil))

/-- In the heap the second read finds what was written. -/
theorem run_heap : store.heap.Run accesses [.ok .undefined, .ok .undefined, .ok .null]
    (store.heap.write 0 "x" .null) := by
  have hscripts : store.scripts = {} := scripts_after_resolve 0 [object] _
  have hnone (id : Nat) (key : String) : store.heap.own id key = none := by
    simp [Store.heap, Store.script, hscripts]
  have hopen : store.heap.isExtensible 0 = true := by
    simp [Store.heap, Store.script, hscripts]
  refine .cons (.read (.absent fun n x _ => hnone x.id "x")) ?_
  refine .cons (.written .null true (.inr hopen)) ?_
  refine .cons (.read (.found (n := 0) (q := .ordinary 0) rfl ?_ fun m hm => ?_)) (.nil _)
  · simp [Heap.write, Object.id]
  · omega

/-- So does the site, although it had cached that the property is absent. -/
theorem serveCalls_absentRead :
    store.Reachable ∧ List.Forall₂ store.Accesses calls accesses ∧
    (serveCalls (fun _ _ _ => pure .undefined) calls store).1 =
      [.ok .undefined, .ok .undefined, .ok .null] := by
  refine ⟨reachable_store, accesses_store, ?_⟩
  exact ((serveCalls_refine _ reachable_store accesses_store).2 _ _ run_heap).1

end AbsentRead

end DynamicLinking
