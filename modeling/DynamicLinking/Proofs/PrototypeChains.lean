/-
A heap of script objects grows out of nothing: objects are made with a prototype that was made
before them, and a prototype is only replaced by one that does not have the object on its own chain.
So no object ever is on its own prototype chain, every chain ends, and the chain that is read off
the store is the sequence of the ancestors.

Main definitions:

* `Store.Acyclic` — no object is on its own prototype chain;
* `Store.HeapStep`, `Store.HeapRun` — **what is done to a heap**: operations on script objects, and
  functions that are made;
* `Store.IsHeap` — the stores that heap steps lead to from one without script objects.

Main results:

* `Store.Acyclic.setScript` — a prototype that does not lead back to the object closes no circle;
* `Store.IsHeap.acyclic` — **no object of a heap is on its own prototype chain**;
* `Store.Acyclic.getElem?_protoChain` — the chain of an object lists its ancestors.
-/

import DynamicLinking.Proofs.HeapOperations
import DynamicLinking.Proofs.Layout

set_option autoImplicit false

namespace DynamicLinking

namespace Store

variable {s t : Store} {o p q : Object} {id : Nat}

/-! ### Ways up -/

/-- The chain up to a length lists the ancestors in order. -/
theorem getElem?_chainUpTo (s : Store) (n : Nat) (o : Object) (i : Nat) :
    (s.chainUpTo n o)[i]? = if i < n then s.ancestor? i o else none := by
  -- induction on the length: the first member is the object, the others are those of its prototype
  induction n generalizing o i with
  | zero => simp [chainUpTo]
  | succ n ih =>
      cases ho : o.isScript with
      | false => cases i <;> simp [chainUpTo, ancestor?, ho]
      | true =>
          cases i with
          | zero => simp [chainUpTo, ancestor?, ho]
          | succ i =>
              cases hp : (s.script o.id).prototype? with
              | none => simp [chainUpTo, ancestor?, ho, hp]
              | some p => simp [chainUpTo, ancestor?, ho, hp, ih]

/-- Only script objects have a way up. -/
theorem isScript_of_ancestor?_isSome {n : Nat} (h : s.ancestor? n o = some q) :
    o.isScript = true := by
  cases n with
  | zero => exact (Option.ite_none_right_eq_some.mp h).1
  | succ n => exact (Option.ite_none_right_eq_some.mp h).1

/-- A way up is the same in two stores in which the objects on it have the same prototypes. -/
theorem ancestor?_eq_of_prototype? {n : Nat}
    (h : ∀ k < n, ∀ x, s.ancestor? k o = some x →
      (t.script x.id).prototype? = (s.script x.id).prototype?) :
    t.ancestor? n o = s.ancestor? n o := by
  induction n with
  | zero => rfl
  | succ n ih =>
      rw [ancestor?_succ, ancestor?_succ, ih fun k hk => h k (by omega)]
      refine Option.bind_congr fun x hx => ?_
      rw [h n (by omega) x hx]
      rfl

/-! ### Chains without circles -/

/-- No object is on its own prototype chain. -/
def Acyclic (s : Store) : Prop :=
  ∀ o n q, s.ancestor? (n + 1) o = some q → q.id ≠ o.id

/-- A store without script objects. -/
theorem acyclic_of_empty (h : s.scripts = {}) : s.Acyclic := by
  intro o n q hq
  have hnone : (s.script o.id).prototype? = none := by simp [script, h]
  simp [ancestor?, hnone] at hq

theorem Acyclic.of_prototype? (h : s.Acyclic)
    (hst : ∀ id, (t.script id).prototype? = (s.script id).prototype?) : t.Acyclic := by
  intro o n q hq
  rw [ancestor?_eq_of_prototype? fun _ _ x _ => hst x.id] at hq
  exact h o n q hq

/-- A way up without circles has no more members than there are entries. -/
theorem Acyclic.ancestor?_eq_none (h : s.Acyclic) {k : Nat} (hk : s.scripts.size < k) :
    s.ancestor? k o = none := by
  by_contra hsome
  obtain ⟨i, j, a, b, hij, -, ha, hb, hid⟩ :=
    exists_repetition hk (Option.isSome_iff_ne_none.mpr hsome)
  obtain ⟨m, rfl⟩ : ∃ m, j = i + (m + 1) := ⟨j - i - 1, by omega⟩
  rw [ancestor?_add, ha] at hb
  exact h a m b hb hid.symm

/-- **The prototype chain of an object lists its ancestors.** -/
theorem Acyclic.getElem?_protoChain (h : s.Acyclic) (o : Object) (i : Nat) :
    (s.protoChain o)[i]? = s.ancestor? i o := by
  rw [protoChain, getElem?_chainUpTo]
  split
  · rfl
  · exact (h.ancestor?_eq_none (by omega)).symm

/-- **A prototype that does not lead back to its object closes no circle.** -/
theorem Acyclic.setScript {u : ScriptState} (h : s.Acyclic)
    (hnot : ∀ p, u.prototype? = some p → ∀ n q, s.ancestor? n p = some q → q.id ≠ id) :
    (s.setScript id u).Acyclic := by
  have hother {j : Nat} (hj : j ≠ id) :
      ((s.setScript id u).script j).prototype? = (s.script j).prototype? := by
    rw [script_setScript, if_neg hj.symm]
  -- ways up that do not come by the object are as before
  have hself {x q : Object} {m : Nat} (hx : x.id = id)
      (hq : (s.setScript id u).ancestor? (m + 1) x = some q) : q.id ≠ id := by
    simp only [ancestor?, script_setScript, hx, if_true, Option.ite_none_right_eq_some] at hq
    obtain ⟨p, hp, hq⟩ := Option.bind_eq_some_iff.mp hq.2
    rw [ancestor?_eq_of_prototype? fun k _ x hx => hother (hnot p hp k x hx)] at hq
    exact hnot p hp m q hq
  intro o n q hq hqo
  by_cases hmeets : ∃ k ≤ n, ∃ x, (s.setScript id u).ancestor? k o = some x ∧ x.id = id
  · -- a circle that comes by the object leads from the object to itself
    obtain ⟨k, hk, x, hx, hxid⟩ := hmeets
    obtain ⟨m, rfl⟩ : ∃ m, n = k + m := ⟨n - k, by omega⟩
    rw [Nat.add_assoc, ancestor?_add, hx] at hq
    have hq : (s.setScript id u).ancestor? (m + 1) x = some q := hq
    have hagain := ancestor?_congr (s.setScript id u) (isScript_of_ancestor? hq)
      (isScript_of_ancestor?_isSome hx) hqo k
    rw [hx] at hagain
    obtain ⟨y, hy, hyid⟩ := Option.map_eq_some_iff.mp hagain
    have hsum : m + k + 1 = m + 1 + k := by omega
    have hround : (s.setScript id u).ancestor? (m + k + 1) x = some y := by
      rw [hsum, ancestor?_add, hq]
      exact hy
    exact hself hxid hround (hyid.trans hxid)
  · -- a circle that does not come by the object was there before
    have hsame : s.ancestor? (n + 1) o = (s.setScript id u).ancestor? (n + 1) o := by
      refine ancestor?_eq_of_prototype? fun k hk x hx => (hother fun hid => ?_).symm
      exact hmeets ⟨k, by omega, x, hx, hid⟩
    exact h o n q (hsame.trans hq) hqo

/-! ### Heaps -/

/-- One step of what is done to a heap. -/
inductive HeapStep : Store → Store → Prop where
  /-- An operation on script objects; a prototype was made before. -/
  | operate (s : Store) (op : HeapOperation)
      (hp : ∀ p, op.prototype? = some p → p.id < s.nextId) : HeapStep s (s.operate op)
  /-- A function is made; it has no prototype. -/
  | createFunction (s : Store) : HeapStep s (freshId.after s)

/-- A run of heap steps. -/
abbrev HeapRun : Store → Store → Prop :=
  Relation.ReflTransGen HeapStep

/-- A run of heap steps that started without script objects ends in the store. -/
def IsHeap (s : Store) : Prop :=
  ∃ s₀ : Store, s₀.scripts = {} ∧ s₀.HeapRun s

theorem IsHeap.run (hs : s.IsHeap) (h : s.HeapRun t) : t.IsHeap := by
  obtain ⟨s₀, h₀, hs⟩ := hs
  exact ⟨s₀, h₀, hs.trans h⟩

theorem prototype?_defineProperty (s : Store) (o : Object) (key : String) (v : Value) (id : Nat) :
    ((s.defineProperty o key v).1.script id).prototype? = (s.script id).prototype? := by
  unfold defineProperty
  dsimp only
  split
  · rw [script_setScript]
    split
    · rename_i hid
      rw [hid]
    · rfl
  · split
    · rw [script_setScript]
      split
      · rename_i hid
        rw [hid]
      · rfl
    · rfl

/-- Heap steps are steps of the store. -/
theorem HeapStep.evolves (h : HeapStep s t) : s.Evolves t := by
  cases h with
  | operate op hp => exact s.evolves_operate op
  | createFunction => exact takes_freshId s

theorem HeapRun.evolves (h : s.HeapRun t) : s.Evolves t := by
  induction h with
  | refl => exact .refl
  | tail _ hstep ih => exact ih.trans hstep.evolves

/-- What holds of every heap: no object is on its own chain, and every prototype was made before the
next object will be. -/
structure Grown (s : Store) : Prop where
  acyclic : s.Acyclic
  made : ∀ id p, (s.script id).prototype? = some p → p.id < s.nextId

/-- A step that leaves the prototypes alone. -/
theorem Grown.of_prototype? (h : s.Grown)
    (hst : ∀ id, (t.script id).prototype? = (s.script id).prototype?)
    (hnext : s.nextId ≤ t.nextId) : t.Grown where
  acyclic := h.acyclic.of_prototype? hst
  made id p hp := by
    rw [hst] at hp
    exact (h.made id p hp).trans_le hnext

/-- A step that gives one object another prototype. -/
theorem Grown.setScript {u : ScriptState} (h : s.Grown)
    (hmade : ∀ p, u.prototype? = some p → p.id < s.nextId)
    (hnot : ∀ p, u.prototype? = some p → ∀ n q, s.ancestor? n p = some q → q.id ≠ id) :
    (s.setScript id u).Grown := by
  refine ⟨h.acyclic.setScript hnot, fun j p hp => ?_⟩
  rw [script_setScript] at hp
  split at hp
  · exact hmade p hp
  · exact h.made j p hp

/-- All ancestors of an object that was made were made. -/
theorem Grown.lt_of_ancestor? (h : s.Grown) (hp : p.id < s.nextId) {n : Nat}
    (hq : s.ancestor? n p = some q) : q.id < s.nextId := by
  cases n with
  | zero =>
      simp only [ancestor?, Option.ite_none_right_eq_some] at hq
      rw [← Option.some.inj hq.2]
      exact hp
  | succ n =>
      rw [ancestor?_succ] at hq
      obtain ⟨x, -, hq⟩ := Option.bind_eq_some_iff.mp hq
      obtain ⟨y, hy, hq⟩ := Option.bind_eq_some_iff.mp hq
      simp only [ancestor?, Option.ite_none_right_eq_some] at hq
      rw [← Option.some.inj hq.2]
      exact h.made x.id y hy

theorem Grown.fresh (h : s.Grown) : ({ s with nextId := s.nextId + 1 } : Store).Grown :=
  h.of_prototype? (fun _ => rfl) (Nat.le_succ _)

/-- **An operation keeps the heap free of circles**, if a prototype was made before. -/
theorem Grown.operate (h : s.Grown) (op : HeapOperation)
    (hp : ∀ p, op.prototype? = some p → p.id < s.nextId) : (s.operate op).Grown := by
  have hdefine (o : Object) (key : String) (v : Value) : (s.operate (.define o key v)).Grown :=
    h.of_prototype? (s.prototype?_defineProperty o key v) (s.nextId_defineProperty o key v).ge
  cases op with
  | create p? =>
      cases p? with
      | none => exact h.fresh
      | some p =>
          -- nothing leads to the new object, whose identity was not given to any object yet
          refine h.fresh.setScript (fun x hx => ?_) (fun x hx n q hq => ?_)
          · exact (hp x hx).trans (Nat.lt_succ_self _)
          · have hsame : ({ s with nextId := s.nextId + 1 } : Store).ancestor? n x =
                s.ancestor? n x := ancestor?_eq_of_prototype? fun _ _ _ _ => rfl
            rw [hsame] at hq
            exact (h.lt_of_ancestor? (hp x hx) hq).ne
  | define o key v => exact hdefine o key v
  | put o key v isStrict =>
      rw [operate_put]
      exact hdefine o key v
  | setPrototype o p? =>
      simp only [Store.operate, Store.setPrototype]
      split
      · exact h
      · rename_i hallowed
        -- a prototype whose chain has the object is refused
        refine h.setScript hp fun p hsome n q hq hid => hallowed ?_
        obtain rfl : p? = some p := hsome
        obtain ⟨x, hx, hxid⟩ := exists_mem_protoChain hq
        have hcyclic : (s.protoChain p).any (fun q => q.id == o.id) = true :=
          List.any_eq_true.mpr ⟨x, hx, by simp [hxid, hid]⟩
        simp [hcyclic]
  | preventExtensions o =>
      refine h.of_prototype? (fun id => ?_) le_rfl
      rw [Store.operate, Store.preventExtensions, script_setScript]
      split
      · rename_i hid
        rw [hid]
      · rfl

/-- Every heap step keeps the heap free of circles. -/
theorem HeapStep.grown (h : HeapStep s t) (hs : s.Grown) : t.Grown := by
  cases h with
  | operate op hp => exact hs.operate op hp
  | createFunction => exact hs.fresh

theorem HeapRun.grown (h : s.HeapRun t) (hs : s.Grown) : t.Grown := by
  induction h with
  | refl => exact hs
  | tail _ hstep ih => exact hstep.grown ih

/-- **No object of a heap is on its own prototype chain.** -/
theorem IsHeap.acyclic (h : s.IsHeap) : s.Acyclic := by
  obtain ⟨s₀, h₀, hrun⟩ := h
  have hnone (id : Nat) : (s₀.script id).prototype? = none := by simp [script, h₀]
  have hgrown : s₀.Grown := ⟨acyclic_of_empty h₀, fun id p hp => by simp [hnone] at hp⟩
  exact (hrun.grown hgrown).acyclic

end Store

end DynamicLinking
