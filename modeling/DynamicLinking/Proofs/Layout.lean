/-
A candidate for an absent property of a script object rests on the layouts of the whole prototype
chain, each with its number.  A change of the keys or of the prototype of an object counts its
layout up.  So as long as none of the numbers has changed, the chain is the same, and a property
that was absent still is.

The chain is read off the store as far as there are script objects.  This is far enough even if the
prototypes run in a circle: a way up that is longer meets an object again, and what comes after it
was met before.

Main definitions:

* `Store.ancestor?` — the object so many steps up the prototype chain;
* `Store.Precedes` — **the layouts of one store come before those of another**.

Main results:

* `Store.exists_mem_protoChain` — the chain that is read off the store has every ancestor;
* `Store.Evolves.precedes` — layouts are only ever counted up;
* `Store.hasProperty_eq_false_of_unthrown` — **an absent property stays absent until a layout is
  replaced**.
-/

import DynamicLinking.Proofs.CallSites
import Mathlib.Combinatorics.Pigeonhole

set_option autoImplicit false

namespace DynamicLinking

namespace Store

/-! ### Ancestors -/

/-- The script object `n` steps up the prototype chain. -/
def ancestor? (s : Store) : Nat → Object → Option Object
  | 0, o => if o.isScript then some o else none
  | n + 1, o => if o.isScript then (s.script o.id).prototype?.bind (s.ancestor? n) else none

variable {s t : Store} {o p q : Object}

theorem isScript_of_ancestor? {n : Nat} (h : s.ancestor? n o = some q) : q.isScript = true := by
  induction n generalizing o with
  | zero =>
      simp only [ancestor?, Option.ite_none_right_eq_some] at h
      rw [← Option.some.inj h.2]
      exact h.1
  | succ n ih =>
      simp only [ancestor?, Option.ite_none_right_eq_some] at h
      obtain ⟨p, -, hp⟩ := Option.bind_eq_some_iff.mp h.2
      exact ih hp

theorem ancestor?_add (s : Store) (m n : Nat) (o : Object) :
    s.ancestor? (m + n) o = (s.ancestor? m o).bind (s.ancestor? n) := by
  -- induction on the lower part of the way, which is the one that starts at the object
  induction m generalizing o with
  | zero =>
      cases ho : o.isScript
      · cases n <;> simp [ancestor?, ho]
      · simp [ancestor?, ho]
  | succ m ih =>
      rw [Nat.succ_add_eq_add_succ, Nat.add_succ]
      cases ho : o.isScript
      · simp [ancestor?, ho]
      · simp only [ancestor?, ho, if_true, Option.bind_assoc]
        exact congrArg _ (funext ih)

theorem ancestor?_succ (s : Store) (n : Nat) (o : Object) :
    s.ancestor? (n + 1) o =
      (s.ancestor? n o).bind fun p => (s.script p.id).prototype?.bind (s.ancestor? 0) := by
  rw [ancestor?_add]
  refine Option.bind_congr fun p hp => ?_
  rw [ancestor?, if_pos (isScript_of_ancestor? hp)]

/-- Objects of one identity have ancestors of the same identities. -/
theorem ancestor?_congr (s : Store) (ho : o.isScript = true) (hp : p.isScript = true)
    (h : o.id = p.id) (n : Nat) :
    (s.ancestor? n o).map Object.id = (s.ancestor? n p).map Object.id := by
  cases n with
  | zero => simp [ancestor?, ho, hp, h]
  | succ n => simp [ancestor?, ho, hp, h]

theorem mem_chainUpTo (s : Store) (n : Nat) (o q : Object) :
    q ∈ s.chainUpTo n o ↔ ∃ k < n, s.ancestor? k o = some q := by
  induction n generalizing o with
  | zero => simp [chainUpTo]
  | succ n ih =>
      rw [Nat.exists_lt_succ_left]
      cases ho : o.isScript
      · simp [chainUpTo, ancestor?, ho]
      · cases hp : (s.script o.id).prototype? with
        | none => simp [chainUpTo, ancestor?, ho, hp, eq_comm]
        | some p => simp [chainUpTo, ancestor?, ho, hp, ih, eq_comm]

/-! ### The length of a chain -/

/-- An object with a prototype has an entry. -/
theorem mem_keys_of_prototype? {id : Nat} (h : (s.script id).prototype? = some p) :
    id ∈ s.scripts.keys := by
  have hfind (bs : List (Nat × ScriptState)) (hb : Table.find id bs ≠ none) :
      id ∈ bs.map Prod.fst := by
    induction bs with
    | nil => simp [Table.find] at hb
    | cons b bs ih =>
        obtain ⟨j, t⟩ := b
        by_cases hj : j = id
        · simp [hj]
        · simp only [Table.find, hj, if_false] at hb
          simpa using .inr (by simpa using ih hb)
  refine hfind s.scripts.bindings fun hn => ?_
  simp [script, Table.get?, hn] at h

/-- More steps up than there are entries lead to an object that was met before. -/
theorem exists_repetition {k : Nat} (hk : s.scripts.size < k) (h : (s.ancestor? k o).isSome) :
    ∃ i j a b, i < j ∧ j ≤ s.scripts.size ∧ s.ancestor? i o = some a ∧
      s.ancestor? j o = some b ∧ a.id = b.id := by
  have hsome (i : Nat) (hi : i < k) :
      ∃ a, s.ancestor? i o = some a ∧ a.id ∈ s.scripts.keys := by
    obtain ⟨q, hq⟩ := Option.isSome_iff_exists.mp h
    obtain ⟨m, rfl⟩ : ∃ m, k = i + 1 + m := ⟨k - (i + 1), by omega⟩
    rw [ancestor?_add] at hq
    obtain ⟨b, hb, -⟩ := Option.bind_eq_some_iff.mp hq
    rw [ancestor?_succ] at hb
    obtain ⟨a, ha, hb⟩ := Option.bind_eq_some_iff.mp hb
    obtain ⟨p, hp, -⟩ := Option.bind_eq_some_iff.mp hb
    exact ⟨a, ha, mem_keys_of_prototype? hp⟩
  -- one step more than there are identities, so that two steps share one
  have hcard : s.scripts.keys.toFinset.card < (Finset.range (s.scripts.size + 1)).card := by
    have := List.toFinset_card_le s.scripts.keys
    simp only [Table.keys, List.length_map] at this
    simp only [Finset.card_range, Table.size, Table.keys]
    omega
  obtain ⟨i, hi, j, hj, hij, heq⟩ := Finset.exists_ne_map_eq_of_card_lt_of_maps_to hcard
    (f := fun i => ((s.ancestor? i o).map Object.id).getD 0) (by
      intro i hi
      have hi : i < s.scripts.size + 1 := by simpa using hi
      obtain ⟨a, ha, hkey⟩ := hsome i (by omega)
      simpa [ha] using hkey)
  have hi : i < s.scripts.size + 1 := by simpa using hi
  have hj : j < s.scripts.size + 1 := by simpa using hj
  obtain ⟨a, ha, -⟩ := hsome i (by omega)
  obtain ⟨b, hb, -⟩ := hsome j (by omega)
  have hid : a.id = b.id := by simpa [ha, hb] using heq
  rcases Nat.lt_or_gt_of_ne hij with hlt | hlt
  · exact ⟨i, j, a, b, hlt, by omega, ha, hb, hid⟩
  · exact ⟨j, i, b, a, hlt, by omega, hb, ha, hid.symm⟩

/-- **The chain that is read off the store is the whole prototype chain**: it has every ancestor,
even if the prototypes run in a circle. -/
theorem exists_mem_protoChain {k : Nat} (h : s.ancestor? k o = some q) :
    ∃ p ∈ s.protoChain o, p.id = q.id := by
  -- strong induction on the length of the way: a way that is too long has a circle to cut out
  induction k using Nat.strong_induction_on generalizing q with
  | _ k ih =>
      rcases Nat.lt_or_ge s.scripts.size k with hk | hk
      · obtain ⟨i, j, a, b, hij, hj, ha, hb, hid⟩ :=
          exists_repetition hk (Option.isSome_iff_exists.mpr ⟨q, h⟩)
        obtain ⟨m, rfl⟩ : ∃ m, k = j + m := ⟨k - j, by omega⟩
        have hq : s.ancestor? m b = some q := by simpa [ancestor?_add, hb] using h
        have hcongr := s.ancestor?_congr (isScript_of_ancestor? ha) (isScript_of_ancestor? hb)
          hid m
        rw [hq] at hcongr
        obtain ⟨q', hq', hqid⟩ := Option.map_eq_some_iff.mp hcongr
        have hshort : s.ancestor? (i + m) o = some q' := by simpa [ancestor?_add, ha] using hq'
        obtain ⟨p, hp, hpid⟩ := ih (i + m) (by omega) hshort
        exact ⟨p, hp, hpid.trans hqid⟩
      · exact ⟨q, (s.mem_chainUpTo _ o q).mpr ⟨k, by omega, h⟩, rfl⟩

/-! ### Numbered layouts -/

/-- The layouts of the second store come after those of the first: numbers only grow, and where the
number is the same, so are the prototype and the keys. -/
structure Precedes (s t : Store) : Prop where
  layout_le : ∀ id, (s.script id).layout ≤ (t.script id).layout
  prototype? : ∀ id, (t.script id).layout = (s.script id).layout →
    (t.script id).prototype? = (s.script id).prototype?
  keys : ∀ id, (t.script id).layout = (s.script id).layout →
    ∀ key, (t.script id).properties.contains key = (s.script id).properties.contains key

theorem Precedes.of_scripts (h : t.scripts = s.scripts) : s.Precedes t := by
  have hscript (id : Nat) : t.script id = s.script id := by simp [script, h]
  exact ⟨fun id => by rw [hscript], fun id _ => by rw [hscript], fun id _ _ => by rw [hscript]⟩

theorem Precedes.refl (s : Store) : s.Precedes s :=
  .of_scripts rfl

theorem Precedes.trans {u : Store} (h : s.Precedes t) (h' : t.Precedes u) : s.Precedes u where
  layout_le id := (h.layout_le id).trans (h'.layout_le id)
  prototype? id hid := by
    have := h.layout_le id
    have := h'.layout_le id
    rw [h'.prototype? id (by omega), h.prototype? id (by omega)]
  keys id hid key := by
    have := h.layout_le id
    have := h'.layout_le id
    rw [h'.keys id (by omega), h.keys id (by omega)]

/-- A change of one object that counts its layout up, or leaves prototype and keys alone. -/
theorem Precedes.setScript {id : Nat} {u : ScriptState}
    (h : u.layout = (s.script id).layout + 1 ∨
      u.layout = (s.script id).layout ∧ u.prototype? = (s.script id).prototype? ∧
        ∀ key, u.properties.contains key = (s.script id).properties.contains key) :
    s.Precedes (s.setScript id u) := by
  refine ⟨fun j => ?_, fun j => ?_, fun j => ?_⟩
  all_goals
    rw [script_setScript]
    split
    · rename_i hj
      subst hj
      rcases h with h | ⟨h, hp, hk⟩
      · omega
      · first
          | omega
          | exact fun _ => hp
          | exact fun _ => hk
    · first
        | exact le_rfl
        | exact fun _ => rfl
        | exact fun _ _ => rfl

theorem contains_insert_of_contains {α : Type} {t : Table String α} {key : String}
    (h : t.contains key = true) (a : α) (key' : String) :
    (t.insert key a).contains key' = t.contains key' := by
  simp only [Table.contains, Table.get?_insert] at h ⊢
  split
  · rename_i hk
    subst hk
    simp [h]
  · rfl

/-- Every step counts the layouts that it changes up. -/
theorem precedes_of_step (h : Step s t) : s.Precedes t := by
  cases h with
  | apart h => exact .of_scripts h.1
  | define o key v =>
      unfold defineProperty
      dsimp only
      split
      · rename_i hkey
        exact .setScript (.inr ⟨rfl, rfl, contains_insert_of_contains hkey v⟩)
      · split
        · exact .setScript (.inl rfl)
        · exact .refl s
  | setPrototype o p? =>
      unfold setPrototype
      dsimp only
      split
      · exact .refl s
      · exact .setScript (.inl rfl)
  | preventExtensions o => exact .setScript (.inl rfl)
  | create id p => exact .setScript (.inl rfl)
  | addSite d chain h => exact .of_scripts rfl
  | serve id args => exact .of_scripts (scripts_after_resolve id args s)

theorem Evolves.precedes (h : s.Evolves t) : s.Precedes t := by
  induction h with
  | refl => exact .refl s
  | tail _ hstep ih => exact ih.trans (precedes_of_step hstep)

/-! ### What a layout promises -/

/-- The layout of an ancestor was not replaced if no switch of the chain was thrown. -/
theorem layout_eq_of_unthrown (hthrown : (s.layoutPoints o).any t.isThrown = false) {n : Nat}
    (h : s.ancestor? n o = some q) : (t.script q.id).layout = (s.script q.id).layout := by
  obtain ⟨p, hp, hid⟩ := exists_mem_protoChain h
  have hpoint : SwitchPoint.layout p.id (s.script p.id).layout ∈ s.layoutPoints o :=
    List.mem_map_of_mem hp
  have := List.any_eq_false.mp hthrown _ hpoint
  rw [← hid]
  simpa [isThrown] using this

/-- As long as no layout of its prototype chain was replaced, an object has the same ancestors. -/
theorem ancestor?_eq_of_unthrown (h : s.Precedes t)
    (hthrown : (s.layoutPoints o).any t.isThrown = false) (n : Nat) :
    t.ancestor? n o = s.ancestor? n o := by
  induction n with
  | zero => rfl
  | succ n ih =>
      rw [ancestor?_succ, ancestor?_succ, ih]
      refine Option.bind_congr fun p hp => ?_
      rw [h.prototype? p.id (layout_eq_of_unthrown hthrown hp)]
      rfl

/-- **An absent property stays absent** until a layout of the prototype chain is replaced. -/
theorem hasProperty_eq_false_of_unthrown (h : s.Precedes t)
    (hthrown : (s.layoutPoints o).any t.isThrown = false) {key : String}
    (habsent : s.hasProperty o key = false) : t.hasProperty o key = false := by
  rw [hasProperty, List.any_eq_false]
  -- an ancestor that has the property now was an ancestor that had it then
  intro q hq hown
  obtain ⟨n, -, hn⟩ := (t.mem_chainUpTo _ o q).mp hq
  rw [ancestor?_eq_of_unthrown h hthrown] at hn
  obtain ⟨p, hp, hid⟩ := exists_mem_protoChain hn
  have hkeys := h.keys q.id (layout_eq_of_unthrown hthrown hn) key
  have hp' : s.hasOwnProperty p key = true := by
    simp only [hasOwnProperty, ownProperty?, Table.contains] at hkeys hown ⊢
    rw [hid, ← hkeys]
    exact hown
  exact List.any_eq_false.mp habsent p hp hp'

/-- Reading an absent property gives `undefined`. -/
theorem getProperty_of_absent {key : String} (h : s.hasProperty o key = false) :
    s.getProperty o key = .undefined := by
  have hnone : ((s.protoChain o).findSome? fun p => s.ownProperty? p key) = none := by
    rw [List.findSome?_eq_none_iff]
    intro p hp
    have := List.any_eq_false.mp h p hp
    simpa [hasOwnProperty] using this
  simp [getProperty, hnone]

end Store

end DynamicLinking
