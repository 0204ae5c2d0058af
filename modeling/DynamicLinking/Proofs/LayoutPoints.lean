/-
The layout switch points of an object are collected at one moment, one for each object on its
prototype chain, and tell at any later moment whether something on the chain has changed.  Every
change of the keys, of the prototype or of the extensibility of an object throws the switch point of
the layout that it replaces.  Since the chain is walked through the prototypes, a change far up the
chain is seen as well: the first object that has changed was reached through objects that have not.

Main results:

* `Store.Evolves.isExtensible_eq` — an object of the same layout is as extensible as before;
* `Store.Evolves.script_of_unthrown` — **what the unthrown switch points of a chain promise**,
  whatever happens to the store;
* `Store.layoutPoints_sound` — **the switch points of a heap are sound**: as long as none of them is
  thrown, the prototype chain is the same, and so are the keys of all its members.
-/

import DynamicLinking.Proofs.PrototypeChains

set_option autoImplicit false

namespace DynamicLinking

namespace Store

variable {s t : Store} {o q : Object}

/-! ### Extensibility -/

/-- A change of one object that counts its layout up, or leaves its extensibility alone. -/
theorem isExtensible_setScript {id : Nat} {u : ScriptState}
    (h : u.layout = (s.script id).layout + 1 ∨ u.isExtensible = (s.script id).isExtensible)
    {j : Nat} (hl : ((s.setScript id u).script j).layout = (s.script j).layout) :
    ((s.setScript id u).script j).isExtensible = (s.script j).isExtensible := by
  rw [script_setScript] at hl ⊢
  split at hl
  · rename_i hj
    subst hj
    rw [if_pos rfl]
    rcases h with h | h
    · omega
    · exact h
  · rename_i hj
    rw [if_neg hj]

/-- A step that leaves the layout of an object alone leaves its extensibility alone. -/
theorem isExtensible_of_step (h : Step s t) {id : Nat}
    (hl : (t.script id).layout = (s.script id).layout) :
    (t.script id).isExtensible = (s.script id).isExtensible := by
  cases h with
  | apart h => simp [script, h.1]
  | define o key v =>
      unfold defineProperty at hl ⊢
      dsimp only at hl ⊢
      split
      · rename_i hkey
        rw [if_pos hkey] at hl
        refine isExtensible_setScript ?_ hl
        exact .inr rfl
      · rename_i hkey
        rw [if_neg hkey] at hl
        split
        · rename_i hextensible
          rw [if_pos hextensible] at hl
          exact isExtensible_setScript (.inl rfl) hl
        · rfl
  | setPrototype o p? =>
      unfold setPrototype at hl ⊢
      dsimp only at hl ⊢
      split
      · rfl
      · rename_i hallowed
        rw [if_neg hallowed] at hl
        exact isExtensible_setScript (.inl rfl) hl
  | preventExtensions o => exact isExtensible_setScript (.inl rfl) hl
  | create id p => exact isExtensible_setScript (.inl rfl) hl
  | addSite d chain h => rfl
  | serve id args =>
      have hscripts : ((resolve id args).after s).scripts = s.scripts :=
        scripts_after_resolve id args s
      simp [script, hscripts]

/-- **An object of the same layout is as extensible as before.** -/
theorem Evolves.isExtensible_eq (h : s.Evolves t) {id : Nat}
    (hl : (t.script id).layout = (s.script id).layout) :
    (t.script id).isExtensible = (s.script id).isExtensible := by
  -- layouts are only counted up, so the layout was the same at every step of the run
  induction h with
  | refl => rfl
  | @tail u t hrun hstep ih =>
      have hbefore := (Evolves.precedes hrun).layout_le id
      have hafter := (precedes_of_step hstep).layout_le id
      rw [isExtensible_of_step hstep (by omega), ih (by omega)]

/-! ### What switch points promise -/

/-- **What the unthrown switch points of a chain promise**: every ancestor has the same prototype,
the same extensibility and the same keys as before. -/
theorem Evolves.script_of_unthrown (h : s.Evolves t)
    (hthrown : (s.layoutPoints o).any t.isThrown = false) {n : Nat}
    (hq : s.ancestor? n o = some q) :
    (t.script q.id).prototype? = (s.script q.id).prototype? ∧
      (t.script q.id).isExtensible = (s.script q.id).isExtensible ∧
      ∀ key, t.hasOwnProperty q key = s.hasOwnProperty q key := by
  have hlayout := layout_eq_of_unthrown hthrown hq
  exact ⟨h.precedes.prototype? q.id hlayout, h.isExtensible_eq hlayout,
    h.precedes.keys q.id hlayout⟩

/-- **Layout switch points are sound.**  As long as none of the switch points of an object of a heap
is thrown, its prototype chain has the same objects in the same order, each with the same prototype,
extensibility and keys, and the object has the same properties. -/
theorem layoutPoints_sound (hs : s.IsHeap) (h : s.HeapRun t) (o : Object)
    (hvalid : ∀ p ∈ s.layoutPoints o, t.isThrown p = false) :
    t.protoChain o = s.protoChain o ∧
    (∀ q ∈ s.protoChain o,
      (t.script q.id).prototype? = (s.script q.id).prototype? ∧
      (t.script q.id).isExtensible = (s.script q.id).isExtensible ∧
      ∀ key, t.hasOwnProperty q key = s.hasOwnProperty q key) ∧
    ∀ key, t.hasProperty o key = s.hasProperty o key := by
  have hthrown : (s.layoutPoints o).any t.isThrown = false :=
    List.any_eq_false.mpr fun p hp => by simp [hvalid p hp]
  have hchain : t.protoChain o = s.protoChain o := by
    refine List.ext_getElem? fun i => ?_
    rw [(hs.run h).acyclic.getElem?_protoChain, hs.acyclic.getElem?_protoChain]
    exact ancestor?_eq_of_unthrown h.evolves.precedes hthrown i
  have hmembers : ∀ q ∈ s.protoChain o,
      (t.script q.id).prototype? = (s.script q.id).prototype? ∧
      (t.script q.id).isExtensible = (s.script q.id).isExtensible ∧
      ∀ key, t.hasOwnProperty q key = s.hasOwnProperty q key := by
    intro q hq
    obtain ⟨n, -, hn⟩ := (s.mem_chainUpTo _ o q).mp hq
    exact h.evolves.script_of_unthrown hthrown hn
  refine ⟨hchain, hmembers, fun key => ?_⟩
  rw [hasProperty, hasProperty, hchain, Bool.eq_iff_iff, List.any_eq_true, List.any_eq_true]
  refine exists_congr fun q => and_congr_right fun hq => ?_
  rw [(hmembers q hq).2.2 key]

namespace LayoutRun

/-- An object with a property, and one that has it as its prototype. -/
def collected : Store :=
  (((newScriptObject (some (.ordinary 0))).after ((newScriptObject none).after {})).defineProperty
    (.ordinary 0) "color" .null).1

/-- The property is overwritten, and an unrelated object gets one of its own. -/
def later : Store :=
  (((newScriptObject none).after (collected.defineProperty (.ordinary 0) "color"
    (.boolean true)).1).defineProperty (.ordinary 2) "size" .null).1

theorem isHeap_collected : collected.IsHeap := by
  have hfirst := HeapStep.operate {} (.create none) nofun
  have hsecond := HeapStep.operate (operate {} (.create none)) (.create (some (.ordinary 0)))
    (by decide)
  exact ⟨{}, rfl, ((Relation.ReflTransGen.single hfirst).tail hsecond).tail
    (.operate _ (.define _ _ _) nofun)⟩

theorem run_later : collected.HeapRun later := by
  have hoverwritten := HeapStep.operate collected (.define (.ordinary 0) "color" (.boolean true))
    nofun
  have hmade := (Relation.ReflTransGen.single hoverwritten).tail
    (.operate _ (.create none) nofun)
  exact hmade.tail (.operate _ (.define _ _ _) nofun)

/-- Neither an overwritten value nor an unrelated object throws a switch point of the chain. -/
theorem chain_of_later :
    (∀ p ∈ collected.layoutPoints (.ordinary 1), later.isThrown p = false) ∧
    later.protoChain (.ordinary 1) = [.ordinary 1, .ordinary 0] ∧
    ∀ key, later.hasProperty (.ordinary 1) key = collected.hasProperty (.ordinary 1) key := by
  have hvalid : ∀ p ∈ collected.layoutPoints (.ordinary 1), later.isThrown p = false := by decide
  obtain ⟨hchain, -, hsame⟩ :=
    layoutPoints_sound isHeap_collected run_later (.ordinary 1) hvalid
  exact ⟨hvalid, hchain.trans (by decide), hsame⟩

end LayoutRun

end Store

end DynamicLinking
