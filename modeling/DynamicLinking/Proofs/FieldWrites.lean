/-
The fields of host objects are changed in two ways only: user code writes one, or it makes a host
object, which gets fields under an identity of its own.  Everything else that scripts and their
environment do leaves all fields alone.  So a field of an object keeps its value through every run
in which nobody writes that field, and a call of a site writes no fields but those that the user
code it runs writes.

Main definitions:

* `Store.FieldStep` — what one step may do to fields, if only some of them are written;
* `Store.Change` — **a step of the store in which only some fields are written**.

Main results:

* `Store.Change.field_eq`, `Store.field_eq_of_changes` — one step, and a run of them, leaves alone
  what is not written;
* `changes_invokeSite` — **a call of a site writes the fields that user code writes and no others**;
* `changes_runEntry` — user code only takes such steps.
-/

import DynamicLinking.Proofs.CallSites

set_option autoImplicit false

namespace DynamicLinking

namespace Store

/-- Fields of host objects, by the identities of the objects and by keys. -/
abbrev Fields := Nat → String → Prop

variable {W : Fields} {s t : Store} {id : Nat} {key : String}

/-! ### Steps -/

/-- What a step may do to the fields of host objects, if only the given ones are written. -/
inductive FieldStep (W : Fields) : Store → Store → Prop where
  /-- All fields stay, and identities are only given out. -/
  | keep {s t : Store} (hfields : t.fields = s.fields) (hid : s.nextId ≤ t.nextId) :
      FieldStep W s t
  /-- A field is written. -/
  | write (s : Store) {id : Nat} {key : String} (h : W id key) (v : Value) :
      FieldStep W s (s.setField id key v)
  /-- A host object is made, under a new identity. -/
  | make (s : Store) (fields : List (String × Value)) :
      FieldStep W s { s with
        nextId := s.nextId + 1
        fields := s.fields.insert s.nextId (Table.ofList fields) }

/-- A step of the store in which only the given fields are written. -/
structure Change (W : Fields) (s t : Store) : Prop where
  step : s.Step t
  fields : FieldStep W s t

/-- Calls change no field by themselves. -/
instance : AllowsCalls (Change W) where
  fresh s := ⟨AllowsIds.fresh s, .keep rfl (Nat.le_succ _)⟩
  define s o key v :=
    ⟨.define s o key v, .keep (s.fields_defineProperty o key v)
      (Nat.le_of_eq (s.nextId_defineProperty o key v).symm)⟩
  create s p :=
    (Relation.ReflTransGen.single ⟨AllowsIds.fresh s, .keep rfl (Nat.le_succ _)⟩).tail
      ⟨.create { s with nextId := s.nextId + 1 } s.nextId p, .keep rfl (Nat.le_refl _)⟩
  setForeign s id f := ⟨AllowsCalls.setForeign s id f, .keep rfl (Nat.le_refl _)⟩
  serve s id args := by
    obtain ⟨heq, hid⟩ := called_after_resolve id args s
    exact ⟨.serve s id args, .keep (by rw [heq]) hid⟩

/-- User code may write any field. -/
instance : AllowsBodies (Change fun _ _ => True) where
  setField s id key v := ⟨AllowsBodies.setField s id key v, .write s trivial v⟩
  make s fields := ⟨AllowsBodies.make s fields, .make s fields⟩

/-! ### What is not written -/

/-- No step takes an identity back. -/
theorem Change.nextId_le (h : Change W s t) : s.nextId ≤ t.nextId := by
  obtain ⟨-, h⟩ := h
  cases h with
  | keep hfields hid => exact hid
  | write h v => exact Nat.le_refl _
  | make fields => exact Nat.le_succ _

/-- A step leaves a field alone that it does not write, if the object was made before. -/
theorem Change.field_eq (h : Change W s t) (hid : id < s.nextId) (hW : ¬ W id key) :
    (t.fieldsOf id).get? key = (s.fieldsOf id).get? key := by
  obtain ⟨-, h⟩ := h
  cases h with
  | keep hfields hle =>
      unfold fieldsOf
      rw [hfields]
  | @write i k hwrites v =>
      rw [fieldsOf_setField]
      split
      · rename_i hi
        have hk : k ≠ key := by
          rintro rfl
          exact hW (hi ▸ hwrites)
        rw [Table.get?_insert_ne _ v hk, hi]
      · rfl
  | make fields =>
      -- the new object has an identity that no object had before
      have hne : s.nextId ≠ id := by omega
      simp [fieldsOf, hne]

theorem nextId_le_of_changes (h : Relation.ReflTransGen (Change W) s t) : s.nextId ≤ t.nextId := by
  induction h with
  | refl => exact Nat.le_refl _
  | tail _ hstep ih => exact Nat.le_trans ih hstep.nextId_le

/-- **What nobody writes stays**: a run of steps leaves a field alone that it does not write, if the
object was made before. -/
theorem field_eq_of_changes (h : Relation.ReflTransGen (Change W) s t) (hid : id < s.nextId)
    (hW : ¬ W id key) : (t.fieldsOf id).get? key = (s.fieldsOf id).get? key := by
  induction h with
  | refl => rfl
  | tail hrun hstep ih =>
      have hmade := Nat.lt_of_lt_of_le hid (nextId_le_of_changes hrun)
      exact (hstep.field_eq hmade hW).trans ih

theorem evolves_of_changes (h : Relation.ReflTransGen (Change W) s t) : s.Evolves t :=
  Relation.ReflTransGen.mono (fun _ _ hstep => hstep.step) _ _ h

end Store

/-! ### Calls and user code -/

/-- **A call of a site writes the fields that the user code it runs writes**, and no others. -/
theorem changes_invokeSite {W : Store.Fields} {run : Runner}
    (hrun : ∀ e self args, Takes (Store.Change W) (run e self args)) (id : Nat)
    (args : List Value) : Takes (Store.Change W) (invokeSite id args run) :=
  runTakes_invokeSite id args run hrun

/-- Everything that user code does, however deep its calls are nested, is a run of steps in which
some fields are written. -/
theorem changes_runEntry (n : Nat) (e : Entry) (self : Value) (args : List Value) :
    Takes (Store.Change fun _ _ => True) (runEntry n e self args) :=
  takes_runEntry n e self args

end DynamicLinking
