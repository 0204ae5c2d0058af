/-
Which host methods are members of a class, and of which of its ancestors.  A class comes into being
by a definition, which adds members of a few kinds: a property is read-only or the field of its
name, and a static property is read-only.  Objects that stand for callables have a class without
properties, so that this holds of the class of every object.

Main definitions:

* `ClassDecl.HasMember`, `ClassDecl.HasStaticMember` — the members that one class declares itself;
* `HostClass.ofMembers` — a class without ancestors;
* `HostClass.IsDeclared` — **the properties of a class are of the kinds that a definition adds**;
* `Value.IsDeclared` — the class whose properties are read from a value is declared.

Main results:

* `HostClass.exists_of_findMethod?`, `HostClass.exists_of_findProperty?` — a member that is found
  was declared by a class to which the class is assignable;
* `isDeclared_defineClass`, `HostClass.isDeclared_proxy` — every class that comes into being is
  declared.
-/

import DynamicLinking.Host.Definition
import DynamicLinking.Proofs.Evolution

set_option autoImplicit false

namespace DynamicLinking

/-! ### Declarations -/

namespace ClassDecl

/-- The class itself declares the instance method, or the getter or the setter of a property. -/
def HasMember (d : ClassDecl) (h : HostMethod) : Prop :=
  (∃ n, d.methods.get? n = some h) ∨
    ∃ n p, d.properties.get? n = some p ∧ (p.getter = h ∨ p.setter? = some h)

/-- The class itself declares the static method, the getter of a static property, or the
constructor. -/
def HasStaticMember (d : ClassDecl) (h : HostMethod) : Prop :=
  (∃ n, d.staticMethods.get? n = some h) ∨
    (∃ n p, d.staticProperties.get? n = some p ∧ p.getter = h) ∨ d.constructor? = some h

/-- The properties of the class are read-only or fields, and its static properties are read-only. -/
structure IsDeclared (d : ClassDecl) : Prop where
  property : ∀ n p, d.properties.get? n = some p →
    (∃ m t b, p = .readOnly m t b) ∨ ∃ m t, p = .ofField m t
  staticProperty : ∀ n p, d.staticProperties.get? n = some p → ∃ i m t, p = .ofStatic i m t

/-- A class that declares no properties is declared. -/
theorem isDeclared_of_empty {d : ClassDecl} (hp : d.properties = {})
    (hs : d.staticProperties = {}) : d.IsDeclared := by
  refine ⟨fun n p h => ?_, fun n p h => ?_⟩
  · simp [hp] at h
  · simp [hs] at h

theorem IsDeclared.add {d : ClassDecl} (h : d.IsDeclared) (m : MemberDecl) :
    (d.add m).IsDeclared := by
  cases m with
  | property n t b =>
      refine ⟨fun n' p hp => ?_, h.staticProperty⟩
      simp only [ClassDecl.add, Table.get?_insert] at hp
      split at hp
      · exact .inl ⟨n, t, b, (Option.some.inj hp).symm⟩
      · exact h.property n' p hp
  | field n t =>
      refine ⟨fun n' p hp => ?_, h.staticProperty⟩
      simp only [ClassDecl.add, Table.get?_insert] at hp
      split at hp
      · exact .inr ⟨n, t, (Option.some.inj hp).symm⟩
      · exact h.property n' p hp
  | staticProperty n t v =>
      refine ⟨h.property, fun n' p hp => ?_⟩
      simp only [ClassDecl.add, Table.get?_insert] at hp
      split at hp
      · exact ⟨d.id, n, t, (Option.some.inj hp).symm⟩
      · exact h.staticProperty n' p hp
  | method n s b => exact ⟨h.property, h.staticProperty⟩
  | staticMethod n s b => exact ⟨h.property, h.staticProperty⟩
  | constructor s b => exact ⟨h.property, h.staticProperty⟩

/-- What every member keeps holds after any number of members. -/
theorem foldl_add {P : ClassDecl → Prop} (hadd : ∀ d m, P d → P (d.add m)) {d : ClassDecl}
    (h : P d) (ms : List MemberDecl) : P (ms.foldl ClassDecl.add d) := by
  induction ms generalizing d with
  | nil => exact h
  | cons m ms ih => exact ih (hadd d m h)

end ClassDecl

/-! ### Classes -/

namespace HostClass

variable {c k : HostClass} {n : String}

theorem isAssignableTo_iff : c.isAssignableTo k = true ↔ k.chain <:+ c.chain := by
  simp [isAssignableTo]

theorem isAssignableTo_refl (c : HostClass) : c.isAssignableTo c = true :=
  isAssignableTo_iff.mpr List.suffix_rfl

theorem isAssignableTo_trans {c₁ c₂ c₃ : HostClass} (h : c₁.isAssignableTo c₂ = true)
    (h' : c₂.isAssignableTo c₃ = true) : c₁.isAssignableTo c₃ = true :=
  isAssignableTo_iff.mpr ((isAssignableTo_iff.mp h').trans (isAssignableTo_iff.mp h))

/-- The declarations on the chain of a class are those of the classes to which it is assignable. -/
theorem mem_chain_iff {d : ClassDecl} :
    d ∈ c.chain ↔ ∃ k : HostClass, c.isAssignableTo k = true ∧ k.own = d := by
  constructor
  · intro h
    obtain ⟨before, after, hchain⟩ := List.append_of_mem h
    exact ⟨⟨d, after⟩, isAssignableTo_iff.mpr ⟨before, hchain.symm⟩, rfl⟩
  · rintro ⟨k, hk, rfl⟩
    exact (isAssignableTo_iff.mp hk).subset (List.mem_cons_self ..)

/-- What is found in the declarations of a class stands in that of a class to which the class is
assignable. -/
theorem exists_of_findSome? {α : Type} {f : ClassDecl → Option α} {a : α}
    (h : c.chain.findSome? f = some a) :
    ∃ k : HostClass, c.isAssignableTo k = true ∧ f k.own = some a := by
  obtain ⟨d, hd, hf⟩ := List.exists_of_findSome?_eq_some h
  obtain ⟨k, hk, rfl⟩ := mem_chain_iff.mp hd
  exact ⟨k, hk, hf⟩

theorem exists_of_findMethod? {h : HostMethod} (hm : c.findMethod? n = some h) :
    ∃ k : HostClass, c.isAssignableTo k = true ∧ k.own.HasMember h := by
  obtain ⟨k, hk, hd⟩ := exists_of_findSome? hm
  exact ⟨k, hk, .inl ⟨n, hd⟩⟩

theorem exists_of_findProperty? {p : HostProperty} (hp : c.findProperty? n = some p)
    {h : HostMethod} (hh : p.getter = h ∨ p.setter? = some h) :
    ∃ k : HostClass, c.isAssignableTo k = true ∧ k.own.HasMember h := by
  obtain ⟨k, hk, hd⟩ := exists_of_findSome? hp
  exact ⟨k, hk, .inr ⟨n, p, hd, hh⟩⟩

/-- A property that is read from an instance is one of its class. -/
theorem exists_of_member? {b : Bool} {m : HostMethod}
    (h : c.member? n b = some (.property m)) : ∃ q, c.findProperty? n = some q ∧ q.getter = m := by
  unfold member? at h
  cases hq : c.findProperty? n with
  | none => cases b <;> cases c.findMethod? n <;> simp [hq] at h
  | some q =>
      refine ⟨q, rfl, ?_⟩
      cases b <;> cases hmethod : c.findMethod? n <;> simp_all

theorem exists_findMethod?_of_functionalMethod? {h : HostMethod}
    (hm : c.functionalMethod? = some h) : ∃ n, c.findMethod? n = some h := by
  obtain ⟨n, -, hn⟩ := Option.bind_eq_some_iff.mp hm
  exact ⟨n, hn⟩

/-- A class without ancestors, by its members. -/
def ofMembers (id : Nat) (name : String) (ms : List MemberDecl) (category : HostCategory) :
    HostClass :=
  ⟨ms.foldl ClassDecl.add { id, name, category }, []⟩

@[simp] theorem chain_ofMembers (id : Nat) (name : String) (ms : List MemberDecl)
    (category : HostCategory) :
    (ofMembers id name ms category).chain = [ms.foldl ClassDecl.add { id, name, category }] := rfl

/-- The properties of the class and of its ancestors are of the kinds that a definition adds. -/
def IsDeclared (c : HostClass) : Prop :=
  ∀ d ∈ c.chain, d.IsDeclared

theorem IsDeclared.property {p : HostProperty} (h : c.IsDeclared)
    (hp : c.findProperty? n = some p) :
    (∃ m t b, p = .readOnly m t b) ∨ ∃ m t, p = .ofField m t := by
  obtain ⟨d, hd, hp⟩ := List.exists_of_findSome?_eq_some hp
  exact (h d hd).property n p hp

theorem IsDeclared.staticProperty {p : HostProperty} (h : c.IsDeclared)
    (hp : c.findStaticProperty? n = some p) : ∃ i m t, p = .ofStatic i m t :=
  (h c.own (by simp [chain])).staticProperty n p hp

/-- Getters have no parameters. -/
theorem IsDeclared.params_getter {p : HostProperty} (h : c.IsDeclared)
    (hp : c.findProperty? n = some p) : p.getter.signature.params = [] := by
  rcases h.property hp with ⟨m, t, b, rfl⟩ | ⟨m, t, rfl⟩ <;> rfl

theorem IsDeclared.params_staticGetter {p : HostProperty} (h : c.IsDeclared)
    (hp : c.findStaticProperty? n = some p) : p.getter.signature.params = [] := by
  obtain ⟨i, m, t, rfl⟩ := h.staticProperty hp
  rfl

/-- Static properties take no writes. -/
theorem IsDeclared.staticSetter?_eq_none (h : c.IsDeclared) :
    (c.findStaticProperty? n).bind HostProperty.setter? = none := by
  cases hp : c.findStaticProperty? n with
  | none => rfl
  | some p =>
      obtain ⟨i, m, t, rfl⟩ := h.staticProperty hp
      rfl

theorem isDeclared_ofMembers (id : Nat) (name : String) (ms : List MemberDecl)
    (category : HostCategory) : (ofMembers id name ms category).IsDeclared := by
  intro d hd
  obtain rfl := List.mem_singleton.mp hd
  exact ClassDecl.foldl_add (fun _ m h => h.add m) (ClassDecl.isDeclared_of_empty rfl rfl) ms

/-- The class of an object that stands for a callable has no properties. -/
theorem isDeclared_proxy (i : Nat) (m : String) : (HostClass.proxy i m).IsDeclared := by
  intro d hd
  obtain rfl : d = (HostClass.proxy i m).own := by simpa [chain, HostClass.proxy] using hd
  exact ClassDecl.isDeclared_of_empty rfl rfl

end HostClass

/-- What holds of a declaration without members and is kept by every member holds of the
declarations of a class that is defined, if it holds of those of its superclass. -/
theorem forall_chain_of_defineClass {P : ClassDecl → Prop}
    (hbare : ∀ i n k f, P { id := i, name := n, category := k, functional? := f })
    (hadd : ∀ d m, P d → P (d.add m)) {header : ClassHeader} {ms : List MemberDecl} {s t : Store}
    {c : HostClass} (hsuper : ∀ k, header.super? = some k → ∀ d ∈ k.chain, P d)
    (hc : defineClass header ms s = .ok c t) : ∀ d ∈ c.chain, P d := by
  cases hc
  intro d hd
  rcases List.mem_cons.mp hd with rfl | hd
  · exact ClassDecl.foldl_add hadd (hbare _ _ _ _) ms
  · cases hs : header.super? with
    | none => simp [hs] at hd
    | some k => exact hsuper k hs d (by simpa [hs] using hd)

/-- **A class that is defined is declared**, if its superclass is. -/
theorem isDeclared_defineClass {header : ClassHeader} {ms : List MemberDecl} {s t : Store}
    {c : HostClass} (hsuper : ∀ k, header.super? = some k → k.IsDeclared)
    (hc : defineClass header ms s = .ok c t) : c.IsDeclared :=
  forall_chain_of_defineClass (fun _ _ _ _ => ClassDecl.isDeclared_of_empty rfl rfl)
    (fun _ m h => h.add m) hsuper hc

/-! ### Values -/

namespace Value

/-- The class of an instance, and a class as a value, are declared. -/
def IsDeclared (v : Value) : Prop :=
  ∀ c, (v.hostClass? = some c ∨ ∃ i, v = .object (.staticClass i c)) → c.IsDeclared

theorem isDeclared_methodRef (i : Nat) (c : HostClass) (m : String) (isStatic : Bool) :
    (Value.object (.methodRef i c m isStatic)).IsDeclared := by
  rintro d (hd | ⟨j, hj⟩)
  · cases hd
  · cases hj

theorem isDeclared_bound (i : Nat) (callee self : Value) (leading : List Value) :
    (Value.object (.bound i callee self leading)).IsDeclared := by
  rintro d (hd | ⟨j, hj⟩)
  · cases hd
  · cases hj

end Value

end DynamicLinking
