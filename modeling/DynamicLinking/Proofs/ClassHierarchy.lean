/-
A host class extends at most one other class.  Assignability, the lookup of members and the category
that the access policy goes by all walk up the same chain of superclasses, each for something of its
own: for a class, for the nearest declaration of a name, for the nearest restriction.  So they
agree: what holds of a class by one of its ancestors holds of every class that is assignable to it.

Assignability asks for the other class itself.  A class has an identity that no other class has, so
that along the chain it is enough to compare identities.

Main definitions:

* `HostClass.superclass?` — the class that a class extends;
* `HostClass.Nearest` — **the nearest class upwards of which something holds**;
* `Store.MakesClass`, `Store.HasDefined` — a class comes into being; the classes of a store.

Main results:

* `HostClass.isAssignableTo_iff_eq_or` — a step of the walk up to a class;
* `HostClass.findSome?_chain_iff` — what is found on the chain is what the nearest class declares;
* `HostClass.isSome_findSome?_chain_iff`, `HostClass.isRestricted_iff` — a class has what the
  classes declare to which it is assignable;
* `Store.HasDefined.isAssignableTo_iff_id` — assignability compares identities;
* `HostClass.hierarchy_laws` — the laws of the class hierarchy.
-/

import DynamicLinking.Proofs.Members

set_option autoImplicit false

namespace DynamicLinking

namespace HostClass

variable {c d k : HostClass}

/-! ### Superclasses -/

/-- The class that a class extends. -/
def superclass? (c : HostClass) : Option HostClass :=
  match c.ancestors with
  | [] => none
  | d :: ds => some ⟨d, ds⟩

/-- The chain of a class is its own declaration and then the chain of its superclass. -/
theorem chain_eq (c : HostClass) : c.chain = c.own :: (c.superclass?.map chain).getD [] := by
  obtain ⟨own, ancestors⟩ := c
  cases ancestors <;> rfl

theorem chain_injective (h : c.chain = d.chain) : c = d := by
  obtain ⟨own, ancestors⟩ := c
  obtain ⟨own', ancestors'⟩ := d
  cases h
  rfl

/-- What a class has as soon as its superclass has it, every class has. -/
theorem of_superclass {motive : HostClass → Prop}
    (step : ∀ c, (∀ d, c.superclass? = some d → motive d) → motive c) (c : HostClass) :
    motive c := by
  obtain ⟨own, ancestors⟩ := c
  induction ancestors generalizing own with
  | nil => exact step _ fun d hd => by cases hd
  | cons d ds ih =>
      refine step _ fun e he => ?_
      cases he
      exact ih d

/-- The nearest class, from a class upwards, whose own declaration has a property: the class itself,
or else the nearest one from its superclass upwards. -/
inductive Nearest (P : ClassDecl → Prop) : HostClass → HostClass → Prop where
  | own {c : HostClass} (h : P c.own) : Nearest P c c
  | inherited {c d k : HostClass} (h : ¬ P c.own) (hd : c.superclass? = some d)
      (hk : Nearest P d k) : Nearest P c k

/-! ### Assignability -/

/-- **A step of the walk up to a class.**  A class is assignable to itself, and otherwise to what
its superclass is assignable to. -/
theorem isAssignableTo_iff_eq_or :
    c.isAssignableTo k = true ↔
      c = k ∨ ∃ d, c.superclass? = some d ∧ d.isAssignableTo k = true := by
  -- a suffix of a list is the list itself or a suffix of its tail
  have hself : k.chain = c.chain ↔ c = k :=
    ⟨fun h => chain_injective h.symm, fun h => congrArg chain h.symm⟩
  have hstep : k.chain <:+ c.chain ↔
      c = k ∨ k.chain <:+ (c.superclass?.map chain).getD [] := by
    rw [chain_eq c, List.suffix_cons_iff, ← chain_eq c, hself]
  rw [isAssignableTo_iff, hstep]
  cases c.superclass? with
  | none => simp [chain]
  | some d => simp [isAssignableTo_iff]

theorem isAssignableTo_antisymm (h : c.isAssignableTo d = true) (h' : d.isAssignableTo c = true) :
    c = d := by
  have hc := isAssignableTo_iff.mp h
  have hd := isAssignableTo_iff.mp h'
  exact chain_injective (hd.eq_of_length (Nat.le_antisymm hd.length_le hc.length_le))

/-! ### What is found on the way up -/

section

variable {α : Type} {f : ClassDecl → Option α} {a : α}

/-- **What is found on the chain of a class is what the nearest class declares** that declares
anything. -/
theorem findSome?_chain_iff :
    c.chain.findSome? f = some a ↔
      ∃ k, c.Nearest (fun b => (f b).isSome = true) k ∧ f k.own = some a := by
  -- the search and the nearest class go the same way up
  induction c using of_superclass with
  | step c ih =>
      rw [chain_eq, List.findSome?_cons]
      cases hown : f c.own with
      | some b =>
          constructor
          · rintro ⟨⟩
            exact ⟨c, .own (by rw [hown]; rfl), hown⟩
          · rintro ⟨k, hk, ha⟩
            cases hk with
            | own _ => exact hown.symm.trans ha
            | inherited h _ _ => exact absurd (by rw [hown]; rfl) h
      | none =>
          have hnot : ¬ (f c.own).isSome = true := by simp [hown]
          cases hsuper : c.superclass? with
          | none =>
              refine ⟨nofun, ?_⟩
              rintro ⟨k, hk, -⟩
              cases hk with
              | own h => exact absurd h hnot
              | inherited _ hd _ => cases hsuper.symm.trans hd
          | some d =>
              refine (ih d hsuper).trans ⟨?_, ?_⟩
              · rintro ⟨k, hk, ha⟩
                exact ⟨k, .inherited hnot hsuper hk, ha⟩
              · rintro ⟨k, hk, ha⟩
                cases hk with
                | own h => exact absurd h hnot
                | inherited _ hd hk =>
                    cases hsuper.symm.trans hd
                    exact ⟨k, hk, ha⟩

/-- Something is found on the chain of a class exactly if a class declares it to which the class is
assignable. -/
theorem isSome_findSome?_chain_iff :
    (c.chain.findSome? f).isSome = true ↔
      ∃ k : HostClass, c.isAssignableTo k = true ∧ (f k.own).isSome = true := by
  rw [List.findSome?_isSome_iff]
  constructor
  · rintro ⟨b, hb, hf⟩
    obtain ⟨k, hk, rfl⟩ := mem_chain_iff.mp hb
    exact ⟨k, hk, hf⟩
  · rintro ⟨k, hk, hf⟩
    exact ⟨k.own, mem_chain_iff.mpr ⟨k, hk, rfl⟩, hf⟩

/-- **What is found on the chain of a class is found on that of every class that is assignable to
it**, and it is what the nearest class declares. -/
theorem exists_nearest_of_isAssignableTo (h : c.isAssignableTo d = true)
    (hd : (d.chain.findSome? f).isSome = true) :
    ∃ k a, c.Nearest (fun b => (f b).isSome = true) k ∧ f k.own = some a ∧
      c.chain.findSome? f = some a := by
  obtain ⟨k, hk, hf⟩ := isSome_findSome?_chain_iff.mp hd
  have hc : (c.chain.findSome? f).isSome = true :=
    isSome_findSome?_chain_iff.mpr ⟨k, isAssignableTo_trans h hk, hf⟩
  obtain ⟨a, ha⟩ := Option.isSome_iff_exists.mp hc
  obtain ⟨l, hl, hla⟩ := findSome?_chain_iff.mp ha
  exact ⟨l, a, hl, hla, ha⟩

end

/-- A class is restricted exactly if a class is declared so to which the class is assignable. -/
theorem isRestricted_iff :
    c.isRestricted = true ↔
      ∃ k : HostClass, c.isAssignableTo k = true ∧ k.own.category.isRestricted = true := by
  unfold isRestricted category
  cases h : c.chain.find? fun b => b.category.isRestricted with
  | none =>
      refine ⟨nofun, ?_⟩
      rintro ⟨k, hk, hcategory⟩
      exact absurd hcategory (List.find?_eq_none.mp h _ (mem_chain_iff.mpr ⟨k, hk, rfl⟩))
  | some b =>
      obtain ⟨k, hk, rfl⟩ := mem_chain_iff.mp (List.mem_of_find?_eq_some h)
      have hcategory : k.own.category.isRestricted = true :=
        List.find?_some (p := fun b : ClassDecl => b.category.isRestricted) h
      exact ⟨fun _ => ⟨k, hk, hcategory⟩, fun _ => hcategory⟩

end HostClass

/-! ### Identities -/

/-- A class comes into being: it is defined, or made up for an object that stands for a callable. -/
inductive Store.MakesClass (s t : Store) (c : HostClass) : Prop where
  | define (header : ClassHeader) (ms : List MemberDecl) (hc : defineClass header ms s = .ok c t)
  | proxy {v : Value} {i : Nat} {m : String} (hc : c = HostClass.proxy i m)
      (hv : functionalProxy v m s = .ok (.object (.proxy i m v)) t)

/-- The classes that have come into being by the time of a store, each with a superclass, if any,
that was there before.  In between anything may happen, as long as no identity is handed out
twice. -/
inductive Store.HasDefined : Store → List HostClass → Prop where
  | start (s : Store) : HasDefined s []
  | make {s t : Store} {cs : List HostClass} {c : HostClass} (h : HasDefined s cs)
      (hc : s.MakesClass t c) (hsuper : ∀ d, c.superclass? = some d → d ∈ cs) :
      HasDefined t (c :: cs)
  | later {s t : Store} {cs : List HostClass} (h : HasDefined s cs) (hle : s.nextId ≤ t.nextId) :
      HasDefined t cs

namespace Store

variable {s t : Store} {c d : HostClass} {cs : List HostClass}

/-- A class that comes into being has a new identity. -/
theorem MakesClass.id_eq (h : s.MakesClass t c) :
    c.own.id = s.nextId ∧ t.nextId = s.nextId + 1 := by
  cases h with
  | define header ms hc =>
      cases hc
      -- no member changes the identity
      have hadd (b : ClassDecl) (m : MemberDecl) (hb : b.id = s.nextId) :
          (b.add m).id = s.nextId := by
        cases m <;> exact hb
      exact ⟨ClassDecl.foldl_add hadd rfl ms, rfl⟩
  | @proxy v i m hc hv =>
      subst hc
      unfold functionalProxy at hv
      split at hv
      · cases hv
        exact ⟨rfl, rfl⟩
      · cases hv

namespace HasDefined

theorem id_lt (h : s.HasDefined cs) : ∀ c ∈ cs, c.own.id < s.nextId := by
  induction h with
  | start s => exact fun c hmem => absurd hmem List.not_mem_nil
  | make h hc hsuper ih =>
      obtain ⟨hid, hnext⟩ := hc.id_eq
      intro c hmem
      rcases List.mem_cons.mp hmem with rfl | hmem
      · omega
      · have := ih c hmem
        omega
  | later h hle ih => exact fun c hmem => Nat.lt_of_lt_of_le (ih c hmem) hle

/-- The superclass of a class came into being before it. -/
theorem superclass_mem (h : s.HasDefined cs) :
    ∀ c ∈ cs, ∀ d, c.superclass? = some d → d ∈ cs := by
  induction h with
  | start s => exact fun c hmem => absurd hmem List.not_mem_nil
  | make h hc hsuper ih =>
      intro c hmem d hd
      rcases List.mem_cons.mp hmem with rfl | hmem
      · exact List.mem_cons_of_mem _ (hsuper d hd)
      · exact List.mem_cons_of_mem _ (ih c hmem d hd)
  | later h hle ih => exact ih

/-- **No two classes have one identity.** -/
theorem eq_of_id (h : s.HasDefined cs) :
    ∀ c ∈ cs, ∀ d ∈ cs, c.own.id = d.own.id → c = d := by
  induction h with
  | start s => exact fun c hmem => absurd hmem List.not_mem_nil
  | make h hc hsuper ih =>
      -- the class that came last has an identity that no earlier one has
      have hnew := hc.id_eq.1
      intro a ha b hb heq
      rcases List.mem_cons.mp ha with rfl | hold
      · rcases List.mem_cons.mp hb with rfl | hold
        · rfl
        · have := h.id_lt b hold
          omega
      · rcases List.mem_cons.mp hb with rfl | hold'
        · have := h.id_lt a hold
          omega
        · exact ih a hold b hold' heq
  | later h hle ih => exact ih

/-- **Assignability compares identities**: a class is assignable to another one exactly if the
identity of that one is met on the way up. -/
theorem isAssignableTo_iff_id (h : s.HasDefined cs) (hc : c ∈ cs) (hd : d ∈ cs) :
    c.isAssignableTo d = true ↔ d.own.id ∈ c.chain.map ClassDecl.id := by
  induction c using HostClass.of_superclass with
  | step c ih =>
      have hself : c = d ↔ d.own.id = c.own.id :=
        ⟨fun he => by rw [he], fun he => h.eq_of_id c hc d hd he.symm⟩
      rw [HostClass.isAssignableTo_iff_eq_or, HostClass.chain_eq, List.map_cons, List.mem_cons,
        hself]
      cases hsuper : c.superclass? with
      | none => simp
      | some e => simp [ih e hsuper (h.superclass_mem c hc e hsuper)]

end HasDefined

end Store

/-- **The laws of the class hierarchy.**  Assignability is reflexive, transitive and antisymmetric,
and between the classes of a store it compares identities.  Whatever method or property is found on
a class is found on every class that is assignable to it, namely the one that the nearest class on
its own chain declares; and a class that is assignable to a restricted one is restricted. -/
theorem HostClass.hierarchy_laws (c d e : HostClass) :
    c.isAssignableTo c = true ∧
    (c.isAssignableTo d = true → d.isAssignableTo e = true → c.isAssignableTo e = true) ∧
    (c.isAssignableTo d = true → d.isAssignableTo c = true → c = d) ∧
    (∀ (s : Store) (cs : List HostClass), s.HasDefined cs → c ∈ cs → d ∈ cs →
      (c.isAssignableTo d = true ↔ d.own.id ∈ c.chain.map ClassDecl.id) ∧
        (c.own.id = d.own.id → c = d)) ∧
    (c.isAssignableTo d = true →
      (∀ n, (d.findMethod? n).isSome = true →
        ∃ k m, c.Nearest (fun b => (b.methods.get? n).isSome = true) k ∧
          k.own.methods.get? n = some m ∧ c.findMethod? n = some m) ∧
      (∀ n, (d.findProperty? n).isSome = true →
        ∃ k p, c.Nearest (fun b => (b.properties.get? n).isSome = true) k ∧
          k.own.properties.get? n = some p ∧ c.findProperty? n = some p) ∧
      (d.isRestricted = true → c.isRestricted = true)) := by
  refine ⟨isAssignableTo_refl c, isAssignableTo_trans, isAssignableTo_antisymm,
    fun s cs h hc hd => ⟨h.isAssignableTo_iff_id hc hd, h.eq_of_id c hc d hd⟩,
    fun h => ⟨fun n => exists_nearest_of_isAssignableTo h,
      fun n => exists_nearest_of_isAssignableTo h, fun hd => ?_⟩⟩
  obtain ⟨k, hk, hcategory⟩ := isRestricted_iff.mp hd
  exact isRestricted_iff.mpr ⟨k, isAssignableTo_trans h hk, hcategory⟩

/-! ### A restricted class and two that extend it -/

namespace Loaders

/-- The signature of the methods that load something. -/
def signature : Signature := ⟨[.string], .object⟩

/-- The members of the class at the top. -/
def members : List MemberDecl := [.method "load" signature [.display], .property "path" .string []]

/-- A class that loads classes. -/
def loader : HostClass := .ofMembers 0 "Loader" members .classLoading

/-- A class that loads in another way. -/
def plugin : HostClass where
  own := ClassDecl.add { id := 1, name := "PluginLoader" } (.method "load" signature [.inspect])
  ancestors := loader.chain

/-- A class that declares nothing. -/
def hot : HostClass where
  own := { id := 2, name := "HotPluginLoader" }
  ancestors := plugin.chain

theorem hasDefined : Store.HasDefined { nextId := 3 } [hot, plugin, loader] := by
  have hloader : ({} : Store).HasDefined [] := .start {}
  have hplugin : Store.HasDefined { nextId := 1 } [loader] :=
    hloader.make (.define { name := "Loader", category := .classLoading } members rfl)
      fun d hd => by cases hd
  have hhot : Store.HasDefined { nextId := 2 } [plugin, loader] :=
    hplugin.make (.define { name := "PluginLoader", super? := some loader }
      [.method "load" signature [.inspect]] rfl) fun d hd => by cases hd; simp
  exact hhot.make (.define { name := "HotPluginLoader", super? := some plugin } [] rfl)
    fun d hd => by cases hd; simp

/-- The class at the bottom loads as the one in the middle does, has the property of the one at the
top and is restricted like it. -/
theorem hot_inherits :
    hot.isAssignableTo plugin = true ∧ plugin.isAssignableTo loader = true ∧
      hot.isAssignableTo loader = true ∧ ¬ plugin.isAssignableTo hot = true ∧
      loader.own.id ∈ hot.chain.map ClassDecl.id ∧
      (∃ k m, hot.Nearest (fun b => (b.methods.get? "load").isSome = true) k ∧
        k.own.methods.get? "load" = some m ∧ hot.findMethod? "load" = some m) ∧
      (∃ k p, hot.Nearest (fun b => (b.properties.get? "path").isSome = true) k ∧
        k.own.properties.get? "path" = some p ∧ hot.findProperty? "path" = some p) ∧
      hot.isRestricted = true := by
  obtain ⟨-, htrans, hantisymm, -⟩ := HostClass.hierarchy_laws hot plugin loader
  obtain ⟨-, -, -, hid, hinherits⟩ := HostClass.hierarchy_laws hot loader loader
  have hplugin : hot.isAssignableTo plugin = true := by decide
  have hloader : plugin.isAssignableTo loader = true := by decide
  have htop := htrans hplugin hloader
  obtain ⟨hmethods, hproperties, hrestricted⟩ := hinherits htop
  refine ⟨hplugin, hloader, htop, fun h => ?_, ?_, hmethods "load" (by decide),
    hproperties "path" (by decide), hrestricted (by decide)⟩
  · exact absurd (hantisymm hplugin h) (by decide)
  · exact (hid _ _ hasDefined (by decide) (by decide)).1.mp htop

/-- The method of the class in the middle hides that of the one at the top. -/
example : hot.findMethod? "load" = some ⟨"load", signature, .statements [.inspect]⟩ := by decide

end Loaders

end DynamicLinking
