/-
A value is converted to a functional type where a host object with a single method is wanted.  Three
notions meet there.  What the type admits is told by the name that a class or one of its ancestors
gives for the single method; whether an instance can be called, by finding a method of that name in
the class or an ancestor; and a value of any other kind gets a new object of a class of its own,
whose method passes the arguments on.

The first two part where a class names a single method and no class of its chain declares it.  An
instance of such a hollow class passes for functional as it is, and cannot be called.

Main definitions:

* `HostClass.NamesMethods` — **methods are declared under their own names**;
* `HostClass.IsHollow` — a class without the single method that it names;
* `Value.BecomesFunctional` — what a conversion to a functional type promises.

Main results:

* `namesMethods_defineClass`, `namesMethods_proxy` — every class that comes into being names its
  methods so;
* `callValue_proxy` — calling the object that stands for a callable calls the callable;
* `becomesFunctional_iff` — **the promise is kept exactly by what is no instance of a hollow
  class**.
-/

import DynamicLinking.Proofs.Members
import DynamicLinking.Proofs.NullishReceivers

set_option autoImplicit false

namespace DynamicLinking

/-! ### Names of methods -/

/-- The methods of the class itself are declared under their own names. -/
def ClassDecl.NamesMethods (d : ClassDecl) : Prop :=
  ∀ n h, d.methods.get? n = some h → h.name = n

theorem ClassDecl.NamesMethods.add {d : ClassDecl} (h : d.NamesMethods) (m : MemberDecl) :
    (d.add m).NamesMethods := by
  cases m with
  | method n s b =>
      intro n' k hk
      simp only [ClassDecl.add, Table.get?_insert] at hk
      split at hk
      · rename_i heq
        cases hk
        exact heq
      · exact h n' k hk
  | _ => exact h

namespace HostClass

variable {c : HostClass} {n m : String} {h : HostMethod}

/-- The methods of the class and of its ancestors are declared under their own names. -/
def NamesMethods (c : HostClass) : Prop :=
  ∀ d ∈ c.chain, d.NamesMethods

theorem NamesMethods.name_eq (hc : c.NamesMethods) (hm : c.findMethod? n = some h) :
    h.name = n := by
  obtain ⟨d, hd, hm⟩ := List.exists_of_findSome?_eq_some hm
  exact hc d hd n h hm

theorem namesMethods_proxy (i : Nat) (m : String) : (HostClass.proxy i m).NamesMethods := by
  intro d hd n h hm
  obtain rfl : d = (HostClass.proxy i m).own := by simpa [chain, HostClass.proxy] using hd
  simp only [HostClass.proxy, Table.ofList, List.foldl_cons, List.foldl_nil,
    Table.get?_insert] at hm
  split at hm
  · rename_i heq
    cases hm
    exact heq
  · cases hm

/-- The class or an ancestor names a single method, and none of them declares it. -/
def IsHollow (c : HostClass) (m : String) : Prop :=
  c.functionalName? = some m ∧ c.findMethod? m = none

/-- The single method is the method of the name that is given for it. -/
theorem functionalMethod?_of_name (hm : c.functionalName? = some m) :
    c.functionalMethod? = c.findMethod? m := by
  rw [functionalMethod?, hm]
  rfl

end HostClass

/-- **A class that is defined names its methods**, if its superclass does. -/
theorem namesMethods_defineClass {header : ClassHeader} {ms : List MemberDecl} {s t : Store}
    {c : HostClass} (hsuper : ∀ k, header.super? = some k → k.NamesMethods)
    (hc : defineClass header ms s = .ok c t) : c.NamesMethods :=
  forall_chain_of_defineClass (fun _ _ _ _ _ _ h => by cases h) (fun _ m h => h.add m) hsuper hc

/-! ### Conversions -/

/-- The class of the instance that a value is, if it is one, names its methods. -/
def Value.NamesMethods (v : Value) : Prop :=
  ∀ c, v.hostClass? = some c → c.NamesMethods

section

variable {v : Value} {m : String} {c : HostClass} {h : HostMethod}

/-- The functional type has the instances whose classes name its method. -/
theorem admits_functional_iff :
    (StaticType.functional m).admits v = true ↔
      ∃ c, v.hostClass? = some c ∧ c.functionalName? = some m := by
  simp [StaticType.admits, Option.bind_eq_some_iff]

/-- An instance can be called if its class has the single method. -/
theorem isCallable_of_functionalMethod? (hc : v.hostClass? = some c)
    (hm : c.functionalMethod? = some h) : v.isCallable = true := by
  cases v with
  | primitive p => cases hc
  | object o =>
      cases o with
      | host i d =>
          cases hc
          simp [Value.isCallable, Value.callableKind?, Value.object?, Object.callableKind?, hm]
      | proxy i n t => rfl
      | _ => cases hc

/-- **The three ends of a conversion to a functional type**: a value of the type stays as it is, a
callable gets a new object that stands for it, and all others are refused. -/
theorem convertValue_functional_cases (v : Value) (m : String) :
    ((StaticType.functional m).admits v = true ∧
        ∀ run s, convertValue v (.functional m) run s = .ok v s) ∨
      ((StaticType.functional m).admits v = false ∧ v.isCallable = true ∧
        ∀ run s, convertValue v (.functional m) run s =
          .ok (.object (.proxy s.nextId m v)) { s with nextId := s.nextId + 1 }) ∨
      (StaticType.functional m).admits v = false ∧ v.isCallable = false ∧
        ∀ run s, convertValue v (.functional m) run s =
          .error (.error (.notFunctional v.text m)) s := by
  cases hadmits : (StaticType.functional m).admits v with
  | true => exact .inl ⟨rfl, fun run s => by rw [convertValue_of_admits hadmits]; rfl⟩
  | false =>
      have hconvert (run : Runner) (s : Store) :
          convertValue v (.functional m) run s = functionalProxy v m s := by
        unfold convertValue
        rw [if_neg (by simp [hadmits])]
        rfl
      unfold functionalProxy at hconvert
      cases hcallable : v.isCallable with
      | true =>
          rw [hcallable] at hconvert
          exact .inr (.inl ⟨rfl, rfl, hconvert⟩)
      | false =>
          rw [hcallable] at hconvert
          exact .inr (.inr ⟨rfl, rfl, hconvert⟩)

/-- **Calling the object that stands for a callable calls the callable**, with the same arguments
and without a receiver, one level deeper. -/
theorem callValue_proxy (i : Nat) (m : String) (v self : Value) (args : List Value) (n : Nat)
    (s : Store) :
    callValue (.object (.proxy i m v)) self args (runEntry (n + 1)) s =
      callValue v .undefined args (runEntry n) s := by
  rw [callValue, callFunctional, HostClass.proxy_functionalMethod?]
  rfl

/-! ### The promise -/

/-- The value is an instance whose single method has the given name: it can be called, and passes
for a functional object. -/
structure Value.IsFunctionalAs (v : Value) (m : String) : Prop where
  callable : v.isCallable = true
  functional : v.isFunctionalObject = true
  named : ∃ c h, v.hostClass? = some c ∧ c.functionalMethod? = some h ∧ h.name = m

/-- What a conversion to a functional type promises.  What comes out is functional; if it is a new
object that stands for the value, calling it calls the value; and the conversion fails exactly if
the value cannot be called, with an error of the kind `type`. -/
structure Value.BecomesFunctional (v : Value) (m : String) : Prop where
  result : ∀ run s r t, convertValue v (.functional m) run s = .ok r t → r.IsFunctionalAs m
  forwards : ∀ run s i t,
    convertValue v (.functional m) run s = .ok (.object (.proxy i m v)) t →
    ∀ self args n u, callValue (.object (.proxy i m v)) self args (runEntry (n + 1)) u =
      callValue v .undefined args (runEntry n) u
  fails_iff : ∀ run s,
    (∃ f t, convertValue v (.functional m) run s = .error f t) ↔ v.isCallable = false
  fails : ∀ run s f t, convertValue v (.functional m) run s = .error f t → f.isTypeError = true

/-- An instance is functional if its class has the single method under its name. -/
theorem isFunctionalAs_of_functionalMethod? (hc : v.hostClass? = some c)
    (hm : c.functionalMethod? = some h) (hname : h.name = m) : v.IsFunctionalAs m := by
  refine ⟨isCallable_of_functionalMethod? hc hm, ?_, c, h, hc, hm, hname⟩
  simp [Value.isFunctionalObject, hc, hm]

/-- The object that stands for a callable is functional. -/
theorem isFunctionalAs_proxy (i : Nat) (m : String) (v : Value) :
    (Value.object (.proxy i m v)).IsFunctionalAs m :=
  isFunctionalAs_of_functionalMethod? rfl (HostClass.proxy_functionalMethod? i m) rfl

/-- The value is an instance of a class without the single method that it names. -/
def Value.IsHollow (v : Value) (m : String) : Prop :=
  ∃ c, v.hostClass? = some c ∧ c.IsHollow m

/-- An instance of a hollow class is not functional. -/
theorem not_isFunctionalAs_of_isHollow (hv : v.IsHollow m) : ¬ v.IsFunctionalAs m := by
  obtain ⟨c, hc, hhollow⟩ := hv
  rintro ⟨-, -, c', h, hc', hm, -⟩
  cases hc.symm.trans hc'
  rw [HostClass.functionalMethod?_of_name hhollow.1, hhollow.2] at hm
  cases hm

/-- A callable keeps the promise if its conversion always answers something functional. -/
theorem becomesFunctional_of_callable (hcallable : v.isCallable = true)
    (h : ∀ run s, ∃ r t, convertValue v (.functional m) run s = .ok r t ∧ r.IsFunctionalAs m) :
    v.BecomesFunctional m where
  result run s r t hr := by
    obtain ⟨r', t', hr', hfunctional⟩ := h run s
    cases hr.symm.trans hr'
    exact hfunctional
  forwards _ _ i _ _ self args n u := callValue_proxy i m v self args n u
  fails_iff run s := by
    obtain ⟨r, t, hr, -⟩ := h run s
    simp [hr, hcallable]
  fails run s f t hf := by
    obtain ⟨r, t', hr, -⟩ := h run s
    cases hf.symm.trans hr

/-- What is refused and cannot be called keeps the promise. -/
theorem becomesFunctional_of_uncallable (hcallable : v.isCallable = false)
    (h : ∀ run s,
      convertValue v (.functional m) run s = .error (.error (.notFunctional v.text m)) s) :
    v.BecomesFunctional m where
  result run s r t hr := by cases (h run s).symm.trans hr
  forwards _ _ i _ _ self args n u := callValue_proxy i m v self args n u
  fails_iff run s := by simp [h, hcallable]
  fails run s f t hf := by
    cases (h run s).symm.trans hf
    rfl

/-- **The promise is kept exactly by what is no instance of a hollow class.** -/
theorem becomesFunctional_iff (hv : v.NamesMethods) :
    v.BecomesFunctional m ↔ ¬ v.IsHollow m := by
  constructor
  · rintro hpromise ⟨c, hc, hhollow⟩
    have hadmits : (StaticType.functional m).admits v = true :=
      admits_functional_iff.mpr ⟨c, hc, hhollow.1⟩
    refine not_isFunctionalAs_of_isHollow ⟨c, hc, hhollow⟩
      (hpromise.result (fun _ _ _ => pure .undefined) {} v {} ?_)
    rw [convertValue_of_admits hadmits]
    rfl
  · intro hsolid
    rcases convertValue_functional_cases v m with
      ⟨hadmits, h⟩ | ⟨-, hcallable, h⟩ | ⟨-, hcallable, h⟩
    · -- the class of the value names the method, and has it because it is not hollow
      obtain ⟨c, hc, hname⟩ := admits_functional_iff.mp hadmits
      obtain ⟨k, hk⟩ : ∃ k, c.findMethod? m = some k :=
        Option.ne_none_iff_exists'.mp fun hnone => hsolid ⟨c, hc, hname, hnone⟩
      have hfunctional : v.IsFunctionalAs m := isFunctionalAs_of_functionalMethod? hc
        ((HostClass.functionalMethod?_of_name hname).trans hk) ((hv c hc).name_eq hk)
      exact becomesFunctional_of_callable hfunctional.callable
        fun run s => ⟨v, s, h run s, hfunctional⟩
    · exact becomesFunctional_of_callable hcallable
        fun run s => ⟨_, _, h run s, isFunctionalAs_proxy s.nextId m v⟩
    · exact becomesFunctional_of_uncallable hcallable h

end

/-! ### Errands -/

namespace Errands

/-- A task is something that can be run. -/
def task : ClassDecl :=
  { id := 0, name := "Task"
    methods := Table.ofList [("run", ⟨"run", ⟨[.string], .void⟩, .statements []⟩)]
    functional? := some "run" }

/-- An errand is a task, and declares nothing of its own. -/
def errand : HostClass := ⟨{ id := 1, name := "Errand" }, [task]⟩

/-- A hollow class names the method of a task without being one. -/
def hollow : HostClass := ⟨{ id := 2, name := "Hollow", functional? := some "run" }, []⟩

/-- Without methods all of them are named. -/
theorem namesMethods_hollow (i : Nat) : (Value.object (.host i hollow)).NamesMethods := by
  rintro c hc d hd n h hm
  cases hc
  obtain rfl : d = hollow.own := by simpa [hollow, HostClass.chain] using hd
  cases hm

/-- An errand has its marker and its method from a task, and is functional. -/
theorem errand_becomesFunctional :
    (Value.object (.host 3 errand)).NamesMethods ∧
      (Value.object (.host 3 errand)).BecomesFunctional "run" := by
  have hnames : (Value.object (.host 3 errand)).NamesMethods := by
    rintro c hc d hd n h hm
    cases hc
    have hd : d = errand.own ∨ d = task := by simpa [errand, HostClass.chain] using hd
    rcases hd with rfl | rfl
    · cases hm
    · simp only [task, Table.ofList, List.foldl_cons, List.foldl_nil, Table.get?_insert] at hm
      split at hm
      · rename_i heq
        cases hm
        exact heq
      · cases hm
  refine ⟨hnames, (becomesFunctional_iff hnames).mpr ?_⟩
  rintro ⟨c, hc, -, hnone⟩
  cases hc
  revert hnone
  decide

/-- An instance of a hollow class is passed on as a functional object, although there is nothing to
call: the promise is not always kept. -/
theorem not_always_functional :
    ¬ ∀ (v : Value) (m : String), v.NamesMethods → v.BecomesFunctional m := by
  intro h
  have hresult := (h (.object (.host 3 hollow)) "run" (namesMethods_hollow 3)).result
    (fun _ _ _ => pure .undefined) {} (.object (.host 3 hollow)) {} rfl
  have hcallable := hresult.callable
  revert hcallable
  decide

end Errands

end DynamicLinking
