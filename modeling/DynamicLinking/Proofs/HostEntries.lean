/-
User code is run through a parameter, so that what a computation enters can be told from what it
depends on: if it does the same for any two meanings of user code that agree on some uses of host
methods, then it enters host methods on those uses only.  This principle is carried through every
operation by its parts.  In the end only a few of them enter host methods at all, and those that do
convert the arguments before.

Main definitions:

* `EntersOnly` — **a computation enters host methods on uses of one kind only**;
* `RunM.Enters` — a computation enters a host method on a receiver and arguments;
* `RunM.ComesTo` — it does so before it runs any other user code;
* `Converted` — arguments that came out of a conversion;
* `HostMethod.Receives` — the receivers with which members are run;
* `Value.Uses` — the uses of host methods in calls of a value.

Main results:

* `EntersOnly.of_enters` — what is entered is of the kind;
* `entersOnly_bind` — a sequence enters what its parts enter;
* `entersOnly_callValue`, `entersOnly_constructValue` — **calls and constructions run host methods
  on the right receivers and on converted arguments**.
-/

import DynamicLinking.Proofs.Members
import DynamicLinking.Proofs.Outcomes
import DynamicLinking.Proofs.RunEvolution
import Mathlib.Data.List.Forall2
import Mathlib.Tactic.ByContra

set_option autoImplicit false

namespace DynamicLinking

/-! ### What a computation depends on -/

/-- A kind of uses of host methods: the method, the receiver and the arguments. -/
abbrev HostUse := HostMethod → Value → List Value → Prop

/-- The two meanings of user code agree on everything but host methods, and on the uses of host
methods of one kind. -/
structure Runner.AgreeOn (P : HostUse) (run run' : Runner) : Prop where
  code : ∀ b self args, run (.code b) self args = run' (.code b) self args
  host : ∀ h self args, P h self args → run (.host h) self args = run' (.host h) self args

/-- The computation enters host methods on uses of one kind only: what user code makes of all other
uses has no influence on it. -/
def EntersOnly {α : Type} (P : HostUse) (m : RunM α) : Prop :=
  ∀ run run' : Runner, run.AgreeOn P run' → m run = m run'

/-- The computation, from a store and with a meaning of user code, enters the host method on the
receiver and the arguments: if this entry alone went otherwise, the computation could, too. -/
def RunM.Enters {α : Type} (m : RunM α) (run : Runner) (s : Store) (h : HostMethod) (self : Value)
    (args : List Value) : Prop :=
  ∃ run' : Runner,
    (∀ e self' args', ¬ (e = .host h ∧ self' = self ∧ args' = args) →
      run' e self' args' = run e self' args') ∧
    m run' s ≠ m run s

section

variable {α β : Type} {P Q : HostUse} {run : Runner} {s : Store} {h : HostMethod} {self : Value}
  {args : List Value}

/-- **What a computation enters is of the kind that it enters only.** -/
theorem EntersOnly.of_enters {m : RunM α} (hm : EntersOnly P m)
    (henters : m.Enters run s h self args) : P h self args := by
  obtain ⟨run', hsame, hne⟩ := henters
  by_contra hP
  refine hne (congrFun (hm run' run ⟨fun b self' args' => ?_, fun h' self' args' hP' => ?_⟩) s)
  · exact hsame _ _ _ fun hb => nomatch hb.1
  · refine hsame _ _ _ ?_
    rintro ⟨he, rfl, rfl⟩
    obtain rfl : h' = h := Entry.host.inj he
    exact hP hP'

/-- A computation that goes on like another one enters what that one enters. -/
theorem RunM.Enters.of_eq {m m' : RunM α} {t : Store} (hm : ∀ run, m run s = m' run t)
    (henters : m.Enters run s h self args) : m'.Enters run t h self args := by
  obtain ⟨run', hsame, hne⟩ := henters
  exact ⟨run', hsame, by rwa [← hm, ← hm]⟩

/-- The computation comes to a host method without having run any user code before. -/
def RunM.ComesTo (m : RunM α) (s : Store) (h : HostMethod) (self : Value) (args : List Value) :
    Prop :=
  ∃ (f : Value → RunM α) (t : Store), ∀ run, m run s = (enter (.host h) self args >>= f) run t

namespace RunM.ComesTo

theorem enter (h : HostMethod) (self : Value) (args : List Value) (s : Store) :
    RunM.ComesTo (DynamicLinking.enter (.host h) self args) s h self args :=
  ⟨pure, s, fun run => by rw [bind_pure]⟩

theorem of_eq {m m' : RunM α} {t : Store} (hm' : m'.ComesTo t h self args)
    (hm : ∀ run, m run s = m' run t) : m.ComesTo s h self args := by
  obtain ⟨f, u, hu⟩ := hm'
  exact ⟨f, u, fun run => (hm run).trans (hu run)⟩

theorem bind {m : RunM α} (hm : m.ComesTo s h self args) (f : α → RunM β) :
    (m >>= f).ComesTo s h self args := by
  obtain ⟨g, t, ht⟩ := hm
  refine ⟨fun v => g v >>= f, t, fun run => ?_⟩
  rw [← bind_assoc]
  rw [RunM.bind_apply, RunM.bind_apply, StoreM.bind_apply, StoreM.bind_apply, ht]

theorem of_ok {m : RunM α} {f : α → RunM β} {a : α} {t : Store}
    (hf : (f a).ComesTo t h self args) (hm : ∀ run, m run s = .ok a t) :
    (m >>= f).ComesTo s h self args :=
  hf.of_eq fun run => RunM.bind_of_ok (hm run) f

/-- **A computation that comes to a host method enters it**, whatever it does with the outcome. -/
theorem enters {m : RunM α} (hm : m.ComesTo s h self args) (run : Runner) :
    m.Enters run s h self args := by
  obtain ⟨f, t, hm⟩ := hm
  classical
  -- the entry could also have failed, with a fault that is not that of the computation
  obtain ⟨fault, hfault⟩ : ∃ fault, (.error fault t : EStateM.Result Fault Store α) ≠ m run s := by
    cases hr : m run s with
    | ok a u => exact ⟨.tooDeep, nofun⟩
    | error e u =>
        by_cases he : e = .tooDeep
        · exact ⟨.unknownSite 0, by rw [he]; nofun⟩
        · exact ⟨.tooDeep, fun heq => he (EStateM.Result.error.inj heq).1.symm⟩
  refine ⟨fun e self' args' =>
    if e = .host h ∧ self' = self ∧ args' = args then throw fault else run e self' args', ?_, ?_⟩
  · intro e self' args' hne
    exact if_neg hne
  · rw [hm]
    have hentry : DynamicLinking.enter (.host h) self args (fun e self' args' =>
        if e = .host h ∧ self' = self ∧ args' = args then throw fault else run e self' args') t =
          .error fault t := by
      rw [DynamicLinking.enter, if_pos ⟨rfl, rfl, rfl⟩]
      rfl
    rw [RunM.bind_of_error hentry]
    exact hfault

end RunM.ComesTo

theorem EntersOnly.mono {m : RunM α} (hm : EntersOnly P m) (hPQ : ∀ h self args,
    P h self args → Q h self args) : EntersOnly Q m :=
  fun run run' hagree => hm run run' ⟨hagree.code, fun h self args hP =>
    hagree.host h self args (hPQ h self args hP)⟩

@[simp] theorem entersOnly_pure (a : α) : EntersOnly P (pure a : RunM α) :=
  fun _ _ _ => rfl

/-- A computation that runs no user code enters nothing. -/
@[simp] theorem entersOnly_lift (m : StoreM α) : EntersOnly P (liftM m : RunM α) :=
  fun _ _ _ => rfl

@[simp] theorem entersOnly_monadLift (m : StoreM α) :
    EntersOnly P (MonadLift.monadLift m : RunM α) :=
  fun _ _ _ => rfl

@[simp] theorem entersOnly_get : EntersOnly P (get : RunM Store) :=
  fun _ _ _ => rfl

/-- A sequence enters what its first part enters, and what the rest enters after the results that
the first part can have. -/
theorem entersOnly_bind_of_ok {m : RunM α} {f : α → RunM β} (hm : EntersOnly P m)
    (hf : ∀ run s a t, m run s = .ok a t → EntersOnly P (f a)) : EntersOnly P (m >>= f) := by
  intro run run' hagree
  funext s
  rw [RunM.bind_apply, RunM.bind_apply, ← hm run run' hagree, StoreM.bind_apply,
    StoreM.bind_apply]
  cases hr : m run s with
  | ok a t => exact congrFun (hf run s a t hr run run' hagree) t
  | error e t => rfl

@[simp] theorem entersOnly_bind {m : RunM α} {f : α → RunM β} (hm : EntersOnly P m)
    (hf : ∀ a, EntersOnly P (f a)) : EntersOnly P (m >>= f) :=
  entersOnly_bind_of_ok hm fun _ _ a _ _ => hf a

@[simp] theorem entersOnly_map {m : RunM α} {f : α → β} (hm : EntersOnly P m) :
    EntersOnly P (f <$> m) := by
  rw [map_eq_pure_bind]
  exact entersOnly_bind hm fun a => entersOnly_pure _

@[simp] theorem entersOnly_enterCode (b : Body) (self : Value) (args : List Value) :
    EntersOnly P (enter (.code b) self args) :=
  fun _ _ hagree => hagree.code b self args

theorem entersOnly_enterHost (hP : P h self args) : EntersOnly P (enter (.host h) self args) :=
  fun _ _ hagree => hagree.host h self args hP

/-! ### Operations that enter no host method

Coercions ask the methods of script objects, which are script functions. -/

@[simp] theorem entersOnly_callFunction (o : Object) (self : Value) (args : List Value) :
    EntersOnly P (callFunction o self args) := by
  unfold callFunction
  split <;> simp

@[simp] theorem entersOnly_constructPlain (o : Object) (c : FunctionCode) (args : List Value) :
    EntersOnly P (constructPlain o c args) := by
  refine entersOnly_bind (by simp) fun prototype => ?_
  exact entersOnly_bind (by simp) fun made => by simp

@[simp] theorem entersOnly_constructFunction (o : Object) (args : List Value) :
    EntersOnly P (constructFunction o args) := by
  unfold constructFunction
  split
  · split <;> simp
  · split <;> simp
  · simp

@[simp] theorem entersOnly_askMethods (o : Object) (ms : List String) :
    EntersOnly P (askMethods o ms) := by
  induction ms with
  | nil => simp [askMethods]
  | cons m ms ih =>
      unfold askMethods
      refine entersOnly_bind (by simp) fun v => ?_
      split
      · split
        · refine entersOnly_bind (by simp) fun r => ?_
          split
          · simp
          · exact ih
        · exact ih
      · exact ih

@[simp] theorem entersOnly_toPrimitive (v : Value) (hint : Hint) :
    EntersOnly P (toPrimitive v hint) := by
  cases v with
  | primitive p => simp [toPrimitive]
  | object o =>
      unfold toPrimitive Object.toPrimitive
      dsimp only
      split
      · simp
      · split
        · refine entersOnly_bind (by simp) fun p? => ?_
          split <;> simp
        · simp

@[simp] theorem entersOnly_toNumber (v : Value) : EntersOnly P (toNumber v) := by
  simp [toNumber]

@[simp] theorem entersOnly_toText (v : Value) : EntersOnly P (toText v) := by
  simp [toText]

@[simp] theorem entersOnly_memberKey (d : Descriptor) (args : List Value) :
    EntersOnly P (d.memberKey args) := by
  unfold Descriptor.memberKey
  split <;> simp

@[simp] theorem entersOnly_convertToPrimitive (v : Value) (t : StaticType) :
    EntersOnly P (convertToPrimitive v t) := by
  unfold convertToPrimitive
  split <;> simp

@[simp] theorem entersOnly_convertValue (v : Value) (t : StaticType) :
    EntersOnly P (convertValue v t) := by
  unfold convertValue
  split
  · simp
  · split
    all_goals first
      | (split <;> simp)
      | simp

@[simp] theorem entersOnly_convertArguments (ts : List StaticType) (args : List Value) :
    EntersOnly P (convertArguments ts args) := by
  induction ts generalizing args with
  | nil => simp [convertArguments]
  | cons t ts ih => simp [convertArguments, ih]

@[simp] theorem entersOnly_callForeign (o : Object) (self : Value) (args : List Value) :
    EntersOnly P (o.callForeign self args) := by
  unfold Object.callForeign
  split
  · split <;> simp
  · split <;> simp
  · simp

@[simp] theorem entersOnly_constructForeign (o : Object) (args : List Value) :
    EntersOnly P (o.constructForeign args) := by
  unfold Object.constructForeign
  split
  · split <;> simp
  · split <;> simp
  · simp

end

section

variable {P : HostUse}

/-! ### Operations on script, primitive and foreign values -/

@[simp] theorem entersOnly_evalScriptGet (d : Descriptor) (args : List Value) :
    EntersOnly P (evalScriptGet d args) := by
  refine entersOnly_bind (by simp) fun key => ?_
  split <;> simp

@[simp] theorem entersOnly_evalScriptSet (d : Descriptor) (args : List Value) :
    EntersOnly P (evalScriptSet d args) := by
  refine entersOnly_bind (by simp) fun key => ?_
  split <;> simp

@[simp] theorem entersOnly_evalMissingSet (d : Descriptor) (args : List Value) :
    EntersOnly P (evalMissingSet d args) := by
  unfold evalMissingSet
  split <;> simp

@[simp] theorem entersOnly_evalStringGet (d : Descriptor) (args : List Value) :
    EntersOnly P (evalStringGet d args) := by
  refine entersOnly_bind (by simp) fun key => ?_
  split <;> simp

@[simp] theorem entersOnly_evalSuperGet (d : Descriptor) (p : PolicyRef) (args : List Value) :
    EntersOnly P (evalSuperGet d p args) := by
  refine entersOnly_bind (by simp) fun key => ?_
  split <;> simp

@[simp] theorem entersOnly_evalForeignGet (d : Descriptor) (args : List Value) :
    EntersOnly P (evalForeignGet d args) := by
  refine entersOnly_bind (by simp) fun key => entersOnly_bind (by simp) fun o => ?_
  split <;> simp

@[simp] theorem entersOnly_evalForeignSet (d : Descriptor) (args : List Value) :
    EntersOnly P (evalForeignSet d args) := by
  refine entersOnly_bind (by simp) fun key => entersOnly_bind (by simp) fun o => ?_
  split <;> simp

@[simp] theorem entersOnly_evalNullish (d : Descriptor) (args : List Value) :
    EntersOnly P (evalNullish d args) := by
  unfold evalNullish
  dsimp only
  split
  · simp
  · split <;> simp

/-! ### Filters -/

@[simp] theorem entersOnly_resultFilter (f : ResultFilter) (v : Value) :
    EntersOnly P (f.apply v) := by
  unfold ResultFilter.apply
  split
  all_goals first
    | (split <;> simp)
    | simp

@[simp] theorem entersOnly_finish (f? : Option ResultFilter) (v : Value) :
    EntersOnly P (finish f? v) := by
  cases f? with
  | none => exact entersOnly_pure v
  | some f => exact entersOnly_resultFilter f v

@[simp] theorem entersOnly_wrapScripts (args : List Value) :
    EntersOnly P (ArgumentFilter.wrapScripts.apply args) := by
  rw [ArgumentFilter.apply]
  induction args with
  | nil => simp
  | cons v args ih =>
      rw [List.mapM_cons]
      exact entersOnly_bind (by simp) fun w => by simp [ih]

end

/-! ### Converted arguments -/

/-- The arguments came out of a conversion of the given ones to the types of parameters. -/
def Converted (ts : List StaticType) (given args : List Value) : Prop :=
  ∃ run s t, convertArguments ts given run s = .ok args t

/-- A conversion that ends well ends well for the first argument, and then for the others. -/
theorem convertArguments_cons_eq_ok {t : StaticType} {ts : List StaticType}
    {given args : List Value} {run : Runner} {s u : Store}
    (h : convertArguments (t :: ts) given run s = .ok args u) :
    ∃ w ws s', args = w :: ws ∧ convertValue (given.head?.getD .undefined) t run s = .ok w s' ∧
      convertArguments ts given.tail run s' = .ok ws u := by
  obtain ⟨w, s', hw, hrest⟩ := RunM.bind_eq_ok h
  obtain ⟨ws, u', hws, hargs⟩ := RunM.bind_eq_ok hrest
  cases hargs
  exact ⟨w, ws, s', rfl, hw, hws⟩

/-- **There is an argument for every parameter, of the type of the parameter**, and the arguments
without a parameter are the given ones. -/
theorem Converted.exists_append {ts : List StaticType} {given args : List Value}
    (h : Converted ts given args) :
    ∃ converted, args = converted ++ given.drop ts.length ∧
      List.Forall₂ (fun t v => t.admits v = true) ts converted := by
  obtain ⟨run, s, u, h⟩ := h
  -- induction on the parameters, which take the given arguments one by one
  induction ts generalizing given args s with
  | nil =>
      cases h
      exact ⟨[], rfl, .nil⟩
  | cons t ts ih =>
      obtain ⟨w, ws, s', rfl, hw, hws⟩ := convertArguments_cons_eq_ok h
      obtain ⟨converted, rfl, hadmits⟩ := ih s' hws
      refine ⟨w :: converted, ?_, .cons (admits_of_convertValue hw) hadmits⟩
      simp

/-! ### Calls -/

namespace Value

/-- What is called or constructed in the end: a bound callable stands for what is bound. -/
def target : Value → Value
  | .object (.bound _ callee _ _) => callee.target
  | v => v

/-- The arguments that reach the target: those that are bound come first. -/
def splice : Value → List Value → List Value
  | .object (.bound _ callee _ leading), args => callee.splice (leading ++ args)
  | _, args => args

/-- The class whose static members and whose constructor a value stands for. -/
def staticClass? : Value → Option HostClass
  | .object (.methodRef _ c _ true) => some c
  | .object (.staticClass _ c) => some c
  | _ => none

end Value

/-- The receivers with which a member is run when an operation is about a value: an instance of the
class that declares the member, or nothing if the member is static. -/
inductive HostMethod.Receives (h : HostMethod) (v : Value) : Value → Prop where
  | member {self : Value} {c k : HostClass} (hself : self.hostClass? = some c)
      (hassignable : c.isAssignableTo k = true) (hmember : k.own.HasMember h) : Receives h v self
  | static {c : HostClass} (hclass : v.target.staticClass? = some c)
      (hmember : c.own.HasStaticMember h) : Receives h v .undefined

theorem HostMethod.Receives.bound {h : HostMethod} {callee self bound : Value}
    {leading : List Value} (hreceives : h.Receives callee self) (id : Nat) :
    h.Receives (.object (.bound id callee bound leading)) self := by
  cases hreceives with
  | member hself hassignable hmember => exact .member hself hassignable hmember
  | static hclass hmember => exact .static hclass hmember

/-- The uses of host methods in calls and constructions of a value with given arguments. -/
def Value.Uses (callee : Value) (given : List Value) : HostUse := fun h self args =>
  h.Receives callee self ∧ Converted h.signature.params (callee.splice given) args

section

variable {P : HostUse} {self : Value} {given : List Value}

/-- A host method is run on converted arguments. -/
theorem entersOnly_invokeHost {h : HostMethod}
    (hP : ∀ args, Converted h.signature.params given args → P h self args) :
    EntersOnly P (invokeHost h self given) :=
  entersOnly_bind_of_ok (entersOnly_convertArguments _ _) fun run s args t hargs =>
    entersOnly_enterHost (hP args ⟨run, s, t, hargs⟩)

theorem entersOnly_callMethodRef (i : Nat) (c : HostClass) (m : String) (isStatic : Bool)
    (self : Value) (given : List Value) :
    EntersOnly ((Value.object (.methodRef i c m isStatic)).Uses given)
      (callMethodRef c m isStatic self given) := by
  unfold callMethodRef
  cases isStatic with
  | true =>
      cases hm : c.findStaticMethod? m with
      | none => simp
      | some h =>
          exact entersOnly_invokeHost fun args hargs => ⟨.static rfl (.inl ⟨m, hm⟩), hargs⟩
  | false =>
      cases hm : c.findMethod? m with
      | none => simp
      | some h =>
          -- the method may come from an ancestor, and so may what is assignable to the class
          obtain ⟨k, hk, hmember⟩ := HostClass.exists_of_findMethod? hm
          simp only [Bool.false_eq_true, if_false]
          split
          · rename_i hself
            obtain ⟨d, hd, hdc⟩ := (Option.any_eq_true _ _).mp hself
            exact entersOnly_invokeHost fun args hargs =>
              ⟨.member hd (HostClass.isAssignableTo_trans hdc hk) hmember, hargs⟩
          · simp

theorem entersOnly_constructClass (i : Nat) (c : HostClass) (given : List Value) :
    EntersOnly ((Value.object (.staticClass i c)).Uses given) (constructClass c given) := by
  unfold constructClass
  cases hm : c.own.constructor? with
  | none => simp
  | some h =>
      exact entersOnly_invokeHost fun args hargs => ⟨.static rfl (.inr (.inr hm)), hargs⟩

/-- The method of an instance that names a single method is run on the instance itself. -/
theorem entersOnly_callFunctional {v : Value} {c : HostClass} (hself : self.hostClass? = some c)
    (hsplice : v.splice given = given) :
    EntersOnly (v.Uses given) (callFunctional c self given) := by
  unfold callFunctional
  cases hm : c.functionalMethod? with
  | none => simp
  | some h =>
      obtain ⟨n, hn⟩ := HostClass.exists_findMethod?_of_functionalMethod? hm
      obtain ⟨k, hk, hmember⟩ := HostClass.exists_of_findMethod? hn
      exact entersOnly_invokeHost fun args hargs => ⟨.member hself hk hmember, by rwa [hsplice]⟩

/-- **A call runs host methods on the right receivers and on converted arguments**: of a bound
callable, those of what is bound, on the bound arguments and then the given ones. -/
theorem entersOnly_callValue (callee self : Value) (given : List Value) :
    EntersOnly (callee.Uses given) (callValue callee self given) := by
  fun_induction callValue callee self given with
  | case1 id callee bound leading self args ih =>
      exact ih.mono fun h self args huse => ⟨huse.1.bound id, huse.2⟩
  | case2 i c m isStatic self args => exact entersOnly_callMethodRef i c m isStatic self args
  | case3 i c self args => exact entersOnly_constructClass i c args
  | case4 i c self args => exact entersOnly_callFunctional rfl rfl
  | case5 i m t self args => exact entersOnly_callFunctional rfl rfl
  | _ => simp

/-- **A construction runs host methods on converted arguments.** -/
theorem entersOnly_constructValue (callee : Value) (given : List Value) :
    EntersOnly (callee.Uses given) (constructValue callee given) := by
  fun_induction constructValue callee given with
  | case1 id callee bound leading args ih =>
      exact ih.mono fun h self args huse => ⟨huse.1.bound id, huse.2⟩
  | case2 i c args => exact entersOnly_constructClass i c args
  | _ => simp

end

end DynamicLinking
