/-
Every operation of the model is a run of the steps in which the store evolves: one lemma for each,
from the properties of script objects up to call sites and the bodies of user code.  The lemmas hold
of any kind of steps that has room for the effects of the basic operations.  A computation that
meets user code takes such steps if the user code does, and user code is run to a bounded depth, so
that an induction on the depth closes the circle.

* `takes_resolve` — serving a call of a site is a step;
* `runTakes_eval` — running an invocation is a run of steps;
* `takes_runEntry`, `evolves_invokeSite` — **user code and call sites, nested to any depth, only
  ever take steps**;
* `reachable_invokeSite` — calls of sites lead from reachable stores to reachable ones.
-/

import DynamicLinking.Proofs.Evolution

set_option autoImplicit false

namespace DynamicLinking

open Store

variable {S : Store → Store → Prop}

/-! ### Script objects and functions -/

@[simp] theorem takes_freshId [AllowsIds S] : Takes S freshId :=
  fun s => .single (AllowsIds.fresh s)

@[simp] theorem takes_getProperty (o : Object) (key : String) : Takes S (getProperty o key) := by
  simp [getProperty]

@[simp] theorem takes_defineProperty [AllowsCalls S] (o : Object) (key : String) (v : Value) :
    Takes S (defineProperty o key v) :=
  fun s => .single (AllowsCalls.define s o key v)

@[simp] theorem takes_putProperty [AllowsCalls S] (o : Object) (key : String) (v : Value)
    (isStrict : Bool) : Takes S (putProperty o key v isStrict) := by
  unfold putProperty
  refine takes_bind (takes_defineProperty o key v) fun done => ?_
  split <;> simp

@[simp] theorem takes_newScriptObject [AllowsCalls S] (p? : Option Object) :
    Takes S (newScriptObject p?) := by
  cases p? with
  | none => exact takes_bind takes_freshId fun id => by simp
  | some p => exact fun s => AllowsCalls.create s p

@[simp] theorem runTakes_callFunction (o : Object) (self : Value) (args : List Value) :
    RunTakes S (callFunction o self args) := by
  unfold callFunction
  split <;> simp

@[simp] theorem runTakes_constructPlain [AllowsCalls S] (o : Object) (c : FunctionCode)
    (args : List Value) : RunTakes S (constructPlain o c args) := by
  refine runTakes_bind (by simp) fun prototype => ?_
  exact runTakes_bind (by simp) fun made => by simp

@[simp] theorem runTakes_constructFunction [AllowsCalls S] (o : Object) (args : List Value) :
    RunTakes S (constructFunction o args) := by
  unfold constructFunction
  split
  · split <;> simp
  · split <;> simp
  · simp

/-! ### Coercions -/

@[simp] theorem runTakes_askMethods (o : Object) (ms : List String) :
    RunTakes S (askMethods o ms) := by
  induction ms with
  | nil => simp [askMethods]
  | cons m ms ih =>
      unfold askMethods
      refine runTakes_bind (by simp) fun v => ?_
      split
      · split
        · refine runTakes_bind (by simp) fun r => ?_
          split
          · simp
          · exact ih
        · exact ih
      · exact ih

@[simp] theorem runTakes_objectToPrimitive (o : Object) (hint : Hint) :
    RunTakes S (o.toPrimitive hint) := by
  unfold Object.toPrimitive
  split
  · simp
  · split
    · refine runTakes_bind (by simp) fun p? => ?_
      split <;> simp
    · simp

@[simp] theorem runTakes_toPrimitive (v : Value) (hint : Hint) :
    RunTakes S (toPrimitive v hint) := by
  cases v <;> simp [toPrimitive]

@[simp] theorem runTakes_toNumber (v : Value) : RunTakes S (toNumber v) := by
  simp [toNumber]

@[simp] theorem runTakes_toText (v : Value) : RunTakes S (toText v) := by
  simp [toText]

@[simp] theorem runTakes_memberKey (d : Descriptor) (args : List Value) :
    RunTakes S (d.memberKey args) := by
  unfold Descriptor.memberKey
  split <;> simp

/-! ### Conversions -/

@[simp] theorem takes_functionalProxy [AllowsIds S] (v : Value) (m : String) :
    Takes S (functionalProxy v m) := by
  unfold functionalProxy
  split <;> simp

@[simp] theorem runTakes_convertToPrimitive (v : Value) (t : StaticType) :
    RunTakes S (convertToPrimitive v t) := by
  unfold convertToPrimitive
  split <;> simp

@[simp] theorem runTakes_convertValue [AllowsIds S] (v : Value) (t : StaticType) :
    RunTakes S (convertValue v t) := by
  unfold convertValue
  split
  · simp
  · split
    all_goals first
      | (split <;> simp)
      | simp

@[simp] theorem runTakes_convertArguments [AllowsIds S] (ts : List StaticType) (args : List Value) :
    RunTakes S (convertArguments ts args) := by
  induction ts generalizing args with
  | nil => simp [convertArguments]
  | cons t ts ih => simp [convertArguments, ih]

/-! ### Foreign objects -/

@[simp] theorem takes_getMember (o : Object) (name : String) : Takes S (o.getMember name) := by
  unfold Object.getMember
  split
  · refine takes_bind takes_get fun s => ?_
    dsimp only
    split <;> simp
  · simp
  · simp

@[simp] theorem takes_setMember [AllowsCalls S] (o : Object) (name : String) (v : Value) :
    Takes S (o.setMember name v) := by
  unfold Object.setMember
  split
  · split
    · simp
    · exact takes_modify fun s => AllowsCalls.setForeign s _ _
  · simp
  · simp

@[simp] theorem takes_getSlot (o : Object) (i : Int) : Takes S (o.getSlot i) :=
  takes_getMember o _

@[simp] theorem takes_setSlot [AllowsCalls S] (o : Object) (i : Int) (v : Value) :
    Takes S (o.setSlot i v) :=
  takes_setMember o _ v

@[simp] theorem runTakes_callForeign (o : Object) (self : Value) (args : List Value) :
    RunTakes S (o.callForeign self args) := by
  unfold Object.callForeign
  split
  · split <;> simp
  · split <;> simp
  · simp

@[simp] theorem runTakes_constructForeign [AllowsCalls S] (o : Object) (args : List Value) :
    RunTakes S (o.constructForeign args) := by
  unfold Object.constructForeign
  split
  · split <;> simp
  · split <;> simp
  · simp

@[simp] theorem takes_exportValue [AllowsIds S] (v : Value) : Takes S (exportValue v) := by
  unfold exportValue newMirror?
  split <;> simp

/-! ### Calls -/

@[simp] theorem runTakes_invokeHost [AllowsIds S] (m : HostMethod) (self : Value)
    (args : List Value) : RunTakes S (invokeHost m self args) := by
  simp [invokeHost]

@[simp] theorem runTakes_callMethodRef [AllowsIds S] (c : HostClass) (name : String)
    (isStatic : Bool) (self : Value) (args : List Value) :
    RunTakes S (callMethodRef c name isStatic self args) := by
  unfold callMethodRef
  split
  · simp
  · split
    · simp
    · split <;> simp

@[simp] theorem runTakes_constructClass [AllowsIds S] (c : HostClass) (args : List Value) :
    RunTakes S (constructClass c args) := by
  unfold constructClass
  split <;> simp

@[simp] theorem runTakes_callFunctional [AllowsIds S] (c : HostClass) (self : Value)
    (args : List Value) : RunTakes S (callFunctional c self args) := by
  unfold callFunctional
  split <;> simp

/-- The recursion is on bound callables, whose callee is a part of them. -/
@[simp] theorem runTakes_callValue [AllowsIds S] (callee self : Value) (args : List Value) :
    RunTakes S (callValue callee self args) := by
  fun_induction callValue callee self args with
  | case1 id callee bound leading self args ih => exact ih
  | _ => simp_all

@[simp] theorem runTakes_constructValue [AllowsCalls S] (callee : Value) (args : List Value) :
    RunTakes S (constructValue callee args) := by
  fun_induction constructValue callee args with
  | case1 id callee bound leading args ih => exact ih
  | _ => simp_all

@[simp] theorem takes_bindGeneric [AllowsIds S] (v self : Value) (leading : List Value) :
    Takes S (bindGeneric v self leading) := by
  refine takes_bind takes_freshId fun id => ?_
  split <;> simp

/-! ### Invocations -/

@[simp] theorem runTakes_resultFilter [AllowsIds S] (f : ResultFilter) (v : Value) :
    RunTakes S (f.apply v) := by
  unfold ResultFilter.apply
  split
  all_goals first
    | (split <;> simp)
    | simp

theorem runTakes_mapM (f : Value → RunM Value) (hf : ∀ v, RunTakes S (f v)) (args : List Value) :
    RunTakes S (args.mapM f) := by
  induction args with
  | nil => simp
  | cons v args ih =>
      rw [List.mapM_cons]
      exact runTakes_bind (hf v) fun w => by simp [ih]

@[simp] theorem runTakes_argumentFilter [AllowsIds S] (f : ArgumentFilter) (args : List Value) :
    RunTakes S (f.apply args) := by
  cases f with
  | convert ts => simp [ArgumentFilter.apply]
  | wrapScripts => exact runTakes_mapM _ (fun v => by simp) args

@[simp] theorem takes_checkCallee (p : PolicyRef) (v : Value) : Takes S (checkCallee p v) := by
  simp [checkCallee]

@[simp] theorem takes_newMethodRef [AllowsIds S] (c : HostClass) (name : String)
    (isStatic : Bool) : Takes S (newMethodRef c name isStatic) := by
  simp [newMethodRef]

@[simp] theorem runTakes_runGetter (m : HostMethod) (self : Value) :
    RunTakes S (runGetter m self) :=
  runTakes_enter _ _ _

@[simp] theorem runTakes_evalCallable [AllowsCalls S] (d : Descriptor) (args : List Value) :
    RunTakes S (evalCallable d args) := by
  unfold evalCallable
  dsimp only
  split <;> simp

@[simp] theorem runTakes_evalScriptGet (d : Descriptor) (args : List Value) :
    RunTakes S (evalScriptGet d args) := by
  refine runTakes_bind (by simp) fun key => ?_
  split <;> simp

@[simp] theorem runTakes_evalScriptSet [AllowsCalls S] (d : Descriptor) (args : List Value) :
    RunTakes S (evalScriptSet d args) := by
  refine runTakes_bind (by simp) fun key => ?_
  split <;> simp

@[simp] theorem runTakes_evalMissingSet [AllowsCalls S] (d : Descriptor) (args : List Value) :
    RunTakes S (evalMissingSet d args) := by
  unfold evalMissingSet
  split <;> simp

@[simp] theorem runTakes_evalStringGet (d : Descriptor) (args : List Value) :
    RunTakes S (evalStringGet d args) := by
  refine runTakes_bind (by simp) fun key => ?_
  split <;> simp

@[simp] theorem takes_superMethod [AllowsIds S] (p : PolicyRef) (adapter : Value) (name : String) :
    Takes S (superMethod p adapter name) := by
  unfold superMethod
  split
  · simp
  · refine takes_bind (by simp) fun _ => ?_
    dsimp only
    split <;> simp

@[simp] theorem runTakes_evalSuperGet [AllowsIds S] (d : Descriptor) (p : PolicyRef)
    (args : List Value) : RunTakes S (evalSuperGet d p args) := by
  refine runTakes_bind (by simp) fun key => ?_
  split <;> simp

@[simp] theorem takes_foreignReceiver (v : Value) : Takes S (foreignReceiver v) := by
  unfold foreignReceiver
  split <;> simp

@[simp] theorem runTakes_evalForeignGet (d : Descriptor) (args : List Value) :
    RunTakes S (evalForeignGet d args) := by
  refine runTakes_bind (by simp) fun key => runTakes_bind (by simp) fun o => ?_
  split <;> simp

@[simp] theorem runTakes_evalForeignSet [AllowsCalls S] (d : Descriptor) (args : List Value) :
    RunTakes S (evalForeignSet d args) := by
  refine runTakes_bind (by simp) fun key => runTakes_bind (by simp) fun o => ?_
  split <;> simp

@[simp] theorem runTakes_evalStaticMember [AllowsIds S] (c : HostClass) (d : Descriptor)
    (args : List Value) : RunTakes S (evalStaticMember c d args) := by
  refine runTakes_bind (by simp) fun key => ?_
  split
  · simp
  · split <;> simp

@[simp] theorem runTakes_evalHostMember [AllowsIds S] (c : HostClass) (d : Descriptor)
    (args : List Value) : RunTakes S (evalHostMember c d args) := by
  refine runTakes_bind (by simp) fun key => ?_
  dsimp only
  split
  · split <;> simp
  · split <;> simp

@[simp] theorem runTakes_evalMethodCall [AllowsIds S] (d : Descriptor) (args : List Value) :
    RunTakes S (evalMethodCall d args) := by
  unfold evalMethodCall
  split <;> simp

@[simp] theorem runTakes_evalNullish (d : Descriptor) (args : List Value) :
    RunTakes S (evalNullish d args) := by
  unfold evalNullish
  dsimp only
  split
  · simp
  · split <;> simp

/-- The induction is on the filters around the operation of a linker. -/
@[simp] theorem runTakes_eval [AllowsCalls S] (c : Code) (args : List Value) :
    RunTakes S (c.eval args) := by
  induction c generalizing args with
  | filterResult c f ih => exact runTakes_bind (ih args) fun v => by simp
  | filterArguments c f ih => exact runTakes_bind (by simp) fun as => ih as
  | checkedCallable d p => exact runTakes_bind (by simp) fun _ => by simp
  | foreignCall d => exact runTakes_bind (by simp) fun _ => by simp
  | foreignNew d => exact runTakes_bind (by simp) fun _ => by simp
  | _ => simp [Code.eval]

/-! ### Call sites -/

@[simp] theorem takes_resolve [AllowsCalls S] (id : Nat) (args : List Value) :
    Takes S (resolve id args) :=
  fun s => .single (AllowsCalls.serve s id args)

@[simp] theorem runTakes_invokeSite [AllowsCalls S] (id : Nat) (args : List Value) :
    RunTakes S (invokeSite id args) := by
  -- the site is done with the call before its invocation runs, so that bodies may call it again
  refine runTakes_bind (by simp) fun i => ?_
  exact runTakes_eval i.code args

/-! ### User code -/

@[simp] theorem takes_assignTo [AllowsBodies S] (target : Value) (key : String) (v : Value) :
    Takes S (assignTo target key v) := by
  unfold assignTo
  split
  · split
    · simp
    · split
      · exact takes_modify fun s => AllowsBodies.setField s _ key v
      · simp
  · simp

@[simp] theorem takes_newHostObject [AllowsBodies S] (c : HostClass) (fields : List
    (String × Value)) : Takes S (newHostObject c fields) := by
  -- the object and its fields come in one step
  exact fun s => .single (AllowsBodies.make s fields)

@[simp] theorem runTakes_exec [AllowsBodies S] (self : Value) (args : List Value) (st : Statement) :
    RunTakes S (st.exec self args) := by
  cases st with
  | invoke site es =>
      refine runTakes_bind runTakes_get fun s => ?_
      split <;> simp
  | instantiate c fs =>
      refine runTakes_bind runTakes_get fun s => ?_
      split <;> simp
  | assign e key v => exact runTakes_bind runTakes_get fun s => by simp
  | call f t es => exact runTakes_bind runTakes_get fun s => by simp
  | _ => simp [Statement.exec]

@[simp] theorem runTakes_runBody [AllowsBodies S] (self : Value) (args : List Value) (b : Body) :
    RunTakes S (runBody self args b) := by
  induction b with
  | nil => simp [runBody]
  | cons st b ih =>
      refine runTakes_bind (by simp) fun answer => ?_
      cases answer with
      | none => exact ih
      | some v => simp

@[simp] theorem takes_writeField [AllowsBodies S] (self : Value) (key : String) (v : Value) :
    Takes S (writeField self key v) := by
  unfold writeField
  split
  · split
    · exact takes_modify fun s => AllowsBodies.setField s _ key v
    · simp
  · simp

@[simp] theorem runTakes_runHost [AllowsBodies S] (b : HostBody) (self : Value)
    (args : List Value) : RunTakes S (runHost b self args) := by
  unfold runHost
  split
  · simp
  · simp
  · simp
  · simp
  · split <;> simp

@[simp] theorem runTakes_entry [AllowsBodies S] (e : Entry) (self : Value) (args : List Value) :
    RunTakes S (e.run self args) := by
  cases e <;> simp [Entry.run]

/-- User code only takes steps, however deep its calls are nested. -/
theorem takes_runEntry [AllowsBodies S] (n : Nat) (e : Entry) (self : Value) (args : List Value) :
    Takes S (runEntry n e self args) := by
  -- induction on the depth: the code at a depth meets user code one level deeper only
  induction n generalizing e self args with
  | zero => simp [runEntry]
  | succ n ih => exact runTakes_entry e self args _ ih

/-- Computations with their user code run only take steps. -/
theorem RunTakes.toStore [AllowsBodies S] {α : Type} {m : RunM α} (h : RunTakes S m) :
    Takes S m.toStore :=
  h _ (takes_runEntry maxDepth)

/-- A call of a site with all the user code that it runs is a run of steps. -/
theorem evolves_invokeSite (id : Nat) (args : List Value) (s : Store) :
    s.Evolves ((invokeSite id args).toStore.after s) :=
  (runTakes_invokeSite id args).toStore s

/-- The reachable stores are closed under calls of sites, whether they fail or not. -/
theorem reachable_invokeSite {s : Store} (h : s.Reachable) (id : Nat) (args : List Value) :
    ((invokeSite id args).toStore.after s).Reachable :=
  h.evolves (evolves_invokeSite id args s)

end DynamicLinking
