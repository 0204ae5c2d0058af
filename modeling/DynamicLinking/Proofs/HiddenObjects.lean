/-
Host code is meant to see mirrors in the place of script objects.  Every operation of a call site
that runs host members exports its operands first, but for one: what is behind a bound callable gets
the bound arguments and those of the call as they are.  The conversion to the types of the
parameters then keeps script objects out unless a parameter takes any value, so that this is where
they get through.

Main definitions:

* `Shown` — a script object stands where the parameters take any value.

Main results:

* `script?_eq_none_of_admits` — only `object` has script objects among its values;
* `Converted.exists_script_iff` — **which script objects get through a conversion**;
* `hidden_iff` — **when host code sees no script object**.
-/

import DynamicLinking.Proofs.HostCalls

set_option autoImplicit false

namespace DynamicLinking

/-! ### Script objects and conversions -/

/-- Only `object` has script objects among its values. -/
theorem script?_eq_none_of_admits {t : StaticType} {v : Value} (ht : t ≠ .object)
    (h : t.admits v = true) : v.script? = none := by
  cases v with
  | primitive p => rfl
  | object o =>
      cases t with
      | object => exact absurd rfl ht
      | functional m => cases o <;> first | rfl | cases h
      | _ => cases h

/-- A script object gets through a conversion exactly if any value does. -/
theorem script?_of_convertValue {v w : Value} {t : StaticType} {run : Runner} {s u : Store}
    (h : convertValue v t run s = .ok w u) :
    w.script? ≠ none ↔ v.script? ≠ none ∧ t = .object := by
  by_cases ht : t = .object
  · subst ht
    rw [convertValue_object] at h
    cases h
    simp
  · have hw : w.script? = none := script?_eq_none_of_admits ht (admits_of_convertValue h)
    simp [hw, ht]

/-- A script object stands among given arguments where the parameters take any value: where the type
is `object`, or after the last parameter. -/
def Shown (ts : List StaticType) (given : List Value) : Prop :=
  ∃ (i : Nat) (v : Value), given[i]? = some v ∧ v.script? ≠ none ∧
    ts[i]?.getD .object = StaticType.object

theorem shown_nil_iff {given : List Value} :
    Shown [] given ↔ ∃ v ∈ given, v.script? ≠ none := by
  constructor
  · rintro ⟨i, v, hv, hscript, -⟩
    exact ⟨v, List.mem_of_getElem? hv, hscript⟩
  · rintro ⟨v, hv, hscript⟩
    obtain ⟨i, hi⟩ := List.getElem?_of_mem hv
    exact ⟨i, v, hi, hscript, rfl⟩

theorem shown_cons_iff {t : StaticType} {ts : List StaticType} {given : List Value} :
    Shown (t :: ts) given ↔
      ((given.head?.getD .undefined).script? ≠ none ∧ t = .object) ∨ Shown ts given.tail := by
  cases given with
  | nil => simp [Shown, Value.script?, Value.object?]
  | cons v given =>
      constructor
      · rintro ⟨i, w, hw, hscript, ht⟩
        cases i with
        | zero =>
            cases hw
            exact .inl ⟨hscript, ht⟩
        | succ i => exact .inr ⟨i, w, hw, hscript, ht⟩
      · rintro (⟨hscript, ht⟩ | ⟨i, w, hw, hscript, ht⟩)
        · exact ⟨0, v, rfl, hscript, ht⟩
        · exact ⟨i + 1, w, hw, hscript, ht⟩

/-- **Which script objects get through a conversion**: those that stand where the parameters take
any value. -/
theorem Converted.exists_script_iff {ts : List StaticType} {given args : List Value}
    (h : Converted ts given args) : (∃ a ∈ args, a.script? ≠ none) ↔ Shown ts given := by
  obtain ⟨run, s, u, h⟩ := h
  induction ts generalizing given args s with
  | nil =>
      cases h
      exact shown_nil_iff.symm
  | cons t ts ih =>
      obtain ⟨w, ws, s', rfl, hw, hws⟩ := convertArguments_cons_eq_ok h
      rw [shown_cons_iff, ← script?_of_convertValue hw, ← ih s' hws]
      simp

/-! ### The law -/

/-- What host code is handed as it sees it shows no script object. -/
theorem not_shown_of_exports {ts : List StaticType} {operands given : List Value}
    (h : List.Forall₂ Value.Exports operands given) : ¬ Shown ts given := by
  rintro ⟨i, v, hv, hscript, -⟩
  have hargument := exports_argument h i
  unfold Value.argument at hargument
  rw [hv] at hargument
  exact hscript hargument.script?_eq_none

/-- **When host code sees no script object.**  In every run of the call sites of an environment
without contributed linkers, whenever a call of a site runs a host member, the arguments of the
member were handed to it and converted: the operands in which mirrors stand in the place of script
objects, or, behind a bound callable, the bound arguments and the operands as they are.  None of
them is a script object exactly if the callee is not bound, or no script object stands where the
parameters take any value. -/
theorem hidden_iff {e : Environment} (hcontributed : e.contributed = []) {s : Store}
    (hs : s.Reachable) {id : Nat} {c : CallSite} (hsite : s.sites.get? id = some c)
    (hchain : c.chain = e.chain) {args : List Value} (hc : (Value.argument args 0).IsDeclared)
    {run : Runner} {h : HostMethod} {self : Value} {as : List Value}
    (henters : (invokeSite id args).Enters run s h self as) :
    ∃ given, c.descriptor.Hands (c.descriptor.passes args) given ∧
      Converted h.signature.params given as ∧
      ((∀ a ∈ as, a.script? = none) ↔
        ¬ ((Value.argument args 0).isBound = true ∧ Shown h.signature.params given)) := by
  have hdefault : c.chain.IsDefault e.policy := by
    rw [hchain]
    exact e.chain_isDefault hcontributed
  obtain ⟨-, given, hhands, hconverted⟩ := uses_of_enters hdefault hs hsite hc henters
  refine ⟨given, hhands, hconverted, ?_⟩
  have hscripts : (∀ a ∈ as, a.script? = none) ↔ ¬ Shown h.signature.params given := by
    rw [← hconverted.exists_script_iff]
    simp
  rw [hscripts]
  cases hbound : (Value.argument args 0).isBound with
  | true => simp
  | false =>
      simp only [Descriptor.Hands, Descriptor.argument_passes, hbound] at hhands
      simp [not_shown_of_exports hhands]

/-! ### A script object behind a bound callable -/

namespace BoundPath

/-- A static method that takes any value. -/
def method : HostMethod := ⟨"run", ⟨[.object], .string⟩, .statements []⟩

/-- A class whose only member is the method. -/
def lamp : HostClass :=
  .ofMembers 10 "Lamp" [.staticMethod method.name method.signature []] .ordinary

/-- The method, detached. -/
def direct : Value := .object (.methodRef 1 lamp "run" true)

/-- The method, bound to no receiver and no arguments. -/
def bound : Value := .object (.bound 2 direct .undefined [])

/-- A script object. -/
def script : Value := .object (.ordinary 3)

/-- A store with the new site. -/
def store : Store := ({} : Store).withSite 0 (newCallSite 3)

/-- Called directly, the method sees a mirror. -/
theorem comesTo_direct :
    (invokeSite 0 [direct, .undefined, script]).ComesTo store method .undefined
      [.object (.mirror 0 (.ordinary 3))] := by
  have hserved (run : Runner) : invokeSite 0 [direct, .undefined, script] run store =
      (Code.filterResult (newCallSite 3).descriptor.methodCode (.convert .object)).eval
        [direct, .undefined, script] run ((resolve 0 [direct, .undefined, script]).after store) :=
    rfl
  refine RunM.ComesTo.of_eq ?_ hserved
  refine RunM.ComesTo.bind (RunM.ComesTo.bind (RunM.ComesTo.of_ok ?_ fun run => rfl) _) _
  exact RunM.ComesTo.of_ok (RunM.ComesTo.enter _ _ _ _) fun run => rfl

/-- Bound, it sees the script object. -/
theorem comesTo_bound :
    (invokeSite 0 [bound, .undefined, script]).ComesTo store method .undefined [script] := by
  have hserved (run : Runner) : invokeSite 0 [bound, .undefined, script] run store =
      (Code.checkedCallable (newCallSite 3).descriptor .permitAll).eval
        [bound, .undefined, script] run ((resolve 0 [bound, .undefined, script]).after store) :=
    rfl
  refine RunM.ComesTo.of_eq ?_ hserved
  refine RunM.ComesTo.of_ok ?_ fun run => rfl
  exact RunM.ComesTo.of_ok (RunM.ComesTo.enter _ _ _ _) fun run => rfl

/-- The method that is called directly sees no script object. -/
theorem hidden_from_direct :
    ∃ as, (invokeSite 0 [direct, .undefined, script]).Enters (runEntry maxDepth) store method
        .undefined as ∧
      ∀ a ∈ as, a.script? = none := by
  have henters := comesTo_direct.enters (runEntry maxDepth)
  obtain ⟨given, -, -, hhidden⟩ := hidden_iff (e := {}) (s := store) rfl
    (Store.reachable_newSite rfl _ _ _) rfl rfl
    (by exact Value.isDeclared_methodRef 1 lamp "run" true) henters
  exact ⟨_, henters, hhidden.mpr nofun⟩

/-- The method that is called through a bound callable sees the script object. -/
theorem shown_to_bound :
    ¬ ∀ (e : Environment) (s : Store) (id : Nat) (c : CallSite) (args : List Value) (run : Runner)
        (h : HostMethod) (self : Value) (as : List Value),
      e.contributed = [] → s.Reachable → s.sites.get? id = some c → c.chain = e.chain →
      (Value.argument args 0).IsDeclared → (invokeSite id args).Enters run s h self as →
      ∀ a ∈ as, a.script? = none := by
  intro hall
  have hscript := hall {} store 0 (newCallSite 3) [bound, .undefined, script]
    (fun _ _ _ => pure .undefined) method .undefined [script] rfl
    (Store.reachable_newSite rfl _ _ _) rfl rfl
    (Value.isDeclared_bound _ _ _ _) (comesTo_bound.enters _) script (by simp)
  cases hscript

end BoundPath

end DynamicLinking
