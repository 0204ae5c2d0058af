/-
Whatever way leads to a host member — a call site with a candidate from its cache or a new one, or a
call or a construction of a value — the member runs on a receiver of the class that declares it, or
on none if it is static, and on arguments of the declared types.  Arguments beyond the declared ones
are passed on as they are handed over.

Main definitions:

* `HostMethod.RunsOn` — the arguments with which a method is run for arguments that are handed to
  it.

Main results:

* `Converted.runsOn` — converted arguments are such arguments;
* `runs_wellTyped` — **host members run well-typed**.
-/

import DynamicLinking.Proofs.HostCalls

set_option autoImplicit false

namespace DynamicLinking

/-- The arguments with which a method is run for arguments that are handed to it: at least one for
every parameter, of the type of the parameter, and beyond the parameters those that are handed
over. -/
structure HostMethod.RunsOn (h : HostMethod) (given args : List Value) : Prop where
  arity : h.signature.params.length ≤ args.length
  typed : ∀ (i : Nat) (t : StaticType), h.signature.params[i]? = some t →
    t.admits (Value.argument args i) = true
  rest : args.drop h.signature.params.length = given.drop h.signature.params.length

/-- Arguments of the types of parameters, one by one. -/
theorem admits_argument_of_forall₂ {ts : List StaticType} {vs : List Value}
    (h : List.Forall₂ (fun t v => StaticType.admits t v = true) ts vs) (rest : List Value) {i : Nat}
    {t : StaticType} (ht : ts[i]? = some t) :
    t.admits (Value.argument (vs ++ rest) i) = true := by
  induction h generalizing i with
  | nil => simp at ht
  | cons hv _ ih =>
      cases i with
      | zero =>
          cases ht
          exact hv
      | succ i => exact ih ht

/-- What comes out of a conversion to the types of the parameters is what a method is run on. -/
theorem Converted.runsOn {h : HostMethod} {given args : List Value}
    (hconverted : Converted h.signature.params given args) : h.RunsOn given args := by
  obtain ⟨vs, rfl, hvs⟩ := hconverted.exists_append
  have hlength : h.signature.params.length = vs.length := hvs.length_eq
  refine ⟨?_, fun i t => admits_argument_of_forall₂ hvs _, ?_⟩
  · rw [List.length_append]
    omega
  · rw [hlength, List.drop_left]

/-- **Host members run well-typed.**  In every run of the call sites of an environment without
contributed linkers, a member that a call of a site runs has a receiver of the declaring class, or
none if it is static, and it is run for the arguments that the operation hands to host code: the
operands of the call, whose number the site makes up to that of its own parameters unless all of
them have the type `object`, as host code sees them.  So do the members that a call or a
construction of a value runs, for the arguments that come after those that are bound. -/
theorem runs_wellTyped {e : Environment} (hcontributed : e.contributed = []) {s : Store}
    (hs : s.Reachable) {id : Nat} {c : CallSite} (hsite : s.sites.get? id = some c)
    (hchain : c.chain = e.chain) {args : List Value} (hc : (Value.argument args 0).IsDeclared)
    (run : Runner) (h : HostMethod) (self : Value) (as : List Value) :
    ((invokeSite id args).Enters run s h self as →
      h.Receives (Value.argument args 0) self ∧
        ∃ given, c.descriptor.Hands (c.descriptor.passes args) given ∧ h.RunsOn given as) ∧
    ∀ (t : Store) (callee receiver : Value) (given : List Value),
      ((callValue callee receiver given).Enters run t h self as →
        h.Receives callee self ∧ h.RunsOn (callee.splice given) as) ∧
      ((constructValue callee given).Enters run t h self as →
        h.Receives callee self ∧ h.RunsOn (callee.splice given) as) := by
  refine ⟨fun henters => ?_, fun t callee receiver given => ⟨fun henters => ?_, fun henters => ?_⟩⟩
  · have hdefault : c.chain.IsDefault e.policy := by
      rw [hchain]
      exact e.chain_isDefault hcontributed
    obtain ⟨hreceives, given, hhands, hconverted⟩ := uses_of_enters hdefault hs hsite hc henters
    exact ⟨by simpa using hreceives, given, hhands, hconverted.runsOn⟩
  · obtain ⟨hreceives, hconverted⟩ := (entersOnly_callValue callee receiver given).of_enters henters
    exact ⟨hreceives, hconverted.runsOn⟩
  · obtain ⟨hreceives, hconverted⟩ := (entersOnly_constructValue callee given).of_enters henters
    exact ⟨hreceives, hconverted.runsOn⟩

/-! ### Arguments that nobody gave -/

namespace WideSite

/-- A static method without parameters. -/
def method : HostMethod := ⟨"count", ⟨[], .object⟩, .statements [.answer .argumentCount]⟩

/-- A static method of one number. -/
def typed : HostMethod := ⟨"typed", ⟨[.int], .object⟩, .statements [.answer (.argument 0)]⟩

/-- A class with the two methods. -/
def lamp : HostClass :=
  .ofMembers 10 "Lamp" [.staticMethod method.name method.signature [.answer .argumentCount],
    .staticMethod typed.name typed.signature [.answer (.argument 0)]] .ordinary

/-- The method of the name, detached. -/
def reference (name : String) : Value := .object (.methodRef 1 lamp name true)

/-- A site of the default environment that calls with a callee, a receiver and a number. -/
def site : CallSite :=
  ({} : Environment).newSite ⟨.call, none, ⟨[.object, .object, .int], .object⟩, ⟨0⟩⟩

/-- A store with the new site. -/
def store : Store := ({} : Store).withSite 0 site

/-- Two arguments reach the method of one number: one that is converted, and one that is not. -/
theorem comesTo_typed :
    (invokeSite 0 [reference "typed", .undefined, .boolean true, .null]).ComesTo store typed
      .undefined [.int 1, .null] := by
  have hserved (run : Runner) :
      invokeSite 0 [reference "typed", .undefined, .boolean true, .null] run store =
      (Code.filterArguments site.descriptor.methodCode (.convert (List.replicate 3 .object))).eval
        [reference "typed", .undefined, .boolean true, .null] run
        ((resolve 0 [reference "typed", .undefined, .boolean true, .null]).after store) := rfl
  refine RunM.ComesTo.of_eq ?_ hserved
  refine RunM.ComesTo.of_ok ?_ fun run => rfl
  refine RunM.ComesTo.bind (RunM.ComesTo.of_ok ?_ fun run => rfl) _
  exact RunM.ComesTo.of_ok (RunM.ComesTo.enter _ _ _ _) fun run => rfl

/-- Without an argument the method is run on `undefined`, which the site makes up for the argument
that is missing. -/
theorem comesTo_count :
    (invokeSite 0 [reference "count", .undefined]).ComesTo store method .undefined
      [.undefined] := by
  have hserved (run : Runner) : invokeSite 0 [reference "count", .undefined] run store =
      (Code.filterArguments site.descriptor.methodCode (.convert (List.replicate 3 .object))).eval
        [reference "count", .undefined] run
        ((resolve 0 [reference "count", .undefined]).after store) := rfl
  refine RunM.ComesTo.of_eq ?_ hserved
  refine RunM.ComesTo.of_ok ?_ fun run => rfl
  refine RunM.ComesTo.bind (RunM.ComesTo.of_ok ?_ fun run => rfl) _
  exact RunM.ComesTo.of_ok (RunM.ComesTo.enter _ _ _ _) fun run => rfl

/-- The method of one number is run on a number and on the argument beyond it. -/
theorem typed_wellTyped :
    (invokeSite 0 [reference "typed", .undefined, .boolean true, .null]).Enters (runEntry maxDepth)
        store typed .undefined [.int 1, .null] ∧
      typed.Receives (reference "typed") .undefined ∧
      ∃ given, site.descriptor.Hands
          (site.descriptor.passes [reference "typed", .undefined, .boolean true, .null]) given ∧
        typed.RunsOn given [.int 1, .null] := by
  have henters := comesTo_typed.enters (runEntry maxDepth)
  exact ⟨henters, (runs_wellTyped (e := {}) (s := store) rfl
    (Store.reachable_newSite rfl _ _ _) rfl rfl
    (by exact Value.isDeclared_methodRef 1 lamp "typed" true) (runEntry maxDepth) typed .undefined
    [.int 1, .null]).1 henters⟩

/-- The argument that the site makes up is none of the caller's. -/
theorem count_sees_argument :
    ¬ ∀ (e : Environment) (s : Store) (id : Nat) (c : CallSite) (args : List Value) (run : Runner)
        (h : HostMethod) (self : Value) (as : List Value),
      e.contributed = [] → s.Reachable → s.sites.get? id = some c → c.chain = e.chain →
      (Value.argument args 0).IsDeclared → (invokeSite id args).Enters run s h self as →
      ∃ given, c.descriptor.Hands args given ∧ h.RunsOn given as := by
  intro hall
  obtain ⟨given, hhands, hruns⟩ := hall {} store 0 site [reference "count", .undefined]
    (fun _ _ _ => pure .undefined) method .undefined [.undefined] rfl
    (Store.reachable_newSite rfl _ _ _) rfl rfl
    (Value.isDeclared_methodRef _ _ _ _) (comesTo_count.enters _)
  have hgiven : List.Forall₂ Value.Exports [] given := hhands
  cases hgiven
  cases hruns.rest

end WideSite

end DynamicLinking
