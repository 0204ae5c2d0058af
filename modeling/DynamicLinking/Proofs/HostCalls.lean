/-
What a call site runs of host classes: on which receivers, and on which arguments.  The arguments
are the operands of the operation, in which host code sees mirrors in the place of script objects.
Only a bound callable gets its operands as they are, after the arguments that are bound.

Main definitions:

* `Value.Exports` — a value as host code sees it;
* `Descriptor.operands` — the operands of an operation among the arguments of a call site;
* `Descriptor.Hands` — **the arguments that are handed to host code**, before their conversion;
* `Descriptor.Uses` — the uses of host methods by an operation.

Main results:

* `entersOnly_chosen` — **the candidates of the default chain run host members on receivers of the
  declaring class, and on arguments that were handed to them and converted**;
* `uses_of_enters` — **so do the calls of their sites**.
-/

import DynamicLinking.Proofs.Choices
import DynamicLinking.Proofs.Serving

set_option autoImplicit false

namespace DynamicLinking

/-! ### What host code sees -/

/-- A value as host code sees it: a mirror in the place of a script object. -/
inductive Value.Exports : Value → Value → Prop where
  | plain {v : Value} (h : v.script? = none) : Exports v v
  | mirror {v : Value} {o : Object} (h : v.script? = some o) (i : Nat) :
      Exports v (.object (.mirror i o))

namespace Value.Exports

variable {v w : Value}

theorem script?_eq_none (h : v.Exports w) : w.script? = none := by
  cases h with
  | plain h => exact h
  | mirror h i => rfl

theorem eq_of_script?_eq_none (h : v.Exports w) (hv : v.script? = none) : w = v := by
  cases h with
  | plain => rfl
  | mirror h i => rw [hv] at h; cases h

end Value.Exports

section

variable {args as : List Value} {run : Runner} {s t : Store}

theorem exports_of_exportValue {v w : Value} (h : exportValue v s = .ok w t) : v.Exports w := by
  unfold exportValue newMirror? at h
  cases hv : v.script? with
  | none =>
      rw [hv] at h
      cases h
      exact .plain hv
  | some o =>
      rw [hv] at h
      cases h
      exact .mirror hv _

theorem exports_of_wrapScripts (h : ArgumentFilter.wrapScripts.apply args run s = .ok as t) :
    List.Forall₂ Value.Exports args as := by
  have h : (args.mapM fun v => (exportValue v : RunM Value)) run s = .ok as t := h
  induction args generalizing as s with
  | nil =>
      cases h
      exact .nil
  | cons v args ih =>
      rw [List.mapM_cons] at h
      obtain ⟨w, s₁, hw, h⟩ := RunM.bind_eq_ok h
      obtain ⟨ws, s₂, hws, h⟩ := RunM.bind_eq_ok h
      cases h
      exact .cons (exports_of_exportValue hw) (ih hws hws)

theorem exports_argument (h : List.Forall₂ Value.Exports args as) (i : Nat) :
    (Value.argument args i).Exports (Value.argument as i) := by
  induction h generalizing i with
  | nil => exact .plain rfl
  | cons hv _ ih =>
      cases i with
      | zero => exact hv
      | succ i => simpa [Value.argument] using ih i

/-- A receiver that is no script object is exported as it is. -/
theorem receiver_of_exports (h : List.Forall₂ Value.Exports args as)
    (hscript : (Value.argument args 0).script? = none) :
    Value.argument as 0 = Value.argument args 0 :=
  (exports_argument h 0).eq_of_script?_eq_none hscript

end

/-! ### Operands -/

namespace Descriptor

/-- The operands of an operation: the value that is written, or the arguments that are passed on. -/
def operands (d : Descriptor) (args : List Value) : List Value :=
  if d.operation.isGet then []
  else if d.operation.isSet then [d.memberValue args]
  else d.callArguments args

variable {d : Descriptor} {args as : List Value}

theorem operands_of_isGet (h : d.operation.isGet = true) : d.operands args = [] := by
  simp [operands, h]

theorem operands_of_isSet (h : d.operation.isSet = true) :
    d.operands args = [d.memberValue args] := by
  simp [operands, Operation.isGet_of_isSet h, h]

theorem operands_of_call (h : d.operation = .call ∨ d.operation = .new) :
    d.operands args = d.callArguments args := by
  unfold operands
  rcases h with h | h <;> simp [h, Operation.isGet, Operation.isSet]

theorem exports_operands (h : List.Forall₂ Value.Exports args as) :
    List.Forall₂ Value.Exports (d.operands args) (d.operands as) := by
  unfold operands
  split
  · exact .nil
  · split
    · exact .cons (exports_argument h _) .nil
    · exact List.forall₂_drop _ h

/-- The arguments that an operation hands to host code, before their conversion: its operands as
host code sees them.  What is behind a bound callable gets them as they are, after the arguments
that are bound. -/
def Hands (d : Descriptor) (args given : List Value) : Prop :=
  let v := Value.argument args 0
  if v.isBound then given = v.splice (d.operands args)
  else List.Forall₂ Value.Exports (d.operands args) given

/-- The uses of host methods by an operation that shows script objects to host code. -/
def OpenUses (d : Descriptor) (args : List Value) : HostUse := fun h self as =>
  h.Receives (Value.argument args 0) self ∧ Converted h.signature.params (d.operands args) as

/-- **The uses of host methods by an operation**: the receiver is right, and the arguments are those
that are handed to host code, converted to the types of the parameters. -/
def Uses (d : Descriptor) (args : List Value) : HostUse := fun h self as =>
  h.Receives (Value.argument args 0) self ∧
    ∃ given, d.Hands args given ∧ Converted h.signature.params given as

/-- Behind the filter for host code the operands are those that host code sees. -/
theorem uses_of_openUses (h : List.Forall₂ Value.Exports args as)
    (hscript : (Value.argument args 0).script? = none)
    (hbound : (Value.argument args 0).isBound = false) {m : HostMethod} {self : Value}
    {converted : List Value} (huse : d.OpenUses as m self converted) :
    d.Uses args m self converted := by
  have hself := receiver_of_exports h hscript
  refine ⟨hself ▸ huse.1, d.operands as, ?_, huse.2⟩
  simp only [Hands, hbound]
  exact exports_operands h

/-- A read hands nothing to host code. -/
theorem uses_of_isGet (hop : d.operation.isGet = true)
    (hbound : (Value.argument args 0).isBound = false) {m : HostMethod} {self : Value}
    {converted : List Value} (huse : d.OpenUses args m self converted) :
    d.Uses args m self converted := by
  obtain ⟨hreceives, hconverted⟩ := huse
  refine ⟨hreceives, _, ?_, hconverted⟩
  simp [Hands, hbound, operands_of_isGet hop]

end Descriptor

/-- Hidden from script objects, an operation that shows its arguments to host code shows them as
host code sees them. -/
theorem entersOnly_hideScripts (p : PolicyRef) {d : Descriptor} {i : Invocation}
    {args : List Value} (hscript : (Value.argument args 0).script? = none)
    (hbound : (Value.argument args 0).isBound = false)
    (hi : ∀ as, Value.argument as 0 = Value.argument args 0 →
      EntersOnly (d.OpenUses as) (i.eval as)) :
    EntersOnly (d.Uses args) ((Services.hideScripts { policy := p } i).eval args) := by
  rw [eval_hideScripts]
  refine entersOnly_bind_of_ok (by simp) fun run s as t has => entersOnly_bind ?_ (by simp)
  have hexports := exports_of_wrapScripts has
  have hself := receiver_of_exports hexports hscript
  exact (hi as hself).mono fun h self converted =>
    Descriptor.uses_of_openUses hexports hscript hbound

/-! ### Members -/

section

variable {d : Descriptor} {r : LinkRequest} {p : PolicyRef} {c : HostClass} {i : Invocation}
  {args as : List Value} {n : String}

/-- A getter is run on the instance whose property it reads. -/
theorem entersOnly_runGetter {m : HostMethod} {b : Bool} (hop : d.operation.isGet = true)
    (hself : (Value.argument args 0).hostClass? = some c) (hc : c.IsDeclared)
    (hm : c.member? n b = some (.property m)) :
    EntersOnly (d.OpenUses args) (runGetter m (Value.argument args 0)) := by
  obtain ⟨q, hq, rfl⟩ := HostClass.exists_of_member? hm
  obtain ⟨k, hk, hmember⟩ := HostClass.exists_of_findProperty? hq (.inl rfl)
  refine entersOnly_enterHost ⟨.member hself hk hmember, ?_⟩
  rw [hc.params_getter hq, d.operands_of_isGet hop]
  exact ⟨fun _ _ _ => pure .undefined, {}, {}, rfl⟩

/-- A setter is run on the instance whose property it writes, and on the value that is written. -/
theorem entersOnly_setter {m : HostMethod} (hop : d.operation.isSet = true)
    (hself : (Value.argument args 0).hostClass? = some c)
    (hm : (c.findProperty? n).bind HostProperty.setter? = some m) :
    EntersOnly (d.OpenUses args) (invokeHost m (Value.argument args 0) [d.memberValue args]) := by
  obtain ⟨q, hq, hm⟩ := Option.bind_eq_some_iff.mp hm
  obtain ⟨k, hk, hmember⟩ := HostClass.exists_of_findProperty? hq (.inr hm)
  refine entersOnly_invokeHost fun as has => ⟨.member hself hk hmember, ?_⟩
  rwa [d.operands_of_isSet hop]

theorem entersOnly_evalHostMember
    (hop : d.operation.isGet = true ∨ d.operation.isSet = true)
    (hself : (Value.argument args 0).hostClass? = some c) (hc : c.IsDeclared) :
    EntersOnly (d.OpenUses args) (evalHostMember c d args) := by
  refine entersOnly_bind (by simp) fun key => ?_
  dsimp only
  by_cases hset : d.operation.isSet = true
  · rw [if_pos hset]
    cases hm : (c.findProperty? key).bind HostProperty.setter? with
    | none => simp
    | some m => exact entersOnly_bind (by simp [entersOnly_setter hset hself hm]) fun _ => by simp
  · rw [if_neg hset]
    cases hm : c.member? key (d.operation == .getMethod) with
    | none => simp
    | some m =>
        cases m with
        | property m => exact entersOnly_runGetter (hop.resolve_right hset) hself hc hm
        | method => simp

/-- **What an instance has for an operation** is run on an instance of the class. -/
theorem entersOnly_of_memberInvocation (hi : r.MemberInvocation c i)
    (hr : r.receiver.hostClass? = some c) (hself : (Value.argument as 0).hostClass? = some c)
    (hc : c.IsDeclared) : EntersOnly (r.descriptor.OpenUses as) (i.eval as) := by
  cases hi with
  | call hop hm =>
      obtain ⟨n, hn⟩ := HostClass.exists_findMethod?_of_functionalMethod? hm
      obtain ⟨k, hk, hmember⟩ := HostClass.exists_of_findMethod? hn
      -- an object that stands for a callable is called itself, whoever the receiver is
      have hrun {self : Value} (hself : self.hostClass? = some c) :
          EntersOnly (r.descriptor.OpenUses as)
            (invokeHost _ self (r.descriptor.callArguments as)) :=
        entersOnly_invokeHost fun converted hconverted =>
          ⟨.member hself hk hmember, by rwa [r.descriptor.operands_of_call (.inl hop)]⟩
      rw [Invocation.eval, LinkRequest.functionalCode]
      split
      · exact hrun hr
      · exact hrun hself
  | getter hop hn hm => exact entersOnly_runGetter hop hself hc hm
  | method j => exact entersOnly_pure _
  | setter hop hn hm => exact entersOnly_setter hop hself hm
  | named hop hn => exact entersOnly_evalHostMember hop hself hc

/-! ### Static members -/

theorem entersOnly_staticGetter {j : Nat} {q : HostProperty} (hop : d.operation.isGet = true)
    (hself : Value.argument args 0 = .object (.staticClass j c)) (hc : c.IsDeclared)
    (hq : c.findStaticProperty? n = some q) :
    EntersOnly (d.OpenUses args) (runGetter q.getter .undefined) := by
  refine entersOnly_enterHost ⟨.static (c := c) (by rw [hself]; rfl) ?_, ?_⟩
  · exact .inr (.inl ⟨n, q, hq, rfl⟩)
  · rw [hc.params_staticGetter hq, d.operands_of_isGet hop]
    exact ⟨fun _ _ _ => pure .undefined, {}, {}, rfl⟩

theorem entersOnly_evalStaticMember {j : Nat} (hop : d.operation.isGet = true)
    (hself : Value.argument args 0 = .object (.staticClass j c)) (hc : c.IsDeclared) :
    EntersOnly (d.OpenUses args) (evalStaticMember c d args) := by
  refine entersOnly_bind (by simp) fun key => ?_
  cases hq : c.findStaticProperty? key with
  | some q => exact entersOnly_staticGetter hop hself hc hq
  | none =>
      dsimp only
      split <;> simp

/-- Calls and constructions of a value that is not bound hand it the operands. -/
theorem entersOnly_evalCallable (hop : d.operation = .call ∨ d.operation = .new) :
    EntersOnly ((Value.argument args 0).Uses (d.operands args)) (evalCallable d args) := by
  rw [d.operands_of_call hop]
  unfold evalCallable
  dsimp only
  split
  · exact entersOnly_constructValue _ _
  · exact entersOnly_callValue _ _ _

/-! ### Candidates -/

/-- **What the default chain chooses runs host members on receivers of the declaring class, and on
arguments that were handed to them and converted.** -/
theorem entersOnly_chosen {s t : Store} {k : Candidate} (hk : r.chosen p s = .ok k t)
    (hadmits : k.admits as = true) (hc : (Value.argument as 0).IsDeclared) :
    EntersOnly (r.descriptor.Uses as) (k.invocation.eval as) := by
  have hfits : r.Fits k := r.fits_chosen p s k t hk
  have htype := hfits.runtimeType_eq hadmits
  cases r.choice_of_chosen p s k t hk with
  | plain _ henters => exact henters _ as hadmits
  | bound hr hop =>
      rw [hr] at htype
      obtain ⟨j, f, a, l, hself⟩ := Value.eq_of_runtimeType_bound htype
      refine entersOnly_bind (entersOnly_lift _) fun _ => ?_
      refine (entersOnly_evalCallable hop).mono fun h self converted huse => ?_
      exact ⟨huse.1, _, by simp [Descriptor.Hands, hself, Value.isBound], huse.2⟩
  | methodRef hr hop =>
      rw [hr] at htype
      obtain ⟨j, c', m', b, hself⟩ := Value.eq_of_runtimeType_methodRef htype
      rw [r.eval_linkMethodRef]
      refine entersOnly_hideScripts p (by rw [hself]; rfl) (by rw [hself]; rfl) fun bs hbs => ?_
      rw [hself] at hbs
      rw [Invocation.eval, Code.eval, evalMethodCall, hbs]
      refine (entersOnly_callMethodRef j c' m' b _ _).mono fun h self converted huse => ?_
      refine ⟨hbs ▸ huse.1, ?_⟩
      rw [r.descriptor.operands_of_call (.inl hop)]
      exact huse.2
  | @static _ c j hr hj =>
      obtain ⟨i, hself⟩ := Guard.eq_of_isStaticClass
        (Candidate.test_of_admits (g := .staticClass c) hadmits rfl)
      have hdeclared : c.IsDeclared := hc c (.inr ⟨i, hself⟩)
      have hbound : (Value.argument as 0).isBound = false := by rw [hself]; rfl
      cases hj with
      | construct hop =>
          refine entersOnly_hideScripts p (by rw [hself]; rfl) hbound fun bs hbs => ?_
          refine (entersOnly_evalCallable hop).mono fun h self converted huse => ⟨huse.1, ?_⟩
          have hsplice : (Value.argument bs 0).splice (r.descriptor.operands bs) =
              r.descriptor.operands bs := by rw [hbs, hself]; rfl
          rw [← hsplice]
          exact huse.2
      | getter hop hn hq =>
          exact (entersOnly_staticGetter hop hself hdeclared hq).mono fun h self converted huse =>
            r.descriptor.uses_of_isGet hop hbound huse
      | method i => exact entersOnly_pure _
      | setter hm =>
          rw [hdeclared.staticSetter?_eq_none] at hm
          cases hm
      | named hop hn =>
          exact (entersOnly_evalStaticMember hop hself hdeclared).mono
            fun h self converted huse => r.descriptor.uses_of_isGet hop hbound huse
  | @member o c j hr ho hj =>
      have hreceiver : r.receiver.hostClass? = some c := by
        rw [hr]
        exact ho
      have hself := Value.hostClass?_of_runtimeType hreceiver htype
      obtain ⟨hscript, hbound⟩ := Value.of_hostClass? hself
      refine entersOnly_hideScripts p hscript hbound fun bs hbs => ?_
      have hself' : (Value.argument bs 0).hostClass? = some c := by rw [hbs, hself]
      exact entersOnly_of_memberInvocation hj hreceiver hself' (hc c (.inl hself))

end

/-- **What a call of a site runs of host members**, wherever the candidate that serves it comes
from. -/
theorem uses_of_enters {c : CallSite} {p : PolicyRef} {s : Store} {id : Nat} {args : List Value}
    (hchain : c.chain.IsDefault p) (hs : s.Reachable) (hsite : s.sites.get? id = some c)
    (hc : (Value.argument args 0).IsDeclared) {run : Runner} {h : HostMethod} {self : Value}
    {as : List Value} (henters : (invokeSite id args).Enters run s h self as) :
    c.descriptor.Uses (c.descriptor.passes args) h self as := by
  rcases invokeSite_cases hchain hs hsite args with ⟨f, t, herror⟩ | ⟨r, k, f?, t, hserves, -, heq⟩
  · obtain ⟨run', -, hne⟩ := henters
    rw [herror, herror] at hne
    exact absurd rfl hne
  · obtain ⟨s₁, s₂, hchosen⟩ := hserves.chosen
    have honly : EntersOnly (r.descriptor.Uses (c.descriptor.passes args))
        (k.invocation.eval (c.descriptor.passes args) >>= finish f?) :=
      entersOnly_bind (entersOnly_chosen hchosen hserves.admits (by simpa using hc)) (by simp)
    rw [hserves.descriptor] at honly
    exact honly.of_enters (henters.of_eq heq)

end DynamicLinking
