/-
A write converts the key first, then the value, and changes something last, once and for all.  So
when a write fails, whether it is denied, there is nothing to write to, a conversion fails, or the
receiver does not take the write, then nothing has changed but what the user code changed that the
conversion of the key ran.  The value is converted for fields of host objects only, which are handed
no script object, so that this conversion runs no user code at all.

Main definitions:

* `StoreM.FailsClean` — a computation leaves everything as it was where it fails;
* `StoreM.FailsAfter` — **or as another computation left it, which comes first**;
* `LinkRequest.WriteChoice` — what is chosen for writes;
* `Store.WriteFails` — **what a write that fails leaves behind**.

Main results:

* `LinkRequest.writeChoice_of_chosen` — everything that is chosen for a write is one of these;
* `LinkRequest.failsAfter_of_chosen` — **what is chosen for a write fails after the conversion of
  the key, if it fails**;
* `writeFails_of_error` — so does a write at a call site.
-/

import DynamicLinking.Proofs.HostFields
import DynamicLinking.Proofs.PropertyHeap

set_option autoImplicit false

namespace DynamicLinking

/-! ### Failures that change nothing -/

namespace StoreM

variable {α β γ : Type} {m : StoreM α} {first : StoreM β}

/-- Where the computation fails, nothing has changed but the next identity. -/
def FailsClean (m : StoreM α) : Prop :=
  ∀ s f t, m s = .error f t → s.Alike t

/-- Where the computation fails, nothing has changed but the next identity, or nothing else than
what another computation changes that comes first. -/
def FailsAfter (first : StoreM β) (m : StoreM α) : Prop :=
  ∀ s f t, m s = .error f t → s.Alike t ∨ (first.after s).Alike t

theorem failsClean_of_takes (hm : Takes Store.Alike m) : FailsClean m := by
  intro s f t h
  have halike := hm.alike s
  rwa [after_of_error h] at halike

/-- A computation that changes nothing may come before one that fails clean. -/
theorem failsClean_bind {f : α → StoreM γ} (hm : Takes Store.Alike m)
    (hf : ∀ s a t, m s = .ok a t → FailsClean (f a)) : FailsClean (m >>= f) := by
  intro s e t h
  have halike := hm.alike s
  cases hs : m s with
  | ok a u =>
      rw [bind_of_ok hs] at h
      rw [after_of_ok hs] at halike
      exact halike.trans (hf s a u hs u e t h)
  | error e' u =>
      rw [bind_of_error hs] at h
      rw [after_of_error hs] at halike
      cases h
      exact halike

/-- A failure of a sequence is one of its first part if the rest cannot fail. -/
theorem error_of_bind_pure {g : α → γ} {s t : Store} {f : Fault}
    (h : (m >>= fun a => pure (g a)) s = .error f t) : m s = .error f t := by
  cases hs : m s with
  | ok a u =>
      rw [bind_of_ok hs] at h
      cases h
  | error e u =>
      rw [bind_of_error hs] at h
      cases h
      rfl

/-- What cannot fail may come after a computation that fails clean, whatever that changed. -/
theorem FailsClean.bind_pure (hm : FailsClean m) (g : α → γ) :
    FailsClean (m >>= fun a => pure (g a)) :=
  fun s f t h => hm s f t (error_of_bind_pure h)

theorem FailsClean.failsAfter (hm : FailsClean m) : FailsAfter first m :=
  fun s f t h => .inl (hm s f t h)

/-- What comes first may change what it likes. -/
theorem failsAfter_bind {f : β → StoreM α} (hf : ∀ b, FailsClean (f b)) :
    FailsAfter first (first >>= f) := by
  intro s e t h
  right
  cases hs : first s with
  | ok b u =>
      rw [bind_of_ok hs] at h
      rw [after_of_ok hs]
      exact hf b u e t h
  | error e' u =>
      rw [bind_of_error hs] at h
      rw [after_of_error hs]
      cases h
      exact .refl t

theorem FailsAfter.bind_pure (hm : FailsAfter first m) (g : α → γ) :
    FailsAfter first (m >>= fun a => pure (g a)) :=
  fun s f t h => hm s f t (error_of_bind_pure h)

end StoreM

open StoreM (FailsClean FailsAfter)

/-! ### Script objects and primitive values -/

/-- **A script object that refuses a write is as it was.** -/
theorem failsClean_putProperty (o : Object) (key : String) (v : Value) (isStrict : Bool) :
    FailsClean (putProperty o key v isStrict) := by
  intro s f t h
  rw [putProperty_apply] at h
  by_cases hadmits : s.heap.Admits o key
  · rw [(Store.defineProperty_of_admits hadmits v).2] at h
    cases h
  · rw [Store.defineProperty_of_not_admits hadmits] at h
    cases isStrict with
    | false => cases h
    | true =>
        cases h
        exact .refl s

section

variable (d : Descriptor) (args : List Value) (run : Runner)

theorem failsAfter_evalScriptSet :
    FailsAfter (d.memberKey args run) (evalScriptSet d args run) := by
  refine StoreM.failsAfter_bind fun key => ?_
  cases (Value.argument args 0).script? with
  | none => exact StoreM.failsClean_of_takes (takes_pure _)
  | some o => exact (failsClean_putProperty o key _ _).bind_pure _

theorem failsAfter_evalMissingSet :
    FailsAfter (d.memberKey args run) (evalMissingSet d args run) := by
  unfold evalMissingSet
  cases (Value.argument args 0).script? with
  | none => exact (StoreM.failsClean_of_takes (takes_pure _)).failsAfter
  | some o => exact failsAfter_evalScriptSet d args run

/-- Where a write is refused whatever the key is, the key is looked at and nothing else. -/
theorem failsAfter_report (report : String → ScriptError) :
    FailsAfter (d.memberKey args run)
      ((do fail (report (← d.memberKey args)) : RunM Value) run) :=
  StoreM.failsAfter_bind fun key => StoreM.failsClean_of_takes (takes_fail (report key))

theorem failsAfter_evalNullish (hop : d.operation.isSet = true) :
    FailsAfter (d.memberKey args run) (evalNullish d args run) := by
  have hget : ¬ d.operation.isGet = true := by simp [Operation.isGet_of_isSet hop]
  have heval : evalNullish d args =
      (do fail (.unwritable (← d.memberKey args) (Value.argument args 0).text)) :=
    (if_neg hget).trans (if_pos hop)
  rw [heval]
  exact failsAfter_report d args run fun key => .unwritable key _

end

/-- Writes of missing members look at the key, or not even at that. -/
theorem LinkRequest.failsAfter_missing {r : LinkRequest} (hop : r.descriptor.operation.isSet = true)
    (args : List Value) (run : Runner) :
    FailsAfter (r.descriptor.memberKey args run) (r.missing.invocation.eval args run) := by
  rw [eval_missing_eq, missingCode]
  split
  · exact failsAfter_evalNullish r.descriptor args run hop
  · cases h : r.descriptor.operation with
    | setProperty | setElement => exact failsAfter_evalMissingSet r.descriptor args run
    | _ =>
        rw [h] at hop
        cases hop

/-! ### Fields of host objects -/

section

variable {S : Store → Store → Prop} [Store.AllowsIds S]

/-- **A conversion of arguments that are no script objects runs no user code.** -/
theorem takes_convertArguments_of_hidden (ts : List StaticType) {given : List Value}
    (hgiven : ∀ v ∈ given, v.script? = none) (run : Runner) :
    Takes S (convertArguments ts given run) := by
  induction ts generalizing given with
  | nil => exact takes_pure _
  | cons t ts ih =>
      have hhead : (given.head?.getD .undefined).script? = none := by
        cases given with
        | nil => rfl
        | cons v given => exact hgiven v (by simp)
      refine takes_bind (takes_convertValue_of_hidden hhead t run) fun a => ?_
      exact takes_bind (ih fun v hv => hgiven v (List.mem_of_mem_tail hv)) fun as => takes_pure _

omit [Store.AllowsIds S] in
/-- A key that is no script object is looked at without running user code. -/
theorem takes_memberKey_of_hidden (d : Descriptor) {args : List Value}
    (h : (Value.argument args 1).script? = none) (run : Runner) :
    Takes S (d.memberKey args run) := by
  unfold Descriptor.memberKey
  cases d.name? with
  | some n => exact takes_pure n
  | none => exact takes_bind (takes_toPrimitive_of_hidden h .string run) fun p => takes_pure _

end

/-- The setter of a field keeps its argument, unless calls are nested too deeply. -/
theorem failsClean_setter (n : Nat) (key : String) (t : StaticType) (self : Value)
    (as : List Value) :
    FailsClean (enter (.host ⟨key, ⟨[t], .void⟩, .writeField key⟩) self as (runEntry n)) := by
  cases n with
  | zero => exact StoreM.failsClean_of_takes (takes_throw _)
  | succ n =>
      refine FailsClean.bind_pure (m := writeField self key (Value.argument as 0)) ?_ _
      intro s f u h
      unfold writeField at h
      cases self with
      | primitive p => cases h
      | object o => cases hc : o.hostClass? <;> simp only [hc] at h <;> cases h

section

variable {c : HostClass} {d : Descriptor} {m : HostMethod} {key : String}

/-- **A field is written after everything that may fail**, if what is handed to it are no script
objects. -/
theorem failsClean_invokeHost (hc : c.IsDeclared)
    (hm : (c.findProperty? key).bind HostProperty.setter? = some m) (self : Value)
    {given : List Value} (hgiven : ∀ v ∈ given, v.script? = none) (n : Nat) :
    FailsClean (invokeHost m self given (runEntry n)) := by
  obtain ⟨q, hq, hm⟩ := Option.bind_eq_some_iff.mp hm
  -- the only properties that take writes are fields
  obtain ⟨key, t, rfl⟩ : ∃ key t, m = ⟨key, ⟨[t], .void⟩, .writeField key⟩ := by
    rcases hc.property hq with ⟨name, t, b, rfl⟩ | ⟨name, t, rfl⟩
    · cases hm
    · cases hm
      exact ⟨name, t, rfl⟩
  exact StoreM.failsClean_bind (takes_convertArguments_of_hidden _ hgiven _)
    fun _ as _ _ => failsClean_setter n key t self as

theorem failsClean_writeMember (hc : c.IsDeclared) (self : Value) (key : String) {v : Value}
    (hv : v.script? = none) (n : Nat) : FailsClean (c.writeMember self key v (runEntry n)) := by
  unfold HostClass.writeMember
  cases hm : (c.findProperty? key).bind HostProperty.setter? with
  | none => exact StoreM.failsClean_of_takes (takes_pure _)
  | some m => exact (failsClean_invokeHost hc hm self (by simpa using hv) n).bind_pure _

/-- So is a field whose name is an argument. -/
theorem failsClean_evalHostMember (hc : c.IsDeclared) (hop : d.operation.isSet = true)
    {args : List Value} (hargs : ∀ i, (Value.argument args i).script? = none) (n : Nat) :
    FailsClean (evalHostMember c d args (runEntry n)) := by
  have heval : evalHostMember c d args = (do
      c.writeMember (Value.argument args 0) (← d.memberKey args) (d.memberValue args)) := by
    unfold evalHostMember
    simp only [if_pos hop]
    rfl
  rw [heval]
  exact StoreM.failsClean_bind (takes_memberKey_of_hidden d (hargs 1) _)
    fun _ key _ _ => failsClean_writeMember hc _ key (hargs _) n

/-- Behind the filter for host code no argument is a script object. -/
theorem failsClean_hideScripts {i : Invocation} {run : Runner}
    (hi : ∀ args, (∀ j, (Value.argument args j).script? = none) → FailsClean (i.eval args run))
    (p : PolicyRef) (args : List Value) :
    FailsClean ((Services.hideScripts { policy := p } i).eval args run) := by
  have hwrap : Takes Store.Alike (ArgumentFilter.wrapScripts.apply args run) := by
    intro s
    obtain ⟨as, n, has, -⟩ := wrapScripts_apply args run s
    rw [StoreM.after_of_ok has]
    exact .single rfl
  rw [eval_hideScripts]
  refine StoreM.failsClean_bind hwrap fun s as t has => ?_
  exact (hi as fun j =>
    (exports_argument (exports_of_wrapScripts has) j).script?_eq_none).bind_pure importValue

end

/-! ### What is chosen for writes -/

namespace LinkRequest

variable {r : LinkRequest} {p : PolicyRef} {k : Candidate} {s t : Store}

/-- **What is chosen for writes.** -/
inductive WriteChoice (r : LinkRequest) (p : PolicyRef) : Candidate → Prop where
  | missing : WriteChoice r p r.missing
  | script : WriteChoice r p (r.byType (.scriptSet r.descriptor))
  /-- Primitive values refuse strict writes. -/
  | refused : WriteChoice r p (r.byType (.primitiveSet r.descriptor))
  /-- They drop the others. -/
  | dropped : WriteChoice r p (r.byType (.constant .undefined))
  | foreign {o : Object} {b : BridgeKind} (hr : r.receiver = .object o) (ho : o.bridge? = some b) :
      WriteChoice r p r.linkForeign
  | static {c : HostClass} {n : String} {m : HostMethod}
      (hm : (c.findStaticProperty? n).bind HostProperty.setter? = some m) :
      WriteChoice r p
        (Candidate.guarded ⟨r.genericSignature .object, .staticSetter m r.descriptor⟩
          (.staticClass c))
  | setter {c : HostClass} {n : String} {m : HostMethod} (hr : r.receiver.hostClass? = some c)
      (hm : (c.findProperty? n).bind HostProperty.setter? = some m) :
      WriteChoice r p
        (Candidate.guarded
          (Services.hideScripts { policy := p }
            ⟨r.genericSignature m.signature.result, .hostSetter m r.descriptor⟩)
          (Guard.receiverType r.receiver))
  | member {c : HostClass} (hr : r.receiver.hostClass? = some c) :
      WriteChoice r p
        (Candidate.guarded
          (Services.hideScripts { policy := p }
            ⟨r.genericSignature .object, .hostMember c r.descriptor⟩)
          (Guard.receiverType r.receiver))

theorem writeChoice_primitive (hop : r.descriptor.operation.isSet = true) {q : Primitive}
    (hr : r.receiver = .primitive q) (hk : r.chosen p s = .ok k t) : r.WriteChoice p k := by
  rw [chosen_primitive hr] at hk
  cases hk
  split
  · exact .missing
  · unfold linkPrimitive?
    cases h : r.descriptor.operation with
    | setProperty | setElement =>
        dsimp only
        split
        · exact .refused
        · exact .dropped
    | _ =>
        rw [h] at hop
        cases hop

theorem writeChoice_host (hop : r.descriptor.operation.isSet = true) {o : Object} {c : HostClass}
    (hr : r.receiver = .object o) (ho : o.hostClass? = some c) (hk : r.chosen p s = .ok k t) :
    r.WriteChoice p k := by
  have hclass : r.receiver.hostClass? = some c := by
    rw [hr]
    exact ho
  rw [chosen_eq_host hr ho] at hk
  obtain ⟨_, _, -, hk⟩ := StoreM.bind_eq_ok hk
  obtain ⟨_, _, -, hk⟩ := StoreM.bind_eq_ok hk
  obtain ⟨i?, _, hi, hk⟩ := StoreM.bind_eq_ok hk
  cases hk
  cases hn : r.descriptor.name? with
  | none =>
      rw [beanInvocation?_of_computed (.inr hop) hn] at hi
      cases hi
      exact .member hclass
  | some n =>
      rw [beanInvocation?_of_fixed_write hop hn] at hi
      cases hi
      cases hm : (c.findProperty? n).bind HostProperty.setter? with
      | none => exact .missing
      | some m => exact .setter hclass hm

theorem writeChoice_staticClass (hop : r.descriptor.operation.isSet = true) {i : Nat}
    {c : HostClass} (hr : r.receiver = .object (.staticClass i c)) (hk : r.chosen p s = .ok k t) :
    r.WriteChoice p k := by
  rw [chosen_eq_staticClass hr] at hk
  obtain ⟨_, _, -, hk⟩ := StoreM.bind_eq_ok hk
  obtain ⟨_, _, -, hk⟩ := StoreM.bind_eq_ok hk
  obtain ⟨i?, _, hi, hk⟩ := StoreM.bind_eq_ok hk
  cases hk
  rw [staticInvocation?_of_write hop] at hi
  cases hi
  cases hn : r.descriptor.name? with
  | none => exact .missing
  | some n =>
      cases hm : (c.findStaticProperty? n).bind HostProperty.setter? with
      | none =>
          simp only [Option.bind_some, hm]
          exact .missing
      | some m =>
          simp only [Option.bind_some, hm]
          exact .static hm

/-- **Everything that is chosen for a write is one of these.** -/
theorem writeChoice_of_chosen (hop : r.descriptor.operation.isSet = true)
    (hk : r.chosen p s = .ok k t) : r.WriteChoice p k := by
  have hnoCall : ¬ (r.descriptor.operation = .call ∨ r.descriptor.operation = .new) := by
    rintro (h | h) <;> (rw [h] at hop; cases hop)
  have hnoMethod : ¬ r.descriptor.operation = .getMethod := by
    intro h
    rw [h] at hop
    cases hop
  have hscript {o : Object} (hr : r.receiver = .object o) (ho : o.isScript = true) :
      r.WriteChoice p k := by
    rw [eq_of_chosen_write hr ho hop hk]
    exact .script
  have hforeign {o : Object} {b : BridgeKind} (hr : r.receiver = .object o)
      (ho : o.bridge? = some b) : r.WriteChoice p k := by
    rw [chosen_foreign hr ho] at hk
    cases hk
    exact .foreign hr ho
  cases hr : r.receiver with
  | primitive q => exact writeChoice_primitive hop hr hk
  | object o =>
      cases o with
      | ordinary i => exact hscript hr rfl
      | function i c => exact hscript hr rfl
      | boundFunction i t c s l => exact hscript hr rfl
      | foreign i f => exact hforeign hr rfl
      | mirror i t => exact hforeign hr rfl
      | host i c => exact writeChoice_host hop hr rfl hk
      | proxy i m t => exact writeChoice_host hop hr rfl hk
      | staticClass i c => exact writeChoice_staticClass hop hr hk
      | bound i f a l =>
          rw [chosen_apply_bound hr, if_neg hnoCall] at hk
          cases hk
          exact .missing
      | superAdapter i a =>
          rw [chosen_apply_superAdapter hr, if_neg hnoMethod] at hk
          cases hk
          exact .missing
      | methodRef i c m isStatic =>
          rw [chosen_eq_methodRef hr] at hk
          obtain ⟨_, _, -, hk⟩ := StoreM.bind_eq_ok hk
          obtain ⟨_, _, -, hk⟩ := StoreM.bind_eq_ok hk
          rw [if_neg fun h => hnoCall (.inl h)] at hk
          cases hk
          exact .missing

/-- **What is chosen for a write fails after the conversion of the key**, if it fails: for every
call that it admits whose receiver is not foreign. -/
theorem failsAfter_of_chosen (hop : r.descriptor.operation.isSet = true)
    (hk : r.chosen p s = .ok k t) {args : List Value} (hadmits : k.admits args = true)
    (hself : ∀ o, Value.argument args 0 = .object o → o.bridge? = none)
    (hdeclared : (Value.argument args 0).IsDeclared) (n : Nat) :
    FailsAfter (r.descriptor.memberKey args (runEntry n))
      (k.invocation.eval args (runEntry n)) := by
  have htype := (r.fits_chosen p s k t hk).runtimeType_eq hadmits
  cases writeChoice_of_chosen hop hk with
  | missing => exact failsAfter_missing hop args _
  | script => exact failsAfter_evalScriptSet r.descriptor args _
  | refused => exact failsAfter_report r.descriptor args _ fun key => .primitiveWrite key _
  | dropped => exact (StoreM.failsClean_of_takes (takes_pure _)).failsAfter
  | foreign hr ho =>
      rw [hr] at htype
      obtain ⟨o', ho', hbridge⟩ := Value.eq_of_runtimeType_foreign ho htype
      rw [hself o' ho'] at hbridge
      cases hbridge
  | @static c _ m hm =>
      -- the guard compares classes, and the class of the receiver has no such property
      obtain ⟨i, hi⟩ := Guard.eq_of_isStaticClass
        (Candidate.test_of_admits (g := .staticClass c) hadmits rfl)
      rw [(hdeclared c (.inr ⟨i, hi⟩)).staticSetter?_eq_none] at hm
      cases hm
  | @setter c _ m hr hm =>
      have hc : c.IsDeclared := hdeclared c (.inl (Value.hostClass?_of_runtimeType hr htype))
      refine (failsClean_hideScripts (fun as has => ?_) p args).failsAfter
      have hvalue : (r.descriptor.memberValue as).script? = none := has _
      exact failsClean_invokeHost hc hm _ (by simpa using hvalue) n
  | @member c hr =>
      have hc : c.IsDeclared := hdeclared c (.inl (Value.hostClass?_of_runtimeType hr htype))
      refine (failsClean_hideScripts (fun as has => ?_) p args).failsAfter
      exact failsClean_evalHostMember hc hop has n

end LinkRequest

/-! ### Call sites -/

/-- **What a write that fails leaves behind**: nothing has changed but the state of call sites and
the identities that are given out, or nothing else than what the conversion of the key changed. -/
inductive Store.WriteFails (s : Store) (key : StoreM String) : Store → Prop where
  | unchanged {t : Store} (h : s.ServedIn t) : WriteFails s key t
  | converted {u t : Store} (hserved : s.ServedIn u) (h : (key.after u).Alike t) :
      WriteFails s key t

/-- **A write that fails has changed nothing**, apart from what user code changed that the
conversion of the key ran.  The site is one of the default chain, with any policy, whose types are
all `object`; its key is fixed or an argument, it is strict or not, and it may hold any candidate.
The receiver is not foreign, and its class came into being by a definition. -/
theorem writeFails_of_error {s t : Store} {id : Nat} {c : CallSite} {p : PolicyRef}
    {args : List Value} {f : Fault} (hs : s.Reachable) (hc : s.sites.get? id = some c)
    (hchain : c.chain.IsDefault p) (hd : ∃ n, c.descriptor.signature = Signature.generic n)
    (hop : c.descriptor.operation.isSet = true)
    (hself : ∀ o, Value.argument args 0 = .object o → o.bridge? = none)
    (hdeclared : (Value.argument args 0).IsDeclared) {n : Nat}
    (hfails : invokeSite id args (runEntry n) s = .error f t) :
    s.WriteFails (c.descriptor.memberKey args (runEntry n)) t := by
  obtain ⟨arity, hd⟩ := hd
  rcases invokeSite_delivers hchain hs hc hd args with
    ⟨e, u, hdenied, herror⟩ | ⟨r, k, u, hdescriptor, ⟨s₁, s₂, hchosen⟩, hadmits, hserved, hinvoke⟩
  · -- nothing is chosen, because access is denied, and a choice changes nothing
    rw [herror] at hfails
    cases hfails
    have hlinked : s.ServedIn (s.withSite id (c.countInvoke false).countLink) := rfl
    have halike := StoreM.failsClean_of_takes (takes_alike_chosen _ p) _ f t hdenied
    exact .unchanged (hlinked.of_alike halike)
  · have hfailsAfter : FailsAfter (c.descriptor.memberKey args (runEntry n))
        (k.delivers args (runEntry n)) := by
      rw [← hdescriptor] at hop ⊢
      exact (LinkRequest.failsAfter_of_chosen hop hchosen hadmits hself hdeclared n).bind_pure _
    rw [hinvoke] at hfails
    rcases hfailsAfter u f t hfails with h | h
    · exact .unchanged (hserved.of_alike h)
    · exact .converted hserved h

namespace ClosedObject

/-- A store with an object that takes no properties, and with a strict site that writes the property
that an argument names. -/
def store : Store :=
  (({} : Store).preventExtensions (.ordinary 0)).withSite 0 AbsentRead.writer

/-- The property of the key is written. -/
def args : List Value :=
  [AbsentRead.object, .string "x", .null]

theorem invokeSite_store :
    invokeSite 0 args (runEntry 1) store =
      .error (.error (.notExtensible "x")) ((resolve 0 args).after store) := rfl

/-- The object does not take the property, and everything is as it was. -/
theorem notExtensible_writeFails :
    store.Reachable ∧ AbsentRead.writer.chain.IsDefault (.fixed .permitAll) ∧
    (Value.argument args 0).IsDeclared ∧
    invokeSite 0 args (runEntry 1) store =
      .error (.error (.notExtensible "x")) ((resolve 0 args).after store) ∧
    store.WriteFails (AbsentRead.writer.descriptor.memberKey args (runEntry 1))
      ((resolve 0 args).after store) := by
  have hreachable : store.Reachable := Store.reachable_newSite rfl 0 _ _
  have hchain : AbsentRead.writer.chain.IsDefault (.fixed .permitAll) :=
    Environment.chain_isDefault (e := {}) rfl
  have hself : ∀ o, Value.argument args 0 = .object o → o.bridge? = none := by
    rintro o ho
    cases ho
    rfl
  have hdeclared : (Value.argument args 0).IsDeclared := by
    rintro c (hc | ⟨i, hi⟩)
    · cases hc
    · cases hi
  exact ⟨hreachable, hchain, hdeclared, invokeSite_store,
    writeFails_of_error hreachable (Store.get?_withSite_self _ _ _) hchain ⟨3, rfl⟩ rfl hself
      hdeclared invokeSite_store⟩

end ClosedObject

end DynamicLinking
