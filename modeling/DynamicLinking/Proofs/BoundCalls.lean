/-
A method reference can be called with a receiver and arguments, or it can be bound to the receiver
and to some of the arguments first.  Both ways end in the same call of the method.  But a site that
calls the method reference is linked for host code: script objects are exported on the way in, a
mirror that the method gives back is replaced by its script object, and what a method without a
result gives back is dropped.  A site that calls the bound callable does none of this.

Main definitions:

* `HostClass.resultType` — the type that a method reference declares for its results;
* `Value.received` — a result as a site that calls a method reference receives it.

Main results:

* `resolve_methodRef`, `resolve_bound` — **what the two sites run**;
* `bound_alike_iff` — **when binding makes no difference**.
-/

import DynamicLinking.Proofs.HiddenObjects
import DynamicLinking.Proofs.Serving

set_option autoImplicit false

namespace DynamicLinking

/-! ### What the sites run -/

/-- The type that a method reference declares for its results; nothing is declared if there is no
such method. -/
def HostClass.resultType (c : HostClass) (name : String) (isStatic : Bool) : StaticType :=
  ((c.referencedMethod? name isStatic).map fun m => m.signature.result).getD .object

/-- A result as a site that calls a method reference receives it: the script object in the place of
its mirror, and nothing from a method that declares no result. -/
def Value.received (declared : StaticType) (v : Value) : Value :=
  if declared = .void then .undefined else importValue v

theorem LinkRequest.result_linkMethodRef {r : LinkRequest} (hr : r.isUnstable = false)
    (p : PolicyRef) (c : HostClass) (name : String) (isStatic : Bool) :
    (r.linkMethodRef { policy := p } c name isStatic).result = c.resultType name isStatic := by
  unfold HostClass.resultType
  cases hm : c.referencedMethod? name isStatic with
  | none =>
      rw [linkMethodRef_of_unstable (.inr hm)]
      rfl
  | some m =>
      rw [linkMethodRef_of_stable hr hm]
      rfl

section

variable {n id : Nat} {s : Store}

/-- A new site links its first call as a stable one. -/
theorem isUnstable_newCallSite (n : Nat) :
    ((newCallSite n).countInvoke false).isUnstable = false := by
  have hprofiling : CallSiteFlags.isProfiling ⟨0⟩ = false := by decide
  have hcount : (newCallSite n).countInvoke false = newCallSite n := by
    unfold CallSite.countInvoke
    exact if_neg (by simp [newCallSite, hprofiling])
  rw [hcount]
  rfl

/-- A new site links what is chosen for the call, and filters its result. -/
theorem resolve_newCallSite (hsite : s.sites.get? id = some (newCallSite n)) {args : List Value}
    {k : Candidate} {t : StaticType}
    (hchosen : LinkRequest.chosen ⟨(newCallSite n).descriptor, args, false⟩ .permitAll
      (s.withSite id ((newCallSite n).countInvoke false).countLink) =
        .ok k (s.withSite id ((newCallSite n).countInvoke false).countLink))
    (ht : k.result = t) :
    ∃ i u, resolve id args s = .ok i u ∧ s.ServedIn u ∧
      ∀ as, i.eval as =
        k.invocation.eval as >>= fun v => pure (if t = .void then .undefined else v) := by
  have hdefault : (newCallSite n).chain.IsDefault .permitAll := Environment.chain_isDefault rfl
  have hstable : LinkRequest.chosen
      ⟨(newCallSite n).descriptor, args, ((newCallSite n).countInvoke false).isUnstable⟩ .permitAll
      (s.withSite id ((newCallSite n).countInvoke false).countLink) =
        .ok k (s.withSite id ((newCallSite n).countInvoke false).countLink) := by
    rw [isUnstable_newCallSite]
    exact hchosen
  subst ht
  exact resolve_of_chosen hdefault rfl hsite rfl hstable

/-- The code for calls of method references, run. -/
theorem eval_methodCode {d : Descriptor} (hd : d.operation = .call) (i : Nat) (c : HostClass)
    (name : String) (isStatic : Bool) (self : Value) (args : List Value) :
    d.methodCode.eval (.object (.methodRef i c name isStatic) :: self :: args) = (do
      let self' ← exportValue self
      let args' ← ArgumentFilter.wrapScripts.apply args
      return importValue (← callMethodRef c name isStatic self' args')) := by
  have hcallee : (liftM (exportValue (.object (.methodRef i c name isStatic))) : RunM Value) =
      pure (.object (.methodRef i c name isStatic)) := rfl
  have hcall (self' : Value) (args' : List Value) :
      evalMethodCall d (.object (.methodRef i c name isStatic) :: self' :: args') =
        callMethodRef c name isStatic self' args' := by
    simp [evalMethodCall, Value.argument, Descriptor.callReceiver, Descriptor.callArguments, hd]
  rw [Descriptor.methodCode]
  simp only [Code.eval, ArgumentFilter.apply, ResultFilter.apply, List.mapM_cons, hcallee,
    bind_assoc, pure_bind, hcall]

/-- **A new site that calls a method reference** exports the receiver and the arguments, calls the
method, and receives its result. -/
theorem resolve_methodRef (hsite : s.sites.get? id = some (newCallSite n)) (i : Nat)
    (c : HostClass) (name : String) (isStatic : Bool) (self : Value) (args : List Value) :
    ∃ k u, resolve id (.object (.methodRef i c name isStatic) :: self :: args) s = .ok k u ∧
      s.ServedIn u ∧
      k.eval (.object (.methodRef i c name isStatic) :: self :: args) = (do
        let self' ← exportValue self
        let args' ← ArgumentFilter.wrapScripts.apply args
        let v ← callMethodRef c name isStatic self' args'
        return v.received (c.resultType name isStatic)) := by
  have hchosen (t : Store) : LinkRequest.chosen
      ⟨(newCallSite n).descriptor, .object (.methodRef i c name isStatic) :: self :: args, false⟩
      .permitAll t = .ok (LinkRequest.linkMethodRef
        ⟨(newCallSite n).descriptor, .object (.methodRef i c name isStatic) :: self :: args, false⟩
        { policy := .permitAll } c name isStatic) t := by
    rw [LinkRequest.chosen_methodRef rfl]
    rfl
  obtain ⟨k, u, hk, hu, heval⟩ := resolve_newCallSite hsite (hchosen _)
    (LinkRequest.result_linkMethodRef rfl .permitAll c name isStatic)
  refine ⟨k, u, hk, hu, ?_⟩
  have hcode : (LinkRequest.linkMethodRef ⟨(newCallSite n).descriptor,
      .object (.methodRef i c name isStatic) :: self :: args, false⟩ { policy := .permitAll } c name
        isStatic).invocation.code = (newCallSite n).descriptor.methodCode :=
    LinkRequest.code_linkMethodRef _ _ c name isStatic
  rw [heval, Invocation.eval, hcode, eval_methodCode rfl]
  simp only [bind_assoc, pure_bind]
  rfl

/-- **A new site that calls a bound method reference** calls the method, and nothing else. -/
theorem resolve_bound (hsite : s.sites.get? id = some (newCallSite n)) (i j : Nat) (c : HostClass)
    (name : String) (isStatic : Bool) (self this : Value) (leading args : List Value) :
    let f : Value := .object (.bound j (.object (.methodRef i c name isStatic)) self leading)
    ∃ k u, resolve id (f :: this :: args) s = .ok k u ∧ s.ServedIn u ∧
      k.eval (f :: this :: args) = callMethodRef c name isStatic self (leading ++ args) := by
  intro f
  have hchosen (t : Store) : LinkRequest.chosen ⟨(newCallSite n).descriptor, f :: this :: args,
      false⟩ .permitAll t = .ok (Candidate.guarded
        ⟨(newCallSite n).descriptor.genericSignature .object,
          .checkedCallable (newCallSite n).descriptor .permitAll⟩ (.identity 0 f)) t := by
    rw [LinkRequest.chosen_bound rfl]
    rfl
  obtain ⟨k, u, hk, hu, heval⟩ := resolve_newCallSite hsite (hchosen _) rfl
  refine ⟨k, u, hk, hu, ?_⟩
  have hcall : evalCallable (newCallSite n).descriptor (f :: this :: args) =
      callValue f this args := rfl
  rw [heval, Candidate.guarded]
  simp only [Invocation.eval, Code.eval, checkCallee_permitAll, liftM_pure, pure_bind, hcall]
  rw [callValue_bound, callValue]
  exact bind_pure _

end

/-! ### Results -/

section

variable {v : Value} {declared : StaticType} {run : Runner} {s : Store}

theorem Value.Alike.eq_of_mirror {i : Nat} {t : Object} (h : v.Alike (.object (.mirror i t))) :
    v = .object (.mirror i t) := by
  cases h
  rfl

/-- A mirror is told from the script object that it shows. -/
theorem alike_importValue_iff : (importValue v).Alike v ↔ importValue v = v := by
  refine ⟨fun h => ?_, fun h => by rw [h]; exact .refl v⟩
  unfold importValue at h ⊢
  split
  · exact h.eq_of_mirror
  · rfl

/-- Which results a site that calls a method reference receives as they are. -/
theorem alike_received_iff : (v.received declared).Alike v ↔
    importValue v = v ∧ (declared = .void → v = .undefined) := by
  unfold Value.received
  split
  · rename_i hvoid
    constructor
    · intro h
      have hv : v = .undefined := h.symm.eq_of_primitive
      exact ⟨by rw [hv]; rfl, fun _ => hv⟩
    · rintro ⟨-, h⟩
      rw [h hvoid]
      exact .refl _
  · rename_i hvoid
    rw [alike_importValue_iff]
    exact ⟨fun h => ⟨h, fun h' => absurd h' hvoid⟩, fun h => h.1⟩

/-- Runs whose results are received or left as they are agree exactly if nothing is done to the
results. -/
theorem alike_bind_received_iff (m : RunM Value) :
    Outcome.Alike ((m >>= fun v => pure (v.received declared)) run s) (m run s) ↔
      ∀ v u, m run s = .ok v u → importValue v = v ∧ (declared = .void → v = .undefined) := by
  cases hm : m run s with
  | error f u =>
      rw [RunM.bind_of_error hm]
      exact ⟨fun _ v u' hv => (nomatch hv), fun _ => .refl _⟩
  | ok v u =>
      rw [RunM.bind_of_ok hm]
      refine alike_ok_iff.trans (alike_received_iff.trans ⟨fun h v' u' hv' => ?_, fun h => ?_⟩)
      · cases hv'
        exact h
      · exact h v u rfl

end

/-! ### The law -/

/-- **When binding a method reference makes no difference.**  Calls at new sites of the default
environment, one of a method reference with a receiver and arguments, the other of the same method
reference that was bound to the receiver and the first arguments, with the others and any receiver.
What the sites run is known: the first exports the receiver and the arguments to host code and
receives the result, the second calls the method as it is.  If there are no script objects among the
receiver and the arguments, the calls have the same outcome exactly if the method gives back no
mirror, and gives back nothing if it declares no result. -/
theorem bound_alike_iff {n n' id id' : Nat} {s s' s₀ s₁ : Store}
    (hdirect : s.sites.get? id = some (newCallSite n))
    (hbound : s'.sites.get? id' = some (newCallSite n')) (i : Nat) (c : HostClass) (name : String)
    (isStatic : Bool) {f r : Value} {a : List Value}
    (hbind : bindValue (.object (.methodRef i c name isStatic)) r a s₀ = .ok f s₁) (this : Value)
    (b : List Value) :
    let m : Value := .object (.methodRef i c name isStatic)
    let declared := c.resultType name isStatic
    ∃ direct bound t t', resolve id (m :: r :: (a ++ b)) s = .ok direct t ∧
      resolve id' (f :: this :: b) s' = .ok bound t' ∧ s.ServedIn t ∧ s'.ServedIn t' ∧
      direct.eval (m :: r :: (a ++ b)) = (do
        let self ← exportValue r
        let args ← ArgumentFilter.wrapScripts.apply (a ++ b)
        let v ← callMethodRef c name isStatic self args
        return v.received declared) ∧
      bound.eval (f :: this :: b) = callMethodRef c name isStatic r (a ++ b) ∧
      ((∀ v ∈ r :: (a ++ b), v.script? = none) → ∀ run u,
        (Outcome.Alike (direct.eval (m :: r :: (a ++ b)) run u)
          (bound.eval (f :: this :: b) run u) ↔
        ∀ v u', bound.eval (f :: this :: b) run u = .ok v u' →
          importValue v = v ∧ (declared = .void → v = .undefined))) := by
  intro m declared
  have hf : f = .object (.bound s₀.nextId m r a) := by
    cases hbind
    rfl
  subst hf
  obtain ⟨direct, t, hd, ht, hdirect⟩ := resolve_methodRef hdirect i c name isStatic r (a ++ b)
  obtain ⟨bound, t', hb, ht', hbound⟩ :=
    resolve_bound hbound i s₀.nextId c name isStatic r this a b
  refine ⟨direct, bound, t, t', hd, hb, ht, ht', hdirect, hbound, fun hplain run u => ?_⟩
  rw [hdirect, hbound, exportValue_of_script?_eq_none (hplain r (by simp)),
    wrapScripts_of_script?_eq_none fun v hv => hplain v (by simp [hv])]
  simp only [liftM_pure, pure_bind]
  exact alike_bind_received_iff _

namespace BoundPath

/-- Without script objects and with a text as its result, the method is called alike both ways. -/
theorem alike_on_number : ∃ k k' t t',
    resolve 0 [direct, .undefined, .int 1] store = .ok k t ∧
    resolve 0 [bound, .null, .int 1] store = .ok k' t' ∧ ∀ u,
      Outcome.Alike
        (k.eval [direct, .undefined, .int 1] (fun _ _ _ => pure (.string "on")) u)
        (k'.eval [bound, .null, .int 1] (fun _ _ _ => pure (.string "on")) u) := by
  have hsite : store.sites.get? 0 = some (newCallSite 3) := rfl
  have hbind : bindValue direct .undefined [] { store with nextId := 2 } =
      .ok bound { store with nextId := 3 } := rfl
  obtain ⟨k, k', t, t', hdirect, hbound, -, -, -, heval, halike⟩ :=
    bound_alike_iff hsite hsite 1 lamp "run" true hbind .null [.int 1]
  refine ⟨k, k', t, t', hdirect, hbound, fun u => ?_⟩
  refine (halike (by simp [Value.script?, Value.object?]) _ u).mpr fun v u' hv => ?_
  rw [heval] at hv
  cases hv
  exact ⟨rfl, fun hvoid => by cases hvoid⟩

/-- A method that tells whether it sees a script object tells the two ways apart. -/
theorem binding_tells :
    ¬ ∀ (n n' id id' : Nat) (s s' s₀ s₁ : Store) (i : Nat) (c : HostClass) (name : String)
        (isStatic : Bool) (f r this : Value) (a b : List Value) (k k' : Invocation) (t t' : Store),
      s.sites.get? id = some (newCallSite n) → s'.sites.get? id' = some (newCallSite n') →
      bindValue (.object (.methodRef i c name isStatic)) r a s₀ = .ok f s₁ →
      resolve id (.object (.methodRef i c name isStatic) :: r :: (a ++ b)) s = .ok k t →
      resolve id' (f :: this :: b) s' = .ok k' t' → ∀ run u,
        Outcome.Alike (k.eval (.object (.methodRef i c name isStatic) :: r :: (a ++ b)) run u)
          (k'.eval (f :: this :: b) run u) := by
  intro hall
  have halike := hall 3 3 0 0 store store { store with nextId := 2 } { store with nextId := 3 } 1
    lamp "run" true bound .undefined .null [] [script] _ _ _ _ rfl rfl rfl rfl rfl
    (fun _ _ args => pure (.boolean (args.any fun a => a.script?.isSome))) store
  generalize hdirect : Invocation.eval _ (_ :: _ :: ([] ++ [script])) _ store = x at halike
  cases hdirect
  cases halike with
  | ok hv _ => cases hv

end BoundPath

end DynamicLinking
