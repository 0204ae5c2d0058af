/-
A guard admits a call because of what it sees of the receiver.  The type that a guard sees tells the
kind of a receiver, and of an instance its class; a guard that compares identities, or the class
that the receiver is as a value, tells more.

* `Value.eq_of_runtimeType_host`, … — the values of a type;
* `LinkRequest.Fits.runtimeType_eq` — **a candidate admits only receivers of the type of the one
  that it was linked for**;
* `LinkRequest.eval_missing` — what the candidate for a missing member does.
-/

import DynamicLinking.Proofs.Linking

set_option autoImplicit false

namespace DynamicLinking

/-! ### The values of a type -/

/-- Is the value a callable that is bound to a receiver, and no script function? -/
def Value.isBound : Value → Bool
  | .object (.bound _ _ _ _) => true
  | _ => false

namespace Value

variable {v : Value}

theorem eq_of_equals_object {o : Object} (h : v.equals (.object o) = true) : v = .object o := by
  cases v with
  | primitive q => cases h
  | object o' =>
      obtain rfl : o' = o := of_decide_eq_true h
      rfl

theorem eq_of_runtimeType_primitive {q : Primitive} (h : v.runtimeType = q.runtimeType) :
    ∃ p, v = .primitive p := by
  cases v with
  | primitive p => exact ⟨p, rfl⟩
  | object o => cases o <;> cases q <;> cases h

theorem eq_of_runtimeType_script {o : Object} (ho : o.isScript = true)
    (h : v.runtimeType = o.runtimeType) :
    ∃ o', v = .object o' ∧ o'.isScript = true ∧ o'.isScriptFunction = o.isScriptFunction := by
  have hkind : o.runtimeType = if o.isScriptFunction then .scriptFunction else .scriptObject := by
    cases o <;> first | rfl | cases ho
  rw [hkind] at h
  cases v with
  | primitive q => cases q <;> cases hf : o.isScriptFunction <;> rw [hf] at h <;> cases h
  | object o' =>
      cases hf : o.isScriptFunction <;> rw [hf] at h
      all_goals
        cases o' <;> cases h
        all_goals exact ⟨_, rfl, rfl, rfl⟩

theorem eq_of_runtimeType_foreign {o : Object} {k : BridgeKind} (ho : o.bridge? = some k)
    (h : v.runtimeType = o.runtimeType) : ∃ o', v = .object o' ∧ o'.bridge? = some k := by
  have hk : o.runtimeType = .foreign k := by
    cases o <;> first | (cases ho; rfl) | cases ho
  rw [hk] at h
  cases v with
  | primitive q => cases q <;> cases h
  | object o' => cases o' <;> cases h <;> exact ⟨_, rfl, rfl⟩

theorem eq_of_runtimeType_host {c : HostClass} (h : v.runtimeType = .host c) :
    ∃ i, v = .object (.host i c) := by
  cases v with
  | primitive q => cases q <;> cases h
  | object o =>
      cases o <;> cases h
      exact ⟨_, rfl⟩

theorem eq_of_runtimeType_proxy {i : Nat} {m : String} {t : Value}
    (h : v.runtimeType = .proxy i m t) : v = .object (.proxy i m t) := by
  cases v with
  | primitive q => cases q <;> cases h
  | object o =>
      cases o <;> cases h
      rfl

/-- The type of an instance tells its class. -/
theorem hostClass?_of_runtimeType {w : Value} {c : HostClass} (hw : w.hostClass? = some c)
    (h : v.runtimeType = w.runtimeType) : v.hostClass? = some c := by
  cases w with
  | primitive q => cases hw
  | object o =>
      cases o with
      | host i d =>
          obtain ⟨j, rfl⟩ := eq_of_runtimeType_host h
          exact hw
      | proxy i m t =>
          rw [eq_of_runtimeType_proxy h]
          exact hw
      | _ => cases hw

/-- An instance of a host class is no script object and is not bound. -/
theorem of_hostClass? {c : HostClass} (h : v.hostClass? = some c) :
    v.script? = none ∧ v.isBound = false := by
  cases v with
  | primitive q => exact ⟨rfl, rfl⟩
  | object o => cases o <;> first | exact ⟨rfl, rfl⟩ | cases h

theorem eq_of_runtimeType_bound (h : v.runtimeType = .boundCallable) :
    ∃ i f a l, v = .object (.bound i f a l) := by
  cases v with
  | primitive q => cases q <;> cases h
  | object o =>
      cases o <;> cases h
      exact ⟨_, _, _, _, rfl⟩

theorem eq_of_runtimeType_methodRef (h : v.runtimeType = .methodRef) :
    ∃ i c m b, v = .object (.methodRef i c m b) := by
  cases v with
  | primitive q => cases q <;> cases h
  | object o =>
      cases o <;> cases h
      exact ⟨_, _, _, _, rfl⟩

theorem eq_of_runtimeType_staticClass (h : v.runtimeType = .staticClass) :
    ∃ i c, v = .object (.staticClass i c) := by
  cases v with
  | primitive q => cases q <;> cases h
  | object o =>
      cases o <;> cases h
      exact ⟨_, _, rfl⟩

theorem eq_of_runtimeType_superAdapter (h : v.runtimeType = .superAdapter) :
    ∃ i a, v = .object (.superAdapter i a) := by
  cases v with
  | primitive q => cases q <;> cases h
  | object o =>
      cases o <;> cases h
      exact ⟨_, _, rfl⟩

end Value

theorem Guard.eq_of_isStaticClass {c : HostClass} {v : Value} (h : isStaticClass c v = true) :
    ∃ i, v = .object (.staticClass i c) := by
  unfold isStaticClass at h
  split at h
  · rename_i i c'
    obtain rfl : c' = c := by simpa using h
    exact ⟨i, rfl⟩
  · cases h

/-! ### What a candidate admits -/

/-- A candidate that serves a call rests on no assumption that was revoked, and admits the call. -/
theorem Store.admits_of_accepts {s : Store} {k : Candidate} {args : List Value}
    (h : s.accepts k args = true) : s.isInvalidated k = false ∧ k.admits args = true := by
  simpa [accepts] using h

theorem Candidate.test_of_admits {k : Candidate} {args : List Value} {g : Guard}
    (h : k.admits args = true) (hg : k.guard? = some g) : g.test args = true := by
  unfold admits at h
  rwa [hg] at h

/-- A guard that compares identities admits the one object. -/
theorem Candidate.receiver_of_identity {k : Candidate} {args : List Value} {v : Value} {o : Object}
    (h : k.admits args = true) (hg : k.guard? = some (.receiverIdentity v)) (hv : v = .object o) :
    Value.argument args 0 = .object o := by
  have htest : (Value.argument args 0).equals v = true := test_of_admits h hg
  rw [hv] at htest
  exact Value.eq_of_equals_object htest

namespace LinkRequest

variable {r : LinkRequest} {k : Candidate} {args : List Value}

/-- **A candidate admits only receivers of the type of the one that it was linked for.** -/
theorem Fits.runtimeType_eq (h : r.Fits k) (hadmits : k.admits args = true) :
    (Value.argument args 0).runtimeType = r.receiver.runtimeType := by
  rcases h.guard with hg | ⟨o, ho, hg⟩ | ⟨i, c, hi, hg⟩
  · simpa [Guard.receiverType, Guard.test] using Candidate.test_of_admits hadmits hg
  · rw [Candidate.receiver_of_identity hadmits hg ho, ho]
  · obtain ⟨j, hj⟩ := Guard.eq_of_isStaticClass (Candidate.test_of_admits hadmits hg)
    rw [hj, hi]
    rfl

/-- A guard that is a type is the type of the receiver of the request. -/
theorem Fits.runtimeType_of_guard (h : r.Fits k) {t : RuntimeType}
    (ht : k.guard? = some (.type 0 t)) : r.receiver.runtimeType = t := by
  rcases h.guard with hg | ⟨o, -, hg⟩ | ⟨i, c, -, hg⟩ <;> rw [ht] at hg
  · exact (Guard.type.inj (Option.some.inj hg)).2.symm
  · cases hg
  · cases hg

/-! ### Missing members -/

/-- A candidate for a missing member answers `undefined` to what is no script object, or fails
because that cannot be called. -/
theorem eval_missing (hr : r.receiver.isNullish = false) {as : List Value}
    (has : (Value.argument as 0).script? = none) (run : Runner) (s : Store) :
    r.missing.invocation.eval as run s = .ok .undefined s ∨
      (r.descriptor.operation = .call ∨ r.descriptor.operation = .new) ∧
        ∃ x, r.missing.invocation.eval as run s = .error (.error (.notFunction x)) s := by
  rw [eval_missing_eq, missingCode, if_neg (by simp [hr])]
  cases hop : r.descriptor.operation with
  | getProperty | getElement | getMethod => exact .inl rfl
  | setProperty | setElement =>
      left
      simp only [Code.eval, evalMissingSet, has]
      rfl
  | call => exact .inr ⟨.inl rfl, _, rfl⟩
  | new => exact .inr ⟨.inr rfl, _, rfl⟩

/-- What a missing member does depends on what is asked for, and on whether there is a receiver. -/
theorem missing_invocation_congr {r' : LinkRequest} (hd : r'.descriptor = r.descriptor)
    (hn : r'.receiver.isNullish = r.receiver.isNullish) :
    r'.missing.invocation = r.missing.invocation := by
  unfold missing missingCode genericSignature
  rw [hd, hn]
  rfl

end LinkRequest

end DynamicLinking
