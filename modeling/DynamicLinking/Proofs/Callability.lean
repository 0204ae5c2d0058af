/-
Whether a value can be called is a question about the value alone.  A call or a construction of one
that cannot be called is linked for a missing member, which fails when it runs.  Foreign objects are
the exception: their bridge answers for every operation, and it calls and constructs whatever has a
body for it, whether it presents itself as a function or not.

Main definitions:

* `Value.foreignBody?` — what a foreign object has for a call or for a construction;
* `RunM.Refuses` — a computation that only reports an error of the kind `type`;
* `CallSite.Denies` — a call that has to be linked, and whose callee the policy forbids.

Main results:

* `LinkRequest.eq_missing_of_chosen` — what is chosen for a call of a value that is neither callable
  nor foreign;
* `eval_of_uncallable` — **what serves a call of a value that cannot be called**;
* `refuses_uncallable` — **such a call fails and runs nothing**, in any state of the cache.
-/

import DynamicLinking.Proofs.MemberAccess
import DynamicLinking.Proofs.NullishReceivers

set_option autoImplicit false

namespace DynamicLinking

/-! ### Kinds and types -/

/-- What a foreign object has for a call or for a construction. -/
def Value.foreignBody? (op : Operation) : Value → Option Body
  | .object (.foreign _ f) => if op = .new then f.constructBody? else f.callBody?
  | _ => none

/-- The bridge of a foreign value. -/
def Value.bridge? (v : Value) : Option BridgeKind :=
  v.object?.bind Object.bridge?

namespace Value

variable {v w : Value}

/-- The type of a value tells its bridge. -/
theorem bridge?_eq (v : Value) :
    v.bridge? = match v.runtimeType with
      | .foreign b => some b
      | _ => none := by
  cases v with
  | primitive p => cases p <;> rfl
  | object o => cases o <;> rfl

/-- The type of a value tells whether it can be called, and how, unless it is foreign. -/
theorem callableKind?_of_runtimeType (h : v.runtimeType = w.runtimeType)
    (hforeign : v.bridge? = none) : v.callableKind? = w.callableKind? := by
  cases v with
  | primitive p =>
      obtain ⟨q, rfl⟩ := eq_of_runtimeType_primitive h.symm
      rfl
  | object o =>
      cases w with
      | primitive q =>
          obtain ⟨p, hp⟩ := eq_of_runtimeType_primitive h
          cases hp
      | object o' =>
          cases o with
          | foreign i f => cases hforeign
          | mirror i t => cases hforeign
          | _ => cases o' <;> cases h <;> rfl

theorem eq_of_bridge? {b : BridgeKind} (h : v.bridge? = some b) :
    ∃ o, v = .object o ∧ o.bridge? = some b := by
  cases v with
  | primitive p => cases h
  | object o => exact ⟨o, rfl, h⟩

theorem foreignBody?_of_bridge? (h : v.bridge? = none) (op : Operation) :
    v.foreignBody? op = none := by
  unfold foreignBody?
  split
  · cases h
  · rfl

/-- What cannot be called is not bound. -/
theorem isBound_of_uncallable (h : v.callableKind? = none) : v.isBound = false := by
  cases v with
  | primitive p => rfl
  | object o => cases o <;> first | rfl | cases h

end Value

/-! ### Candidates -/

/-- The computation only reports an error of the kind `type`. -/
def RunM.Refuses (m : RunM Value) : Prop :=
  ∃ x : ScriptError, x.isTypeError = true ∧ m = fail x

/-- A computation refuses, or it runs a body if there is one. -/
def RunM.RefusesOrRuns (m : RunM Value) : Option Body → Prop
  | none => m.Refuses
  | some b => ∃ self given, m = enter (.code b) self given

namespace LinkRequest

variable {r : LinkRequest} {p : PolicyRef} {s t : Store} {k : Candidate}

/-- A missing member cannot be called. -/
theorem eval_missing_of_call
    (hop : r.descriptor.operation = .call ∨ r.descriptor.operation = .new) (args : List Value) :
    r.missing.invocation.eval args = fail (.notFunction (Value.argument args 0).text) := by
  rw [eval_missing_eq]
  by_cases hr : r.receiver.isNullish = true
  · rw [missingCode, if_pos hr, Code.eval, evalNullish]
    rcases hop with hop | hop <;> (rw [hop]; rfl)
  · rw [missingCode, if_neg hr]
    rcases hop with hop | hop <;> (rw [hop]; rfl)

/-- **What is chosen for a call of a value that is neither callable nor foreign** is a missing
member. -/
theorem eq_missing_of_chosen
    (hop : r.descriptor.operation = .call ∨ r.descriptor.operation = .new)
    (hr : r.receiver.callableKind? = none) (hforeign : r.receiver.bridge? = none)
    (hk : r.chosen p s = .ok k t) : k = r.missing := by
  cases hv : r.receiver with
  | primitive q =>
      have hlink : r.linkPrimitive? = none := by
        unfold linkPrimitive?
        rcases hop with hop | hop <;> rw [hop]
      rw [chosen_primitive hv, hlink] at hk
      cases hk
      split <;> rfl
  | object o =>
      rw [hv] at hr hforeign
      cases o with
      | ordinary i =>
          have hlink : r.linkScript? s = none := by
            unfold linkScript?
            rw [hv]
            rcases hop with hop | hop <;> (rw [hop]; rfl)
          rw [chosen_script hv rfl, hlink] at hk
          cases hk
          rfl
      | host i c =>
          -- an instance of a class without a single method has nothing to call
          have hmethod : c.functionalMethod? = none := by
            by_contra hsome
            have hkind : (Value.object (.host i c)).callableKind? = some .functionalObject :=
              if_pos (Option.isSome_iff_ne_none.mpr hsome)
            rw [hkind] at hr
            cases hr
          have hlink : r.beanInvocation? c = pure none := by
            unfold beanInvocation?
            rcases hop with hop | hop
            · simp [hop, hmethod]
            · simp [hop]
          rw [chosen_eq_host hv rfl, chosenMember, hlink] at hk
          obtain ⟨u, s', -, hk⟩ := StoreM.bind_eq_ok hk
          obtain ⟨x, s'', -, hk⟩ := StoreM.bind_eq_ok hk
          cases hk
          rfl
      | superAdapter i a =>
          have hread : ¬ r.descriptor.operation = .getMethod := by
            rcases hop with hop | hop <;> simp [hop]
          rw [chosen_apply_superAdapter hv, if_neg hread] at hk
          cases hk
          rfl
      | foreign i f => cases hforeign
      | mirror i t => cases hforeign
      | _ => cases hr

/-- What is chosen for a call of a foreign object. -/
theorem eval_linkForeign_of_call
    (hop : r.descriptor.operation = .call ∨ r.descriptor.operation = .new) {args : List Value}
    {o : Object} {b : BridgeKind} (hargs : Value.argument args 0 = .object o)
    (ho : o.bridge? = some b) :
    r.linkForeign.invocation.eval args =
      if r.descriptor.operation = .new then o.constructForeign (r.descriptor.callArguments args)
      else o.callForeign (Descriptor.callReceiver args) (r.descriptor.callArguments args) := by
  have hreceiver : foreignReceiver (Value.argument args 0) = pure o := by
    rw [hargs]
    exact foreignReceiver_of_bridge ho
  have hcall : Code.eval (.foreignCall r.descriptor) args =
      o.callForeign (Descriptor.callReceiver args) (r.descriptor.callArguments args) := by
    rw [Code.eval, hreceiver, liftM_pure, pure_bind]
  have hnew : Code.eval (.foreignNew r.descriptor) args =
      o.constructForeign (r.descriptor.callArguments args) := by
    rw [Code.eval, hreceiver, liftM_pure, pure_bind]
  unfold linkForeign
  rcases hop with hop | hop <;> simp only [hop]
  · exact hcall
  · exact hnew

/-- A foreign object that cannot be called runs its body all the same, if it has one. -/
theorem linkForeign_refusesOrRuns
    (hop : r.descriptor.operation = .call ∨ r.descriptor.operation = .new) {args : List Value}
    {o : Object} {b : BridgeKind} (hargs : Value.argument args 0 = .object o)
    (ho : o.bridge? = some b) (hcallable : (Value.object o).callableKind? = none) :
    (r.linkForeign.invocation.eval args).RefusesOrRuns
      ((Value.object o).foreignBody? r.descriptor.operation) := by
  rw [eval_linkForeign_of_call hop hargs ho]
  cases o with
  | foreign i f =>
      rcases hop with hop | hop
      · rw [hop, if_neg (by simp), Object.callForeign, Value.foreignBody?, if_neg (by simp)]
        cases f.callBody? with
        | none => exact ⟨_, rfl, rfl⟩
        | some body => exact ⟨_, _, rfl⟩
      · rw [hop, if_pos rfl, Object.constructForeign, Value.foreignBody?, if_pos rfl]
        cases f.constructBody? with
        | none => exact ⟨_, rfl, rfl⟩
        | some body => exact ⟨_, _, rfl⟩
  | mirror i t =>
      have hfunction : ¬ t.isScriptFunction = true := by
        intro hfunction
        have hkind : (Value.object (.mirror i t)).callableKind? = some .foreignFunction :=
          if_pos hfunction
        rw [hkind] at hcallable
        cases hcallable
      rcases hop with hop | hop
      · rw [hop, if_neg (by simp), Object.callForeign, if_neg hfunction]
        exact ⟨_, rfl, rfl⟩
      · rw [hop, if_pos rfl, Object.constructForeign, if_neg hfunction]
        exact ⟨_, rfl, rfl⟩
  | _ => cases ho

/-- A choice for a call of a value that cannot be called declares nothing. -/
theorem result_of_uncallable
    (hop : r.descriptor.operation = .call ∨ r.descriptor.operation = .new)
    (hr : r.receiver.callableKind? = none) (hk : r.chosen p s = .ok k t) : k.result = .object := by
  cases hforeign : r.receiver.bridge? with
  | none =>
      rw [eq_missing_of_chosen hop hr hforeign hk]
      rfl
  | some b =>
      obtain ⟨o, hobject, hbridge⟩ := Value.eq_of_bridge? hforeign
      rw [chosen_foreign hobject hbridge] at hk
      cases hk
      rfl

/-- Of a callee that cannot be called nothing but its own class can be denied. -/
theorem forbids_of_denied {q : AccessPolicy}
    (hop : r.descriptor.operation = .call ∨ r.descriptor.operation = .new)
    (hr : r.receiver.callableKind? = none) (h : r.Denied q) : q.Forbids r.receiver := by
  cases h with
  | direct h => exact h
  | bound _ hbound _ =>
      rw [Value.isBound_of_uncallable hr] at hbound
      cases hbound
  | adapted hread _ _ =>
      rw [hread] at hop
      simp at hop

/-- **What serves a call of a value that cannot be called** refuses, unless the value is foreign and
has a body for the operation, which is run. -/
theorem eval_of_uncallable
    (hop : r.descriptor.operation = .call ∨ r.descriptor.operation = .new)
    (hk : r.chosen p s = .ok k t) {args : List Value} (hadmits : k.admits args = true)
    (hcallable : (Value.argument args 0).callableKind? = none) :
    (k.invocation.eval args).RefusesOrRuns
      ((Value.argument args 0).foreignBody? r.descriptor.operation) := by
  have htype := (r.fits_chosen p s k t hk).runtimeType_eq hadmits
  have hbridge : r.receiver.bridge? = (Value.argument args 0).bridge? := by
    rw [Value.bridge?_eq, Value.bridge?_eq, htype]
  cases hforeign : (Value.argument args 0).bridge? with
  | none =>
      rw [hforeign] at hbridge
      have hkind := Value.callableKind?_of_runtimeType htype hforeign
      rw [eq_missing_of_chosen hop (hkind ▸ hcallable) hbridge hk,
        Value.foreignBody?_of_bridge? hforeign]
      exact ⟨_, rfl, eval_missing_of_call hop args⟩
  | some b =>
      rw [hforeign] at hbridge
      obtain ⟨o, hr, hro⟩ := Value.eq_of_bridge? hbridge
      obtain ⟨o', hargs, ho'⟩ := Value.eq_of_bridge? hforeign
      rw [chosen_foreign hr hro] at hk
      cases hk
      rw [hargs] at hcallable ⊢
      exact linkForeign_refusesOrRuns hop hargs ho' hcallable

end LinkRequest

/-! ### Call sites -/

/-- The site has to link the call, and the policy forbids the class of argument 0. -/
def CallSite.Denies (c : CallSite) (p : PolicyRef) (s : Store) (args : List Value) : Prop :=
  c.cached? s args = none ∧ (s.policy p).Forbids (Value.argument args 0)

section

variable {c : CallSite} {p : PolicyRef} {s : Store} {id : Nat} {args : List Value}

/-- A call that has to be linked is denied if the policy forbids its callee. -/
theorem resolve_of_denies (hchain : c.chain.IsDefault p) (hsite : s.sites.get? id = some c)
    (h : c.Denies p s args) :
    ∃ x t, x.kind = .security ∧ s.ServedIn t ∧ resolve id args s = .error (.error x) t := by
  let linking : Store := s.withSite id (c.countInvoke false).countLink
  have hdenied : LinkRequest.Denied ⟨c.descriptor, args, (c.countInvoke false).isUnstable⟩
      (linking.policy p) := by
    rw [policy_withSite]
    exact .direct h.2
  rcases LinkRequest.chosen_cases ⟨c.descriptor, args, (c.countInvoke false).isUnstable⟩ p linking
    with ⟨-, x, hx, hkind⟩ | ⟨hgranted, -⟩
  · exact ⟨x, linking, hkind, rfl, resolve_of_chosen_error hchain hsite h.1 hx⟩
  · exact absurd hdenied hgranted

/-- What can come of a call of a value that cannot be called: it is denied, or it is served by what
refuses or runs a body. -/
theorem uncallable_cases (hchain : c.chain.IsDefault p) (hs : s.Reachable)
    (hsite : s.sites.get? id = some c)
    (hop : c.descriptor.operation = .call ∨ c.descriptor.operation = .new)
    (hcallable : (Value.argument args 0).callableKind? = none) :
    c.Denies p s args ∨
    ∃ m f? t, m.RefusesOrRuns ((Value.argument args 0).foreignBody? c.descriptor.operation) ∧
      s.ServedIn t ∧ ∀ run, invokeSite id args run s = (m >>= finish f?) run t := by
  rcases resolve_cases hchain hs hsite args with
    ⟨f, t, hresolve⟩ | ⟨r, k, f?, i, t, hserves, hserved, hresolve, heval⟩
  · left
    obtain ⟨hmiss, hfails | ⟨k, u, hk, hfilter⟩⟩ := chosen_of_resolve_error hchain hsite hresolve
    · refine ⟨hmiss, ?_⟩
      rcases LinkRequest.chosen_cases ⟨c.descriptor, args, (c.countInvoke false).isUnstable⟩ p
        (s.withSite id (c.countInvoke false).countLink) with ⟨hdenied, -⟩ | ⟨-, k, u, hk⟩
      · rw [policy_withSite] at hdenied
        exact LinkRequest.forbids_of_denied
          (r := ⟨c.descriptor, args, (c.countInvoke false).isUnstable⟩) hop hcallable hdenied
      · rw [hk] at hfails
        cases hfails
    · -- nothing is declared, and that converts to every type
      have hresult : k.result = .object := LinkRequest.result_of_uncallable
        (r := ⟨c.descriptor, args, (c.countInvoke false).isUnstable⟩) hop hcallable hk
      rw [hresult, Descriptor.resultFilter?_object] at hfilter
      cases hfilter
  · right
    obtain ⟨s₁, s₂, hchosen⟩ := hserves.chosen
    refine ⟨k.invocation.eval (c.descriptor.passes args), f?, t, ?_, hserved, fun run => ?_⟩
    · have hruns := LinkRequest.eval_of_uncallable (by rwa [hserves.descriptor]) hchosen
        hserves.admits (by simpa using hcallable)
      rwa [hserves.descriptor, Descriptor.argument_passes] at hruns
    · rw [invokeSite_apply, hresolve]
      dsimp only
      rw [heval]

end

/-- **Calls of values that cannot be called fail and run nothing.**  In every run of the call sites
of an environment without contributed linkers, a call or a construction whose callee is no callable,
and no foreign object with a body for the operation either, changes nothing but the state of sites
and fails with the same error for all user code, so that none is run.  The error is of the kind
`type`, unless the site has to link the call and the policy forbids the class of the callee; then it
is the error of the policy. -/
theorem refuses_uncallable {e : Environment} (he : e.contributed = []) {s : Store}
    (hs : s.Reachable) {id : Nat} {c : CallSite} (hsite : s.sites.get? id = some c)
    (hchain : c.chain = e.chain) {args : List Value}
    (hop : c.descriptor.operation = .call ∨ c.descriptor.operation = .new)
    (hcallable : (Value.argument args 0).callableKind? = none)
    (hbody : (Value.argument args 0).foreignBody? c.descriptor.operation = none) :
    ∃ x t, s.ServedIn t ∧ (∀ run, invokeSite id args run s = .error (.error x) t) ∧
      (c.Denies e.policy s args → x.kind = .security) ∧
      (¬ c.Denies e.policy s args → x.isTypeError = true) := by
  have hdefault : c.chain.IsDefault e.policy := by
    rw [hchain]
    exact e.chain_isDefault he
  by_cases hdenied : c.Denies e.policy s args
  · obtain ⟨x, t, hkind, hserved, hresolve⟩ := resolve_of_denies hdefault hsite hdenied
    refine ⟨x, t, hserved, fun run => ?_, fun _ => hkind, fun h => absurd hdenied h⟩
    rw [invokeSite_apply, hresolve]
  · obtain h | ⟨m, f?, t, hm, hserved, heval⟩ := uncallable_cases hdefault hs hsite hop hcallable
    · exact absurd h hdenied
    · rw [hbody] at hm
      obtain ⟨x, htype, rfl⟩ := hm
      refine ⟨x, t, hserved, fun run => ?_, fun h => absurd h hdenied, fun _ => htype⟩
      rw [heval]
      exact RunM.bind_of_error rfl _

/-! ### An object of a class that is denied -/

namespace DeniedObject

/-- An environment that denies a class. -/
def environment : Environment := { policy := .fixed (.denying ["Vault"]) }

/-- A site of the environment that calls. -/
def site : CallSite := environment.newSite ⟨.call, none, Signature.generic 2, ⟨0⟩⟩

/-- A store with the new site. -/
def store : Store := ({} : Store).withSite 0 site

/-- An object of an ordinary class without members. -/
def lamp : Value := .object (.host 1 (.ofMembers 10 "Lamp" [] .ordinary))

/-- An object of the class that is denied. -/
def vault : Value := .object (.host 2 (.ofMembers 11 "Vault" [] .reflection))

/-- The call of the object of the ordinary class fails with an error of the kind `type`. -/
theorem refuses_lamp :
    lamp.callableKind? = none ∧
    ∃ x t, store.ServedIn t ∧
      (∀ run, invokeSite 0 [lamp, .undefined] run store = .error (.error x) t) ∧
      x.isTypeError = true := by
  have hsite : store.sites.get? 0 = some site := rfl
  have hcallable : (Value.argument [lamp, .undefined] 0).callableKind? = none := rfl
  obtain ⟨x, t, hserved, hfails, -, htype⟩ := refuses_uncallable (e := environment) rfl
    (Store.reachable_newSite rfl _ _ _) hsite rfl (.inl rfl) hcallable rfl
  refine ⟨rfl, x, t, hserved, hfails, htype ?_⟩
  rintro ⟨-, cls, isStatic, hreflected, hrestricted, -⟩
  cases hreflected
  cases hrestricted

/-- The call of the other object fails with the error of the policy. -/
theorem not_only_typeErrors :
    ¬ ∀ (e : Environment) (s : Store) (id : Nat) (c : CallSite) (args : List Value) (run : Runner),
      e.contributed = [] → s.Reachable → s.sites.get? id = some c → c.chain = e.chain →
      (c.descriptor.operation = .call ∨ c.descriptor.operation = .new) →
      (Value.argument args 0).callableKind? = none →
      ∃ x t, x.isTypeError = true ∧ invokeSite id args run s = .error (.error x) t := by
  intro hall
  obtain ⟨x, t, htype, hfails⟩ := hall environment store 0 site [vault, .undefined]
    (runEntry maxDepth) rfl (Store.reachable_newSite rfl _ _ _) rfl rfl (.inl rfl) rfl
  have hdenied : invokeSite 0 [vault, .undefined] (runEntry maxDepth) store =
      .error (.error (.accessDenied .reflection "Vault"))
        ((resolve 0 [vault, .undefined]).after store) := rfl
  rw [hdenied] at hfails
  cases hfails
  cases htype

end DeniedObject

end DynamicLinking
