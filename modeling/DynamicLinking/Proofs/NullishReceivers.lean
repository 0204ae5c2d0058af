/-
`undefined` and `null` have no members and cannot be called.  Every operation on them is linked all
the same, and fails when it runs, with an error of the kind `type`.  The error of a read or a write
tells the key of the member.  A key that is an argument is converted for it, and if the conversion
fails, its fault takes the place of the error.

Main definitions:

* `Fault.isTypeError` — the faults that a program sees as errors of the kind `type`;
* `Descriptor.KeyFails` — the conversion of the key fails, and not with such an error.

Main results:

* `eval_of_nullish` — what serves an operation without a receiver reports that there is none;
* `evalNullish_fails` — **the report fails, and how**;
* `fails_of_nullish` — **so does the call of a site**, in any state of its cache.
-/

import DynamicLinking.Proofs.Serving

set_option autoImplicit false

namespace DynamicLinking

/-! ### Faults -/

/-- Does a program see the fault as an error of the kind `type`? -/
def Fault.isTypeError : Fault → Bool
  | .error e => e.isTypeError
  | _ => false

/-- The operation is about a member, the conversion of its key fails, and not with an error of the
kind `type`. -/
def Descriptor.KeyFails (d : Descriptor) (args : List Value) (run : Runner) (s : Store) : Prop :=
  (d.operation.isGet = true ∨ d.operation.isSet = true) ∧
    ∃ f t, d.memberKey args run s = .error f t ∧ f.isTypeError = false

/-! ### The report -/

section

variable {d : Descriptor} {args : List Value} {run : Runner} {s : Store}

/-- An error that tells the key of a member takes the conversion of the key. -/
theorem report_member {report : String → ScriptError}
    (hreport : ∀ key, (report key).isTypeError = true)
    (hop : d.operation.isGet = true ∨ d.operation.isSet = true) :
    ∃ f t, (do fail (report (← d.memberKey args)) : RunM Value) run s = .error f t ∧
      (f.isTypeError = true ↔ ¬ d.KeyFails args run s) ∧
      (d.KeyFails args run s → d.memberKey args run s = .error f t) := by
  cases hkey : d.memberKey args run s with
  | ok key t =>
      have hconverts : ¬ d.KeyFails args run s := by
        rintro ⟨-, f, u, hf, -⟩
        rw [hkey] at hf
        cases hf
      refine ⟨.error (report key), t, ?_, ?_, fun h => absurd h hconverts⟩
      · rw [RunM.bind_of_ok hkey]
        rfl
      · exact ⟨fun _ => hconverts, fun _ => hreport key⟩
  | error f t =>
      refine ⟨f, t, RunM.bind_of_error hkey _, ?_, fun _ => rfl⟩
      constructor
      · rintro htype ⟨-, f', u, hf, hother⟩
        rw [hkey] at hf
        cases hf
        rw [htype] at hother
        cases hother
      · intro hconverts
        by_contra hother
        exact hconverts ⟨hop, f, t, hkey, by simpa using hother⟩

/-- **The report that there is no receiver fails**: with the fault of the conversion of the key if
there is one, and with an error of the kind `type` otherwise. -/
theorem evalNullish_fails (d : Descriptor) (args : List Value) (run : Runner) (s : Store) :
    ∃ f t, evalNullish d args run s = .error f t ∧
      (f.isTypeError = true ↔ ¬ d.KeyFails args run s) ∧
      (d.KeyFails args run s → d.memberKey args run s = .error f t) := by
  by_cases hget : d.operation.isGet = true
  · have heval : evalNullish d args =
        (do fail (.unreadable (← d.memberKey args) (Value.argument args 0).text)) := if_pos hget
    rw [heval]
    exact report_member (fun key => rfl) (.inl hget)
  by_cases hset : d.operation.isSet = true
  · have heval : evalNullish d args =
        (do fail (.unwritable (← d.memberKey args) (Value.argument args 0).text)) :=
      (if_neg hget).trans (if_pos hset)
    rw [heval]
    exact report_member (fun key => rfl) (.inr hset)
  have heval : evalNullish d args = fail (.notFunction (Value.argument args 0).text) :=
    (if_neg hget).trans (if_neg hset)
  have hkey : ¬ d.KeyFails args run s := by
    rintro ⟨hop | hop, -⟩
    · exact hget hop
    · exact hset hop
  rw [heval]
  exact ⟨_, s, rfl, ⟨fun _ => hkey, fun _ => rfl⟩, fun h => absurd h hkey⟩

theorem evalNullish_passes (d : Descriptor) (args : List Value) :
    evalNullish d (d.passes args) = evalNullish d args := by
  unfold evalNullish
  rw [d.memberKey_passes, d.argument_passes]

end

/-! ### What serves the operation -/

/-- The type of a value tells whether it is `undefined` or `null`. -/
theorem Value.isNullish_iff {v : Value} :
    v.isNullish = true ↔ v.runtimeType = .undefined ∨ v.runtimeType = .null := by
  cases v with
  | primitive p => cases p <;> simp [isNullish, Primitive.isNullish, runtimeType,
      Primitive.runtimeType]
  | object o => cases o <;> simp [isNullish, runtimeType, Object.runtimeType]

namespace LinkRequest

variable {r : LinkRequest} {p : PolicyRef} {s t : Store} {k : Candidate}

/-- Without a receiver the missing member is linked. -/
theorem chosen_of_nullish (hr : r.receiver.isNullish = true) (p : PolicyRef) (s : Store) :
    r.chosen p s = .ok r.missing s := by
  cases hv : r.receiver with
  | object o =>
      rw [hv] at hr
      cases hr
  | primitive q =>
      rw [hv] at hr
      have hq : q.isNullish = true := hr
      rw [chosen_primitive hv, if_pos hq]

/-- What is chosen for a call of the site and admits an operation without a receiver reports that
there is none. -/
theorem eval_of_nullish (hk : r.chosen p s = .ok k t) {args : List Value}
    (hadmits : k.admits args = true) (hargs : (Value.argument args 0).isNullish = true) :
    k.invocation.eval args = evalNullish r.descriptor args := by
  have htype := (r.fits_chosen p s k t hk).runtimeType_eq hadmits
  have hr : r.receiver.isNullish = true := by
    rw [Value.isNullish_iff, ← htype, ← Value.isNullish_iff]
    exact hargs
  rw [chosen_of_nullish hr] at hk
  cases hk
  rw [eval_missing_eq, missingCode, if_pos hr, Code.eval]

end LinkRequest

/-- **Operations without a receiver always fail.**  In every run of the call sites of an environment
without contributed linkers, a call of a site whose argument 0 is `undefined`, `null` or absent
fails, whatever the site asks for and holds.  The error is of the kind `type` unless the key of a
member is an argument, and its conversion, on the script objects of this store, fails with something
else; then the call fails with that. -/
theorem fails_of_nullish {e : Environment} (he : e.contributed = []) {s : Store}
    (hs : s.Reachable) {id : Nat} {c : CallSite} (hsite : s.sites.get? id = some c)
    (hchain : c.chain = e.chain) {args : List Value}
    (hargs : (Value.argument args 0).isNullish = true) :
    ∃ t, s.ServedIn t ∧ ∀ run, ∃ f u, invokeSite id args run s = .error f u ∧
      (f.isTypeError = true ↔ ¬ c.descriptor.KeyFails args run t) ∧
      (c.descriptor.KeyFails args run t → c.descriptor.memberKey args run t = .error f u) := by
  have hdefault : c.chain.IsDefault e.policy := by
    rw [hchain]
    exact e.chain_isDefault he
  rcases resolve_cases hdefault hs hsite args with
    ⟨f, t, hresolve⟩ | ⟨r, k, f?, i, t, hserves, hserved, hresolve, heval⟩
  · -- the report declares `object`, which converts to every type
    have hchosen := LinkRequest.chosen_of_nullish
      (r := ⟨c.descriptor, args, (c.countInvoke false).isUnstable⟩) hargs e.policy
      (s.withSite id (c.countInvoke false).countLink)
    obtain ⟨-, hfails | ⟨k, u, hk, hfilter⟩⟩ := chosen_of_resolve_error hdefault hsite hresolve
    · rw [hchosen] at hfails
      cases hfails
    · rw [hchosen] at hk
      cases hk
      have hobject := c.descriptor.resultFilter?_object
      have hnone : c.descriptor.resultFilter? .object = none := hfilter
      rw [hnone] at hobject
      cases hobject
  · obtain ⟨s₁, s₂, hchosen⟩ := hserves.chosen
    have hreport : k.invocation.eval (c.descriptor.passes args) =
        evalNullish c.descriptor args := by
      rw [LinkRequest.eval_of_nullish hchosen hserves.admits (by simpa using hargs),
        hserves.descriptor, evalNullish_passes]
    refine ⟨t, hserved, fun run => ?_⟩
    obtain ⟨f, u, hfails, htype, hkey⟩ := evalNullish_fails c.descriptor args run t
    refine ⟨f, u, ?_, htype, hkey⟩
    rw [invokeSite_apply, hresolve]
    dsimp only
    rw [heval, hreport, RunM.bind_of_error hfails]

/-! ### A key that cannot be converted -/

namespace FailingKey

/-- A function that fails with an error of the kind `range`. -/
def refuse : Value := .object (.function 2 ⟨"refuse", false, true, [.raise .range "no key"]⟩)

/-- A script object that answers `toString` by failing. -/
def key : Value := .object (.ordinary 1)

/-- A site that reads a property under a key that is an argument. -/
def site : CallSite :=
  ({} : Environment).newSite ⟨.getProperty, none, Signature.generic 2, ⟨0⟩⟩

/-- A store with the new site and with the property of the object. -/
def store : Store :=
  Store.withSite
    { scripts := Table.ofList [(1, { properties := Table.ofList [("toString", refuse)] })] } 3 site

/-- With a string for the key, the read fails with an error of the kind `type`. -/
theorem typeError_of_string :
    (Value.argument [.null, .string "level"] 0).isNullish = true ∧
    ∀ run, ∃ f u, invokeSite 3 [.null, .string "level"] run store = .error f u ∧
      f.isTypeError = true := by
  have hsite : store.sites.get? 3 = some site := rfl
  have hnullish : (Value.argument [.null, .string "level"] 0).isNullish = true := rfl
  obtain ⟨t, -, hfails⟩ := fails_of_nullish (e := {}) rfl
    (Store.reachable_newSite rfl _ _ _) hsite rfl hnullish
  refine ⟨hnullish, fun run => ?_⟩
  obtain ⟨f, u, hf, htype, -⟩ := hfails run
  refine ⟨f, u, hf, htype.mpr ?_⟩
  rintro ⟨-, f', u', hf', -⟩
  cases hf'

/-- With the object for the key, it fails with what the object fails with. -/
theorem not_always_typeError :
    ¬ ∀ (e : Environment) (s : Store) (id : Nat) (c : CallSite) (args : List Value) (run : Runner),
      e.contributed = [] → s.Reachable → s.sites.get? id = some c → c.chain = e.chain →
      (Value.argument args 0).isNullish = true →
      ∃ f u, invokeSite id args run s = .error f u ∧ f.isTypeError = true := by
  intro hall
  obtain ⟨f, u, hf, htype⟩ := hall {} store 3 site [.null, key] (runEntry maxDepth) rfl
    (Store.reachable_newSite rfl _ _ _) rfl rfl rfl
  have hrange : invokeSite 3 [.null, key] (runEntry maxDepth) store =
      .error (.error (.raised .range "no key")) ((resolve 3 [.null, key]).after store) := rfl
  rw [hrange] at hf
  cases hf
  cases htype

end FailingKey

end DynamicLinking
