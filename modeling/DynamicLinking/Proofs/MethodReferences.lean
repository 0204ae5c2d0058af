/-
A method reference is called by host code, which sees mirrors in the place of script objects.  As
long as a call site is stable, the candidate for a call of a method that exists is for this method
reference alone and declares the result of the method; every other candidate is for all method
references and declares nothing.

Main definitions:

* `Value.referencedMethod?` — the method that a value denotes;
* `Descriptor.methodCode` — the code of a call of a method reference.

Main results:

* `LinkRequest.linkMethodRef_of_stable`, `LinkRequest.linkMethodRef_of_unstable` — **the two
  candidates for a call**;
* `wrapScripts_apply` — hiding script objects from host code always succeeds, and makes nothing but
  mirrors.
-/

import DynamicLinking.Proofs.Linking

set_option autoImplicit false

namespace DynamicLinking

/-! ### Methods -/

/-- The method of a name, static or not. -/
def HostClass.referencedMethod? (c : HostClass) (name : String) (isStatic : Bool) :
    Option HostMethod :=
  if isStatic then c.findStaticMethod? name else c.findMethod? name

/-- The method that a value denotes, if it is a method reference and the method exists. -/
def Value.referencedMethod? : Value → Option HostMethod
  | .object (.methodRef _ c m isStatic) => c.referencedMethod? m isStatic
  | _ => none

theorem Value.eq_of_referencedMethod? {v : Value} {method : HostMethod}
    (h : v.referencedMethod? = some method) :
    ∃ i c m isStatic, v = .object (.methodRef i c m isStatic) ∧
      c.referencedMethod? m isStatic = some method := by
  unfold referencedMethod? at h
  split at h
  · exact ⟨_, _, _, _, rfl, h⟩
  · cases h

/-! ### Candidates -/

/-- The code of a call of a method reference, which sees mirrors in the place of script objects. -/
def Descriptor.methodCode (d : Descriptor) : Code :=
  .filterResult (.filterArguments (.methodCall d) .wrapScripts) .unwrapMirror

namespace LinkRequest

variable {r : LinkRequest} {p : PolicyRef} {c : HostClass} {m : String} {isStatic : Bool}

/-- As long as the site is stable, a call of a method that exists declares its result. -/
theorem linkMethodRef_of_stable (hr : r.isUnstable = false) {method : HostMethod}
    (hm : c.referencedMethod? m isStatic = some method) :
    r.linkMethodRef { policy := p } c m isStatic =
      Candidate.guarded ⟨r.genericSignature method.signature.result, r.descriptor.methodCode⟩
        (Guard.receiverIdentity r.receiver) := by
  unfold HostClass.referencedMethod? at hm
  unfold linkMethodRef
  rw [hr, hm]
  rfl

theorem linkMethodRef_of_unstable
    (h : r.isUnstable = true ∨ c.referencedMethod? m isStatic = none) :
    r.linkMethodRef { policy := p } c m isStatic =
      Candidate.guarded ⟨r.genericSignature .object, r.descriptor.methodCode⟩
        (Guard.receiverType r.receiver) := by
  unfold HostClass.referencedMethod? at h
  unfold linkMethodRef
  rcases h with h | h
  · rw [h]
    rfl
  · rw [h]
    cases r.isUnstable <;> rfl

/-- Both candidates run the same code. -/
theorem code_linkMethodRef (r : LinkRequest) (p : PolicyRef) (c : HostClass) (m : String)
    (isStatic : Bool) :
    (r.linkMethodRef { policy := p } c m isStatic).invocation.code = r.descriptor.methodCode := by
  by_cases h : r.isUnstable = true ∨ c.referencedMethod? m isStatic = none
  · rw [linkMethodRef_of_unstable h]
    rfl
  · simp only [not_or, Bool.not_eq_true] at h
    obtain ⟨method, hm⟩ := Option.ne_none_iff_exists'.mp h.2
    rw [linkMethodRef_of_stable h.1 hm]
    rfl

/-- A call of a method reference is hidden from script objects. -/
theorem eval_linkMethodRef (r : LinkRequest) (p : PolicyRef) (c : HostClass) (m : String)
    (isStatic : Bool) (args : List Value) :
    (r.linkMethodRef { policy := p } c m isStatic).invocation.eval args =
      (Services.hideScripts { policy := p }
        ⟨r.genericSignature .object, .methodCall r.descriptor⟩).eval args := by
  rw [Invocation.eval, code_linkMethodRef]
  rfl

end LinkRequest

/-! ### Arguments as host code sees them -/

/-- A value is exported as it is unless it is a script object, which is given a new mirror. -/
theorem exportValue_apply (v : Value) (s : Store) :
    ∃ w n, exportValue v s = .ok w { s with nextId := n } ∧ (v.script? = none → w = v) := by
  unfold exportValue newMirror?
  cases hv : v.script? with
  | none => exact ⟨v, s.nextId, rfl, fun _ => rfl⟩
  | some o => exact ⟨_, s.nextId + 1, rfl, fun h => nomatch h⟩

/-- Hiding script objects from host code makes new objects and changes nothing else; arguments that
are no script objects stay as they are. -/
theorem wrapScripts_apply (args : List Value) (run : Runner) (s : Store) :
    ∃ as n, ArgumentFilter.wrapScripts.apply args run s = .ok as { s with nextId := n } ∧
      ((∀ a ∈ args, a.script? = none) → as = args) := by
  rw [ArgumentFilter.apply]
  induction args generalizing s with
  | nil => exact ⟨[], s.nextId, rfl, fun _ => rfl⟩
  | cons v vs ih =>
      obtain ⟨w, n, hw, hsame⟩ := exportValue_apply v s
      have hhead : (exportValue v : RunM Value) run s = .ok w { s with nextId := n } := hw
      obtain ⟨ws, n', hws, hrest⟩ := ih { s with nextId := n }
      refine ⟨w :: ws, n', ?_, fun hall => ?_⟩
      · rw [List.mapM_cons, RunM.bind_of_ok hhead, RunM.bind_of_ok hws]
        rfl
      · rw [hsame (hall v (by simp)), hrest fun a ha => hall a (by simp [ha])]

theorem exportValue_of_script?_eq_none {v : Value} (h : v.script? = none) :
    exportValue v = pure v := by
  unfold exportValue newMirror?
  rw [h]
  rfl

/-- Arguments without script objects are handed over as they are. -/
theorem wrapScripts_of_script?_eq_none {args : List Value} (h : ∀ a ∈ args, a.script? = none) :
    ArgumentFilter.wrapScripts.apply args = pure args := by
  rw [ArgumentFilter.apply]
  induction args with
  | nil => rfl
  | cons v args ih =>
      rw [List.mapM_cons, ih fun a ha => h a (by simp [ha]),
        exportValue_of_script?_eq_none (h v (by simp))]
      rfl

/-- Behind arguments without script objects only the last one is exported. -/
theorem wrapScripts_append {args : List Value} (h : ∀ a ∈ args, a.script? = none) (w : Value) :
    ArgumentFilter.wrapScripts.apply (args ++ [w]) = (do
      let w' ← exportValue w
      return args ++ [w'] : RunM (List Value)) := by
  have hleading := wrapScripts_of_script?_eq_none h
  rw [ArgumentFilter.apply] at hleading ⊢
  rw [List.mapM_append, hleading, pure_bind, List.mapM_cons, List.mapM_nil]
  simp only [bind_assoc, pure_bind]

/-- Hidden from script objects, an invocation gets exported arguments, and the script object comes
back for its mirror. -/
theorem eval_hideScripts (p : PolicyRef) (i : Invocation) (args : List Value) :
    (Services.hideScripts { policy := p } i).eval args = (do
      let as ← ArgumentFilter.wrapScripts.apply args
      return importValue (← i.eval as)) := by
  rw [Services.hideScripts, if_pos rfl, Invocation.eval_filterResult,
    Invocation.eval_filterArguments, bind_assoc]
  rfl

end DynamicLinking
