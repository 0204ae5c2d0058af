/-
A candidate for a call of a method declares the type of the method as that of its results, unless
its guard admits other methods as well.  The declared type decides which filter leads to the type of
the call site, and whether there is one.

* `Descriptor.Indifferent` — a declared type makes no difference to a call site;
* `alike_declared_iff` — **a candidate that declares its results agrees with one that runs the same
  code without exactly if the declared type makes no difference**.
-/

import DynamicLinking.Proofs.Outcomes
import DynamicLinking.Proofs.Permitted

set_option autoImplicit false

namespace DynamicLinking

/-- Whether a method that declares a type for its results is called for the results that it declares
or for any makes no difference to the call site: the declared type has a conversion, and every
result honours it.  Optimistic sites of a numeric type take any result that fits. -/
def Descriptor.Indifferent (d : Descriptor) (declared : StaticType) (x : Outcome) : Prop :=
  (d.flags.isOptimistic && d.signature.result.isNumeric) = true ∨
    declared.convertsTo d.signature.result = true ∧
      ∀ v t, x = .ok v t → declared.Honours d.signature.result v

section

variable {d : Descriptor} {run : Runner} {s t : Store}

/-- Runs that are finished by two filters agree exactly if the filters agree on the result. -/
theorem alike_bind_finish_iff (m : RunM Value) (f? g? : Option ResultFilter) :
    Outcome.Alike ((m >>= finish f?) run s) ((m >>= finish g?) run s) ↔
      ∀ v t, m run s = .ok v t → Outcome.Alike (finish f? v run t) (finish g? v run t) := by
  cases hm : m run s with
  | ok v t =>
      rw [RunM.bind_of_ok hm, RunM.bind_of_ok hm]
      refine ⟨fun h v' t' hv => ?_, fun h => h v t rfl⟩
      cases hv
      exact h
  | error f t =>
      rw [RunM.bind_of_error hm, RunM.bind_of_error hm]
      exact ⟨fun _ v' t' hv => (nomatch hv), fun _ => .refl _⟩

/-- **A declared result and an undeclared one.**  A candidate that declares a type for its results
is linked, and agrees with one that runs the same code for any results, exactly if the declared type
makes no difference. -/
theorem alike_declared_iff {c : LinkerChain} {p : PolicyRef} {r : LinkRequest} {k k' l' : Candidate}
    {declared : StaticType} {code : Code} (hc : c.IsDefault p) (hd : r.descriptor = d)
    (hk : r.chosen p s = .ok k t) (h : k.invocation = ⟨d.genericSignature declared, code⟩)
    (hl' : l'.Adapts k' d d.anyFilter?) (h' : k'.invocation.code = code) (args : List Value)
    (run : Runner) :
    (∃ l, c.link r s = .ok (some l) t ∧
        Outcome.Alike (l.invocation.eval args run t) (l'.invocation.eval args run t)) ↔
      d.Indifferent declared (code.eval (d.passes args) run t) := by
  subst hd
  have hresult : k.result = declared := by rw [Candidate.result, h]; rfl
  have hrun' : l'.invocation.eval args =
      code.eval (r.descriptor.passes args) >>= finish r.descriptor.anyFilter? := by
    rw [hl'.eval, Invocation.eval, h']
  by_cases hopt :
      (r.descriptor.flags.isOptimistic && r.descriptor.signature.result.isNumeric) = true
  · -- the optimistic site takes any result that fits, whatever is declared
    have hf : r.descriptor.resultFilter? k.result = some r.descriptor.anyFilter? := by
      rw [← Descriptor.resultFilter?_object, Descriptor.resultFilter?_of_optimistic hopt,
        Descriptor.resultFilter?_of_optimistic hopt]
    obtain ⟨l, hl, hadapts⟩ := hc.link_of_ok hk hf
    refine ⟨fun _ => .inl hopt, fun _ => ⟨l, hl, ?_⟩⟩
    rw [hadapts.eval, hrun', Invocation.eval, h]
    exact .refl _
  · have hf : r.descriptor.resultFilter? k.result =
        declared.filterTo? r.descriptor.signature.result := by
      rw [Descriptor.resultFilter?_of_pessimistic hopt, hresult]
    have hany : r.descriptor.anyFilter? = r.descriptor.signature.result.anyFilter? := by
      simp only [Descriptor.anyFilter?, hopt]
      rfl
    unfold Descriptor.Indifferent
    rw [← StaticType.isSome_filterTo?]
    cases hg : declared.filterTo? r.descriptor.signature.result with
    | none =>
        -- without a conversion the link of the declared candidate fails
        obtain ⟨m, hm⟩ := hc.link_of_mismatch hk (hf.trans hg)
        constructor
        · rintro ⟨l, hl, -⟩
          rw [hm] at hl
          cases hl
        · rintro (h | ⟨h, -⟩)
          · exact absurd h hopt
          · cases h
    | some f? =>
        obtain ⟨l, hl, hadapts⟩ := hc.link_of_ok hk (hf.trans hg)
        have hrun : l.invocation.eval args =
            code.eval (r.descriptor.passes args) >>= finish f? := by
          rw [hadapts.eval, Invocation.eval, h]
        have hagree : Outcome.Alike (l.invocation.eval args run t) (l'.invocation.eval args run t) ↔
            ∀ v u, code.eval (r.descriptor.passes args) run t = .ok v u →
              declared.Honours r.descriptor.signature.result v := by
          rw [hrun, hrun', hany, alike_bind_finish_iff]
          exact forall₃_congr fun v u _ => finish_alike_iff hg
        constructor
        · rintro ⟨l₀, hl₀, h⟩
          rw [hl] at hl₀
          cases hl₀
          exact .inr ⟨rfl, hagree.mp h⟩
        · rintro (h | ⟨-, h⟩)
          · exact absurd h hopt
          · exact ⟨l, hl, hagree.mpr h⟩

end

end DynamicLinking
