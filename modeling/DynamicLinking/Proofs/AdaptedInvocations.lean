/-
An invocation of one signature is given another one: its parameters are converted from the wanted
types, its result to the wanted type.  A boxed result is cast where a primitive type is wanted and
its own primitive type widens to it; the cast looks at nothing, so what comes out has the wanted
type because the result was of the declared one.  All other results are converted by the general
rules.

The two ways mesh.  A boxed result for which there is a cast could be converted as well, and the
one for which there is none is converted, so that the cast never has to refuse: what cannot be
adapted is reported with both signatures.

Main definitions:

* `Signature.Clashes` — there is no adapting something of one signature to another one;
* `Invocation.Keeps` — an invocation answers values of its declared type.

Main results:

* `Invocation.asType_cases` — both outcomes of an adaptation;
* `StaticType.admits_finish` — a value of the declared type leaves its filter as one of the wanted
  type;
* `Invocation.adapts_or_clashes` — **the contract of adaptations**.
-/

import DynamicLinking.Proofs.Outcomes

set_option autoImplicit false

namespace DynamicLinking

/-! ### Results -/

/-- In a box there is a primitive type. -/
theorem isPrimitive_of_unboxed? {boxed p : StaticType} (hp : boxed.unboxed? = some p) :
    p.isPrimitive = true := by
  cases boxed <;> cases hp <;> rfl

/-- In a box there is `null` or a value of the primitive type. -/
theorem eq_null_or_admits_of_unboxed? {boxed p : StaticType} (hp : boxed.unboxed? = some p)
    {v : Value} (hv : boxed.admits v = true) : v = .null ∨ p.admits v = true := by
  cases v with
  | object o => cases boxed <;> cases hp <;> cases hv
  | primitive q =>
      cases boxed <;> cases hp
      all_goals
        cases q with
        | null => exact .inl rfl
        | _ => exact .inr hv

/-- A value of a primitive type that is cast to a wider one is of that type. -/
theorem admits_narrowed_of_widensTo {p t : StaticType} (hp : p.isPrimitive = true)
    (hwidens : p.widensTo t = true) {v : Value} (hv : p.admits v = true) :
    t.admits (narrowed t v) = true := by
  obtain ⟨q, rfl⟩ := exists_primitive_of_admits hp hv
  cases p with
  | boolean =>
      cases t with
      | boolean => cases q <;> rfl
      | _ => cases hwidens
  | int | long =>
      cases q with
      | number n =>
          cases n with
          | integer i =>
              cases t with
              | int => exact inInt32_toInt _
              | long | double => rfl
              | _ => cases hwidens
          | _ => cases hv
      | _ => cases hv
  | double =>
      cases t with
      | double => cases q <;> first | rfl | cases hv
      | _ => cases hwidens
  | _ => cases hp

/-- The cast of a value of a boxed type is a value of the primitive type that it reaches. -/
theorem admits_narrowed {boxed p t : StaticType} (hp : boxed.unboxed? = some p)
    (ht : t.isPrimitive = true) (hwidens : p.widensTo t = true) {v : Value}
    (hv : boxed.admits v = true) : t.admits (narrowed t v) = true := by
  rcases eq_null_or_admits_of_unboxed? hp hv with rfl | hv
  · cases t <;> first | rfl | cases ht
  · exact admits_narrowed_of_widensTo (isPrimitive_of_unboxed? hp) hwidens hv

/-- **A value of the declared type leaves its filter as one of the wanted type.** -/
theorem StaticType.admits_finish {declared wanted : StaticType} {f? : Option ResultFilter}
    (hf : declared.filterTo? wanted = some f?) {v w : Value} (hv : declared.admits v = true)
    {run : Runner} {s t : Store} (h : finish f? v run s = .ok w t) : wanted.admits w = true := by
  rcases filterTo?_cases hf with ⟨rfl, rfl⟩ | ⟨rfl, hprimitive, p, hp, hwidens⟩ | rfl | ⟨rfl, rfl⟩
  · cases h
    exact hv
  · cases h
    exact admits_narrowed hp hprimitive hwidens hv
  · exact admits_of_convertValue h
  · rfl

/-! ### Signatures -/

/-- The signatures differ, and something of the first cannot get the second: they have different
numbers of parameters, or a parameter of the wanted signature has no conversion to the one in its
place, or the result has none to the wanted one. -/
def Signature.Clashes (c wanted : Signature) : Prop :=
  c ≠ wanted ∧
    (c.arity ≠ wanted.arity ∨
      (∃ (j : Nat) (a b : StaticType),
        wanted.params[j]? = some a ∧ c.params[j]? = some b ∧ a.convertsTo b = false) ∨
      c.result.convertsTo wanted.result = false)

/-- Lists are compared position by position, up to the end of the shorter one. -/
theorem all_zip_eq_false_iff (p : StaticType → StaticType → Bool) (as bs : List StaticType) :
    ((as.zip bs).all fun x => p x.1 x.2) = false ↔
      ∃ (j : Nat) (a b : StaticType), as[j]? = some a ∧ bs[j]? = some b ∧ p a b = false := by
  rw [List.all_eq_false]
  constructor
  · rintro ⟨⟨a, b⟩, hab, hp⟩
    obtain ⟨j, hj⟩ := List.mem_iff_getElem?.mp hab
    obtain ⟨ha, hb⟩ := List.getElem?_zip_eq_some.mp hj
    exact ⟨j, a, b, ha, hb, by simpa using hp⟩
  · rintro ⟨j, a, b, ha, hb, hp⟩
    have hab : (as.zip bs)[j]? = some (a, b) := List.getElem?_zip_eq_some.mpr ⟨ha, hb⟩
    exact ⟨(a, b), List.mem_iff_getElem?.mpr ⟨j, hab⟩, by simp [hp]⟩

namespace Invocation

variable {i : Invocation} {d : Signature}

theorem params_spread (i : Invocation) (d : Signature) :
    (i.spread d).signature.params = d.params := by
  unfold spread
  split
  · assumption
  · rfl

/-- The filter for a result gives it the wanted type. -/
theorem signature_finished {f? : Option ResultFilter}
    (hf : i.signature.result.filterTo? d.result = some f?) :
    ((i.spread d).finished d.result f?).signature = d := by
  cases f? with
  | some f => rw [finished, signature_filterResult, params_spread]
  | none =>
      have hresult : i.signature.result = d.result := by
        rcases StaticType.filterTo?_cases hf with ⟨-, h⟩ | ⟨h, -⟩ | h | ⟨h, -⟩
        · exact h
        all_goals cases h
      have hspread : (i.spread d).signature.result = d.result := (result_spread i d).trans hresult
      rw [finished]
      exact congrArg₂ Signature.mk (params_spread i d) hspread

/-- An answer to the arguments of another signature is one to arguments of its own. -/
theorem exists_eval_of_spread {args : List Value} {run : Runner} {s t : Store} {v : Value}
    (h : (i.spread d).eval args run s = .ok v t) :
    ∃ as u, i.eval as run u = .ok v t := by
  unfold spread at h
  split at h
  · exact ⟨args, s, h⟩
  · rw [eval_filterArguments] at h
    obtain ⟨as, u, -, h⟩ := RunM.bind_eq_ok h
    exact ⟨as, u, h⟩

/-- **Both outcomes of an adaptation**: signatures that clash are reported, and otherwise the
arguments are converted and the result goes through the filter for its type. -/
theorem asType_cases (i : Invocation) (d : Signature) :
    (i.signature.Clashes d ∧ i.asType d = .error (.signatures i.signature d)) ∨
      ¬ i.signature.Clashes d ∧
        ∃ f?, i.signature.result.filterTo? d.result = some f? ∧
          i.asType d = .ok ((i.spread d).finished d.result f?) := by
  by_cases hsame : i.signature = d
  · refine .inr ⟨fun h => h.1 hsame, none, ?_, ?_⟩
    · simp [hsame, StaticType.filterTo?]
    · simp [asType, hsame, spread, finished]
  by_cases harity : i.signature.arity ≠ d.arity
  · exact .inl ⟨⟨hsame, .inl harity⟩, by simp [asType, hsame, harity]⟩
  have harity : i.signature.arity = d.arity := Decidable.not_not.mp harity
  have hasType : i.asType d = (i.convertParams d) >>= fun j => j.adaptResult i.signature d := by
    simp [asType, hsame, harity, adaptResult]
  cases hparams : (d.params.zip i.signature.params).all fun p => p.1.convertsTo p.2 with
  | false =>
      have hdiffer : i.signature.params ≠ d.params := by
        intro heq
        rw [heq, all_zip_eq_false_iff StaticType.convertsTo] at hparams
        obtain ⟨j, a, b, ha, hb, hab⟩ := hparams
        rw [ha] at hb
        cases hb
        rw [StaticType.convertsTo_refl] at hab
        cases hab
      refine .inl ⟨⟨hsame, .inr (.inl ((all_zip_eq_false_iff _ _ _).mp hparams))⟩, ?_⟩
      rw [hasType, convertParams, if_neg hdiffer, if_neg (by simp [hparams])]
      rfl
  | true =>
      have hspread : i.asType d = (i.spread d).adaptResult i.signature d := by
        rw [hasType, convertParams_of_all hparams]
        rfl
      rw [hspread, adaptResult_eq, result_spread]
      have hconverts := StaticType.isSome_filterTo? i.signature.result d.result
      cases hf : i.signature.result.filterTo? d.result with
      | none =>
          rw [hf] at hconverts
          exact .inl ⟨⟨hsame, .inr (.inr hconverts.symm)⟩, rfl⟩
      | some f? =>
          rw [hf] at hconverts
          refine .inr ⟨?_, f?, rfl, rfl⟩
          rintro ⟨-, h | h | h⟩
          · exact h harity
          · have := (all_zip_eq_false_iff StaticType.convertsTo _ _).mpr h
            rw [hparams] at this
            cases this
          · rw [h] at hconverts
            cases hconverts

/-! ### The contract -/

/-- Whatever the invocation answers is of its declared type. -/
def Keeps (i : Invocation) (run : Runner) : Prop :=
  ∀ args s v t, i.eval args run s = .ok v t → i.signature.result.admits v = true

/-- **The contract of adaptations.**  An invocation is not adapted exactly if the signatures clash,
which is what the report says, and not that a boxed result could not be cast.  An adapted invocation
has the wanted signature, and answers values of the wanted type as far as the invocation answers
values of its own. -/
theorem adapts_or_clashes (i : Invocation) (d : Signature) :
    ((∃ m, i.asType d = .error m) ↔ i.signature.Clashes d) ∧
      (∀ m, i.asType d = .error m → m = .signatures i.signature d) ∧
      ∀ j, i.asType d = .ok j → j.signature = d ∧ ∀ run, i.Keeps run → j.Keeps run := by
  rcases asType_cases i d with ⟨hclash, h⟩ | ⟨hclash, f?, hf, h⟩
  · rw [h]
    refine ⟨⟨fun _ => hclash, fun _ => ⟨_, rfl⟩⟩, fun m hm => ?_, nofun⟩
    cases hm
    rfl
  · rw [h]
    refine ⟨⟨nofun, fun hc => absurd hc hclash⟩, nofun, fun j hj => ?_⟩
    cases hj
    have hsignature := signature_finished hf
    refine ⟨hsignature, fun run hkeeps args s v t hv => ?_⟩
    rw [hsignature]
    rw [eval_finished] at hv
    obtain ⟨w, u, hw, hv⟩ := RunM.bind_eq_ok hv
    obtain ⟨as, s', hanswer⟩ := exists_eval_of_spread hw
    exact StaticType.admits_finish hf (hkeeps as s' w u hanswer) hv

end Invocation

/-! ### `null` in a box -/

namespace NullInBox

/-- No `Integer`. -/
def nothing : Invocation := ⟨⟨[.object], .boxedInt⟩, .constant .null⟩

/-- Where an `int` is wanted it answers one, and it does not go without its parameter. -/
theorem nothing_becomes_int :
    (∃ j, nothing.asType ⟨[.object], .int⟩ = .ok j ∧ j.signature = ⟨[.object], .int⟩ ∧
        ∀ run, j.Keeps run) ∧
      ∃ m, nothing.asType ⟨[], .int⟩ = .error m ∧ m = .signatures nothing.signature ⟨[], .int⟩ := by
  constructor
  · have hkeeps (run : Runner) : nothing.Keeps run := by
      intro args s v t h
      cases h
      rfl
    obtain ⟨hsignature, h⟩ := (Invocation.adapts_or_clashes nothing ⟨[.object], .int⟩).2.2 _ rfl
    exact ⟨_, rfl, hsignature, fun run => h run (hkeeps run)⟩
  · obtain ⟨hclash, hreport, -⟩ := Invocation.adapts_or_clashes nothing ⟨[], .int⟩
    obtain ⟨m, hm⟩ := hclash.mpr ⟨by decide, .inl (by decide)⟩
    exact ⟨m, hm, hreport m hm⟩

end NullInBox

end DynamicLinking
