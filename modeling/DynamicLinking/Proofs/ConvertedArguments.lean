/-
Arguments are converted to the parameters from left to right.  Every conversion starts in the store
that the one before it left, since it may ask objects for their primitive values and so run user
code.  The first conversion that fails ends the whole; what comes out otherwise has a value of the
right type for every parameter, so that converting it once more asks nobody and changes nothing.

Main definitions:

* `ConvertsBefore` — **the conversions before a position**, one after another, with the stores
  between them.

Main results:

* `convertArguments_eq_ok_iff` — what comes out of the conversion of arguments;
* `convertArguments_eq_error_iff` — the conversion of arguments fails where the first conversion
  fails, and with its fault;
* `convertArguments_of_admits` — arguments of the types of the parameters stay as they are;
* `convertArguments_exact` — the law of the conversion of arguments.
-/

import DynamicLinking.Proofs.Outcomes

set_option autoImplicit false

namespace DynamicLinking

namespace Value

theorem argument_zero_eq (args : List Value) : argument args 0 = args.head?.getD .undefined := by
  rw [argument, List.head?_eq_getElem?]

theorem argument_tail (args : List Value) (i : Nat) :
    argument args.tail i = argument args (i + 1) := by
  rw [argument, argument, List.getElem?_tail]

end Value

/-- The conversions of the arguments before the position `n` to their parameters, one after another:
the one at the position `i` leads from the store `σ i` to the next one and gives `out[i]`. -/
def ConvertsBefore (n : Nat) (ts : List StaticType) (given : List Value) (run : Runner)
    (σ : Nat → Store) (out : List Value) : Prop :=
  ∀ (i : Nat) (t : StaticType), i < n → ts[i]? = some t →
    ∃ v, out[i]? = some v ∧
      convertValue (Value.argument given i) t run (σ i) = .ok v (σ (i + 1))

section

variable {n : Nat} {t : StaticType} {ts : List StaticType} {given out : List Value} {run : Runner}
  {σ : Nat → Store} {s u : Store} {f : Fault}

/-! ### The first argument and the others -/

theorem convertArguments_cons (t : StaticType) (ts : List StaticType) (given : List Value) :
    convertArguments (t :: ts) given = (do
      let v ← convertValue (Value.argument given 0) t
      return v :: (← convertArguments ts given.tail)) := by
  rw [convertArguments, Value.argument_zero_eq]

/-- Before a position behind the first one there are the first conversion and those of the other
arguments. -/
theorem convertsBefore_succ_iff {v : Value} :
    ConvertsBefore (n + 1) (t :: ts) given run σ (v :: out) ↔
      convertValue (Value.argument given 0) t run (σ 0) = .ok v (σ 1) ∧
        ConvertsBefore n ts given.tail run (fun i => σ (i + 1)) out := by
  constructor
  · intro h
    refine ⟨?_, fun i t' hi ht' => ?_⟩
    · obtain ⟨w, hw, hconvert⟩ := h 0 t (Nat.succ_pos n) rfl
      cases hw
      exact hconvert
    · rw [Value.argument_tail]
      exact h (i + 1) t' (Nat.succ_lt_succ hi) ht'
  · rintro ⟨hfirst, hrest⟩ i t' hi ht'
    cases i with
    | zero =>
        cases ht'
        exact ⟨v, rfl, hfirst⟩
    | succ i =>
        have hi' := hrest i t' (Nat.lt_of_succ_lt_succ hi) ht'
        rwa [Value.argument_tail] at hi'

/-- The stores between the conversions, if another conversion comes first. -/
theorem ConvertsBefore.cons {v : Value}
    (hfirst : convertValue (Value.argument given 0) t run s = .ok v (σ 0))
    (h : ConvertsBefore n ts given.tail run σ out) :
    ConvertsBefore (n + 1) (t :: ts) given run (fun i => i.casesOn s σ) (v :: out) :=
  convertsBefore_succ_iff.mpr ⟨hfirst, h⟩

/-! ### What comes out -/

/-- **What comes out of the conversion of arguments**: one value for every parameter, in order, and
the arguments without a parameter. -/
theorem convertArguments_eq_ok_iff :
    convertArguments ts given run s = .ok out u ↔
      out.length = max ts.length given.length ∧
      out.drop ts.length = given.drop ts.length ∧
      ∃ σ : Nat → Store, σ 0 = s ∧ σ ts.length = u ∧
        ConvertsBefore ts.length ts given run σ out := by
  -- induction on the parameters, which take the given arguments one by one
  induction ts generalizing given out s with
  | nil =>
      constructor
      · rintro ⟨⟩
        exact ⟨by simp, rfl, fun _ => u, rfl, rfl, fun _ _ _ ht => nomatch ht⟩
      · rintro ⟨-, hout, σ, rfl, rfl, -⟩
        obtain rfl : out = given := hout
        rfl
  | cons t ts ih =>
      rw [convertArguments_cons]
      constructor
      · intro h
        obtain ⟨v, s₁, hv, h⟩ := RunM.bind_eq_ok h
        obtain ⟨vs, u₁, hvs, h⟩ := RunM.bind_eq_ok h
        cases h
        obtain ⟨hlength, hrest, σ, rfl, rfl, hσ⟩ := ih.mp hvs
        refine ⟨?_, ?_, _, rfl, rfl, hσ.cons hv⟩
        · simp only [List.length_cons, List.length_tail] at hlength ⊢
          omega
        · simpa using hrest
      · rintro ⟨hlength, hrest, σ, rfl, rfl, hσ⟩
        -- there is a value for the first parameter
        cases out with
        | nil =>
            simp only [List.length_cons, List.length_nil] at hlength
            omega
        | cons v vs =>
            obtain ⟨hv, hσ⟩ := convertsBefore_succ_iff.mp hσ
            have hvs : convertArguments ts given.tail run (σ 1) = .ok vs (σ (ts.length + 1)) := by
              refine ih.mpr ⟨?_, by simpa using hrest, _, rfl, rfl, hσ⟩
              simp only [List.length_cons, List.length_tail] at hlength ⊢
              omega
            rw [RunM.bind_of_ok hv, RunM.bind_of_ok hvs]
            rfl

/-- **The conversion of arguments fails where the first conversion fails**, and with its fault: the
conversions before it end well. -/
theorem convertArguments_eq_error_iff :
    convertArguments ts given run s = .error f u ↔
      ∃ (i : Nat) (t : StaticType) (σ : Nat → Store) (before : List Value),
        ts[i]? = some t ∧ σ 0 = s ∧ ConvertsBefore i ts given run σ before ∧
          convertValue (Value.argument given i) t run (σ i) = .error f u := by
  induction ts generalizing given s with
  | nil =>
      constructor
      · exact nofun
      · rintro ⟨i, t, σ, before, ht, -⟩
        cases ht
  | cons t ts ih =>
      rw [convertArguments_cons]
      constructor
      · intro h
        cases hv : convertValue (Value.argument given 0) t run s with
        | error e s₁ =>
            rw [RunM.bind_of_error hv] at h
            cases h
            exact ⟨0, t, fun _ => s, [], rfl, rfl, fun i _ hi => absurd hi (Nat.not_lt_zero i), hv⟩
        | ok v s₁ =>
            rw [RunM.bind_of_ok hv] at h
            cases hvs : convertArguments ts given.tail run s₁ with
            | ok vs u₁ =>
                rw [RunM.bind_of_ok hvs] at h
                cases h
            | error e u₁ =>
                rw [RunM.bind_of_error hvs] at h
                cases h
                obtain ⟨i, t', σ, before, ht', rfl, hσ, hfails⟩ := ih.mp hvs
                rw [Value.argument_tail] at hfails
                exact ⟨i + 1, t', _, v :: before, ht', rfl, hσ.cons hv, hfails⟩
      · rintro ⟨i, t', σ, before, ht', rfl, hσ, hfails⟩
        cases i with
        | zero =>
            cases ht'
            exact RunM.bind_of_error hfails _
        | succ i =>
            -- the first conversion ends well, so that there is a value before the position
            obtain ⟨v, hv, -⟩ := hσ 0 t (Nat.succ_pos i) rfl
            cases before with
            | nil => cases hv
            | cons w before =>
                obtain ⟨hw, hσ⟩ := convertsBefore_succ_iff.mp hσ
                rw [← Value.argument_tail] at hfails
                have hvs : convertArguments ts given.tail run (σ 1) = .error f u :=
                  ih.mpr ⟨i, t', _, before, ht', rfl, hσ, hfails⟩
                rw [RunM.bind_of_ok hw, RunM.bind_of_error hvs]

/-! ### Converting again -/

/-- **Arguments of the types of the parameters stay as they are**, and nobody is asked. -/
theorem convertArguments_of_admits
    (h : ∀ (i : Nat) (t : StaticType), ts[i]? = some t →
      ∃ v, out[i]? = some v ∧ t.admits v = true) :
    convertArguments ts out = pure out := by
  induction ts generalizing out with
  | nil => rfl
  | cons t ts ih =>
      obtain ⟨v, hv, hadmits⟩ := h 0 t rfl
      cases out with
      | nil => cases hv
      | cons w out =>
          obtain rfl : w = v := Option.some.inj hv
          have hrest : convertArguments ts out = pure out := ih fun i t' ht' => h (i + 1) t' ht'
          have hargument : Value.argument (w :: out) 0 = w := rfl
          rw [convertArguments_cons, hargument, convertValue_of_admits hadmits, pure_bind,
            List.tail_cons, hrest, pure_bind]

/-- Every parameter gets a value of its type. -/
theorem ConvertsBefore.admits (h : ConvertsBefore ts.length ts given run σ out) (i : Nat)
    (t : StaticType) (ht : ts[i]? = some t) : ∃ v, out[i]? = some v ∧ t.admits v = true := by
  obtain ⟨hi, -⟩ := List.getElem?_eq_some_iff.mp ht
  obtain ⟨v, hv, hconvert⟩ := h i t hi ht
  exact ⟨v, hv, admits_of_convertValue hconvert⟩

end

/-- **The law of the conversion of arguments.**  What comes out has as many values as there are
parameters or arguments, whichever are more: for every parameter the converted argument, `undefined`
standing for one that is missing, and then the other arguments as they are.  Every parameter gets a
value of its type, so that another conversion leaves everything as it is.  The conversion fails
exactly if one of the conversions fails, and with the fault of the first one.  A value of a type is
converted to itself. -/
theorem convertArguments_exact (ts : List StaticType) (given : List Value) (run : Runner)
    (s : Store) :
    (∀ out u, convertArguments ts given run s = .ok out u ↔
      out.length = max ts.length given.length ∧
      out.drop ts.length = given.drop ts.length ∧
      ∃ σ : Nat → Store, σ 0 = s ∧ σ ts.length = u ∧
        ConvertsBefore ts.length ts given run σ out) ∧
    (∀ out u, convertArguments ts given run s = .ok out u →
      (∀ (i : Nat) (t : StaticType), ts[i]? = some t →
        ∃ v, out[i]? = some v ∧ t.admits v = true) ∧
      convertArguments ts out = pure out) ∧
    (∀ f u, convertArguments ts given run s = .error f u ↔
      ∃ (i : Nat) (t : StaticType) (σ : Nat → Store) (before : List Value),
        ts[i]? = some t ∧ σ 0 = s ∧ ConvertsBefore i ts given run σ before ∧
          convertValue (Value.argument given i) t run (σ i) = .error f u) ∧
    ∀ (v : Value) (t : StaticType), t.admits v = true → convertValue v t = pure v := by
  refine ⟨fun out u => convertArguments_eq_ok_iff, fun out u h => ?_,
    fun f u => convertArguments_eq_error_iff, fun v t => convertValue_of_admits⟩
  obtain ⟨-, -, σ, -, -, hσ⟩ := convertArguments_eq_ok_iff.mp h
  exact ⟨hσ.admits, convertArguments_of_admits hσ.admits⟩

/-- A missing argument is `undefined`, which is no true value. -/
example (run : Runner) (s : Store) :
    convertArguments [.boolean, .object] [] run s = .ok [.boolean false, .undefined] s := rfl

end DynamicLinking
