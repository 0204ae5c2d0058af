/-
A result of a boxed type is adapted to the primitive type in the box, and then back to the box.  On
the way there it is cast, and on the way back it is converted, which leaves it alone: what comes out
is the cast.  So the question is which values a cast to the type they already have changes.

Truths and integers stay as they are.  A number goes to `double` through the word of 64 bits and is
normalized when it comes back, although a `Double` has all numbers: an integer comes back exactly if
it is the value of a double, and a double exactly if it was normal.

Main results:

* `Number.normalize_equals_iff` — the numbers that come back from their doubles;
* `narrowed_equals_iff` — the values that a cast to their own type does not change;
* `Candidate.reboxed_equals_iff` — **unboxing and boxing again loses nothing but integers that are
  too long for a double, and doubles that are not normal**.
-/

import DynamicLinking.Proofs.AdaptedInvocations
import DynamicLinking.Proofs.Optimism

set_option autoImplicit false

namespace DynamicLinking

/-! ### Numbers -/

namespace Number

/-- Only the integer itself equals an integer. -/
theorem equals_integer_iff {n : Number} {i : Int64} :
    n.equals (.integer i) = true ↔ n = .integer i := by
  cases n with
  | integer j => exact beq_iff_eq.trans ⟨congrArg Number.integer, Number.integer.inj⟩
  | _ => exact ⟨nofun, nofun⟩

/-- A double that stays one is the same one, and no NaN. -/
theorem eq_of_normalize_float {x y : Binary64} (h : normalize x = .float y) :
    y = x ∧ x.isNaN = false := by
  unfold normalize at h
  split at h
  · cases h
  · rename_i hnan
    split at h
    · split at h <;> cases h
    · split at h
      · cases h
      · cases h
        exact ⟨rfl, Bool.eq_false_iff.mpr hnan⟩

/-- **The numbers that come back from their doubles**: the normal ones, except for the integers that
are too long. -/
theorem normalize_equals_iff (n : Number) :
    (normalize n.toBinary64).equals n = true ↔
      n.IsNormal ∧ ∀ i, n = .integer i → HasShortSignificand i.toInt := by
  cases n with
  | integer i =>
      refine equals_integer_iff.trans ((normalize_ofInt_iff i).trans ⟨fun h => ?_, fun h => ?_⟩)
      · exact ⟨trivial, fun j hj => by cases hj; exact h⟩
      · exact h.2 i rfl
  | float x =>
      constructor
      · intro h
        refine ⟨?_, nofun⟩
        rw [IsNormal]
        cases hx : normalize x with
        | float y => rw [(eq_of_normalize_float hx).1]
        | _ =>
            rw [toBinary64, hx] at h
            cases h
      · rintro ⟨h, -⟩
        have h : normalize x = .float x := h
        have hnan : x.isNaN = false := (eq_of_normalize_float h).2
        rw [toBinary64, h]
        rw [equals_float, Binary64.equals, hnan, beq_self_eq_true]
        rfl
  | nan => exact ⟨fun _ => ⟨trivial, nofun⟩, fun _ => by decide +kernel⟩
  | infinity => exact ⟨fun _ => ⟨trivial, nofun⟩, fun _ => by decide +kernel⟩
  | negInfinity => exact ⟨fun _ => ⟨trivial, nofun⟩, fun _ => by decide +kernel⟩

/-- An integer of the 32-bit range is not changed by cutting it to 32 bits. -/
theorem ofInt32_toInt32 {i : Int64} (h : inInt32 i.toInt = true) :
    ofInt32 (Number.integer i).toInt32 = .integer i := by
  rw [inInt32_iff] at h
  rw [ofInt32, toInt32]
  congr 1
  rw [← Int64.toInt_inj, Int32.toInt_toInt64, Int64.toInt_toInt32]
  exact Int.bmod_eq_of_le (by omega) (by omega)

end Number

/-! ### Casts -/

/-- **The values that a cast to their own type does not change.** -/
theorem narrowed_equals_iff {boxed p : StaticType} (hp : boxed.unboxed? = some p) {v : Value}
    (hv : p.admits v = true) :
    (narrowed p v).equals v = true ↔
      ¬ (boxed = .boxedDouble ∧ (v.IsOverlong ∨ ¬ v.IsNormal)) := by
  obtain ⟨q, rfl⟩ := exists_primitive_of_admits (isPrimitive_of_unboxed? hp) hv
  cases boxed with
  | boxedBoolean =>
      cases hp
      cases q with
      | boolean b =>
          have hsame : (Value.boolean b).equals (.boolean b) = true := by
            simp [Value.equals, Primitive.equals]
          exact ⟨fun _ => nofun, fun _ => hsame⟩
      | _ => cases hv
  | boxedInt =>
      cases hp
      cases q with
      | number n =>
          cases n with
          | integer i =>
              have hnarrowed : narrowed .int (.number (.integer i)) = .number (.integer i) :=
                congrArg Value.number (Number.ofInt32_toInt32 hv)
              rw [hnarrowed]
              exact ⟨fun _ => nofun, fun _ => Number.equals_integer_iff.mpr rfl⟩
          | _ => cases hv
      | _ => cases hv
  | boxedLong =>
      cases hp
      cases q with
      | number n =>
          cases n with
          | integer i => exact ⟨fun _ => nofun, fun _ => Number.equals_integer_iff.mpr rfl⟩
          | _ => cases hv
      | _ => cases hv
  | boxedDouble =>
      cases hp
      cases q with
      | number n =>
          refine (Number.normalize_equals_iff n).trans ⟨?_, fun h => ?_⟩
          · rintro ⟨hnormal, hshort⟩ ⟨-, ⟨i, hi, hlong⟩ | h⟩
            · cases hi
              exact hlong (hshort i rfl)
            · refine h fun m hm => ?_
              cases hm
              exact hnormal
          · constructor
            · by_contra hnormal
              exact h ⟨rfl, .inr fun hall => hnormal (hall n rfl)⟩
            · rintro i rfl
              by_contra hlong
              exact h ⟨rfl, .inl ⟨i, rfl, hlong⟩⟩
      | _ => cases hv
  | _ => cases hp

/-! ### There and back -/

/-- An adaptation of the result alone is a filter behind the invocation. -/
theorem Invocation.asType_withResult {i : Invocation} {t : StaticType} {f? : Option ResultFilter}
    (hf : i.signature.result.filterTo? t = some f?) :
    i.asType (i.signature.withResult t) = .ok (i.finished t f?) := by
  have hspread : i.spread (i.signature.withResult t) = i := if_pos rfl
  have hconverts := StaticType.isSome_filterTo? i.signature.result t
  rcases asType_cases i (i.signature.withResult t) with ⟨⟨-, hclash⟩, -⟩ | ⟨-, g?, hg, h⟩
  · rcases hclash with h | ⟨j, a, b, ha, hb, hab⟩ | h
    · exact absurd rfl h
    · -- the parameters are the same ones
      cases ha.symm.trans hb
      rw [StaticType.convertsTo_refl] at hab
      cases hab
    · have hfails : i.signature.result.convertsTo t = false := h
      rw [hf, hfails] at hconverts
      cases hconverts
  · cases hf.symm.trans hg
    rw [h, hspread]
    rfl

/-- From a box to the primitive type in it there is the cast, and the conversion back. -/
theorem filterTo?_unboxed {boxed p : StaticType} (hp : boxed.unboxed? = some p) :
    boxed.filterTo? p = some (some (.narrow p)) ∧
      p.filterTo? boxed = some (some (.convert boxed)) := by
  cases boxed <;> cases hp <;> exact ⟨rfl, rfl⟩

/-- What is in a box of primitive type is in the box. -/
theorem admits_of_unboxed? {boxed p : StaticType} (hp : boxed.unboxed? = some p) {v : Value}
    (hv : p.admits v = true) : boxed.admits v = true := by
  cases v with
  | object o => cases boxed <;> cases hp <;> cases hv
  | primitive q =>
      cases boxed <;> cases hp
      all_goals
        cases q with
        | null => rfl
        | _ => exact hv

/-- The cast of what is in a box is in the box. -/
theorem admits_recast {boxed p : StaticType} (hp : boxed.unboxed? = some p) {v : Value}
    (hv : boxed.admits v = true) : boxed.admits (narrowed p v) = true :=
  admits_of_unboxed? hp
    (admits_narrowed hp (isPrimitive_of_unboxed? hp) (StaticType.widensTo_refl p) hv)

namespace Candidate

variable {k : Candidate} {boxed p : StaticType}

/-- The candidate with its result unboxed, and the one with its result boxed again.  The second
answers the casts of what the candidate answers. -/
theorem exists_reboxed (hresult : k.result = boxed) (hp : boxed.unboxed? = some p) :
    ∃ unboxed reboxed : Candidate,
      k.adaptTo (k.invocation.signature.withResult p) = .ok unboxed ∧
        unboxed.adaptTo k.invocation.signature = .ok reboxed ∧
        ∀ args run s v t, k.invocation.eval args run s = .ok v t → boxed.admits v = true →
          reboxed.invocation.eval args run s = .ok (narrowed p v) t := by
  subst hresult
  obtain ⟨hnarrow, hconvert⟩ := filterTo?_unboxed hp
  have hi := Invocation.asType_withResult hnarrow
  generalize hi' : k.invocation.finished p (some (.narrow p)) = i at hi
  have hsignature : i.signature.withResult k.result = k.invocation.signature := by
    rw [← hi']
    rfl
  have hresult : i.signature.result = p := by rw [← hi']; rfl
  have hj := Invocation.asType_withResult (hresult.symm ▸ hconvert)
  rw [hsignature] at hj
  refine ⟨{ k with invocation := i },
    { k with invocation := i.finished k.result (some (.convert k.result)) }, ?_, ?_, ?_⟩
  · rw [adaptTo, hi]
    rfl
  · rw [adaptTo, hj]
    rfl
  · intro args run s v t hv hadmits
    have hnarrowed : i.eval args run s = .ok (narrowed p v) t := by
      rw [← hi', Invocation.eval_finished, RunM.bind_of_ok hv]
      rfl
    -- the cast is in the box, so that there is nothing to convert
    rw [Invocation.eval_finished, RunM.bind_of_ok hnarrowed, finish_some, ResultFilter.apply,
      convertValue_of_admits (admits_recast hp hadmits)]
    rfl

/-- **Unboxing and boxing again loses nothing but integers that are too long for a double, and
doubles that are not normal.**  Any candidate of a boxed type can be adapted to the primitive type
and back, and then answers wherever it did, in the same store; the answer is equal to the value that
it had unless that was such a number in a `Double`. -/
theorem reboxed_equals_iff (hresult : k.result = boxed) (hp : boxed.unboxed? = some p) :
    ∃ unboxed reboxed : Candidate,
      k.adaptTo (k.invocation.signature.withResult p) = .ok unboxed ∧
        unboxed.adaptTo k.invocation.signature = .ok reboxed ∧
        ∀ args run s v t, k.invocation.eval args run s = .ok v t → boxed.admits v = true →
          v ≠ .null →
          ∃ w, reboxed.invocation.eval args run s = .ok w t ∧ boxed.admits w = true ∧
            (w.equals v = true ↔
              ¬ (boxed = .boxedDouble ∧ (v.IsOverlong ∨ ¬ v.IsNormal))) := by
  obtain ⟨unboxed, reboxed, hunboxed, hreboxed, heval⟩ := exists_reboxed hresult hp
  refine ⟨unboxed, reboxed, hunboxed, hreboxed, fun args run s v t hv hadmits hnull => ?_⟩
  have hinside : p.admits v = true :=
    (eq_null_or_admits_of_unboxed? hp hadmits).resolve_left hnull
  exact ⟨narrowed p v, heval args run s v t hv hadmits, admits_recast hp hadmits,
    narrowed_equals_iff hp hinside⟩

end Candidate

/-! ### An integer in a `Double` -/

namespace LongInteger

/-- The largest integer of 64 bits is no double, but the smallest one is a power of two: it comes
back from a `Double`. -/
theorem reboxes_minimum :
    ∃ unboxed reboxed : Candidate,
      (answering (.number (.integer Int64.minValue)) .boxedDouble).adaptTo ⟨[.object], .double⟩ =
          .ok unboxed ∧
        unboxed.adaptTo ⟨[.object], .boxedDouble⟩ = .ok reboxed ∧
        ∀ args run s, ∃ w, reboxed.invocation.eval args run s = .ok w s ∧
          w.equals (.number (.integer Int64.minValue)) = true := by
  obtain ⟨unboxed, reboxed, hunboxed, hreboxed, h⟩ := Candidate.reboxed_equals_iff
    (k := answering (.number (.integer Int64.minValue)) .boxedDouble) rfl rfl
  refine ⟨unboxed, reboxed, hunboxed, hreboxed, fun args run s => ?_⟩
  obtain ⟨w, hw, -, hequals⟩ := h args run s _ s rfl rfl nofun
  refine ⟨w, hw, hequals.mpr ?_⟩
  rintro ⟨-, ⟨i, hi, hlong⟩ | hnormal⟩
  · cases hi
    exact hlong ⟨1, 63, by decide, by decide⟩
  · exact hnormal (isNormal_integer _)

/-- `2 ^ 53 + 1` does not: boxed results are not always kept. -/
theorem not_always_reboxed :
    ¬ ∀ (k : Candidate) (p : StaticType), k.result.unboxed? = some p →
      ∃ unboxed reboxed : Candidate,
        k.adaptTo (k.invocation.signature.withResult p) = .ok unboxed ∧
          unboxed.adaptTo k.invocation.signature = .ok reboxed ∧
          ∀ args run s v t, k.invocation.eval args run s = .ok v t →
            k.result.admits v = true → v ≠ .null →
            ∃ w, reboxed.invocation.eval args run s = .ok w t ∧ w.equals v = true := by
  intro h
  obtain ⟨unboxed, reboxed, hunboxed, hreboxed, h⟩ :=
    h (answering (.number (.integer 9007199254740993)) .boxedDouble) .double rfl
  cases hunboxed
  cases hreboxed
  obtain ⟨w, hw, hequals⟩ := h [] (fun _ _ _ => pure .undefined) {} _ _ rfl rfl nofun
  cases hw
  have hnormal := (Number.normalize_equals_iff (.integer 9007199254740993)).mp hequals
  exact not_hasShortSignificand (hnormal.2 _ rfl)

end LongInteger

end DynamicLinking
