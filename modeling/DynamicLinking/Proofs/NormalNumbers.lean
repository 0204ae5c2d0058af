/-
A value that a 64-bit integer has is written as that integer, and a double stands only for what has
no integer: fractions, what is out of range, and the negative zero.  Equality and the filter of
optimistic call sites go by the representation, so that every way in which numbers come about has
to keep to it: the readers of texts, the casts of results, the conversions to static types, and the
lengths of strings.

An object is asked for its primitive value, so that the number of an object may be one that user
code returned.  Then it is normal if user code returns normal numbers only, and of that only the
calls count that the conversion makes.

Main definitions:

* `Runner.Returns`, `Runner.only` — user code that returns values of one kind only, and user code
  that is made to;
* `RunM.ReceivesOnly` — **a computation is returned values of one kind only by user code**;
* `RunYields` — what comes out of a computation if user code returns values of one kind.

Main results:

* `RunYields.of_receivesOnly` — only what is returned in the course of the computation counts;
* `Number.isNormal_float_iff` — which doubles are normal, by their values;
* `Number.isNormal_normalize`, `Number.isNormal_ofText` — the producers of numbers;
* `runYields_toPrimitive`, `runYields_convertValue` — coercions and conversions;
* `numbers_stay_normal` — numbers stay normal.
-/

import DynamicLinking.Proofs.Linking
import DynamicLinking.Proofs.Reboxing

set_option autoImplicit false

namespace DynamicLinking

/-! ### Values that user code returns -/

/-- User code returns values of one kind only, whatever it is entered for. -/
def Runner.Returns (P : Value → Prop) (run : Runner) : Prop :=
  ∀ e self args, Yields P (run e self args)

open Classical in
/-- User code that is stopped where it would return a value that is not of the kind. -/
noncomputable def Runner.only (P : Value → Prop) (run : Runner) : Runner := fun e self args s =>
  if ∀ v t, run e self args s = .ok v t → P v then run e self args s else .error .tooDeep s

/-- User code returns values of one kind only in the course of the computation from a store: what
becomes of the calls from which it returns any other value has no influence. -/
def RunM.ReceivesOnly {α : Type} (P : Value → Prop) (m : RunM α) (run : Runner) (s : Store) :
    Prop :=
  ∀ run' : Runner,
    (∀ e self args t, (∀ v u, run e self args t = .ok v u → P v) →
      run' e self args t = run e self args t) →
    m run' s = m run s

/-- The results of a computation are of the kind `Q` if user code returns values of the kind `P`
only. -/
def RunYields {α : Type} (P : Value → Prop) (Q : α → Prop) (m : RunM α) : Prop :=
  ∀ run : Runner, run.Returns P → Yields Q (m run)

section

variable {α β : Type} {P : Value → Prop} {Q : α → Prop} {R : β → Prop}

theorem Runner.returns_only (run : Runner) : (run.only P).Returns P := by
  intro e self args s v t hv
  unfold Runner.only at hv
  split at hv
  · rename_i hkind
    exact hkind v t hv
  · cases hv

/-- **Only what user code returns in the course of the computation counts.** -/
theorem RunYields.of_receivesOnly {m : RunM α} {run : Runner} {s t : Store} {a : α}
    (hm : RunYields P Q m) (h : m.ReceivesOnly P run s) (hr : m run s = .ok a t) : Q a := by
  -- user code that is stopped in time does the same for the computation
  have hsame : m (run.only P) s = m run s := h (run.only P) fun e self args u hkind => if_pos hkind
  exact hm (run.only P) run.returns_only s a t (hsame.trans hr)

theorem runYields_pure {a : α} (h : Q a) : RunYields P Q (pure a : RunM α) :=
  fun _ _ => yields_pure h

/-- A computation that runs no user code. -/
theorem runYields_lift {m : StoreM α} (h : Yields Q m) : RunYields P Q (liftM m : RunM α) :=
  fun _ _ => h

theorem runYields_enter (e : Entry) (self : Value) (args : List Value) :
    RunYields P P (enter e self args) :=
  fun _ hrun => hrun e self args

theorem runYields_bind {m : RunM α} {f : α → RunM β} (hm : RunYields P Q m)
    (hf : ∀ a, Q a → RunYields P R (f a)) : RunYields P R (m >>= f) :=
  fun run hrun => yields_bind (hm run hrun) fun a ha => hf a ha run hrun

theorem runYields_after {m : RunM α} {f : α → RunM β} (hf : ∀ a, RunYields P R (f a)) :
    RunYields P R (m >>= f) :=
  fun run hrun => yields_after fun a => hf a run hrun

/-! ### Coercions -/

theorem runYields_callFunction (o : Object) (self : Value) (args : List Value) :
    RunYields P P (callFunction o self args) := by
  unfold callFunction
  split
  · exact runYields_enter _ _ _
  · exact runYields_enter _ _ _
  · exact runYields_lift nofun

/-- What the methods of an object answer is what user code returned. -/
theorem runYields_askMethods (o : Object) (ms : List String) :
    RunYields P (fun p? => ∀ p, p? = some p → P (.primitive p)) (askMethods o ms) := by
  induction ms with
  | nil => exact runYields_pure nofun
  | cons m ms ih =>
      unfold askMethods
      refine runYields_after fun v => ?_
      cases v with
      | primitive p => exact ih
      | object f =>
          dsimp only
          split
          · refine runYields_bind (runYields_callFunction f (.object o) []) fun r hr => ?_
            cases r with
            | primitive p =>
                refine runYields_pure fun q hq => ?_
                cases hq
                exact hr
            | object _ => exact ih
          · exact ih

/-- The primitive value of a value is the value itself, a text, or what user code returned. -/
theorem runYields_toPrimitive (htext : ∀ t, P (.string t)) {v : Value} (hv : P v) (hint : Hint) :
    RunYields P (fun p => P (.primitive p)) (toPrimitive v hint) := by
  cases v with
  | primitive p => exact runYields_pure hv
  | object o =>
      unfold toPrimitive Object.toPrimitive
      dsimp only
      split
      · exact runYields_after fun t => runYields_pure (htext t)
      · split
        · refine runYields_bind (runYields_askMethods o hint.methods) fun p? hp => ?_
          cases p? with
          | some p => exact runYields_pure (hp p rfl)
          | none => exact runYields_pure (htext _)
        · exact runYields_pure (htext _)

end

/-! ### Normal numbers -/

namespace Number

/-- **The doubles that are normal**, by their values: the finite ones that are fractions, or out of
the range of 64-bit integers, or the negative zero. -/
theorem isNormal_float_iff (x : Binary64) :
    (Number.float x).IsNormal ↔
      x.isFinite = true ∧ ((∀ i : Int, x.value ≠ i) ∨ x.value < -2 ^ 63 ∨ 2 ^ 63 ≤ x.value ∨
        (x.isZero = true ∧ x.isNegative = true)) := by
  refine (normalize_eq_float_iff x).trans (and_congr_right fun _ => ?_)
  cases hintegral : x.isIntegral with
  | false =>
      -- a double that denotes an integer would be integral
      have hfraction : ∀ i : Int, x.value ≠ i := fun i hi => by
        rw [(Binary64.truncated_of_value hi).1] at hintegral
        cases hintegral
      simp [hfraction]
  | true =>
      have hvalue := Binary64.value_of_isIntegral hintegral
      have hrange : inInt64 x.truncated = false ↔ x.value < -2 ^ 63 ∨ 2 ^ 63 ≤ x.value := by
        have hpower : (2 ^ 63 : ℚ) = ((2 ^ 63 : Int) : ℚ) := by norm_cast
        rw [inInt64_eq_false_iff, hvalue, hpower, ← Int.cast_neg, Int.cast_lt, Int.cast_le]
        exact Iff.rfl
      have hinteger : ¬ ∀ i : Int, x.value ≠ i := fun h => h _ hvalue
      rw [Bool.true_and, Bool.and_eq_false_iff, hrange, Bool.not_eq_false', Bool.and_eq_true,
        or_iff_right hinteger, or_assoc]

/-- What normalization makes of a double is normal. -/
theorem isNormal_normalize (x : Binary64) : (normalize x).IsNormal := by
  cases h : normalize x with
  | float y =>
      obtain ⟨rfl, -⟩ := eq_of_normalize_float h
      exact h
  | _ => trivial

/-- The number of a text is normal, by whichever way it is read. -/
theorem isNormal_ofText (s : String) : (ofText s).IsNormal := by
  unfold ofText ofTrimmed
  split
  · trivial
  · split
    · trivial
    · split
      · trivial
      · split
        · split <;> trivial
        · split
          · trivial
          · split
            · exact isNormal_normalize _
            · trivial

end Number

theorem Value.isNormal_number_iff {n : Number} : (Value.number n).IsNormal ↔ n.IsNormal :=
  ⟨fun h => h n rfl, fun h m hm => by cases hm; exact h⟩

theorem Primitive.isNormal_toNumber {p : Primitive} (hp : (Value.primitive p).IsNormal) :
    p.toNumber.IsNormal := by
  cases p with
  | string s => exact Number.isNormal_ofText s
  | number n => exact hp n rfl
  | _ => trivial

/-! ### Conversions and casts -/

section

variable {v : Value}

theorem runYields_toNumber (hv : v.IsNormal) :
    RunYields Value.IsNormal Number.IsNormal (toNumber v) :=
  runYields_bind (runYields_toPrimitive (fun _ => nofun) hv .number) fun _ hp =>
    runYields_pure (Primitive.isNormal_toNumber hp)

theorem runYields_convertToPrimitive (hv : v.IsNormal) (t : StaticType) :
    RunYields Value.IsNormal Value.IsNormal (convertToPrimitive v t) := by
  unfold convertToPrimitive
  split
  · exact runYields_pure nofun
  · exact runYields_after fun n => runYields_pure (Value.isNormal_number_iff.mpr trivial)
  · exact runYields_after fun n => runYields_pure (Value.isNormal_number_iff.mpr trivial)
  · exact runYields_after fun n =>
      runYields_pure (Value.isNormal_number_iff.mpr (Number.isNormal_normalize _))
  · exact runYields_pure hv

theorem runYields_functionalProxy {P : Value → Prop} (v : Value) (m : String) :
    RunYields P Value.IsNormal (liftM (functionalProxy v m) : RunM Value) := by
  refine runYields_lift fun s w t h => ?_
  unfold functionalProxy at h
  split at h
  · cases h
    exact nofun
  · cases h

/-- **What a conversion gives is normal**: the value itself, an integer, a double that was
normalized, or no number at all. -/
theorem runYields_convertValue (hv : v.IsNormal) (t : StaticType) :
    RunYields Value.IsNormal Value.IsNormal (convertValue v t) := by
  unfold convertValue
  split
  · exact runYields_pure hv
  · cases t with
    | object => exact runYields_pure hv
    | void => exact runYields_pure nofun
    | string => exact runYields_after fun t => runYields_pure nofun
    | functional m => exact runYields_functionalProxy v m
    | boxedBoolean | boxedInt | boxedLong | boxedDouble =>
        dsimp only
        split
        · exact runYields_pure nofun
        · exact runYields_convertToPrimitive hv _
    | boolean | int | long | double => exact runYields_convertToPrimitive hv _

/-- The cast of a boxed result is normal. -/
theorem isNormal_narrowed (hv : v.IsNormal) (t : StaticType) : (narrowed t v).IsNormal := by
  unfold narrowed
  split
  · exact nofun
  · exact Value.isNormal_number_iff.mpr trivial
  · exact nofun
  · exact Value.isNormal_number_iff.mpr trivial
  · exact Value.isNormal_number_iff.mpr trivial
  · exact Value.isNormal_number_iff.mpr (Number.isNormal_normalize _)
  · exact hv

/-- Where the result of an invocation is unboxed, it is cast; otherwise it is dropped, or left
alone. -/
theorem Invocation.eval_unboxResult {i j : Invocation} {t : StaticType}
    (hj : i.unboxResult t = .ok j) {args : List Value} {run : Runner} {s u : Store}
    (hv : i.eval args run s = .ok v u) (hnormal : v.IsNormal) :
    ∃ w, j.eval args run s = .ok w u ∧ w.IsNormal := by
  unfold unboxResult at hj
  split at hj
  · split at hj
    · cases hj
      exact ⟨narrowed t v, RunM.bind_of_ok hv _, isNormal_narrowed hnormal t⟩
    · cases hj
  · split at hj
    · cases hj
      exact ⟨.undefined, RunM.bind_of_ok hv _, nofun⟩
    · cases hj
      exact ⟨v, hv, hnormal⟩

/-- What is read of a string is its length, a text, or nothing. -/
theorem isNormal_stringMember (s key : String) :
    (Value.primitive (Primitive.stringMember s key)).IsNormal := by
  unfold Primitive.stringMember
  split
  · exact Value.isNormal_number_iff.mpr trivial
  · split
    · exact nofun
    · exact nofun

theorem runYields_stringGet {P : Value → Prop} (d : Descriptor) (args : List Value) :
    RunYields P Value.IsNormal (evalStringGet d args) := by
  refine runYields_after fun key => ?_
  split
  · exact runYields_pure (isNormal_stringMember _ key)
  · exact runYields_pure nofun

end

/-- **Numbers stay normal.**  A number is normal unless it is a double that is not finite or that
denotes an integer of 64 bits, the negative zero apart.  If a value is normal, and so is whatever
user code returns on the way, then its number is, and so is what any conversion makes of it.  An
invocation that is unboxed casts a normal result to a normal one, and what is read of a string is
normal in any case. -/
theorem numbers_stay_normal (run : Runner) (s : Store) :
    (∀ n : Number, n.IsNormal ↔ ∀ x, n = .float x →
      x.isFinite = true ∧ ((∀ i : Int, x.value ≠ i) ∨ x.value < -2 ^ 63 ∨ 2 ^ 63 ≤ x.value ∨
        (x.isZero = true ∧ x.isNegative = true))) ∧
    (∀ (v : Value) (n : Number) (t : Store), v.IsNormal →
      (toNumber v).ReceivesOnly Value.IsNormal run s →
      toNumber v run s = .ok n t → n.IsNormal) ∧
    (∀ (v : Value) (ty : StaticType) (w : Value) (t : Store), v.IsNormal →
      (convertValue v ty).ReceivesOnly Value.IsNormal run s →
      convertValue v ty run s = .ok w t → w.IsNormal) ∧
    (∀ (i j : Invocation) (ty : StaticType) (args : List Value) (v : Value) (t : Store),
      i.unboxResult ty = .ok j → i.eval args run s = .ok v t → v.IsNormal →
      ∃ w, j.eval args run s = .ok w t ∧ w.IsNormal) ∧
    ∀ (d : Descriptor) (args : List Value) (w : Value) (t : Store),
      evalStringGet d args run s = .ok w t → w.IsNormal := by
  refine ⟨fun n => ?_, fun v n t hv hreceives h => ?_, fun v ty w t hv hreceives h => ?_,
    fun i j ty args v t hj hv hnormal => Invocation.eval_unboxResult hj hv hnormal,
    fun d args w t h => ?_⟩
  · cases n with
    | float x => simpa using Number.isNormal_float_iff x
    | _ => exact ⟨fun _ => nofun, fun _ => trivial⟩
  · exact (runYields_toNumber hv).of_receivesOnly hreceives h
  · exact (runYields_convertValue hv ty).of_receivesOnly hreceives h
  · -- whatever user code returns for a key, no number comes of it
    have hanything : Runner.Returns (fun _ => True) run := fun _ _ _ _ _ _ _ => trivial
    exact runYields_stringGet d args run hanything s w t h

/-! ### An object that answers one half -/

namespace Halves

/-- One half. -/
def half : Binary64 := ⟨4602678819172646912⟩

/-- A function that answers one half. -/
def answering : FunctionCode :=
  ⟨"valueOf", false, false, [.answer (.literal (.number (.float half)))]⟩

/-- A script object. -/
def object : Value := .object (.ordinary 0)

/-- A store in which the object is asked for its value by the function. -/
def store : Store :=
  ({} : Store).setScript 0
    { properties := Table.ofList [("valueOf", .object (.function 1 answering))] }

/-- Converting the object takes the number that the function returns. -/
theorem convertValue_object {run : Runner} {n : Number} {t : Store}
    (h : run (.code answering.body) object [] store = .ok (.number n) t) :
    convertValue object .double run store = .ok (.number (.normalize n.toBinary64)) t := by
  have hasked : askMethods (.ordinary 0) Hint.number.methods run store =
      .ok (some (.number n)) t :=
    RunM.bind_of_ok (m := enter (.code answering.body) object []) h _
  have hprimitive : toPrimitive object .number run store = .ok (.number n) t :=
    RunM.bind_of_ok hasked _
  have hnumber : toNumber object run store = .ok n t := RunM.bind_of_ok hprimitive _
  exact RunM.bind_of_ok hnumber _

/-- The function returns one half. -/
theorem answers :
    runEntry maxDepth (.code answering.body) object [] store = .ok (.number (.float half)) store :=
  rfl

/-- Nothing else is returned while the object is converted. -/
theorem receivesOnly_convertValue :
    (convertValue object .double).ReceivesOnly Value.IsNormal (runEntry maxDepth) store := by
  intro run' hrun'
  have hnormal : ∀ v u, runEntry maxDepth (.code answering.body) object [] store = .ok v u →
      v.IsNormal := by
    intro v u hv
    cases answers.symm.trans hv
    have hhalf : Number.normalize half = .float half := by decide
    exact Value.isNormal_number_iff.mpr hhalf
  have hanswers := (hrun' _ _ _ _ hnormal).trans answers
  exact (convertValue_object hanswers).trans (convertValue_object answers).symm

/-- An invocation that answers `null` in a `Double`. -/
def nothing : Invocation := ⟨⟨[.object], .boxedDouble⟩, .constant .null⟩

/-- One half is a fraction, so that it stays a double; `null` in a `Double` becomes the integer
zero. -/
theorem half_stays_normal :
    convertValue object .double (runEntry maxDepth) store = .ok (.number (.float half)) store ∧
      (Number.float half).IsNormal ∧
      ∃ j w, nothing.unboxResult .double = .ok j ∧
        j.eval [.undefined] (runEntry maxDepth) store = .ok w store ∧ w.IsNormal := by
  obtain ⟨-, -, hconverts, hunboxes, -⟩ := numbers_stay_normal (runEntry maxDepth) store
  have hhalf : convertValue object .double (runEntry maxDepth) store =
      .ok (.number (.float half)) store := rfl
  have hnormal := hconverts object .double _ store nofun receivesOnly_convertValue hhalf
  obtain ⟨w, hw, hzero⟩ := hunboxes nothing _ .double [.undefined] .null store rfl rfl nofun
  exact ⟨hhalf, Value.isNormal_number_iff.mp hnormal, _, w, rfl, hw, hzero⟩

end Halves

end DynamicLinking
