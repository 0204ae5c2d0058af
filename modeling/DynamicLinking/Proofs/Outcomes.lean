/-
Two ways of serving a call are compared by their outcomes: the values and the errors that they
answer and the stores that they leave behind, up to identities that were given anew.  Where they
differ in the type that they declare for the result alone, the result reaches the type of the call
site through different filters, and it depends on the value whether that makes a difference.

Main definitions:

* `Value.Alike`, `Store.Alike`, `Outcome.Alike` — **equality up to new identities**;
* `StaticType.Honours` — a value for which a declared type of results makes no difference.

Main results:

* `admits_of_convertValue` — what a conversion answers is a value of the type;
* `finish_alike_iff` — **the filters for a declared type and for `object` agree exactly on the
  values that honour the declared type**.
-/

import DynamicLinking.Proofs.SiteTypes

set_option autoImplicit false

namespace DynamicLinking

/-! ### Equality up to new identities -/

/-- The values differ at most in the identities of method references, and of the new objects that
stand for them. -/
inductive Value.Alike : Value → Value → Prop where
  | refl (v : Value) : Alike v v
  | methodRef (i j : Nat) (c : HostClass) (m : String) (isStatic : Bool) :
      Alike (.object (.methodRef i c m isStatic)) (.object (.methodRef j c m isStatic))
  | proxy (i j : Nat) (m : String) {v w : Value} (h : Alike v w) :
      Alike (.object (.proxy i m v)) (.object (.proxy j m w))

namespace Value.Alike

variable {v w : Value}

theorem eq_of_primitive {p : Primitive} (h : Alike v (.primitive p)) : v = .primitive p := by
  cases h
  rfl

theorem symm (h : v.Alike w) : w.Alike v := by
  induction h with
  | refl v => exact .refl v
  | methodRef i j c m isStatic => exact .methodRef j i c m isStatic
  | proxy i j m _ ih => exact .proxy j i m ih

theorem trans {u : Value} (h : u.Alike v) (h' : v.Alike w) : u.Alike w := by
  induction h generalizing w with
  | refl v => exact h'
  | methodRef i j c m isStatic =>
      cases h' with
      | refl => exact .methodRef i j c m isStatic
      | methodRef _ k => exact .methodRef i k c m isStatic
  | proxy i j m h ih =>
      cases h' with
      | refl => exact .proxy i j m h
      | proxy _ k _ h' => exact .proxy i k m (ih h')

/-- Values that are alike are of the same types. -/
theorem admits_eq (h : v.Alike w) (t : StaticType) : t.admits v = t.admits w := by
  cases h with
  | refl => rfl
  | methodRef i j c m isStatic => cases t <;> rfl
  | proxy i j m h => cases t <;> rfl

end Value.Alike

/-- The stores differ at most in the identity that is given next. -/
def Store.Alike (s t : Store) : Prop :=
  t = { s with nextId := t.nextId }

theorem Store.Alike.refl (s : Store) : s.Alike s := rfl

theorem Store.Alike.symm {s t : Store} (h : s.Alike t) : t.Alike s := by
  unfold Store.Alike at h ⊢
  rw [h]

theorem Store.Alike.trans {s t u : Store} (h : s.Alike t) (h' : t.Alike u) : s.Alike u := by
  unfold Store.Alike at h h' ⊢
  rw [h', h]

theorem Store.Alike.withNextId {s t : Store} (h : s.Alike t) (n m : Nat) :
    Store.Alike { s with nextId := n } { t with nextId := m } := by
  unfold Store.Alike at h ⊢
  rw [h]

/-- How a computation ends: with a value or with a fault, and in a store. -/
abbrev Outcome := EStateM.Result Fault Store Value

/-- The outcomes are equal up to new identities. -/
inductive Outcome.Alike : Outcome → Outcome → Prop where
  | ok {v w : Value} {s t : Store} (hv : v.Alike w) (hs : s.Alike t) : Alike (.ok v s) (.ok w t)
  | error (f : Fault) {s t : Store} (hs : s.Alike t) : Alike (.error f s) (.error f t)

theorem Outcome.Alike.refl (x : Outcome) : x.Alike x := by
  cases x with
  | ok v s => exact .ok (.refl v) (.refl s)
  | error f s => exact .error f (.refl s)

theorem Outcome.Alike.symm {x y : Outcome} (h : x.Alike y) : y.Alike x := by
  cases h with
  | ok hv hs => exact .ok hv.symm hs.symm
  | error f hs => exact .error f hs.symm

theorem Outcome.Alike.trans {x y z : Outcome} (h : x.Alike y) (h' : y.Alike z) : x.Alike z := by
  cases h with
  | ok hv hs =>
      cases h' with
      | ok hv' hs' => exact .ok (hv.trans hv') (hs.trans hs')
  | error f hs =>
      cases h' with
      | error _ hs' => exact .error f (hs.trans hs')

/-! ### Conversions -/

/-- A sequence that ends well ended well after its first part. -/
theorem RunM.bind_eq_ok {α β : Type} {m : RunM α} {f : α → RunM β} {run : Runner} {s u : Store}
    {b : β} (h : (m >>= f) run s = .ok b u) :
    ∃ a t, m run s = .ok a t ∧ f a run t = .ok b u :=
  StoreM.bind_eq_ok h

section Conversions

variable {v w : Value} {t : StaticType} {run : Runner} {s u : Store}

theorem convertValue_of_admits (h : t.admits v = true) : convertValue v t = pure v := by
  unfold convertValue
  rw [if_pos h]

theorem convertValue_object (v : Value) : convertValue v .object = pure v :=
  convertValue_of_admits rfl

theorem inInt32_toInt (i : Int32) : inInt32 i.toInt64.toInt = true := by
  have hlo := i.le_toInt
  have hhi := i.toInt_lt
  rw [Int32.toInt_toInt64, inInt32_iff]
  omega

/-- A value that is converted to a primitive type is one of the type, and one of its box. -/
theorem admitsPrimitive_of_convertToPrimitive (ht : t.isPrimitive = true)
    (h : convertToPrimitive v t run s = .ok w u) :
    ∃ p, w = .primitive p ∧ t.admitsPrimitive p = true ∧ p ≠ .null := by
  cases t with
  | boolean =>
      cases h
      exact ⟨_, rfl, rfl, nofun⟩
  | int =>
      obtain ⟨n, s', -, hn⟩ := RunM.bind_eq_ok h
      cases hn
      exact ⟨_, rfl, inInt32_toInt _, nofun⟩
  | long =>
      obtain ⟨n, s', -, hn⟩ := RunM.bind_eq_ok h
      cases hn
      exact ⟨_, rfl, rfl, nofun⟩
  | double =>
      obtain ⟨n, s', -, hn⟩ := RunM.bind_eq_ok h
      cases hn
      exact ⟨_, rfl, rfl, nofun⟩
  | _ => cases ht

/-- **What a conversion answers is a value of the type.** -/
theorem admits_of_convertValue (h : convertValue v t run s = .ok w u) : t.admits w = true := by
  by_cases hv : t.admits v = true
  · rw [convertValue_of_admits hv] at h
    cases h
    exact hv
  unfold convertValue at h
  rw [if_neg hv] at h
  -- boxes take `undefined` as `null`, and anything else as the primitive type does
  have hboxed (p : StaticType) (hp : p.isPrimitive = true) (ht : t.unboxed? = some p)
      (h : (if v = .undefined then pure .null else convertToPrimitive v p : RunM Value) run s =
        .ok w u) : t.admits w = true := by
    split at h
    · cases h
      cases t <;> first | rfl | cases ht
    · obtain ⟨q, rfl, hq, hnull⟩ := admitsPrimitive_of_convertToPrimitive hp h
      have hadmits : (t.unboxed?.getD t).admitsPrimitive q = true := by rw [ht]; exact hq
      cases t <;> first | (cases q <;> first | exact hadmits | exact absurd rfl hnull) | cases ht
  have hprimitive (ht : t.isPrimitive = true) (h : convertToPrimitive v t run s = .ok w u) :
      t.admits w = true := by
    obtain ⟨q, rfl, hq, hnull⟩ := admitsPrimitive_of_convertToPrimitive ht h
    cases t <;> first | (cases q <;> first | exact hq | exact absurd rfl hnull) | cases ht
  cases t with
  | object => rfl
  | void =>
      cases h
      rfl
  | string =>
      obtain ⟨x, s', -, hx⟩ := RunM.bind_eq_ok h
      cases hx
      rfl
  | functional m =>
      have h : functionalProxy v m s = .ok w u := h
      unfold functionalProxy at h
      split at h
      · cases h
        simp [StaticType.admits, Value.hostClass?, Value.object?, Object.hostClass?,
          HostClass.proxy, HostClass.functionalName?, HostClass.chain]
      · cases h
  | boolean | int | long | double => exact hprimitive rfl h
  | boxedBoolean | boxedInt | boxedLong | boxedDouble => exact hboxed _ rfl rfl h

theorem normalize_zero :
    Number.normalize (Number.toBinary64 (.integer 0)) = .integer 0 := by
  decide +kernel

/-- Where the cast to a primitive type answers a value of the type, so does the conversion. -/
theorem convertValue_eq_narrowed (ht : t.isPrimitive = true) (hv : t.admits v = false)
    (hw : t.admits (narrowed t v) = true) : convertValue v t = pure (narrowed t v) := by
  have hconvert : convertValue v t = convertToPrimitive v t := by
    unfold convertValue
    rw [if_neg (by simp [hv])]
    cases t <;> first | rfl | cases ht
  rw [hconvert]
  -- a cast leaves what it cannot cast, which is then no value of the type
  cases t with
  | boolean =>
      cases v with
      | object o => rfl
      | primitive p => cases p <;> rfl
  | int =>
      cases v with
      | object o => cases hw
      | primitive p => cases p <;> first | rfl | cases hw
  | long =>
      cases v with
      | object o => cases hw
      | primitive p =>
          cases p with
          | number n => cases n <;> first | rfl | cases hw
          | null => rfl
          | _ => cases hw
  | double =>
      cases v with
      | object o => cases hw
      | primitive p =>
          cases p with
          | null => exact congrArg (fun n => (pure (.number n) : RunM Value)) normalize_zero
          | number n => cases hv
          | _ => cases hw
  | _ => cases ht

/-- Primitive types have primitive values only. -/
theorem exists_primitive_of_admits (ht : t.isPrimitive = true) (hv : t.admits v = true) :
    ∃ p, v = .primitive p := by
  cases v with
  | primitive p => exact ⟨p, rfl⟩
  | object o =>
      cases t with
      | boolean | int | long | double => nomatch hv
      | _ => cases ht

end Conversions

/-! ### Declared types -/

namespace StaticType

/-- What a call site does to results that may be anything. -/
def anyFilter? (wanted : StaticType) : Option ResultFilter :=
  if wanted = .object then none else some (.convert wanted)

theorem filterTo?_object (wanted : StaticType) :
    StaticType.object.filterTo? wanted = some wanted.anyFilter? := by
  cases wanted <;> rfl

/-- The value is one for which the declared type of a result makes no difference to a call site
that wants a type: where nothing is converted because the types are the same, it has the type;
where a boxed result is cast to a primitive type, the cast does what the conversion does, which
leaves values of the type alone; and where a result is dropped, there was none. -/
def Honours (declared wanted : StaticType) (v : Value) : Prop :=
  if wanted = .object then declared = .void → v = .undefined
  else if declared = wanted then wanted.admits v = true
  else if declared.unboxed?.any fun p => wanted.isPrimitive && p.widensTo wanted then
    wanted.admits (narrowed wanted v) = true ∧
      (wanted.admits v = true → narrowed wanted v = v)
  else True

end StaticType

/-- What a call site does to results that may be anything, which has to fit if the site is an
optimistic one of a numeric type. -/
def Descriptor.anyFilter? (d : Descriptor) : Option ResultFilter :=
  if d.flags.isOptimistic && d.signature.result.isNumeric then
    some (.requireFit d.signature.result d.flags.programPoint.toNat)
  else d.signature.result.anyFilter?

theorem Descriptor.resultFilter?_object (d : Descriptor) :
    d.resultFilter? .object = some d.anyFilter? := by
  unfold resultFilter? anyFilter?
  dsimp only
  split
  · rfl
  · exact StaticType.filterTo?_object _

/-- A call site that takes results of all types delivers them as they are. -/
theorem Descriptor.anyFilter?_of_object {d : Descriptor} (hd : d.signature.result = .object) :
    d.anyFilter? = none := by
  simp [anyFilter?, StaticType.anyFilter?, hd, StaticType.isNumeric]

section Finish

variable {declared wanted : StaticType} {v : Value} {run : Runner} {s : Store}

theorem alike_ok_iff {v w : Value} {s : Store} :
    Outcome.Alike (.ok v s) (.ok w s) ↔ v.Alike w := by
  refine ⟨fun h => ?_, fun h => .ok h (.refl s)⟩
  cases h with
  | ok hv _ => exact hv

/-- What agrees with the outcome of a conversion is a value of the type. -/
theorem admits_of_alike_convert {w : Value}
    (h : Outcome.Alike (.ok v s) (convertValue w wanted run s)) : wanted.admits v = true := by
  cases hw : convertValue w wanted run s with
  | error f t =>
      rw [hw] at h
      cases h
  | ok w' t =>
      rw [hw] at h
      cases h with
      | ok hv _ =>
          rw [hv.admits_eq]
          exact admits_of_convertValue hw

/-- A value that passes as it is agrees with its conversion exactly if it has the type. -/
theorem alike_convert_iff :
    Outcome.Alike (.ok v s) (convertValue v wanted run s) ↔ wanted.admits v = true := by
  refine ⟨admits_of_alike_convert, fun h => ?_⟩
  rw [convertValue_of_admits h]
  exact .refl _

/-- A cast agrees with the conversion exactly if it answers a value of the type, and leaves values
of the type alone. -/
theorem alike_narrowed_iff (ht : wanted.isPrimitive = true) :
    Outcome.Alike (.ok (narrowed wanted v) s) (convertValue v wanted run s) ↔
      wanted.admits (narrowed wanted v) = true ∧
        (wanted.admits v = true → narrowed wanted v = v) := by
  cases hv : wanted.admits v with
  | true =>
      obtain ⟨p, rfl⟩ := exists_primitive_of_admits ht hv
      rw [convertValue_of_admits hv]
      constructor
      · intro h
        have heq := (alike_ok_iff.mp h).eq_of_primitive
        exact ⟨by rw [heq]; exact hv, fun _ => heq⟩
      · rintro ⟨-, heq⟩
        rw [heq rfl]
        exact .refl _
  | false =>
      refine ⟨fun h => ⟨admits_of_alike_convert h, nofun⟩, ?_⟩
      rintro ⟨hw, -⟩
      rw [convertValue_eq_narrowed ht hv hw]
      exact .refl _

/-- **The filter for a declared type and the one for `object` agree exactly on the values that
honour the declared type.** -/
theorem finish_alike_iff {f? : Option ResultFilter} (hf : declared.filterTo? wanted = some f?) :
    Outcome.Alike (finish f? v run s) (finish wanted.anyFilter? v run s) ↔
      declared.Honours wanted v := by
  unfold StaticType.filterTo? at hf
  unfold StaticType.Honours StaticType.anyFilter?
  by_cases hobject : wanted = .object
  · rw [if_pos hobject, if_pos hobject]
    subst hobject
    by_cases hvoid : declared = .void
    · subst hvoid
      cases hf
      refine alike_ok_iff.trans ⟨fun h _ => ?_, fun h => ?_⟩
      · cases h
        rfl
      · rw [h rfl]
        exact .refl _
    · -- nothing is done to the value, or it is converted to `object`, which is the same
      have hfinish : finish f? v = pure v := by
        split at hf
        · cases hf
          rfl
        · simp only [StaticType.isPrimitive, Bool.false_and] at hf
          split at hf
          · cases declared <;> simp [StaticType.unboxed?] at *
          · rw [if_neg (by simp [hvoid])] at hf
            split at hf
            · cases hf
              exact convertValue_object v
            · cases hf
      rw [hfinish]
      exact ⟨fun _ h => absurd h hvoid, fun _ => .refl _⟩
  · rw [if_neg hobject, if_neg hobject]
    by_cases hsame : declared = wanted
    · rw [if_pos hsame] at hf ⊢
      cases hf
      exact alike_convert_iff
    · rw [if_neg hsame] at hf ⊢
      split at hf
      · rename_i hbox
        rw [if_pos hbox]
        cases hf
        refine alike_narrowed_iff ?_
        obtain ⟨p, -, hp⟩ := (Option.any_eq_true _ _).mp hbox
        exact (Bool.and_eq_true_iff.mp hp).1
      · rename_i hbox
        rw [if_neg hbox]
        rw [if_neg (by simp [hobject])] at hf
        split at hf
        · cases hf
          exact ⟨fun _ => trivial, fun _ => .refl _⟩
        · cases hf

end Finish

/-- Where any value is wanted results pass as they are, if there are any. -/
theorem StaticType.exists_filterTo?_object (t : StaticType) :
    ∃ f?, t.filterTo? .object = some f? ∧
      ∀ v, finish f? v = pure (if t = .void then .undefined else v) := by
  cases t with
  | void => exact ⟨_, rfl, fun v => rfl⟩
  | object => exact ⟨_, rfl, fun v => rfl⟩
  | _ => exact ⟨some (.convert .object), rfl, fun v => convertValue_object v⟩

/-! ### New method references -/

section

variable {i j : Nat} {c : HostClass} {m : String} {isStatic : Bool} {run : Runner} {s t : Store}

/-- Method references that differ in their identities convert alike. -/
theorem alike_convert_methodRef (wanted : StaticType) (hs : s.Alike t) :
    Outcome.Alike (convertValue (.object (.methodRef i c m isStatic)) wanted run s)
      (convertValue (.object (.methodRef j c m isStatic)) wanted run t) := by
  cases wanted with
  | object => exact .ok (.methodRef i j c m isStatic) hs
  | functional n =>
      exact .ok (.proxy s.nextId t.nextId n (.methodRef i j c m isStatic)) (hs.withNextId _ _)
  | _ => exact .ok (.refl _) hs

/-- **A call site answers alike for method references that differ in their identities.** -/
theorem alike_finish_methodRef (d : Descriptor) (hs : s.Alike t) :
    Outcome.Alike (finish d.anyFilter? (.object (.methodRef i c m isStatic)) run s)
      (finish d.anyFilter? (.object (.methodRef j c m isStatic)) run t) := by
  unfold Descriptor.anyFilter? StaticType.anyFilter?
  split
  · have hunfit (k : Nat) :
        fits d.signature.result (.object (.methodRef k c m isStatic)) = false := by
      cases d.signature.result <;> rfl
    rw [finish_some, finish_some, requireFit_of_unfit (hunfit i), requireFit_of_unfit (hunfit j)]
    exact .error _ hs
  · split
    · exact .ok (.methodRef i j c m isStatic) hs
    · exact alike_convert_methodRef d.signature.result hs

end

end DynamicLinking
