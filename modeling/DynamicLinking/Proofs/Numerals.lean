/-
The decimal text of a number has no leading zero, and reads back as the number.  Such texts, of
numbers that the integers of 64 bits have, are the indices among the keys.

Main results:

* `Numeral.read_toDigits`, `Numeral.toDigits_ofDigits` — writing and reading decimal digits are
  inverse to each other;
* `arrayIndex?_eq_some_iff` — **the keys that are indices**.
-/

import DynamicLinking.Primitive

set_option autoImplicit false

namespace DynamicLinking

/-! ### Digits -/

namespace Numeral

/-- What is written for a number is read as the number. -/
theorem read_toDigits (n : Nat) : read (Nat.toDigits 10 n) = n := by
  rw [read_eq_ofDigits]
  exact Nat.ofDigitChars_ten_toDigits

theorem all_isDigit_toDigits (n : Nat) : (Nat.toDigits 10 n).all Char.isDigit = true :=
  List.all_eq_true.mpr fun _ hc => Nat.isDigit_of_mem_toDigits (by decide) (by decide) hc

/-- The digits of a number do not start with a zero, unless it is zero. -/
theorem head?_toDigits_ne {n : Nat} (hn : 0 < n) : (Nat.toDigits 10 n).head? ≠ some '0' := by
  induction n using Nat.strongRecOn with
  | ind n ih =>
      by_cases hlt : n < 10
      · intro hzero
        rw [Nat.toDigits_of_lt_base hlt, List.head?_cons] at hzero
        have htoNat := congrArg Char.toNat (Option.some.inj hzero)
        rw [Nat.toNat_digitChar_of_lt_ten hlt] at htoNat
        have hzero : '0'.toNat = 48 := rfl
        omega
      · have hrest := ih (n / 10) (by omega) (by omega)
        rw [Nat.toDigits_of_base_le (by decide) (by omega)]
        cases hdigits : Nat.toDigits 10 (n / 10) with
        | nil => exact absurd hdigits Nat.toDigits_ne_nil
        | cons c cs =>
            rw [hdigits] at hrest
            exact hrest

theorem digitChar_of_isDigit {c : Char} (h : c.isDigit = true) :
    c.toNat - '0'.toNat < 10 ∧ Nat.digitChar (c.toNat - '0'.toNat) = c := by
  have hc : 48 ≤ c.toNat ∧ c.toNat ≤ 57 := by
    simpa [Char.isDigit, UInt32.le_iff_toNat_le] using h
  have hzero : '0'.toNat = 48 := rfl
  have hlt : c.toNat - '0'.toNat < 10 := by omega
  refine ⟨hlt, Char.toNat_inj.mp ?_⟩
  rw [Nat.toNat_digitChar_of_lt_ten hlt]
  omega

/-- Digits behind those of a number write the number that they denote together. -/
theorem toDigits_ofDigitsAfter {n : Nat} (hn : 0 < n) {ds : List Char}
    (hds : ∀ c ∈ ds, c.isDigit = true) :
    Nat.toDigits 10 (ofDigitsAfter n ds) = Nat.toDigits 10 n ++ ds := by
  induction ds generalizing n with
  | nil => simp [ofDigitsAfter]
  | cons c ds ih =>
      obtain ⟨hlt, hchar⟩ := digitChar_of_isDigit (hds c (by simp))
      have hstep : Nat.toDigits 10 (10 * n + (c.toNat - '0'.toNat)) = Nat.toDigits 10 n ++ [c] := by
        rw [← Nat.toDigits_append_toDigits (by decide) hn hlt, Nat.toDigits_of_lt_base hlt, hchar]
      have hrest := ih (n := 10 * n + (c.toNat - '0'.toNat)) (by omega)
        fun d hd => hds d (by simp [hd])
      calc Nat.toDigits 10 (ofDigitsAfter n (c :: ds))
          = Nat.toDigits 10 (ofDigitsAfter (10 * n + (c.toNat - '0'.toNat)) ds) := rfl
        _ = Nat.toDigits 10 n ++ [c] ++ ds := by rw [hrest, hstep]
        _ = Nat.toDigits 10 n ++ c :: ds := by simp

/-- Digits without a leading zero are those of the number that they denote. -/
theorem toDigits_ofDigits {c : Char} {ds : List Char} (hds : ∀ d ∈ c :: ds, d.isDigit = true)
    (hzero : ds = [] ∨ c ≠ '0') : Nat.toDigits 10 (ofDigits (c :: ds)) = c :: ds := by
  obtain ⟨hlt, hchar⟩ := digitChar_of_isDigit (hds c (by simp))
  have hfirst : ofDigits (c :: ds) = ofDigitsAfter (c.toNat - '0'.toNat) ds := by
    simp [ofDigits, ofDigitsAfter]
  rw [hfirst]
  rcases hzero with rfl | hc
  · rw [ofDigitsAfter, List.foldl_nil, Nat.toDigits_of_lt_base hlt, hchar]
  · have hpos : 0 < c.toNat - '0'.toNat := by
      rw [Nat.pos_iff_ne_zero]
      intro hz
      rw [hz] at hchar
      exact hc hchar.symm
    rw [toDigits_ofDigitsAfter hpos fun d hd => hds d (by simp [hd]), Nat.toDigits_of_lt_base hlt,
      hchar]
    rfl

end Numeral

/-! ### Indices -/

/-- An index is the only text of its number, which is in the range. -/
theorem toString_of_arrayIndex? {key : String} {n : Nat} (h : Primitive.arrayIndex? key = some n) :
    toString n = key ∧ inInt64 n = true := by
  unfold Primitive.arrayIndex? at h
  dsimp only at h
  split at h
  · cases h
  rename_i hcanonical
  split at h
  · rename_i hdigits
    split at h
    · rename_i hrange
      obtain rfl : Numeral.read key.toList = n := Option.some.inj h
      have hdigits : ∀ c ∈ key.toList, c.isDigit = true := List.all_eq_true.mp hdigits
      have hread : Nat.toDigits 10 (Numeral.read key.toList) = key.toList := by
        rw [Numeral.read_eq_ofDigits]
        cases hkey : key.toList with
        | nil => simp [hkey] at hcanonical
        | cons c cs =>
            rw [hkey] at hdigits hcanonical
            refine Numeral.toDigits_ofDigits hdigits ?_
            cases cs with
            | nil => exact .inl rfl
            | cons d cs => exact .inr fun hc => hcanonical (.inr ⟨by simp, by rw [hc]; rfl⟩)
      exact ⟨by rw [Nat.toString_eq_ofList_toDigits, hread, String.ofList_toList], hrange⟩
    · cases h
  · cases h

/-- The decimal text of a number is an index, if the integers of 64 bits have the number. -/
theorem arrayIndex?_toString {n : Nat} (h : inInt64 n = true) :
    Primitive.arrayIndex? (toString n) = some n := by
  have hkey : (toString n).toList = Nat.toDigits 10 n := Nat.toList_repr
  have hcanonical : ¬ (Nat.toDigits 10 n = [] ∨
      1 < (Nat.toDigits 10 n).length ∧ (Nat.toDigits 10 n).head? = some '0') := by
    rintro (hnil | ⟨hlength, hzero⟩)
    · exact Nat.toDigits_ne_nil hnil
    · cases n with
      | zero => exact absurd hlength (by decide)
      | succ n => exact Numeral.head?_toDigits_ne (Nat.succ_pos n) hzero
  unfold Primitive.arrayIndex?
  dsimp only
  rw [hkey, if_neg hcanonical, if_pos (Numeral.all_isDigit_toDigits n), Numeral.read_toDigits,
    if_pos h]

/-- **The keys that are indices**: the decimal texts of numbers that the integers of 64 bits
have. -/
theorem arrayIndex?_eq_some_iff {key : String} {n : Nat} :
    Primitive.arrayIndex? key = some n ↔ toString n = key ∧ inInt64 n = true := by
  refine ⟨toString_of_arrayIndex?, ?_⟩
  rintro ⟨rfl, h⟩
  exact arrayIndex?_toString h

end DynamicLinking
