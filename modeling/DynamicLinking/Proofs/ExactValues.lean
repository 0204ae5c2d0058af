/-
The mathematical value of a number, and which of them a numeric type has.  A finite double denotes
the rational number `± significand * 2 ^ scale`; not-a-number, the infinities and the negative zero
are values of their own, which doubles have and integers do not.

An integer of 64 bits is the value of a double exactly if 53 binary digits are enough for it, apart
from zeros at its end: nothing is rounded here, and the double is written down by its bits.

Main definitions:

* `Binary64.value` — the rational number that a finite double denotes;
* `Quantity`, `Number.quantity` — mathematical values, and that of a number;
* `StaticType.Represents` — a numeric type has a value;
* `HasShortSignificand` — an integer has at most 53 significant binary digits.

Main results:

* `Binary64.truncated_of_value` — a double that denotes an integer is integral, and truncates to it;
* `Binary64.value_ofInt` — an integer of 53 binary digits is not rounded;
* `represents_double_iff` — **the integers that are values of doubles**;
* `Number.normalize_ofInt_iff` — **the integers that survive their nearest doubles**.
-/

import DynamicLinking.Number.Basic
import DynamicLinking.StaticType
import Mathlib.Algebra.Order.Field.Basic
import Mathlib.Algebra.Order.Ring.Rat
import Mathlib.Data.Rat.Cast.Order
import Mathlib.Tactic.Ring

set_option autoImplicit false

namespace DynamicLinking

/-- The integer takes at most 53 binary digits, not counting its sign and the zeros at its end. -/
def HasShortSignificand (i : Int) : Prop :=
  ∃ m e : Nat, m < twoPow 53 ∧ i.natAbs = m * twoPow e

/-- A quotient that leaves nothing is not rounded. -/
theorem roundHalfEven_mul {m d : Nat} (hd : 0 < d) : roundHalfEven (m * d) d = m := by
  simp [roundHalfEven, Nat.mul_div_cancel _ hd, hd]

namespace Binary64

/-! ### Finite doubles -/

/-- The rational number that a finite double denotes. -/
def value (x : Binary64) : ℚ :=
  (if x.isNegative then -1 else 1) * x.significand * 2 ^ x.scale

variable {x : Binary64}

theorem two_zpow_mul_twoPow (e : Int) :
    (2 : ℚ) ^ e * (twoPow (-e).toNat : ℕ) = (twoPow e.toNat : ℕ) := by
  cases e with
  | ofNat n =>
      have hneg : (-(Int.ofNat n)).toNat = 0 := by simp
      rw [hneg]
      simp
  | negSucc n =>
      have hneg : (-(Int.negSucc n)).toNat = n + 1 := rfl
      have hpos : (Int.negSucc n).toNat = 0 := rfl
      rw [hneg, hpos, zpow_negSucc]
      have hne : (2 : ℚ) ^ (n + 1) ≠ 0 := pow_ne_zero _ two_ne_zero
      simp [hne]

/-- The value is an integer over a power of two: whether it is a given integer is a question about
integers. -/
theorem value_eq_iff (i : Int) :
    x.value = i ↔
      (if x.isNegative then -((x.significand * twoPow x.scale.toNat : ℕ) : Int)
        else (x.significand * twoPow x.scale.toNat : ℕ)) = i * (twoPow (-x.scale).toNat : ℕ) := by
  have hne : ((twoPow (-x.scale).toNat : ℕ) : ℚ) ≠ 0 := by
    have := Nat.two_pow_pos (-x.scale).toNat
    exact_mod_cast this.ne'
  have hvalue : x.value * (twoPow (-x.scale).toNat : ℕ) =
      ((if x.isNegative then -((x.significand * twoPow x.scale.toNat : ℕ) : Int)
        else (x.significand * twoPow x.scale.toNat : ℕ) : Int) : ℚ) := by
    rw [value, mul_assoc, two_zpow_mul_twoPow]
    split <;> push_cast <;> ring
  rw [← mul_left_inj' hne, hvalue]
  exact_mod_cast Iff.rfl

/-- The significand of a double that denotes an integer, and the integer. -/
theorem significand_of_value {i : Int} (h : x.value = i) :
    x.significand * twoPow x.scale.toNat = i.natAbs * twoPow (-x.scale).toNat := by
  have habs := congrArg Int.natAbs ((value_eq_iff i).mp h)
  rw [Int.natAbs_mul, Int.natAbs_natCast] at habs
  split at habs <;> simpa only [Int.natAbs_neg, Int.natAbs_natCast] using habs

/-- **A double that denotes an integer is integral, and truncates to it.** -/
theorem truncated_of_value {i : Int} (h : x.value = i) :
    x.isIntegral = true ∧ x.truncated = i := by
  have habs := significand_of_value h
  have hpos : 0 < twoPow (-x.scale).toNat := Nat.two_pow_pos _
  have htruncated : x.truncatedNat = i.natAbs := by
    rw [truncatedNat, habs, Nat.mul_div_cancel _ hpos]
  constructor
  · rw [isIntegral, habs, Nat.mul_mod_left]
    rfl
  · -- the sign of the integer is that of the double
    have hne : ((twoPow (-x.scale).toNat : ℕ) : Int) ≠ 0 := by exact_mod_cast hpos.ne'
    refine Int.eq_of_mul_eq_mul_right hne ?_
    rw [← (value_eq_iff i).mp h, truncated, htruncated, habs]
    split <;> simp

/-- A double without a fractional part denotes its integer part. -/
theorem value_of_isIntegral {x : Binary64} (h : x.isIntegral = true) :
    x.value = x.truncated := by
  have hdiv : twoPow (-x.scale).toNat ∣ x.significand * twoPow x.scale.toNat :=
    Nat.dvd_of_mod_eq_zero (by simpa [isIntegral] using h)
  rw [value_eq_iff, truncated, truncatedNat]
  split
  · rw [Int.neg_mul]
    exact_mod_cast congrArg (fun n : ℕ => -(n : Int)) (Nat.div_mul_cancel hdiv).symm
  · exact_mod_cast (Nat.div_mul_cancel hdiv).symm

/-! ### Integers that doubles denote -/

theorem significand_lt (x : Binary64) : x.significand < twoPow 53 := by
  have hfraction : x.fraction < twoPow 52 := Nat.mod_lt _ (Nat.two_pow_pos _)
  unfold significand
  split <;> simp only [twoPow, Nat.pow_eq, Nat.reducePow] at * <;> omega

/-- The integers that finite doubles denote have short significands. -/
theorem hasShortSignificand_of_value {i : Int} (h : x.value = i) : HasShortSignificand i := by
  have habs := significand_of_value h
  have hsignificand := significand_lt x
  rcases Int.le_total 0 x.scale with hscale | hscale
  · have hzero : (-x.scale).toNat = 0 := by omega
    rw [hzero] at habs
    exact ⟨x.significand, x.scale.toNat, hsignificand, by simpa using habs.symm⟩
  · have hzero : x.scale.toNat = 0 := by omega
    rw [hzero, twoPow_zero, Nat.mul_one] at habs
    have hle : i.natAbs ≤ i.natAbs * twoPow (-x.scale).toNat :=
      Nat.le_mul_of_pos_right _ (Nat.two_pow_pos _)
    exact ⟨i.natAbs, 0, by omega, by simp⟩

/-- A double of a sign, a field of exponent and a significand of 53 bits.  The highest bit of the
significand counts for the field. -/
theorem ofMagnitude_normal (negative : Bool) {f m : Nat} (hf : f < 2046) (hm : twoPow 52 ≤ m)
    (hm' : m < twoPow 53) :
    (ofMagnitude negative (f * twoPow 52 + m)).isNegative = negative ∧
      (ofMagnitude negative (f * twoPow 52 + m)).exponentField = f + 1 ∧
      (ofMagnitude negative (f * twoPow 52 + m)).significand = m := by
  generalize hx : ofMagnitude negative (f * twoPow 52 + m) = x
  have hbits : x.bits.toNat = (if negative then twoPow 63 else 0) + (f * twoPow 52 + m) := by
    rw [← hx, ofMagnitude, UInt64.toNat_ofNat']
    simp only [twoPow, Nat.pow_eq, Nat.reducePow] at *
    split <;> omega
  simp only [twoPow, Nat.pow_eq, Nat.reducePow] at *
  have hexponent : x.exponentField = f + 1 := by
    simp only [exponentField, twoPow, Nat.pow_eq, Nat.reducePow]
    split at hbits <;> omega
  have hfraction : x.fraction = m - 4503599627370496 := by
    simp only [fraction, twoPow, Nat.pow_eq, Nat.reducePow]
    split at hbits <;> omega
  refine ⟨?_, hexponent, ?_⟩
  · simp only [isNegative, twoPow, Nat.pow_eq, Nat.reducePow]
    split at hbits <;> simp_all
    omega
  · rw [significand, hexponent, hfraction, if_neg (Nat.succ_ne_zero f)]
    simp only [twoPow, Nat.pow_eq, Nat.reducePow]
    omega

/-- The double with a significand of 53 bits denotes `± m * 2 ^ (f - 1074)`. -/
theorem value_ofMagnitude (negative : Bool) {f m : Nat} (hf : f < 2046) (hm : twoPow 52 ≤ m)
    (hm' : m < twoPow 53) :
    (ofMagnitude negative (f * twoPow 52 + m)).value =
      (if negative then -1 else 1) * m * 2 ^ ((f : Int) - 1074) := by
  obtain ⟨hsign, hexponent, hsignificand⟩ := ofMagnitude_normal negative hf hm hm'
  have hscale : (ofMagnitude negative (f * twoPow 52 + m)).scale = (f : Int) - 1074 := by
    rw [scale, hexponent, if_neg (Nat.succ_ne_zero f)]
    push_cast
    ring
  rw [value, hsign, hsignificand, hscale]

/-- An integer with a short significand fills 53 bits exactly, when it is scaled to them. -/
theorem exists_scaled {i : Int} (h : HasShortSignificand i) (hi : i ≠ 0) :
    ∃ m, twoPow 52 ≤ m ∧ m < twoPow 53 ∧ m * twoPow i.natAbs.log2 = i.natAbs * twoPow 52 := by
  obtain ⟨n, e, hn, hne⟩ := h
  have hpos : 0 < twoPow i.natAbs.log2 := Nat.two_pow_pos _
  have hlow : twoPow i.natAbs.log2 ≤ i.natAbs := Nat.log2_self_le (Int.natAbs_ne_zero.mpr hi)
  have hhigh : i.natAbs < twoPow (i.natAbs.log2 + 1) := Nat.lt_log2_self
  have hle : i.natAbs.log2 ≤ e + 52 := by
    have hlt : twoPow i.natAbs.log2 < twoPow (53 + e) := by
      calc twoPow i.natAbs.log2 ≤ n * twoPow e := hne ▸ hlow
        _ < twoPow 53 * twoPow e := Nat.mul_lt_mul_of_pos_right hn (Nat.two_pow_pos e)
        _ = twoPow (53 + e) := (Nat.pow_add 2 53 e).symm
    have := (Nat.pow_lt_pow_iff_right Nat.one_lt_two).mp hlt
    omega
  have hdvd : twoPow i.natAbs.log2 ∣ i.natAbs * twoPow 52 := by
    have hsplit : i.natAbs * twoPow 52 = n * twoPow (e + 52) := by
      rw [hne, Nat.mul_assoc]
      exact congrArg (n * ·) (Nat.pow_add 2 e 52).symm
    rw [hsplit]
    exact Dvd.dvd.mul_left (Nat.pow_dvd_pow 2 hle) n
  obtain ⟨m, hm⟩ := hdvd
  have hm : i.natAbs * twoPow 52 = m * twoPow i.natAbs.log2 := by rw [hm, Nat.mul_comm]
  refine ⟨m, ?_, ?_, hm.symm⟩
  · refine Nat.le_of_mul_le_mul_right ?_ hpos
    rw [← hm, Nat.mul_comm]
    exact Nat.mul_le_mul_right _ hlow
  · refine Nat.lt_of_mul_lt_mul_right (a := twoPow i.natAbs.log2) ?_
    calc m * twoPow i.natAbs.log2 = i.natAbs * twoPow 52 := hm.symm
      _ < twoPow (i.natAbs.log2 + 1) * twoPow 52 :=
          Nat.mul_lt_mul_of_pos_right hhigh (Nat.two_pow_pos 52)
      _ = twoPow 53 * twoPow i.natAbs.log2 := by simp only [twoPow, Nat.pow_eq]; ring

/-- The nearest double of a natural number has its highest bit at place 52 of the significand. -/
theorem scaleOfRatio_one {n : Nat} (hn : n ≠ 0) : scaleOfRatio n 1 = (n.log2 : Int) - 52 := by
  have hlow : 2 ^ n.log2 ≤ n := Nat.log2_self_le hn
  have hlog : Nat.log2 1 = 0 := by decide
  have hmax : max ((n.log2 : Int) - (0 : ℕ) - 53) (-1074) = (n.log2 : Int) - 53 := by omega
  -- in units of one bit less the integer part has one bit too many
  have hlong : ¬ n * twoPow (-((n.log2 : Int) - 53)).toNat /
      (1 * twoPow ((n.log2 : Int) - 53).toNat) < twoPow 53 := by
    rw [Nat.not_lt, Nat.le_div_iff_mul_le (by simp), Nat.one_mul]
    calc twoPow 53 * twoPow ((n.log2 : Int) - 53).toNat
        = 2 ^ n.log2 * twoPow (-((n.log2 : Int) - 53)).toNat := by
          simp only [Nat.pow_eq, ← Nat.pow_add]
          congr 1
          omega
      _ ≤ n * twoPow (-((n.log2 : Int) - 53)).toNat := Nat.mul_le_mul_right _ hlow
  unfold scaleOfRatio inUnitsOf
  rw [hlog]
  dsimp only
  rw [hmax, if_neg hlong]
  omega

/-- **An integer that fills a significand of 53 bits is not rounded.** -/
theorem ofInt_eq_ofMagnitude {i : Int} {m : Nat} (hi : i ≠ 0) (hlog : i.natAbs.log2 ≤ 1023)
    (hm' : m < twoPow 53) (hscaled : m * twoPow i.natAbs.log2 = i.natAbs * twoPow 52) :
    ofInt i = ofMagnitude (i < 0) ((i.natAbs.log2 + 1022) * twoPow 52 + m) := by
  generalize hL : i.natAbs.log2 = L at *
  have hunits : i.natAbs * twoPow (-((L : Int) - 52)).toNat =
      m * (1 * twoPow ((L : Int) - 52).toNat) := by
    refine Nat.eq_of_mul_eq_mul_right (Nat.two_pow_pos (min L 52)) ?_
    simp only [Nat.pow_eq] at hscaled ⊢
    rcases Nat.le_total L 52 with h | h
    · have hmin : min L 52 = L := by omega
      have hsum : (-((L : Int) - 52)).toNat + L = 52 := by omega
      have hzero : ((L : Int) - 52).toNat = 0 := by omega
      rw [hmin, hzero, Nat.mul_assoc, ← Nat.pow_add, hsum, hscaled.symm]
      ring
    · have hmin : min L 52 = 52 := by omega
      have hsum : ((L : Int) - 52).toNat + 52 = L := by omega
      have hzero : (-((L : Int) - 52)).toNat = 0 := by omega
      rw [hmin, hzero, Nat.one_mul, Nat.mul_assoc m, ← Nat.pow_add, hsum, hscaled]
      ring
  have hexponent : ((L : Int) - 52 + 1074).toNat = L + 1022 := by omega
  have hfinite : (L + 1022) * twoPow 52 + m ≤ infinityMagnitude := by
    simp only [infinityMagnitude, twoPow, Nat.pow_eq, Nat.reducePow] at *
    omega
  unfold ofInt roundRatio
  rw [if_neg (Int.natAbs_ne_zero.mpr hi), scaleOfRatio_one (Int.natAbs_ne_zero.mpr hi), hL]
  dsimp only [inUnitsOf]
  rw [hunits, roundHalfEven_mul (by simp), hexponent, Nat.min_eq_left hfinite]

/-- **A nonzero integer with a short significand is the value of its nearest double**, as long as
the exponent of the double has room for its length. -/
theorem value_ofInt {i : Int} (h : HasShortSignificand i) (hi : i ≠ 0)
    (hlog : i.natAbs.log2 ≤ 1023) :
    (ofInt i).isFinite = true ∧ (ofInt i).isZero = false ∧ (ofInt i).value = i := by
  obtain ⟨m, hm, hm', hscaled⟩ := exists_scaled h hi
  have hf : i.natAbs.log2 + 1022 < 2046 := by omega
  rw [ofInt_eq_ofMagnitude hi hlog hm' hscaled]
  refine ⟨?_, ?_, ?_⟩
  · rw [isFinite, (ofMagnitude_normal _ hf hm hm').2.1]
    simp
    omega
  · rw [isZero, (ofMagnitude_normal _ hf hm hm').2.1]
    simp
  · have hscaled : (m : ℚ) * 2 ^ i.natAbs.log2 = i.natAbs * 2 ^ 52 := by exact_mod_cast hscaled
    have hexponent : ((i.natAbs.log2 + 1022 : ℕ) : ℤ) - 1074 = (i.natAbs.log2 : ℤ) - (52 : ℕ) := by
      push_cast
      ring
    have hmagnitude : (m : ℚ) * 2 ^ (((i.natAbs.log2 + 1022 : ℕ) : ℤ) - 1074) = i.natAbs := by
      rw [hexponent, zpow_sub₀ two_ne_zero, zpow_natCast, zpow_natCast, ← mul_div_assoc, hscaled]
      exact mul_div_cancel_right₀ _ (pow_ne_zero _ two_ne_zero)
    rw [value_ofMagnitude _ hf hm hm', mul_assoc, hmagnitude]
    have habs : (i.natAbs : ℚ) = ((i.natAbs : ℤ) : ℚ) := rfl
    rw [habs]
    by_cases hneg : i < 0
    · have : (i.natAbs : ℤ) = -i := by omega
      rw [this]
      simp [hneg]
    · have : (i.natAbs : ℤ) = i := by omega
      rw [this]
      simp [hneg]

end Binary64

/-! ### Mathematical values -/

/-- A mathematical value: a rational number, or one of the values that only doubles have. -/
inductive Quantity where
  | finite (q : ℚ)
  | negZero
  | nan
  | infinite (negative : Bool)
  deriving DecidableEq

/-- The value of a double. -/
def Binary64.quantity (x : Binary64) : Quantity :=
  if x.isNaN then .nan
  else if x.isInfinite then .infinite x.isNegative
  else if x.isZero && x.isNegative then .negZero
  else .finite x.value

/-- The value of a number. -/
def Number.quantity : Number → Quantity
  | .integer i => .finite i.toInt
  | .float x => x.quantity
  | .nan => .nan
  | .infinity => .infinite false
  | .negInfinity => .infinite true

/-- The numeric type has the value, exactly. -/
def StaticType.Represents : StaticType → Quantity → Prop
  | .int, q => ∃ i : Int32, q = .finite i.toInt
  | .long, q => ∃ i : Int64, q = .finite i.toInt
  | .double, q => ∃ x : Binary64, q = x.quantity
  | _, _ => False

/-- A number as normalization leaves it: a double stands for nothing that is written otherwise. -/
def Number.IsNormal : Number → Prop
  | .float x => normalize x = .float x
  | _ => True

theorem Binary64.isFinite_iff (x : Binary64) :
    x.isFinite = true ↔ x.isNaN = false ∧ x.isInfinite = false := by
  unfold isFinite isNaN isInfinite
  by_cases hfield : x.exponentField = 2047 <;> by_cases hfraction : x.fraction = 0 <;>
    simp [hfield, hfraction]

theorem Binary64.quantity_of_isFinite {x : Binary64} (h : x.isFinite = true) :
    x.quantity = if x.isZero && x.isNegative then .negZero else .finite x.value := by
  obtain ⟨hnan, hinfinite⟩ := x.isFinite_iff.mp h
  simp [quantity, hnan, hinfinite]

/-- Normalization leaves a double as it is that is finite and not to be written as an integer. -/
theorem Number.normalize_eq_float_iff (x : Binary64) :
    normalize x = .float x ↔
      x.isFinite = true ∧
        (x.isIntegral && inInt64 x.truncated && !(x.isZero && x.isNegative)) = false := by
  rw [Binary64.isFinite_iff]
  unfold normalize
  cases x.isNaN with
  | true => simp
  | false =>
      cases x.isInfinite with
      | true => cases x.isNegative <;> simp
      | false =>
          generalize (x.isIntegral && inInt64 x.truncated && !(x.isZero && x.isNegative)) = b
          cases b <;> simp

/-- A double whose value is rational denotes it. -/
theorem Binary64.value_of_quantity {x : Binary64} {q : ℚ} (h : x.quantity = .finite q) :
    x.value = q := by
  unfold quantity at h
  split at h
  · cases h
  · split at h
    · cases h
    · split at h
      · cases h
      · cases h
        rfl

/-- The integers of 64 bits that are values of 32-bit integers. -/
theorem represents_int_iff (i : Int64) :
    StaticType.int.Represents (.finite i.toInt) ↔ inInt32 i.toInt = true := by
  constructor
  · rintro ⟨j, hj⟩
    have hij : i.toInt = j.toInt := by
      have := Quantity.finite.inj hj
      exact_mod_cast this
    have hlo := j.le_toInt
    have hhi := j.toInt_lt
    rw [hij, inInt32_iff]
    omega
  · intro h
    rw [inInt32_iff] at h
    refine ⟨Int32.ofInt i.toInt, ?_⟩
    rw [Int32.toInt_ofInt_of_le (by omega) (by omega)]

/-- The length of a 64-bit integer, for which the exponent of a double has room. -/
theorem log2_natAbs_toInt_le (i : Int64) : i.toInt.natAbs.log2 ≤ 63 := by
  by_cases hi : i.toInt = 0
  · simp [hi]
  · have hlo := i.le_toInt
    have hhi := i.toInt_lt
    have hlt : i.toInt.natAbs < 2 ^ 64 := by omega
    have := (Nat.log2_lt (Int.natAbs_ne_zero.mpr hi)).mpr hlt
    omega

/-- **The integers that are values of doubles**: those with short significands. -/
theorem represents_double_iff (i : Int64) :
    StaticType.double.Represents (.finite i.toInt) ↔ HasShortSignificand i.toInt := by
  constructor
  · rintro ⟨x, hx⟩
    exact Binary64.hasShortSignificand_of_value (Binary64.value_of_quantity hx.symm)
  · intro h
    by_cases hi : i.toInt = 0
    · have hsignificand : (Binary64.zero false).significand = 0 := by decide
      refine ⟨Binary64.zero false, ?_⟩
      rw [Binary64.quantity_of_isFinite (by decide), if_neg (by decide), Binary64.value,
        hsignificand, hi]
      simp
    · have hlog := log2_natAbs_toInt_le i
      obtain ⟨hfinite, hzero, hvalue⟩ := Binary64.value_ofInt h hi (by omega)
      refine ⟨Binary64.ofInt i.toInt, ?_⟩
      rw [Binary64.quantity_of_isFinite hfinite, hzero, hvalue]
      rfl

/-- A normal double denotes no integer of 64 bits. -/
theorem Binary64.quantity_ne_of_isNormal {x : Binary64} (h : (Number.float x).IsNormal) {i : Int}
    (hi : inInt64 i = true) : x.quantity ≠ .finite i := by
  intro hx
  obtain ⟨hfinite, hinteger⟩ := (Number.normalize_eq_float_iff x).mp h
  obtain ⟨hintegral, htruncated⟩ := truncated_of_value (value_of_quantity hx)
  rw [quantity_of_isFinite hfinite] at hx
  split at hx
  · cases hx
  · rename_i hzero
    rw [hintegral, htruncated, hi, Bool.eq_false_iff.mpr hzero] at hinteger
    cases hinteger

/-- A normal double has no place among integers of 32 or of 64 bits. -/
theorem not_represents_of_isNormal {x : Binary64} (h : (Number.float x).IsNormal) :
    ¬ StaticType.int.Represents x.quantity ∧ ¬ StaticType.long.Represents x.quantity := by
  constructor
  · rintro ⟨i, hi⟩
    refine Binary64.quantity_ne_of_isNormal h ?_ hi
    rw [← Int32.toInt_toInt64]
    exact inInt64_toInt _
  · rintro ⟨i, hi⟩
    exact Binary64.quantity_ne_of_isNormal h (inInt64_toInt i) hi

/-! ### Integers and their nearest doubles -/

namespace Number

/-- What becomes an integer was the double of its value. -/
theorem value_of_normalize {x : Binary64} {i : Int64} (h : normalize x = .integer i) :
    x.value = i.toInt := by
  unfold normalize at h
  split at h
  · cases h
  · split at h
    · split at h <;> cases h
    · split at h
      · rename_i hintegral
        cases h
        simp only [Bool.and_eq_true] at hintegral
        obtain ⟨⟨hintegral, hrange⟩, -⟩ := hintegral
        rw [inInt64_iff] at hrange
        rw [Binary64.value_of_isIntegral hintegral, Int64.toInt_ofInt_of_le (by omega) (by omega)]
      · cases h

/-- **An integer survives its nearest double exactly if 53 significant binary digits are enough for
it.** -/
theorem normalize_ofInt_iff (i : Int64) :
    normalize (Binary64.ofInt i.toInt) = .integer i ↔ HasShortSignificand i.toInt := by
  refine ⟨fun h => Binary64.hasShortSignificand_of_value (value_of_normalize h), fun h => ?_⟩
  by_cases hi : i.toInt = 0
  · have hzero : i = 0 := Int64.toInt_inj.mp hi
    subst hzero
    decide +kernel
  have hlog := log2_natAbs_toInt_le i
  obtain ⟨hfinite, hzero, hvalue⟩ := Binary64.value_ofInt h hi (by omega)
  obtain ⟨hintegral, htruncated⟩ := Binary64.truncated_of_value hvalue
  obtain ⟨hnan, hinfinite⟩ := (Binary64.isFinite_iff _).mp hfinite
  simp [normalize, hnan, hinfinite, hintegral, htruncated, inInt64_toInt, hzero]

end Number
end DynamicLinking
