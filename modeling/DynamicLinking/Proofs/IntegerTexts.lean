/-
The text of an integer has all of its digits.  A script reads a decimal text as the nearest double,
which becomes an integer again if it is one: so an integer of 64 bits survives the way through its
text only if its nearest double is the integer itself.  Where an integer of 64 bits is asked for,
there is one more that survives.  The nearest double of the largest integer is `2 ^ 63`, which is
out of range, and is held at the end of the range.

Main results:

* `Numeral.ofDecimal_natAbs` — digits without a point are rounded like an integer;
* `Number.ofText_toString` — **the number of the text of an integer is that of its nearest double**;
* `Binary64.isIntegral_ofInt` — long integers are rounded to integers;
* `integer_survives_iff` — **the integers that survive**.
-/

import DynamicLinking.Conversion
import DynamicLinking.Proofs.Evolution
import DynamicLinking.Proofs.ExactValues
import DynamicLinking.Proofs.Numerals
import Mathlib.Data.List.TakeWhile

set_option autoImplicit false

namespace DynamicLinking

/-! ### Rounding of long integers -/

theorem le_roundHalfEven {a n d : Nat} (hd : 0 < d) (h : a * d ≤ n) : a ≤ roundHalfEven n d := by
  have hdiv : a ≤ n / d := (Nat.le_div_iff_mul_le hd).mpr h
  unfold roundHalfEven
  dsimp only
  split
  · exact hdiv
  · split <;> omega

theorem roundHalfEven_le {b n d : Nat} (hd : 0 < d) (h : n ≤ b * d) : roundHalfEven n d ≤ b := by
  rcases Nat.lt_or_ge (n / d) b with hlt | hge
  · unfold roundHalfEven
    dsimp only
    split
    · omega
    · split <;> omega
  · -- nothing is left to round
    have hmul : b * d ≤ n := (Nat.le_div_iff_mul_le hd).mp hge
    rw [Nat.le_antisymm h hmul, roundHalfEven_mul hd]

namespace Binary64

theorem isIntegral_of_scale {x : Binary64} (h : 0 ≤ x.scale) : x.isIntegral = true := by
  have hzero : (-x.scale).toNat = 0 := by omega
  rw [isIntegral, hzero, twoPow_zero, Nat.mod_one]
  rfl

/-- The significand of the nearest double of a long integer counts whole numbers. -/
theorem ofInt_eq_of_long {i : Int} (hlong : 53 ≤ i.natAbs.log2) (hlog : i.natAbs.log2 ≤ 1022) :
    ∃ f m, ofInt i = ofMagnitude (i < 0) (f * twoPow 52 + m) ∧ 1074 ≤ f ∧ f < 2046 ∧
      twoPow 52 ≤ m ∧ m < twoPow 53 := by
  have hi : i.natAbs ≠ 0 := by
    intro hzero
    rw [hzero] at hlong
    exact absurd hlong (by decide)
  generalize hL : i.natAbs.log2 = L at *
  have hlow : 2 ^ L ≤ i.natAbs := hL ▸ Nat.log2_self_le hi
  have hhigh : i.natAbs < 2 ^ (L + 1) := hL ▸ Nat.lt_log2_self
  obtain ⟨m, hm⟩ : ∃ m, m = roundHalfEven i.natAbs (twoPow (L - 52)) := ⟨_, rfl⟩
  have hm52 : twoPow 52 ≤ m := by
    rw [hm]
    refine le_roundHalfEven (Nat.two_pow_pos _) ?_
    calc twoPow 52 * twoPow (L - 52) = 2 ^ L := by
          simp only [twoPow, Nat.pow_eq, ← Nat.pow_add]
          congr 1
          omega
      _ ≤ i.natAbs := hlow
  have hm53 : m ≤ twoPow 53 := by
    rw [hm]
    refine roundHalfEven_le (Nat.two_pow_pos _) ?_
    calc i.natAbs ≤ 2 ^ (L + 1) := Nat.le_of_lt hhigh
      _ = twoPow 53 * twoPow (L - 52) := by
          simp only [twoPow, Nat.pow_eq, ← Nat.pow_add]
          congr 1
          omega
  have hround : ofInt i = ofMagnitude (i < 0) ((L + 1022) * twoPow 52 + m) := by
    have hneg : (-((L : Int) - 52)).toNat = 0 := by omega
    have hpos : ((L : Int) - 52).toNat = L - 52 := by omega
    have hexponent : ((L : Int) - 52 + 1074).toNat = L + 1022 := by omega
    have hfinite : (L + 1022) * twoPow 52 + m ≤ infinityMagnitude := by
      simp only [infinityMagnitude, twoPow, Nat.pow_eq, Nat.reducePow] at *
      omega
    unfold ofInt roundRatio
    rw [if_neg hi, scaleOfRatio_one hi, hL]
    dsimp only [inUnitsOf]
    rw [hneg, hpos, hexponent, twoPow_zero, Nat.mul_one, Nat.one_mul, ← hm,
      Nat.min_eq_left hfinite]
  rcases Nat.lt_or_eq_of_le hm53 with hlt | heq
  · exact ⟨L + 1022, m, hround, by omega, by omega, hm52, hlt⟩
  · -- a significand that was rounded up has one bit more, and is halved
    have hcarry : (L + 1022) * twoPow 52 + twoPow 53 = (L + 1023) * twoPow 52 + twoPow 52 := by
      simp only [twoPow, Nat.pow_eq, Nat.reducePow]
      omega
    refine ⟨L + 1023, twoPow 52, ?_, by omega, by omega, Nat.le_refl _, by decide⟩
    rw [hround, heq, hcarry]

/-- **A long integer is rounded to an integer.** -/
theorem isIntegral_ofInt {i : Int} (hlong : 53 ≤ i.natAbs.log2) (hlog : i.natAbs.log2 ≤ 1022) :
    (ofInt i).isFinite = true ∧ (ofInt i).isIntegral = true := by
  obtain ⟨f, m, hround, hf, hf', hm, hm'⟩ := ofInt_eq_of_long hlong hlog
  obtain ⟨-, hexponent, -⟩ := ofMagnitude_normal (i < 0) hf' hm hm'
  rw [hround]
  constructor
  · rw [isFinite, hexponent]
    simp
    omega
  · refine isIntegral_of_scale ?_
    rw [scale, hexponent, if_neg (Nat.succ_ne_zero f)]
    omega

end Binary64

/-! ### Reading the digits of an integer -/

/-- The decimal text of an integer. -/
theorem toList_toString (i : Int) :
    (toString i).toList =
      (if i < 0 then ['-'] else []) ++ Nat.toDigits 10 i.natAbs := by
  cases i with
  | ofNat n =>
      rw [if_neg (by simp)]
      exact Nat.toList_repr
  | negSucc n =>
      have hminus : toString (Int.negSucc n) = "-" ++ Nat.repr (n + 1) := rfl
      rw [if_pos (Int.negSucc_lt_zero n), hminus, String.toList_append, Nat.toList_repr]
      rfl

/-- The characters of the text of an integer. -/
theorem mem_of_mem_toString {i : Int} {c : Char} (hc : c ∈ (toString i).toList) :
    c ∈ "-0123456789".toList := by
  rw [toList_toString, List.mem_append] at hc
  rcases hc with hc | hc
  · split at hc
    · rw [List.mem_singleton.mp hc]
      decide
    · cases hc
  · have hall : ∀ k < 10, Nat.digitChar k ∈ "-0123456789".toList := by decide
    obtain ⟨hlt, hchar⟩ := Numeral.digitChar_of_isDigit
      (List.all_eq_true.mp (Numeral.all_isDigit_toDigits _) c hc)
    exact hchar ▸ hall _ hlt

/-- Nothing is dropped where no character is blank. -/
theorem trimList_of_forall {cs : List Char} (h : ∀ c ∈ cs, Text.isBlank c = false) :
    Text.trimList cs = cs := by
  have hdrop (ds : List Char) (hds : ∀ c ∈ ds, Text.isBlank c = false) :
      ds.dropWhile Text.isBlank = ds := by
    cases ds with
    | nil => rfl
    | cons c ds => rw [List.dropWhile_cons, hds c (by simp)]; rfl
  unfold Text.trimList Text.stripList
  rw [hdrop cs h, hdrop cs.reverse fun c hc => h c (List.mem_reverse.mp hc), List.reverse_reverse]

namespace Numeral

/-- A sign is split off, if there is one. -/
theorem sign_toString (i : Int) :
    sign (toString i).toList = (decide (i < 0), Nat.toDigits 10 i.natAbs) := by
  rw [toList_toString]
  by_cases hneg : i < 0
  · rw [if_pos hneg, decide_eq_true hneg]
    rfl
  · rw [if_neg hneg, decide_eq_false hneg, List.nil_append]
    have hdigits := List.all_eq_true.mp (all_isDigit_toDigits i.natAbs)
    unfold sign
    split
    · rename_i r hr
      exact absurd (hdigits '-' (by simp [hr])) (by decide)
    · rename_i r hr
      exact absurd (hdigits '+' (by simp [hr])) (by decide)
    · rfl

/-- Digits without a point and an exponent are rounded like an integer. -/
theorem ofDecimal_natAbs {i : Int} (hlog : i.natAbs.log2 ≤ 1022) :
    Binary64.ofDecimal (i < 0) i.natAbs 0 = Binary64.ofInt i := by
  unfold Binary64.ofDecimal Binary64.ofInt
  dsimp only
  split
  · rename_i hzero
    rw [Binary64.roundRatio, if_pos hzero]
  · rw [if_neg (by omega), if_neg (by omega)]
    congr 1
    exact Nat.mul_one _

/-- The double of the text of an integer. -/
theorem decimal?_toString {i : Int} (hlog : i.natAbs.log2 ≤ 1022) :
    decimal? (toString i).toList = some (Binary64.ofInt i) := by
  have hdigits := List.all_eq_true.mp (all_isDigit_toDigits i.natAbs)
  unfold decimal?
  rw [sign_toString]
  dsimp only
  have hfraction : fraction [] = ([], []) := rfl
  rw [List.takeWhile_eq_self_iff.mpr hdigits, List.dropWhile_eq_nil_iff.mpr hdigits, hfraction]
  dsimp only
  rw [List.append_nil, if_neg Nat.toDigits_ne_nil, read_toDigits]
  exact congrArg some (ofDecimal_natAbs hlog)

end Numeral

namespace Number

/-- Digits and signs are read as a decimal numeral. -/
theorem ofTrimmed_of_forall {cs : List Char} (hcs : cs ≠ [])
    (h : ∀ c ∈ cs, c ∈ "-0123456789".toList) {x : Binary64}
    (hx : Numeral.decimal? cs = some x) : ofTrimmed cs = normalize x := by
  have hne (s : String) {c : Char} (hc : c ∈ s.toList) (hno : c ∉ "-0123456789".toList) :
      cs ≠ s.toList := fun heq => hno (h c (heq ▸ hc))
  have hinfinity := hne "Infinity" (c := 'I') (by decide) (by decide)
  have hplus := hne "+Infinity" (c := 'I') (by decide) (by decide)
  have hminus := hne "-Infinity" (c := 'I') (by decide) (by decide)
  have hmark : hexadecimal? cs = none := by
    unfold hexadecimal?
    split
    · exact absurd (h 'x' (by simp)) (by decide)
    · exact absurd (h 'X' (by simp)) (by decide)
    · rfl
  have hforeign : ¬ cs.any isForeignLetter = true := by
    have hnone : "-0123456789".toList.any isForeignLetter = false := by decide
    rw [Bool.not_eq_true, List.any_eq_false]
    exact fun c hc => List.any_eq_false.mp hnone c (h c hc)
  rw [ofTrimmed, if_neg hcs, if_neg (by rintro (h | h); exacts [hinfinity h, hplus h]),
    if_neg hminus, hmark]
  dsimp only
  rw [if_neg hforeign, hx]

/-- **The text of an integer reads as the nearest double**, made an integer again if it is one. -/
theorem ofText_toString {i : Int} (hlog : i.natAbs.log2 ≤ 1022) :
    ofText (toString i) = normalize (Binary64.ofInt i) := by
  have hnone : "-0123456789".toList.any Text.isBlank = false := by decide
  have hblank (c : Char) (hc : c ∈ "-0123456789".toList) : Text.isBlank c = false :=
    Bool.not_eq_true _ ▸ List.any_eq_false.mp hnone c hc
  have hnil : (toString i).toList ≠ [] := by
    rw [toList_toString]
    exact List.append_ne_nil_of_right_ne_nil _ Nat.toDigits_ne_nil
  rw [ofText, trimList_of_forall fun c hc => hblank c (mem_of_mem_toString hc),
    ofTrimmed_of_forall hnil (fun c => mem_of_mem_toString) (Numeral.decimal?_toString hlog)]

end Number

/-! ### What survives -/

/-- Short integers are their own significands. -/
theorem hasShortSignificand_of_lt {i : Int} (h : i.natAbs < twoPow 53) : HasShortSignificand i :=
  ⟨i.natAbs, 0, h, (Nat.mul_one _).symm⟩

/-- The integers that need more than 53 digits are long. -/
theorem le_log2_of_not_hasShortSignificand {i : Int} (h : ¬ HasShortSignificand i) :
    53 ≤ i.natAbs.log2 := by
  by_contra hlt
  have hlog : i.natAbs.log2 + 1 ≤ 53 := by omega
  refine h (hasShortSignificand_of_lt ?_)
  calc i.natAbs < 2 ^ (i.natAbs.log2 + 1) := Nat.lt_log2_self
    _ ≤ 2 ^ 53 := Nat.pow_le_pow_right (by decide) hlog

namespace Number

/-- An integral double is taken to the nearest integer of 64 bits, as a double or as the integer. -/
theorem toInt64_normalize {x : Binary64} (hfinite : x.isFinite = true)
    (hintegral : x.isIntegral = true) :
    (normalize x).toInt64 = Int64.ofInt (clampInt64 x.truncated) := by
  obtain ⟨hnan, hinfinite⟩ := (Binary64.isFinite_iff x).mp hfinite
  unfold normalize
  rw [hnan, hinfinite, hintegral, Bool.true_and]
  simp only [Bool.false_eq_true, if_false]
  split
  · rename_i hrange
    rw [clampInt64_of_inInt64 (Bool.and_eq_true_iff.mp hrange).1]
    rfl
  · rw [toInt64, Binary64.toInt64, hnan, hinfinite]
    rfl

/-- **What survives as an integer of 64 bits.** -/
theorem toInt64_normalize_ofInt_iff (i : Int64) :
    (normalize (Binary64.ofInt i.toInt)).toInt64 = i ↔
      HasShortSignificand i.toInt ∨ i = Int64.maxValue := by
  constructor
  · intro h
    by_cases hshort : HasShortSignificand i.toInt
    · exact .inl hshort
    right
    have hlong := le_log2_of_not_hasShortSignificand hshort
    have hlog := log2_natAbs_toInt_le i
    obtain ⟨hfinite, hintegral⟩ := Binary64.isIntegral_ofInt hlong (by omega)
    rw [toInt64_normalize hfinite hintegral] at h
    generalize hx : Binary64.ofInt i.toInt = x at *
    have hne : x.truncated ≠ i.toInt := fun htruncated => hshort <| by
      refine Binary64.hasShortSignificand_of_value (x := x) ?_
      rw [Binary64.value_of_isIntegral hintegral, htruncated]
    have hmin : i.toInt ≠ -9223372036854775808 := fun hmin => hshort <| by
      rw [hmin]
      exact ⟨1, 63, by decide, by decide⟩
    -- the double is out of range, and beyond its upper end
    have hrange := inInt64_clampInt64 x.truncated
    rw [inInt64_iff] at hrange
    have hclamp : i.toInt = clampInt64 x.truncated := by
      rw [← h, Int64.toInt_ofInt_of_le (by omega) (by omega)]
    have hmax : Int64.maxValue.toInt = 9223372036854775807 := rfl
    apply Int64.toInt_inj.mp
    rw [hmax]
    unfold clampInt64 at hclamp
    split at hclamp
    · exact absurd hclamp hmin
    · split at hclamp
      · exact hclamp
      · exact absurd hclamp.symm hne
  · rintro (hshort | rfl)
    · rw [(normalize_ofInt_iff i).mpr hshort]
      rfl
    · decide +kernel

end Number

/-- **The integers that survive their texts.**  The text of an integer reads as the number of its
nearest double.  It is the integer exactly if 53 significant binary digits are enough for it; where
an integer of 64 bits is asked for, it becomes the integer also if this is the largest one. -/
theorem integer_survives_iff (i : Int64) :
    (toText (.number (.integer i)) >>= fun s => toNumber (.string s)) =
        pure (Number.normalize (Binary64.ofInt i.toInt)) ∧
      ((toText (.number (.integer i)) >>= fun s => toNumber (.string s)) = pure (.integer i) ↔
        HasShortSignificand i.toInt) ∧
      ∀ t : StaticType, t = .long ∨ t = .boxedLong →
        ((toText (.number (.integer i)) >>= fun s => convertValue (.string s) t) =
            pure (.number (.integer i)) ↔
          HasShortSignificand i.toInt ∨ i = Int64.maxValue) := by
  have hlog := log2_natAbs_toInt_le i
  have htext : toText (.number (.integer i)) = pure (toString i.toInt) := rfl
  have hnumber : toNumber (.string (toString i.toInt)) =
      pure (Number.normalize (Binary64.ofInt i.toInt)) := by
    rw [← Number.ofText_toString (i := i.toInt) (by omega)]
    rfl
  rw [htext]
  simp only [pure_bind]
  refine ⟨hnumber, ?_, fun t ht => ?_⟩
  · rw [hnumber, ← Number.normalize_ofInt_iff]
    exact ⟨RunM.pure_inj, congrArg pure⟩
  · have hconvert : convertValue (.string (toString i.toInt)) t =
        toNumber (.string (toString i.toInt)) >>= fun n =>
          pure (.number (.integer n.toInt64)) := by
      rcases ht with rfl | rfl <;> rfl
    rw [hconvert, hnumber, pure_bind, ← Number.toInt64_normalize_ofInt_iff]
    refine ⟨fun h => ?_, fun h => by rw [h]⟩
    have hsame := RunM.pure_inj h
    simpa using hsame

namespace LongText

/-- The largest integer reaches a parameter for integers of 64 bits. -/
theorem convert_maxValue :
    (toText (.number (.integer Int64.maxValue)) >>= fun s => convertValue (.string s) .long) =
      pure (.number (.integer Int64.maxValue)) :=
  ((integer_survives_iff Int64.maxValue).2.2 .long (.inl rfl)).mpr (.inr rfl)

/-- `2 ^ 53 + 1` reads as its neighbour. -/
theorem neighbour_read :
    ¬ ∀ i : Int64, (toText (.number (.integer i)) >>= fun s => toNumber (.string s)) =
      pure (.integer i) := by
  intro hall
  have hread : Number.ofText "9007199254740993" = .integer 9007199254740992 := by decide +kernel
  have hsame : Number.ofText "9007199254740993" = .integer 9007199254740993 :=
    RunM.pure_inj (hall 9007199254740993)
  rw [hread] at hsame
  cases hsame

end LongText

end DynamicLinking
