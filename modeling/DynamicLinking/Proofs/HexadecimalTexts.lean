/-
A text that starts with the mark of base sixteen is read digit by digit.  The reader stops at the
first character that is no digit, and as soon as the digits so far leave the range, which further
digits cannot mend.  What it makes of the rest is therefore a question about the whole list of
digits and the number that they denote.

The reader takes a sign between the mark and the digits, which belongs to no numeral of the
language.

Main definitions:

* `Numeral.Denotes` — characters are digits of a base, and denote a number;
* `IsHexDigit`, `IsHexadecimal` — digits of base sixteen, and the numbers that they denote;
* `Number.OfHexadecimal` — the number that belongs to what follows the mark;
* `SignedHexadecimal` — digits with an optional sign.

Main results:

* `Numeral.accumulate_iff` — the reader succeeds if the characters are digits and the number is in
  the range;
* `Numeral.signed64_sixteen_iff` — what is read in base sixteen;
* `toNumber_hexadecimal` — **a text has the number that belongs to it, unless there is a sign behind
  the mark and a numeral behind the sign**.
-/

import DynamicLinking.Proofs.Evolution
import Mathlib.Data.List.Forall2
import Mathlib.Data.Nat.Digits.Defs
import Mathlib.Tactic.IntervalCases

set_option autoImplicit false

namespace DynamicLinking

namespace Numeral

/-! ### Digits one after another -/

/-- The characters are digits of a base, the first one the highest, and denote a number. -/
def Denotes (radix : Nat) (cs : List Char) (n : Nat) : Prop :=
  ∃ ds, List.Forall₂ (fun c d => digit? radix c = some d) cs ds ∧ Nat.ofDigits radix ds.reverse = n

/-- A number, or its opposite. -/
def signed (negative : Bool) (n : Nat) : Int :=
  if negative then -(n : Int) else n

/-- The number that digits denote behind those of `n`. -/
def digitsAfter (radix n : Nat) (ds : List Nat) : Nat :=
  ds.foldl (fun n d => d + radix * n) n

theorem digitsAfter_zero (radix : Nat) (ds : List Nat) :
    digitsAfter radix 0 ds = Nat.ofDigits radix ds.reverse := by
  rw [Nat.ofDigits_eq_foldr, List.foldr_reverse]
  rfl

/-- Further digits make no number smaller. -/
theorem le_digitsAfter {radix : Nat} (hradix : 0 < radix) (n : Nat) (ds : List Nat) :
    n ≤ digitsAfter radix n ds := by
  induction ds generalizing n with
  | nil => exact Nat.le_refl n
  | cons d ds ih =>
      calc n ≤ radix * n := Nat.le_mul_of_pos_left n hradix
        _ ≤ d + radix * n := Nat.le_add_left _ _
        _ ≤ digitsAfter radix (d + radix * n) ds := ih _

section

variable {radix : Nat} {lo hi i : Int} {negative : Bool} {cs : List Char}

theorem signed_step (radix : Nat) (negative : Bool) (n d : Nat) :
    signed negative n * radix + (if negative then -(d : Int) else d) =
      signed negative (d + radix * n) := by
  unfold signed
  split
  · push_cast
    rw [Int.neg_mul, Int.mul_comm (n : Int), Int.neg_add, Int.add_comm]
  · push_cast
    rw [Int.mul_comm (n : Int), Int.add_comm]

/-- A range around zero has what is between zero and its numbers. -/
theorem signed_inRange (hlo : lo ≤ 0) (hhi : 0 ≤ hi) {m n : Nat} (h : m ≤ n)
    (hn : lo ≤ signed negative n ∧ signed negative n ≤ hi) :
    lo ≤ signed negative m ∧ signed negative m ≤ hi := by
  cases negative <;> simp only [signed, Bool.false_eq_true, if_false, if_true] at * <;> omega

/-- The reader, behind the digits of `n`: a number that leaves the range does not come back, so that
only the last one counts. -/
theorem accumulate_from_iff (hradix : 0 < radix) (hlo : lo ≤ 0) (hhi : 0 ≤ hi) {n : Nat}
    (hn : lo ≤ signed negative n ∧ signed negative n ≤ hi) :
    accumulate radix lo hi negative (signed negative n) cs = .ok i ↔
      ∃ ds, List.Forall₂ (fun c d => digit? radix c = some d) cs ds ∧
        i = signed negative (digitsAfter radix n ds) ∧ lo ≤ i ∧ i ≤ hi := by
  induction cs generalizing n with
  | nil =>
      constructor
      · rintro ⟨⟩
        exact ⟨[], .nil, rfl, hn⟩
      · rintro ⟨ds, hds, rfl, -⟩
        cases hds
        rfl
  | cons c cs ih =>
      rw [accumulate]
      cases hc : digit? radix c with
      | none => simp [List.forall₂_cons_left_iff, hc]
      | some d =>
          have hcons : (∃ ds, List.Forall₂ (fun c d => digit? radix c = some d) (c :: cs) ds ∧
                i = signed negative (digitsAfter radix n ds) ∧ lo ≤ i ∧ i ≤ hi) ↔
              ∃ ds, List.Forall₂ (fun c d => digit? radix c = some d) cs ds ∧
                i = signed negative (digitsAfter radix (d + radix * n) ds) ∧ lo ≤ i ∧ i ≤ hi := by
            simp [List.forall₂_cons_left_iff, hc, digitsAfter]
          dsimp only
          rw [signed_step, hcons]
          by_cases hin : lo ≤ signed negative (d + radix * n) ∧ signed negative (d + radix * n) ≤ hi
          · rw [if_neg (by omega), if_neg (by omega)]
            exact ih hin
          · -- the reader stops, and what the digits denote is out of range as well
            refine ⟨fun h => ?_, ?_⟩
            · split at h
              · cases h
              · split at h
                · cases h
                · omega
            · rintro ⟨ds, -, rfl, hrange⟩
              exact absurd (signed_inRange hlo hhi (le_digitsAfter hradix _ ds) hrange) hin

/-- **The reader succeeds** if the characters are digits and denote a number of the range. -/
theorem accumulate_iff (hradix : 0 < radix) (hlo : lo ≤ 0) (hhi : 0 ≤ hi) :
    accumulate radix lo hi negative 0 cs = .ok i ↔
      ∃ n, Denotes radix cs n ∧ i = signed negative n ∧ lo ≤ i ∧ i ≤ hi := by
  have hzero : signed negative 0 = 0 := by cases negative <;> rfl
  rw [← hzero, accumulate_from_iff hradix hlo hhi (by omega)]
  constructor
  · rintro ⟨ds, hds, hi⟩
    exact ⟨_, ⟨ds, hds, rfl⟩, by rwa [digitsAfter_zero] at hi⟩
  · rintro ⟨_, ⟨ds, hds, rfl⟩, hi⟩
    exact ⟨ds, hds, by rwa [digitsAfter_zero]⟩

end

end Numeral

/-! ### Base sixteen -/

/-- The character is a digit of base sixteen, small or capital, and denotes the number. -/
def IsHexDigit (c : Char) (d : Nat) : Prop :=
  d < 16 ∧ (c = d.digitChar ∨ c = d.digitChar.toUpper)

/-- The characters are digits of base sixteen, at least one, and denote the number. -/
def IsHexadecimal (cs : List Char) (n : Nat) : Prop :=
  cs ≠ [] ∧ ∃ ds, List.Forall₂ IsHexDigit cs ds ∧ Nat.ofDigits 16 ds.reverse = n

/-- Digits of base sixteen, behind a sign or without one, and the number that they denote. -/
inductive SignedHexadecimal : List Char → Int → Prop where
  | plain {cs : List Char} {n : Nat} (h : IsHexadecimal cs n) : SignedHexadecimal cs n
  | plus {cs : List Char} {n : Nat} (h : IsHexadecimal cs n) : SignedHexadecimal ('+' :: cs) n
  | minus {cs : List Char} {n : Nat} (h : IsHexadecimal cs n) : SignedHexadecimal ('-' :: cs) (-n)

theorem not_isHexadecimal_nil (n : Nat) : ¬ IsHexadecimal [] n :=
  fun h => h.1 rfl

/-- A sign is no digit. -/
theorem not_isHexadecimal_sign {c : Char} (hc : c = '+' ∨ c = '-') (cs : List Char) (n : Nat) :
    ¬ IsHexadecimal (c :: cs) n := by
  rintro ⟨-, ds, hds, -⟩
  cases hds with
  | @cons _ d _ _ hd _ =>
      obtain ⟨hlt, hchar⟩ := hd
      rcases hc with rfl | rfl <;> interval_cases d <;> revert hchar <;> decide

section

variable {cs : List Char} {i : Int}

theorem signedHexadecimal_plus_iff :
    SignedHexadecimal ('+' :: cs) i ↔ ∃ n, IsHexadecimal cs n ∧ i = (n : Int) := by
  constructor
  · rintro (h | h)
    · exact absurd h (not_isHexadecimal_sign (.inl rfl) _ _)
    · exact ⟨_, h, rfl⟩
  · rintro ⟨n, h, rfl⟩
    exact .plus h

theorem signedHexadecimal_minus_iff :
    SignedHexadecimal ('-' :: cs) i ↔ ∃ n, IsHexadecimal cs n ∧ i = -(n : Int) := by
  constructor
  · rintro (h | - | h)
    · exact absurd h (not_isHexadecimal_sign (.inr rfl) _ _)
    · exact ⟨_, h, rfl⟩
  · rintro ⟨n, h, rfl⟩
    exact .minus h

theorem signedHexadecimal_plain_iff (hplus : ∀ r, cs ≠ '+' :: r) (hminus : ∀ r, cs ≠ '-' :: r) :
    SignedHexadecimal cs i ↔ ∃ n, IsHexadecimal cs n ∧ i = (n : Int) := by
  constructor
  · rintro (h | h | h)
    · exact ⟨_, h, rfl⟩
    · exact absurd rfl (hplus _)
    · exact absurd rfl (hminus _)
  · rintro ⟨n, h, rfl⟩
    exact .plain h

end

namespace Numeral

/-- The characters that are digits of some base up to sixteen. -/
theorem range_of_digit? {radix : Nat} {c : Char} {d : Nat} (h : digit? radix c = some d) :
    (∃ k < 10, c = Char.ofNat (48 + k)) ∨ (∃ k < 6, c = Char.ofNat (97 + k)) ∨
      ∃ k < 6, c = Char.ofNat (65 + k) := by
  have hrange (m n : Nat) (hlo : m ≤ c.toNat) (hhi : c.toNat < m + n) :
      ∃ k < n, c = Char.ofNat (m + k) :=
    ⟨c.toNat - m, by omega, by rw [Nat.add_sub_cancel' hlo, Char.ofNat_toNat]⟩
  have hle (a b : Char) : a ≤ b ↔ a.toNat ≤ b.toNat := UInt32.le_iff_toNat_le
  unfold digit? at h
  obtain ⟨h, -⟩ := Option.filter_eq_some_iff.mp h
  split at h
  · rename_i hdigit
    simp only [Char.isDigit, Bool.and_eq_true, decide_eq_true_eq, UInt32.le_iff_toNat_le] at hdigit
    exact .inl (hrange 48 10 hdigit.1 (Nat.lt_succ_of_le hdigit.2))
  · split at h
    · rename_i hsmall
      simp only [Bool.and_eq_true, decide_eq_true_eq, hle] at hsmall
      exact .inr (.inl (hrange 97 6 hsmall.1 (Nat.lt_succ_of_le hsmall.2)))
    · split at h
      · rename_i hcapital
        simp only [Bool.and_eq_true, decide_eq_true_eq, hle] at hcapital
        exact .inr (.inr (hrange 65 6 hcapital.1 (Nat.lt_succ_of_le hcapital.2)))
      · cases h

/-- The digits that are read in base sixteen. -/
theorem digit?_sixteen_iff {c : Char} {d : Nat} : digit? 16 c = some d ↔ IsHexDigit c d := by
  constructor
  · intro h
    rcases range_of_digit? h with ⟨k, hk, rfl⟩ | ⟨k, hk, rfl⟩ | ⟨k, hk, rfl⟩ <;>
      interval_cases k <;> cases h <;> exact ⟨by decide, by decide⟩
  · rintro ⟨hd, rfl | rfl⟩ <;> interval_cases d <;> rfl

theorem denotes_sixteen_iff {cs : List Char} {n : Nat} (hcs : cs ≠ []) :
    Denotes 16 cs n ↔ IsHexadecimal cs n := by
  have hdigit : (fun c d => digit? 16 c = some d) = IsHexDigit := by
    funext c d
    exact propext digit?_sixteen_iff
  unfold Denotes IsHexadecimal
  rw [hdigit]
  exact ⟨fun h => ⟨hcs, h⟩, fun h => h.2⟩

/-- **What is read in base sixteen**: digits with an optional sign, if their number fits. -/
theorem signed64_sixteen_iff {cs : List Char} {i : Int} :
    signed64 16 cs = .ok i ↔ SignedHexadecimal cs i ∧ inInt64 i = true := by
  have hread (negative : Bool) (r : List Char) (hr : r ≠ []) :
      accumulate 16 (-9223372036854775808) 9223372036854775807 negative 0 r = .ok i ↔
        (∃ n, IsHexadecimal r n ∧ i = signed negative n) ∧ inInt64 i = true := by
    rw [accumulate_iff (by decide) (by decide) (by decide)]
    simp only [denotes_sixteen_iff hr, inInt64_iff, ← and_assoc, exists_and_right]
  unfold signed64 integer
  split
  · simp [signedHexadecimal_plain_iff, not_isHexadecimal_nil]
  · simp [signedHexadecimal_plus_iff, not_isHexadecimal_nil]
  · simp [signedHexadecimal_minus_iff, not_isHexadecimal_nil]
  · rename_i r hr
    rw [hread false r hr, signedHexadecimal_plus_iff]
    rfl
  · rename_i r hr
    rw [if_pos (by decide), hread true r hr, signedHexadecimal_minus_iff]
    rfl
  · rename_i hnil _ _ hplus hminus
    rw [hread false cs hnil, signedHexadecimal_plain_iff hplus hminus]
    rfl

end Numeral

/-! ### Texts -/

/-- The number that belongs to a text with these characters behind the mark: that of the digits, if
there are only digits and the integers of 64 bits have it, and not-a-number otherwise. -/
inductive Number.OfHexadecimal (cs : List Char) : Number → Prop where
  | integer {n : Nat} (h : IsHexadecimal cs n) (hn : n ≤ 9223372036854775807) :
      OfHexadecimal cs (.integer (Int64.ofInt n))
  | nan (h : ∀ n, IsHexadecimal cs n → 9223372036854775807 < n) : OfHexadecimal cs .nan

section

variable {s : String} {x : Char} {cs : List Char}

/-- Behind the mark the reader for base sixteen takes over. -/
theorem Number.ofText_of_mark (hx : x = 'x' ∨ x = 'X')
    (hs : Text.trimList s.toList = '0' :: x :: cs) :
    ofText s =
      (Numeral.signed64 16 cs).toOption.elim .nan fun i => .integer (Int64.ofInt i) := by
  have hmark : hexadecimal? ('0' :: x :: cs) = some cs := by
    rcases hx with rfl | rfl <;> rfl
  rw [ofText, hs, ofTrimmed, if_neg (by simp), if_neg (by simp), if_neg (by simp), hmark]
  dsimp only
  cases Numeral.signed64 16 cs <;> rfl

/-- Digits with an optional sign are read. -/
theorem Number.ofText_of_signed (hx : x = 'x' ∨ x = 'X')
    (hs : Text.trimList s.toList = '0' :: x :: cs) {i : Int} (h : SignedHexadecimal cs i)
    (hi : inInt64 i = true) : ofText s = .integer (Int64.ofInt i) := by
  rw [ofText_of_mark hx hs, Numeral.signed64_sixteen_iff.mpr ⟨h, hi⟩]
  rfl

/-- Nothing else is. -/
theorem Number.ofText_of_not_signed (hx : x = 'x' ∨ x = 'X')
    (hs : Text.trimList s.toList = '0' :: x :: cs)
    (h : ∀ i, SignedHexadecimal cs i → inInt64 i = false) : ofText s = .nan := by
  rw [ofText_of_mark hx hs]
  cases hread : Numeral.signed64 16 cs with
  | error f => rfl
  | ok i =>
      obtain ⟨hsigned, hi⟩ := Numeral.signed64_sixteen_iff.mp hread
      rw [h i hsigned] at hi
      cases hi

/-- **The number of a text with the mark of base sixteen.**  It is that of the digits behind the
mark, with an optional sign, if it is an integer of 64 bits, and not-a-number otherwise.  So it is
the number that belongs to the text, unless there is a sign before digits that can be read. -/
theorem toNumber_hexadecimal (hx : x = 'x' ∨ x = 'X')
    (hs : Text.trimList s.toList = '0' :: x :: cs) :
    ∃ v, toNumber (.string s) = pure v ∧
      (∀ i, SignedHexadecimal cs i → inInt64 i = true → v = .integer (Int64.ofInt i)) ∧
      ((∀ i, SignedHexadecimal cs i → inInt64 i = false) → v = .nan) ∧
      (Number.OfHexadecimal cs v ↔
        ¬ ∃ c r i, (c = '+' ∨ c = '-') ∧ cs = c :: r ∧ SignedHexadecimal cs i ∧
          inInt64 i = true) := by
  refine ⟨Number.ofText s, rfl, fun i => Number.ofText_of_signed hx hs,
    Number.ofText_of_not_signed hx hs, ?_⟩
  constructor
  · rintro hnumber ⟨c, r, i, hc, rfl, hsigned, hi⟩
    rw [Number.ofText_of_signed hx hs hsigned hi] at hnumber
    generalize hv : Number.integer (Int64.ofInt i) = v at hnumber
    cases hnumber with
    | integer h hn => exact not_isHexadecimal_sign hc _ _ h
    | nan h => cases hv
  · intro hplain
    by_cases hread : ∃ i, SignedHexadecimal cs i ∧ inInt64 i = true
    · obtain ⟨i, hsigned, hi⟩ := hread
      rw [Number.ofText_of_signed hx hs hsigned hi]
      cases hsigned with
      | plain h =>
          rw [inInt64_iff] at hi
          exact .integer h (by omega)
      | plus h => exact absurd ⟨_, _, _, .inl rfl, rfl, .plus h, hi⟩ hplain
      | minus h => exact absurd ⟨_, _, _, .inr rfl, rfl, .minus h, hi⟩ hplain
    · have hnone (i : Int) (h : SignedHexadecimal cs i) : inInt64 i = false :=
        Bool.eq_false_iff.mpr fun hi => hread ⟨i, h, hi⟩
      rw [Number.ofText_of_not_signed hx hs hnone]
      refine .nan fun n h => ?_
      have hout := hnone n (.plain h)
      rw [inInt64_eq_false_iff] at hout
      omega

end

namespace SignedText

/-- Without a sign the digits are read as they should. -/
theorem ofHexadecimal_plain : ∃ v, toNumber (.string " 0XfF ") = pure v ∧
    Number.OfHexadecimal "fF".toList v := by
  have hs : Text.trimList " 0XfF ".toList = '0' :: 'X' :: "fF".toList := by decide
  obtain ⟨v, hv, -, -, hiff⟩ := toNumber_hexadecimal (.inr rfl) hs
  refine ⟨v, hv, hiff.mpr ?_⟩
  rintro ⟨c, r, i, hc, hcs, -⟩
  rcases hc with rfl | rfl <;> cases hcs

/-- With a sign they are read nevertheless. -/
theorem sign_read :
    ¬ ∀ (s : String) (x : Char) (cs : List Char), (x = 'x' ∨ x = 'X') →
      Text.trimList s.toList = '0' :: x :: cs →
      ∃ v, toNumber (.string s) = pure v ∧ Number.OfHexadecimal cs v := by
  intro hall
  obtain ⟨v, hv, hnumber⟩ := hall "0x-10" 'x' "-10".toList (.inl rfl) (by decide)
  have hread : Number.ofText "0x-10" = .integer (Int64.ofInt (-16)) := by decide
  obtain rfl : Number.ofText "0x-10" = v := RunM.pure_inj hv
  generalize Number.ofText "0x-10" = v at hread hnumber
  cases hnumber with
  | integer h hn => exact not_isHexadecimal_sign (.inr rfl) _ _ h
  | nan h => cases hread

end SignedText

end DynamicLinking
