/-
The ranges of the machine integers, and the powers of two and ten that the exact arithmetic on
doubles is made of.

* `inInt32`, `inInt64` — is an integer one of 32 or of 64 bits;
* `clampInt64` — the nearest integer of 64 bits;
* `twoPow`, `tenPow` — powers.
-/

set_option autoImplicit false

namespace DynamicLinking

/-- Is the integer one of 32 bits? -/
def inInt32 (i : Int) : Bool :=
  -2147483648 ≤ i && i ≤ 2147483647

/-- Is the integer one of 64 bits? -/
def inInt64 (i : Int) : Bool :=
  -9223372036854775808 ≤ i && i ≤ 9223372036854775807

theorem inInt32_iff {i : Int} : inInt32 i = true ↔ -2147483648 ≤ i ∧ i ≤ 2147483647 := by
  simp [inInt32]

theorem inInt64_iff {i : Int} :
    inInt64 i = true ↔ -9223372036854775808 ≤ i ∧ i ≤ 9223372036854775807 := by
  simp [inInt64]

theorem inInt64_eq_false_iff {i : Int} :
    inInt64 i = false ↔ i < -9223372036854775808 ∨ 9223372036854775807 < i := by
  rw [Bool.eq_false_iff, ne_eq, inInt64_iff]
  omega

theorem inInt64_toInt (i : Int64) : inInt64 i.toInt = true := by
  have hlo := i.le_toInt
  have hhi := i.toInt_lt
  rw [inInt64_iff]
  omega

/-- The integer of 64 bits that is nearest to an integer. -/
def clampInt64 (i : Int) : Int :=
  if i < -9223372036854775808 then -9223372036854775808
  else if 9223372036854775807 < i then 9223372036854775807
  else i

theorem inInt64_clampInt64 (i : Int) : inInt64 (clampInt64 i) = true := by
  unfold clampInt64
  split
  · decide
  · split
    · decide
    · rename_i h₁ h₂
      exact inInt64_iff.mpr ⟨Int.not_lt.1 h₁, Int.not_lt.1 h₂⟩

theorem clampInt64_of_inInt64 {i : Int} (h : inInt64 i = true) : clampInt64 i = i := by
  rw [inInt64_iff] at h
  simp [clampInt64, Int.not_lt.2 h.1, Int.not_lt.2 h.2]

/-- The power of two with the given exponent. -/
abbrev twoPow (n : Nat) : Nat :=
  Nat.pow 2 n

theorem twoPow_zero : twoPow 0 = 1 := rfl

/-- The power of ten with the given exponent. -/
abbrev tenPow (n : Nat) : Nat :=
  Nat.pow 10 n

end DynamicLinking
