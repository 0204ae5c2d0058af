/-
An optimistic call site of a numeric type takes a result as it is if the type has its value, and
fails otherwise with the program point of the site, so that the code around it is compiled again.
The filter asks for the representation of a number and not for its value: every number passes for a
double, also an integer that no double has.  The types that hold integers are exact, and so is
`double` for all other numbers.

Main definitions:

* `Value.IsNormal`, `StaticType.Has` — the number of a value, if it is one, is normal; a type has
  the value of a number;
* `Value.IsOverlong` — an integer that no double has;
* `Descriptor.Settles` — what becomes of a result where optimism is exact.

Main results:

* `StaticType.has_iff` — which values pass that the type does not have;
* `Candidate.settles_iff` — **optimism is exact but for integers that are too long for a double**.
-/

import DynamicLinking.Proofs.ExactValues
import DynamicLinking.Proofs.Outcomes

set_option autoImplicit false

namespace DynamicLinking

/-! ### Numbers and types -/

/-- The value is no number, or a normal one. -/
def Value.IsNormal (v : Value) : Prop :=
  ∀ n, v = .number n → n.IsNormal

/-- The value is a number, and the type has it exactly. -/
def StaticType.Has (t : StaticType) (v : Value) : Prop :=
  ∃ n, v = .number n ∧ t.Represents n.quantity

/-- The value is an integer that no double has. -/
def Value.IsOverlong (v : Value) : Prop :=
  ∃ i : Int64, v = .number (.integer i) ∧ ¬ HasShortSignificand i.toInt

/-- What is not written as an integer is the value of a double. -/
theorem represents_double {n : Number} (h : ∀ i, n ≠ .integer i) :
    StaticType.double.Represents n.quantity := by
  cases n with
  | integer i => exact absurd rfl (h i)
  | float x => exact ⟨x, rfl⟩
  | nan => exact ⟨Binary64.nan, by decide⟩
  | infinity => exact ⟨Binary64.infinity false, by decide⟩
  | negInfinity => exact ⟨Binary64.infinity true, by decide⟩

/-- What is not written as an integer is none. -/
theorem not_represents {n : Number} (hn : n.IsNormal) (h : ∀ i, n ≠ .integer i) :
    ¬ StaticType.int.Represents n.quantity ∧ ¬ StaticType.long.Represents n.quantity := by
  cases n with
  | integer i => exact absurd rfl (h i)
  | float x => exact not_represents_of_isNormal hn
  | nan | infinity | negInfinity => exact ⟨fun ⟨_, hi⟩ => (nomatch hi), fun ⟨_, hi⟩ => (nomatch hi)⟩

/-- The numbers that fit a type are those that the type has, and every integer for a double. -/
theorem represents_iff {t : StaticType} (ht : t.isNumeric = true) {n : Number} (hn : n.IsNormal) :
    t.Represents n.quantity ↔
      fits t (.number n) = true ∧ ¬ (t = .double ∧ Value.IsOverlong (.number n)) := by
  by_cases hinteger : ∃ i, n = .integer i
  · obtain ⟨i, rfl⟩ := hinteger
    cases t with
    | int => exact (represents_int_iff i).trans (by simp [fits])
    | long => exact ⟨fun _ => ⟨rfl, by simp⟩, fun _ => ⟨i, rfl⟩⟩
    | double =>
        refine (represents_double_iff i).trans ⟨fun h => ⟨rfl, ?_⟩, fun h => ?_⟩
        · rintro ⟨-, j, hj, hlong⟩
          cases hj
          exact hlong h
        · by_contra hlong
          exact h.2 ⟨rfl, i, rfl, hlong⟩
    | _ => cases ht
  · have hne (i : Int64) : n ≠ .integer i := fun hi => hinteger ⟨i, hi⟩
    have hoverlong : ¬ Value.IsOverlong (.number n) := by
      rintro ⟨i, hi, -⟩
      cases hi
      exact hne i rfl
    have hunfit (t : StaticType) (ht : t = .int ∨ t = .long) : fits t (.number n) = false := by
      rcases ht with rfl | rfl <;> cases n <;> first | rfl | exact absurd rfl (hne _)
    cases t with
    | int => simp [not_represents hn hne, hunfit .int (.inl rfl)]
    | long => simp [not_represents hn hne, hunfit .long (.inr rfl)]
    | double => exact ⟨fun _ => ⟨rfl, fun h => hoverlong h.2⟩, fun _ => represents_double hne⟩
    | _ => cases ht

/-- **A value fits a numeric type exactly if the type has it, or it is an integer that is too long
for a double.** -/
theorem StaticType.has_iff {t : StaticType} (ht : t.isNumeric = true) {v : Value}
    (hv : v.IsNormal) : t.Has v ↔ fits t v = true ∧ ¬ (t = .double ∧ v.IsOverlong) := by
  constructor
  · rintro ⟨n, rfl, h⟩
    exact (represents_iff ht (hv n rfl)).mp h
  · rintro ⟨hfits, hoverlong⟩
    have hnumber : ∃ n, v = .number n := by
      unfold fits at hfits
      split at hfits <;> first | exact ⟨_, rfl⟩ | cases hfits
    obtain ⟨n, rfl⟩ := hnumber
    exact ⟨n, rfl, (represents_iff ht (hv n rfl)).mpr ⟨hfits, hoverlong⟩⟩

/-! ### Results -/

/-- What becomes of a result where optimism is exact: it is passed on if the type of the call site
has it, and is reported with the program point otherwise. -/
def Descriptor.Settles (d : Descriptor) (v : Value) (s : Store) (x : Outcome) : Prop :=
  (d.signature.result.Has v ∧ x = .ok v s) ∨
    ¬ d.signature.result.Has v ∧
      x = .error (.error (.unwarranted v.text d.flags.programPoint.toNat)) s

namespace Candidate

variable {d : Descriptor} {k : Candidate}

/-- A candidate with the parameters of an optimistic site needs no further adaptation. -/
theorem adaptTo_requireOptimism (hoptimistic : d.flags.isOptimistic = true)
    (hnumeric : d.signature.result.isNumeric = true)
    (hparams : k.invocation.signature.params = d.signature.params) :
    ∃ k', (k.requireOptimism d).adaptTo d.signature = .ok k' ∧
      ∀ args, k'.invocation.eval args = k.invocation.eval args >>=
        ResultFilter.apply (.requireFit d.signature.result d.flags.programPoint.toNat) := by
  obtain ⟨i, hi⟩ : ∃ i, i = k.invocation.filterResult d.signature.result
    (.requireFit d.signature.result d.flags.programPoint.toNat) := ⟨_, rfl⟩
  have hrequire : k.requireOptimism d = { k with invocation := i } := by
    simp only [requireOptimism, hoptimistic, hnumeric, Bool.and_self, if_true, hi]
    rfl
  have hsignature : i.signature = d.signature := by
    rw [hi, Invocation.signature_filterResult, hparams]
  refine ⟨{ k with invocation := i }, ?_, fun args => ?_⟩
  · rw [hrequire, adaptTo, Invocation.asType, if_pos hsignature]
    rfl
  · rw [hi]
    rfl

/-- **Optimism is exact but for integers that are too long for a double.**  Whatever an invocation
with the parameters of an optimistic site of a numeric type answers is passed on unchanged if the
type has it and reported otherwise, unless the type is `double` and the answer is an integer that no
double has. -/
theorem settles_iff (hoptimistic : d.flags.isOptimistic = true)
    (hnumeric : d.signature.result.isNumeric = true)
    (hparams : k.invocation.signature.params = d.signature.params) :
    ∃ k', (k.requireOptimism d).adaptTo d.signature = .ok k' ∧
      ∀ args run s v t, k.invocation.eval args run s = .ok v t → v.IsNormal →
        (d.Settles v t (k'.invocation.eval args run s) ↔
          ¬ (d.signature.result = .double ∧ v.IsOverlong)) := by
  obtain ⟨k', hk', heval⟩ := adaptTo_requireOptimism hoptimistic hnumeric hparams
  refine ⟨k', hk', fun args run s v t hv hnormal => ?_⟩
  have hhas := StaticType.has_iff hnumeric hnormal
  unfold Descriptor.Settles
  rw [heval, RunM.bind_of_ok hv]
  cases hfits : fits d.signature.result v with
  | true =>
      rw [requireFit_of_fits hfits]
      simp [hhas, hfits]
  | false =>
      rw [requireFit_of_unfit hfits]
      have hnot : ¬ (d.signature.result = .double ∧ v.IsOverlong) := by
        rintro ⟨hdouble, i, rfl, -⟩
        rw [hdouble] at hfits
        cases hfits
      simp [hhas, hfits, hnot]

end Candidate

/-! ### An integer between two doubles -/

namespace LongInteger

/-- An optimistic site that calls for a double. -/
def site : Descriptor := ⟨.call, none, ⟨[.object], .double⟩, ⟨34824⟩⟩

/-- Answers a value of the given type. -/
def answering (v : Value) (declared : StaticType) : Candidate :=
  { invocation := ⟨⟨[.object], declared⟩, .constant v⟩ }

/-- The number of an integer is normal. -/
theorem isNormal_integer (i : Int64) : Value.IsNormal (.number (.integer i)) := by
  intro n hn
  cases hn
  trivial

/-- `2 ^ 53` is a double, and is passed on as it is. -/
theorem settles_power :
    ∃ k', ((answering (.number (.integer 9007199254740992)) .long).requireOptimism site).adaptTo
        site.signature = .ok k' ∧
      ∀ args run s, site.Settles (.number (.integer 9007199254740992)) s
        (k'.invocation.eval args run s) := by
  obtain ⟨k', hk', h⟩ := Candidate.settles_iff (d := site)
    (k := answering (.number (.integer 9007199254740992)) .long) (by decide) rfl rfl
  refine ⟨k', hk', fun args run s => (h args run s _ s rfl (isNormal_integer _)).mpr ?_⟩
  rintro ⟨-, i, hi, hlong⟩
  cases hi
  exact hlong ⟨1, 53, by decide, by decide⟩

/-- `2 ^ 53 + 1` is odd, and has 54 digits. -/
theorem not_hasShortSignificand : ¬ HasShortSignificand 9007199254740993 := by
  rintro ⟨m, e, hm, h⟩
  cases e with
  | zero => simp at h hm; omega
  | succ e =>
      have heven : twoPow (e + 1) = 2 * twoPow e := by simp [Nat.pow_succ, Nat.mul_comm]
      rw [heven, Nat.mul_left_comm] at h
      simp at h
      omega

/-- `2 ^ 53 + 1` is passed on as well: optimism is not always exact. -/
theorem not_always_exact :
    ¬ ∀ (d : Descriptor) (k : Candidate), d.flags.isOptimistic = true →
      d.signature.result.isNumeric = true →
      k.invocation.signature.params = d.signature.params →
      ∃ k', (k.requireOptimism d).adaptTo d.signature = .ok k' ∧
        ∀ args run s v t, k.invocation.eval args run s = .ok v t → v.IsNormal →
          d.Settles v t (k'.invocation.eval args run s) := by
  intro h
  obtain ⟨k', hk', hsettles⟩ := h site
    (answering (.number (.integer 9007199254740993)) .object) (by decide) rfl rfl
  have hanswer (run : Runner) (s : Store) : k'.invocation.eval [] run s =
      .ok (.number (.integer 9007199254740993)) s := by
    cases hk'
    rfl
  rcases hsettles [] (fun _ _ _ => pure .undefined) {} _ _ rfl (isNormal_integer _) with
    ⟨⟨n, hn, hhas⟩, -⟩ | ⟨-, hreport⟩
  · cases hn
    exact not_hasShortSignificand ((represents_double_iff _).mp hhas)
  · rw [hanswer] at hreport
    cases hreport

end LongInteger

end DynamicLinking
