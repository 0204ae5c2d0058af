/-
The laws of parsing expression grammars, one for each kind of pattern.  A pattern that is run at a
place of a text takes a piece of the text from there on, or fails.  A choice takes what its second
alternative takes only where the first one fails, and a repetition goes on until its pattern fails
or takes nothing; so what a pattern takes depends on all of the text behind the place, not on the
piece alone.

Main definitions:

* `Takes`, `Pattern.Matches`, `Pattern.Fails` — an attempt or a pattern takes a piece of a text, or
  fails;
* `Repeats` — what a repetition takes, piece by piece.

Main results:

* `Pattern.matches_or_fails` — **a pattern takes a piece of the text or fails**;
* `Pattern.matches_seq_iff`, `Pattern.matches_choice_iff`, `Pattern.matches_many_iff` and the like —
  **the laws**;
* `Pattern.parse_eq_ok_iff` — when a text is parsed;
* `read_eq_ok_iff`, `read_cases` — the tree of a text, which is malformed otherwise.
-/

import DynamicLinking.Grammar.Rule

set_option autoImplicit false

namespace DynamicLinking.Grammar

variable {ρ : Type}

/-! ### Pieces of a text -/

/-- The piece of the text that lies between two places. -/
def Between (s s' : Cursor) (t : List Char) : Prop :=
  s.rest = t ++ s'.rest ∧ s'.index = s.index + t.length

theorem Between.refl (s : Cursor) : Between s s [] :=
  ⟨rfl, rfl⟩

theorem Between.trans {s s' s'' : Cursor} {t t' : List Char} (h : Between s s' t)
    (h' : Between s' s'' t') : Between s s'' (t ++ t') := by
  obtain ⟨hrest, hindex⟩ := h
  obtain ⟨hrest', hindex'⟩ := h'
  refine ⟨by rw [hrest, hrest', List.append_assoc], ?_⟩
  rw [List.length_append]
  omega

theorem between_advance {s : Cursor} {w : List Char} (h : w <+: s.rest) :
    Between s (s.advance w.length) w := by
  obtain ⟨r, hr⟩ := h
  refine ⟨?_, rfl⟩
  rw [Cursor.advance, ← hr, List.drop_left]

/-- Behind `i` characters, the attempt takes the piece `t`, in front of the rest `r`, and leaves
the nodes `ns`. -/
def Takes (attempt : Cursor → Reply ρ) (i : Nat) (t r : List Char) (ns : List (Node ρ)) : Prop :=
  (attempt ⟨i, t ++ r⟩).result = some (⟨i + t.length, r⟩, ns)

/-- What an attempt takes lies between two places of the text. -/
def Advances (attempt : Cursor → Reply ρ) : Prop :=
  ∀ s s' ns, (attempt s).result = some (s', ns) → ∃ t, Between s s' t

section Takes

variable {attempt : Cursor → Reply ρ} {i : Nat} {t t' r r' : List Char} {ns ns' : List (Node ρ)}

theorem Advances.exists_takes (ha : Advances attempt) {cs : List Char} {s' : Cursor}
    (h : (attempt ⟨i, cs⟩).result = some (s', ns)) :
    ∃ t, cs = t ++ s'.rest ∧ s' = ⟨i + t.length, s'.rest⟩ ∧ Takes attempt i t s'.rest ns := by
  obtain ⟨t, hrest, hindex⟩ := ha _ _ _ h
  obtain ⟨j, r⟩ := s'
  dsimp only at hrest hindex ⊢
  subst hrest hindex
  exact ⟨t, rfl, rfl, h⟩

/-- An attempt takes only one piece of a text. -/
theorem Takes.unique (h : Takes attempt i t r ns) (h' : Takes attempt i t' r' ns')
    (ht : t ++ r = t' ++ r') : t = t' ∧ r = r' ∧ ns = ns' := by
  unfold Takes at h h'
  rw [ht, h'] at h
  obtain ⟨⟨-, hr⟩, hns⟩ : (t'.length = t.length ∧ r' = r) ∧ ns' = ns := by simpa using h
  subst hr hns
  exact ⟨List.append_cancel_right ht, rfl, rfl⟩

end Takes

/-! ### Repetitions -/

/-- What a repetition takes: pieces one after another, until the attempt takes no further
character. -/
inductive Repeats (attempt : Cursor → Reply ρ) :
    Nat → List Char → List Char → List (Node ρ) → Prop where
  | stop {i : Nat} {r : List Char}
      (h : ∀ t r' ns, r = t ++ r' → Takes attempt i t r' ns → t = []) :
      Repeats attempt i [] r []
  | more {i : Nat} {t₁ t₂ r : List Char} {ns₁ ns₂ : List (Node ρ)} (ht : t₁ ≠ [])
      (h : Takes attempt i t₁ (t₂ ++ r) ns₁) (hrest : Repeats attempt (i + t₁.length) t₂ r ns₂) :
      Repeats attempt i (t₁ ++ t₂) r (ns₁ ++ ns₂)

section Repeats

open Pattern

variable {attempt : Cursor → Reply ρ}

/-- One round of a repetition. -/
theorem result_iterate_succ (n : Nat) (s : Cursor) :
    (iterate attempt (n + 1) s).result =
      match (attempt s).result with
      | none => some (s, [])
      | some (s', ns) =>
          if s'.index = s.index then some (s, [])
          else (iterate attempt n s').result.map fun m => (m.1, ns ++ m.2) := by
  simp only [iterate]
  cases h : (attempt s).result with
  | none => rfl
  | some m =>
      dsimp only
      split <;> rfl

/-- What is taken in sufficiently many rounds is what the repetition takes. -/
theorem repeats_of_iterate (ha : Advances attempt) :
    ∀ (n i : Nat) (cs : List Char) (s' : Cursor) (ns : List (Node ρ)), cs.length < n →
      (iterate attempt n ⟨i, cs⟩).result = some (s', ns) →
      ∃ t, cs = t ++ s'.rest ∧ s' = ⟨i + t.length, s'.rest⟩ ∧ Repeats attempt i t s'.rest ns := by
  intro n
  induction n with
  | zero =>
      intro i cs s' ns hn
      omega
  | succ n ih =>
      intro i cs s' ns hn h
      rw [result_iterate_succ] at h
      cases hr : (attempt ⟨i, cs⟩).result with
      | none =>
          rw [hr] at h
          cases h
          refine ⟨[], rfl, rfl, .stop fun t r' ns ht htakes => ?_⟩
          subst ht
          exact nomatch hr.symm.trans htakes
      | some m =>
          obtain ⟨s₁, ns₁⟩ := m
          obtain ⟨t₁, hcs, hs₁, htakes⟩ := ha.exists_takes hr
          rw [hr, hs₁] at h
          dsimp only at h
          split at h
          · -- the attempt took nothing
            rename_i hindex
            cases h
            refine ⟨[], rfl, rfl, .stop fun t r' ns ht htakes' => ?_⟩
            obtain ⟨rfl, -⟩ := htakes'.unique htakes (ht.symm.trans hcs)
            exact List.eq_nil_of_length_eq_zero (by omega)
          · rename_i hindex
            have ht₁ : t₁ ≠ [] := by
              rintro rfl
              simp at hindex
            have hlength : 0 < t₁.length := List.length_pos_iff.mpr ht₁
            obtain ⟨⟨s₂, ns₂⟩, hrest, heq⟩ := Option.map_eq_some_iff.mp h
            cases heq
            have hn₁ : s₁.rest.length < n := by
              have := congrArg List.length hcs
              rw [List.length_append] at this
              omega
            obtain ⟨t₂, hrest₂, hs₂, hmore⟩ := ih _ _ _ _ hn₁ hrest
            refine ⟨t₁ ++ t₂, ?_, ?_, .more ht₁ ?_ hmore⟩
            · rw [hcs, hrest₂, List.append_assoc]
            · rw [hs₂, List.length_append, Nat.add_assoc]
            · rw [← hrest₂]
              exact htakes

/-- What the repetition takes is taken in sufficiently many rounds. -/
theorem Repeats.iterate {i : Nat} {t r : List Char} {ns : List (Node ρ)} (ha : Advances attempt)
    (h : Repeats attempt i t r ns) : ∀ n, (t ++ r).length < n →
      (Pattern.iterate attempt n ⟨i, t ++ r⟩).result = some (⟨i + t.length, r⟩, ns) := by
  induction h with
  | @stop i r h =>
      intro n hn
      obtain ⟨n, rfl⟩ := Nat.exists_eq_succ_of_ne_zero (Nat.ne_zero_of_lt hn)
      rw [result_iterate_succ, List.nil_append]
      cases hr : (attempt ⟨i, r⟩).result with
      | none => rfl
      | some m =>
          obtain ⟨s₁, ns₁⟩ := m
          obtain ⟨t₁, hcs, hs₁, htakes⟩ := ha.exists_takes hr
          have ht₁ : t₁ = [] := h t₁ _ _ hcs htakes
          subst ht₁
          rw [hs₁]
          simp
  | @more i t₁ t₂ r ns₁ ns₂ ht h hrest ih =>
      intro n hn
      obtain ⟨n, rfl⟩ := Nat.exists_eq_succ_of_ne_zero (Nat.ne_zero_of_lt hn)
      have hlength : 0 < t₁.length := List.length_pos_iff.mpr ht
      have hn₂ : (t₂ ++ r).length < n := by
        simp only [List.length_append] at hn ⊢
        omega
      have hindex : ¬ i + t₁.length = i := by omega
      rw [result_iterate_succ, List.append_assoc, h]
      dsimp only
      rw [if_neg hindex, ih n hn₂, List.length_append, Nat.add_assoc]
      rfl

end Repeats

namespace Pattern

variable {p a b : Pattern ρ} {isSealed : Bool} {i : Nat} {t r cs : List Char} {ns : List (Node ρ)}

/-- Run behind `i` characters, the pattern takes the piece `t`, in front of the rest `r`, and its
rules leave the nodes `ns`. -/
def Matches (p : Pattern ρ) (isSealed : Bool) :
    Nat → List Char → List Char → List (Node ρ) → Prop :=
  Takes (p.run isSealed)

/-- Run behind `i` characters, the pattern fails in front of the given ones. -/
def Fails (p : Pattern ρ) (isSealed : Bool) (i : Nat) (cs : List Char) : Prop :=
  (p.run isSealed ⟨i, cs⟩).result = none

/-- What a pattern takes lies between two places of the text. -/
theorem advances (p : Pattern ρ) : ∀ isSealed, Advances (p.run isSealed) := by
  induction p with
  | word w =>
      intro isSealed s s' ns h
      rw [result_word] at h
      obtain ⟨hw, h⟩ := Option.ite_none_right_eq_some.mp h
      cases h
      exact ⟨w, between_advance hw⟩
  | char f =>
      intro isSealed s s' ns h
      rw [result_char] at h
      obtain ⟨c, hc, h⟩ := Option.map_eq_some_iff.mp h
      obtain ⟨cs, hcs⟩ := List.head?_eq_some_iff.mp (Option.filter_eq_some_iff.mp hc).1
      cases h
      exact ⟨[c], between_advance (w := [c]) ⟨cs, hcs.symm⟩⟩
  | seq a b iha ihb =>
      intro isSealed s s' ns h
      rw [result_seq] at h
      obtain ⟨⟨s₁, ns₁⟩, ha, h⟩ := Option.bind_eq_some_iff.mp h
      obtain ⟨⟨s₂, ns₂⟩, hb, heq⟩ := Option.map_eq_some_iff.mp h
      cases heq
      obtain ⟨t₁, h₁⟩ := iha isSealed s s₁ ns₁ ha
      obtain ⟨t₂, h₂⟩ := ihb isSealed s₁ s₂ ns₂ hb
      exact ⟨t₁ ++ t₂, h₁.trans h₂⟩
  | choice a b iha ihb =>
      intro isSealed s s' ns h
      rw [result_choice] at h
      rcases Option.or_eq_some_iff.mp h with ha | ⟨-, hb⟩
      · exact iha isSealed s s' ns ha
      · exact ihb isSealed s s' ns hb
  | optional a iha =>
      intro isSealed s s' ns h
      rw [result_optional] at h
      rcases Option.or_eq_some_iff.mp h with ha | ⟨-, h⟩
      · exact iha isSealed s s' ns ha
      · cases h
        exact ⟨[], .refl s⟩
  | many a iha =>
      intro isSealed s s' ns h
      obtain ⟨t, hrest, hs', -⟩ :=
        repeats_of_iterate (iha isSealed) _ _ _ _ _ (Nat.lt_succ_self _) h
      exact ⟨t, hrest, by rw [hs']⟩
  | atEnd name =>
      intro isSealed s s' ns h
      rw [result_atEnd] at h
      obtain ⟨-, h⟩ := Option.ite_none_right_eq_some.mp h
      cases h
      exact ⟨[], .refl s⟩
  | rule name seals a iha =>
      intro isSealed s s' ns h
      rw [result_rule] at h
      obtain ⟨⟨s₁, ns₁⟩, ha, heq⟩ := Option.map_eq_some_iff.mp h
      cases heq
      exact iha _ s s₁ ns₁ ha

/-- **A pattern takes a piece of the text, or fails.** -/
theorem matches_or_fails (p : Pattern ρ) (isSealed : Bool) (i : Nat) (cs : List Char) :
    (∃ t r ns, cs = t ++ r ∧ p.Matches isSealed i t r ns) ∨ p.Fails isSealed i cs := by
  cases h : (p.run isSealed ⟨i, cs⟩).result with
  | none => exact .inr h
  | some m =>
      obtain ⟨t, ht, -, hm⟩ := (p.advances isSealed).exists_takes h
      exact .inl ⟨t, _, _, ht, hm⟩

theorem Matches.not_fails (h : p.Matches isSealed i t r ns) : ¬ p.Fails isSealed i (t ++ r) :=
  fun hf => nomatch hf.symm.trans h

theorem fails_iff : p.Fails isSealed i cs ↔
    ∀ t r ns, cs = t ++ r → ¬ p.Matches isSealed i t r ns := by
  constructor
  · rintro hf t r ns rfl h
    exact h.not_fails hf
  · intro h
    rcases p.matches_or_fails isSealed i cs with ⟨t, r, ns, ht, hm⟩ | hf
    · exact absurd hm (h t r ns ht)
    · exact hf

/-! ### The laws -/

/-- A word takes itself. -/
theorem matches_word_iff {w : List Char} :
    (word w).Matches isSealed i t r ns ↔ t = w ∧ ns = [] := by
  have hword (r : List Char) : (word w : Pattern ρ).Matches isSealed i w r [] := by
    rw [Matches, Takes, result_word, if_pos (List.prefix_append w r), Cursor.advance,
      List.drop_left]
  constructor
  · intro h
    by_cases hw : w <+: t ++ r
    · obtain ⟨u, hu⟩ := hw
      obtain ⟨ht, -, hns⟩ := Takes.unique h (hword u) hu.symm
      exact ⟨ht, hns⟩
    · rw [Matches, Takes, result_word, if_neg hw] at h
      cases h
  · rintro ⟨rfl, rfl⟩
    exact hword r

/-- A class takes one of its characters. -/
theorem matches_char_iff {f : Char → Bool} :
    (char f).Matches isSealed i t r ns ↔ ∃ c, f c = true ∧ t = [c] ∧ ns = [] := by
  have hchar (c : Char) (r : List Char) (hc : f c = true) :
      (char f : Pattern ρ).Matches isSealed i [c] r [] := by
    rw [Matches, Takes, result_char]
    simp [hc, Cursor.advance]
  constructor
  · intro h
    cases hcs : t ++ r with
    | nil =>
        rw [Matches, Takes, hcs] at h
        cases h
    | cons c u =>
        by_cases hc : f c = true
        · obtain ⟨ht, -, hns⟩ := Takes.unique h (hchar c u hc) hcs
          exact ⟨c, hc, ht, hns⟩
        · rw [Matches, Takes, hcs, result_char] at h
          simp [hc] at h
  · rintro ⟨c, hc, rfl, rfl⟩
    exact hchar c r hc

/-- A sequence takes a piece for each part. -/
theorem matches_seq_iff : (seq a b).Matches isSealed i t r ns ↔
    ∃ t₁ t₂ ns₁ ns₂, t = t₁ ++ t₂ ∧ ns = ns₁ ++ ns₂ ∧
      a.Matches isSealed i t₁ (t₂ ++ r) ns₁ ∧ b.Matches isSealed (i + t₁.length) t₂ r ns₂ := by
  constructor
  · intro h
    rw [Matches, Takes, result_seq] at h
    obtain ⟨⟨s₁, ns₁⟩, ha, h⟩ := Option.bind_eq_some_iff.mp h
    obtain ⟨⟨s₂, ns₂⟩, hb, heq⟩ := Option.map_eq_some_iff.mp h
    obtain ⟨hs₂, hns⟩ := Prod.mk.inj heq
    obtain ⟨t₁, ht₁, hs₁, hma⟩ := (a.advances isSealed).exists_takes ha
    dsimp only at hs₂ hns hb
    rw [hs₁] at hb
    obtain ⟨t₂, ht₂, -, hmb⟩ := (b.advances isSealed).exists_takes hb
    rw [hs₂] at ht₂ hmb
    rw [ht₂] at ht₁ hma
    refine ⟨t₁, t₂, ns₁, ns₂, ?_, hns.symm, hma, hmb⟩
    exact List.append_cancel_right (ht₁.trans (List.append_assoc ..).symm)
  · rintro ⟨t₁, t₂, ns₁, ns₂, rfl, rfl, ha, hb⟩
    rw [Matches, Takes, result_seq, List.append_assoc, ha, Option.bind_some, hb]
    simp [Nat.add_assoc]

theorem Matches.seq {t₁ t₂ : List Char} {ns₁ ns₂ : List (Node ρ)}
    (ha : a.Matches isSealed i t₁ (t₂ ++ r) ns₁)
    (hb : b.Matches isSealed (i + t₁.length) t₂ r ns₂) :
    (seq a b).Matches isSealed i (t₁ ++ t₂) r (ns₁ ++ ns₂) :=
  matches_seq_iff.mpr ⟨t₁, t₂, ns₁, ns₂, rfl, rfl, ha, hb⟩

/-- A choice takes what its first alternative takes, or what the second takes where the first
fails. -/
theorem matches_choice_iff : (choice a b).Matches isSealed i t r ns ↔
    a.Matches isSealed i t r ns ∨
      a.Fails isSealed i (t ++ r) ∧ b.Matches isSealed i t r ns := by
  rw [Matches, Takes, result_choice]
  exact Option.or_eq_some_iff

/-- An option takes what its pattern takes, or nothing where the pattern fails. -/
theorem matches_optional_iff : (optional a).Matches isSealed i t r ns ↔
    a.Matches isSealed i t r ns ∨ a.Fails isSealed i r ∧ t = [] ∧ ns = [] := by
  rw [Matches, Takes, result_optional, Option.or_eq_some_iff]
  refine or_congr_right ⟨?_, ?_⟩
  · rintro ⟨hf, h⟩
    obtain ⟨⟨hindex, hrest⟩, hns⟩ : (i = i + t.length ∧ t ++ r = r) ∧ [] = ns := by simpa using h
    have ht : t = [] := List.eq_nil_of_length_eq_zero (by omega)
    subst ht hns
    exact ⟨hf, rfl, rfl⟩
  · rintro ⟨hf, rfl, rfl⟩
    exact ⟨hf, rfl⟩

/-- A repetition takes pieces for its pattern until there are no more. -/
theorem matches_many_iff :
    (many a).Matches isSealed i t r ns ↔ Repeats (a.run isSealed) i t r ns := by
  have ha := a.advances isSealed
  constructor
  · intro h
    obtain ⟨t', ht, hs, hr⟩ := repeats_of_iterate ha _ _ _ _ _ (Nat.lt_succ_self _) h
    obtain rfl : t = t' := List.append_cancel_right ht
    exact hr
  · intro h
    exact h.iterate ha _ (Nat.lt_succ_self _)

/-- The end of the text takes nothing, in front of nothing. -/
theorem matches_atEnd_iff {name : ρ} : (atEnd name).Matches isSealed i t r ns ↔
    t = [] ∧ r = [] ∧ ns = if isSealed then [] else [Node.mk name i [] []] := by
  rw [Matches, Takes, result_atEnd]
  constructor
  · intro h
    obtain ⟨hempty, h⟩ := Option.ite_none_right_eq_some.mp h
    obtain ⟨rfl, rfl⟩ := List.append_eq_nil_iff.mp hempty
    cases h
    exact ⟨rfl, rfl, rfl⟩
  · rintro ⟨rfl, rfl, rfl⟩
    rfl

/-- At the end of the text, a pattern is followed by the end and nothing else. -/
theorem Matches.seq_atEnd (name : ρ) (ha : a.Matches false i t [] ns) :
    (Pattern.seq a (atEnd name)).Matches false i t [] (ns ++ [Node.mk name (i + t.length) [] []]) :=
  matches_seq_iff.mpr ⟨t, [], ns, _, (List.append_nil t).symm, rfl, ha,
    matches_atEnd_iff.mpr ⟨rfl, rfl, rfl⟩⟩

/-- A rule takes what its body takes, as one node. -/
theorem matches_rule_iff {name : ρ} {seals : Bool} :
    (rule name seals a).Matches isSealed i t r ns ↔
      ∃ ms, a.Matches (isSealed || seals) i t r ms ∧
        ns = if isSealed then ms else [Node.mk name i t ms] := by
  rw [Matches, Takes, result_rule, Option.map_eq_some_iff]
  constructor
  · rintro ⟨⟨s', ms⟩, h, heq⟩
    obtain ⟨hs', hns⟩ := Prod.mk.inj heq
    dsimp only at hs' hns
    subst hs'
    refine ⟨ms, h, hns.symm.trans ?_⟩
    simp
  · rintro ⟨ms, h, rfl⟩
    refine ⟨_, h, ?_⟩
    simp

/-- What a choice of several alternatives takes, one of them takes. -/
theorem exists_of_matches_oneOf {ps : List (Pattern ρ)}
    (h : (oneOf p ps).Matches isSealed i t r ns) :
    ∃ q ∈ p :: ps, q.Matches isSealed i t r ns := by
  induction ps generalizing p with
  | nil => exact ⟨p, List.mem_cons_self, h⟩
  | cons q ps ih =>
      rcases matches_choice_iff.mp h with h | ⟨-, h⟩
      · exact ⟨p, List.mem_cons_self, h⟩
      · obtain ⟨q', hq', h⟩ := ih h
        exact ⟨q', List.mem_cons_of_mem p hq', h⟩

/-! ### Repetitions of one character -/

/-- A repetition of a class takes all characters up to the first one outside. -/
theorem matches_many_char_iff {f : Char → Bool} : (many (char f)).Matches isSealed i t r ns ↔
    ns = [] ∧ (∀ c ∈ t, f c = true) ∧ ∀ c ∈ r.head?, f c = false := by
  rw [matches_many_iff]
  constructor
  · intro h
    induction h with
    | @stop i r h =>
        refine ⟨rfl, nofun, fun c hc => ?_⟩
        obtain ⟨u, rfl⟩ : ∃ u, r = c :: u := by
          cases r with
          | nil => cases hc
          | cons d u =>
              cases hc
              exact ⟨u, rfl⟩
        cases hf : f c with
        | false => rfl
        | true =>
            have hm : (char f : Pattern ρ).Matches isSealed i [c] u [] :=
              matches_char_iff.mpr ⟨c, hf, rfl, rfl⟩
            exact nomatch h [c] u [] rfl hm
    | more ht h hrest ih =>
        obtain ⟨c, hc, rfl, rfl⟩ := matches_char_iff.mp h
        obtain ⟨rfl, hall, hstop⟩ := ih
        refine ⟨rfl, fun d hd => ?_, hstop⟩
        rcases List.mem_cons.mp hd with rfl | hd
        · exact hc
        · exact hall d hd
  · rintro ⟨rfl, hall, hstop⟩
    induction t generalizing i with
    | nil =>
        refine .stop fun t r' ns hr h => ?_
        obtain ⟨c, hc, rfl, rfl⟩ := matches_char_iff.mp h
        subst hr
        have := hstop c rfl
        rw [hc] at this
        cases this
    | cons c t ih =>
        have hm : (char f : Pattern ρ).Matches isSealed i [c] (t ++ r) [] :=
          matches_char_iff.mpr ⟨c, hall c List.mem_cons_self, rfl, rfl⟩
        exact .more (List.cons_ne_nil c []) hm (ih fun d hd => hall d (List.mem_cons_of_mem c hd))

/-! ### Whole texts -/

/-- A parse answers the nodes of what the pattern takes from the start on. -/
theorem parse_eq_ok_iff :
    p.parse cs = .ok ns ↔ ∃ t r, cs = t ++ r ∧ p.Matches false 0 t r ns := by
  unfold parse
  dsimp only
  constructor
  · intro h
    cases hr : (p.run false ⟨0, cs⟩).result with
    | none => simp [hr] at h
    | some m =>
        obtain ⟨t, ht, -, hm⟩ := (p.advances false).exists_takes hr
        simp only [hr, Except.ok.injEq] at h
        subst h
        exact ⟨t, _, ht, hm⟩
  · rintro ⟨t, r, rfl, h⟩
    rw [h]

end Pattern

/-! ### Rules and their trees -/

section Trees

open Pattern

variable {isSealed : Bool} {i : Nat} {t r : List Char} {ns : List (Node Rule)}

theorem matches_lit_iff {s : String} :
    (lit s).Matches isSealed i t r ns ↔ t = s.toList ∧ ns = [] :=
  matches_word_iff

/-- What the body of a rule takes is one node of the rule. -/
theorem Pattern.Matches.plain {name : Rule} {body : Pattern Rule} {ms : List (Node Rule)}
    (h : body.Matches false i t r ms) :
    (plain name body).Matches false i t r [Node.mk name i t ms] :=
  matches_rule_iff.mpr ⟨ms, h, rfl⟩

/-- The tree of a rule is what its body takes at the start of the text. -/
theorem read_eq_ok_iff {name : Rule} {body : Pattern Rule} {s : String} {n : Node Rule} :
    read (plain name body) s = .ok n ↔
      ∃ t r ms, s.toList = t ++ r ∧ body.Matches false 0 t r ms ∧ n = Node.mk name 0 t ms := by
  constructor
  · intro h
    unfold read at h
    split at h
    · rename_i n' ns' hp
      cases h
      obtain ⟨t, r, ht, hm⟩ := parse_eq_ok_iff.mp hp
      obtain ⟨ms, hbody, hns⟩ := matches_rule_iff.mp hm
      exact ⟨t, r, ms, ht, hbody, (List.cons.inj hns).1⟩
    · cases h
    · cases h
  · rintro ⟨t, r, ms, ht, hbody, rfl⟩
    have hp : (plain name body).parse s.toList = .ok [Node.mk name 0 t ms] :=
      parse_eq_ok_iff.mpr ⟨t, r, ht, hbody.plain⟩
    rw [read, hp]

/-- A text without a tree is malformed somewhere. -/
theorem read_cases (p : Pattern Rule) (s : String) :
    (∃ n, read p s = .ok n) ∨ ∃ place, read p s = .error (.malformed s place) := by
  unfold read
  split
  · exact .inl ⟨_, rfl⟩
  · exact .inr ⟨_, rfl⟩
  · exact .inr ⟨_, rfl⟩

end Trees

end DynamicLinking.Grammar
