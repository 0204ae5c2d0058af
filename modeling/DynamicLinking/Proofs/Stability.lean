/-
A call site that was linked often is linked as an unstable one: its candidates get broader guards.
The broader guard of a call of a method reference admits other methods, so that its candidate
declares no type for the result, and the result reaches the type of the call site on another way.

Main definitions:

* `LinkedAlike` — **two links that agree**: both fail in the same way, or both have a candidate,
  and these run alike;
* `SameChoice` — a stable and an unstable site choose candidates that run the same invocation.

Main results:

* `chosen_flag` — whether the site is stable makes a difference to the guard, and otherwise only
  to calls of method references;
* `linkedAlike_iff_indifferent` — where they differ, they agree if the declared type makes no
  difference;
* `stability_iff` — **stable and unstable links agree exactly as far as the declared results of
  methods are honoured**.
-/

import DynamicLinking.Proofs.DeclaredResults
import DynamicLinking.Proofs.Members

set_option autoImplicit false

namespace DynamicLinking

/-! ### What the flag decides -/

section

variable {d : Descriptor} {args : List Value} {s : Store}

/-- What is chosen to run does not depend on whether the call site is stable. -/
def SameChoice (d : Descriptor) (args : List Value) (s : Store) : Prop :=
  ∃ k k' t, LinkRequest.chosen ⟨d, args, false⟩ .permitAll s = .ok k t ∧
    LinkRequest.chosen ⟨d, args, true⟩ .permitAll s = .ok k' t ∧ k'.invocation = k.invocation

theorem sameChoice_of_eq {k : Candidate} {t : Store}
    (h : LinkRequest.chosen ⟨d, args, false⟩ .permitAll s = .ok k t)
    (h' : LinkRequest.chosen ⟨d, args, true⟩ .permitAll s = .ok k t) : SameChoice d args s :=
  ⟨k, k, t, h, h', rfl⟩

theorem Lookup.exists_ok {m : StoreM (Option Invocation)} (h : Lookup m) (s : Store) :
    ∃ i? t, m s = .ok i? t := by
  cases h with
  | found i? => exact ⟨i?, s, rfl⟩
  | methodRef _ c n isStatic => exact ⟨_, _, rfl⟩

theorem sameChoice_of_map {α : Type} {m : StoreM α} {f : α → Candidate} {a : α} {t : Store}
    (hm : m s = .ok a t)
    (h : LinkRequest.chosen ⟨d, args, false⟩ .permitAll s = (f <$> m) s)
    (h' : LinkRequest.chosen ⟨d, args, true⟩ .permitAll s = (f <$> m) s) : SameChoice d args s := by
  have hmap : (f <$> m) s = .ok (f a) t := by
    rw [map_eq_pure_bind, StoreM.bind_of_ok hm]
    rfl
  exact sameChoice_of_eq (h.trans hmap) (h'.trans hmap)

theorem sameChoice_host {o : Object} {c : HostClass} (hr : Value.argument args 0 = .object o)
    (ho : o.hostClass? = some c) : SameChoice d args s := by
  obtain ⟨i?, t, ht⟩ :=
    (LinkRequest.lookup_beanInvocation ⟨d, args, false⟩ c).exists_ok s
  exact sameChoice_of_map ht (LinkRequest.chosen_host hr ho) (LinkRequest.chosen_host hr ho)

theorem sameChoice_script {o : Object} (hr : Value.argument args 0 = .object o)
    (ho : o.isScript = true) : SameChoice d args s := by
  refine ⟨_, _, s, LinkRequest.chosen_script hr ho, LinkRequest.chosen_script hr ho, ?_⟩
  have hscript : (Value.argument args 0).script? = some o := by
    simp [hr, Value.script?, Value.object?, ho]
  unfold LinkRequest.linkScript? LinkRequest.receiver
  dsimp only
  rw [hscript]
  cases hop : d.operation with
  | call | new => dsimp only; split <;> rfl
  | _ => rfl

/-- **What the flag decides**: besides the guard only the type that the candidate for a call of a
method that exists declares. -/
theorem chosen_flag (d : Descriptor) (args : List Value) (s : Store) :
    SameChoice d args s ∧
        (d.operation = .call → (Value.argument args 0).referencedMethod? = none) ∨
      d.operation = .call ∧ ∃ m k k', (Value.argument args 0).referencedMethod? = some m ∧
        LinkRequest.chosen ⟨d, args, false⟩ .permitAll s = .ok k s ∧
        k.invocation = ⟨d.genericSignature m.signature.result, d.methodCode⟩ ∧
        LinkRequest.chosen ⟨d, args, true⟩ .permitAll s = .ok k' s ∧
        k'.invocation = ⟨d.genericSignature .object, d.methodCode⟩ := by
  cases hr : Value.argument args 0 with
  | primitive q =>
      exact .inl ⟨sameChoice_of_eq (LinkRequest.chosen_primitive hr)
        (LinkRequest.chosen_primitive hr), fun _ => rfl⟩
  | object o =>
      cases o with
      | ordinary i => exact .inl ⟨sameChoice_script hr rfl, fun _ => rfl⟩
      | function i c => exact .inl ⟨sameChoice_script hr rfl, fun _ => rfl⟩
      | boundFunction i t c a l => exact .inl ⟨sameChoice_script hr rfl, fun _ => rfl⟩
      | bound i f a l =>
          refine .inl ⟨⟨_, _, s, LinkRequest.chosen_bound hr, LinkRequest.chosen_bound hr, ?_⟩,
            fun _ => rfl⟩
          dsimp only
          split <;> rfl
      | foreign i f =>
          exact .inl ⟨sameChoice_of_eq (LinkRequest.chosen_foreign hr rfl)
            (LinkRequest.chosen_foreign hr rfl), fun _ => rfl⟩
      | mirror i t =>
          exact .inl ⟨sameChoice_of_eq (LinkRequest.chosen_foreign hr rfl)
            (LinkRequest.chosen_foreign hr rfl), fun _ => rfl⟩
      | host i c => exact .inl ⟨sameChoice_host hr rfl, fun _ => rfl⟩
      | proxy i m t => exact .inl ⟨sameChoice_host hr rfl, fun _ => rfl⟩
      | staticClass i c =>
          obtain ⟨i?, t, ht⟩ := (LinkRequest.lookup_staticInvocation ⟨d, args, false⟩
            { policy := .permitAll } c).exists_ok s
          exact .inl ⟨sameChoice_of_map ht (LinkRequest.chosen_staticClass hr)
            (LinkRequest.chosen_staticClass hr), fun _ => rfl⟩
      | superAdapter i a =>
          exact .inl ⟨sameChoice_of_eq (LinkRequest.chosen_superAdapter hr)
            (LinkRequest.chosen_superAdapter hr), fun _ => rfl⟩
      | methodRef i c m isStatic =>
          -- calls of method references are the only ones for which the flag is asked
          have h := LinkRequest.chosen_methodRef (r := ⟨d, args, false⟩) (s := s) hr
          have h' := LinkRequest.chosen_methodRef (r := ⟨d, args, true⟩) (s := s) hr
          by_cases hop : d.operation = .call
          · rw [if_pos hop] at h h'
            cases hm : c.referencedMethod? m isStatic with
            | none =>
                refine .inl ⟨⟨_, _, s, h, h', ?_⟩, fun _ => hm⟩
                rw [LinkRequest.linkMethodRef_of_unstable (.inr hm),
                  LinkRequest.linkMethodRef_of_unstable (.inr hm)]
                rfl
            | some method =>
                rw [LinkRequest.linkMethodRef_of_stable rfl hm] at h
                rw [LinkRequest.linkMethodRef_of_unstable (.inl rfl)] at h'
                exact .inr ⟨hop, method, _, _, hm, h, rfl, h', rfl⟩
          · rw [if_neg hop] at h h'
            exact .inl ⟨sameChoice_of_eq h h', fun hcall => absurd hcall hop⟩

end

/-! ### Links that agree -/

/-- Two links that agree, when the candidates run on given arguments: both have a candidate and the
runs are alike, both decline, or both fail in the same way. -/
inductive LinkedAlike (args : List Value) (run : Runner) :
    EStateM.Result Fault Store (Option Candidate) →
    EStateM.Result Fault Store (Option Candidate) → Prop where
  | candidates {k k' : Candidate} {t t' : Store}
      (h : Outcome.Alike (k.invocation.eval args run t) (k'.invocation.eval args run t')) :
      LinkedAlike args run (.ok (some k) t) (.ok (some k') t')
  | declined {t t' : Store} (h : t.Alike t') : LinkedAlike args run (.ok none t) (.ok none t')
  | failed (f : Fault) {t t' : Store} (h : t.Alike t') :
      LinkedAlike args run (.error f t) (.error f t')

section

variable {d : Descriptor} {args : List Value} {run : Runner} {s t u : Store} {k k' : Candidate}

/-- Whether a candidate has the types of a call site depends on its invocation alone. -/
theorem adapt_error_congr (h : k'.invocation = k.invocation) {f : Fault}
    (hf : LinkerChain.adapt (k.requireOptimism d) d.signature s = .error f t) :
    LinkerChain.adapt (k'.requireOptimism d) d.signature s = .error f t := by
  have hreq : (k'.requireOptimism d).invocation = (k.requireOptimism d).invocation := by
    unfold Candidate.requireOptimism
    dsimp only
    split
    · simp only [Candidate.mapInvocation, h]
    · exact h
  unfold LinkerChain.adapt Candidate.adaptTo at hf ⊢
  rw [hreq]
  cases ha : (k.requireOptimism d).invocation.asType d.signature with
  | ok i =>
      rw [ha] at hf
      cases hf
  | error m =>
      rw [ha] at hf
      exact hf

variable {c c' : LinkerChain} {p : PolicyRef} {r r' : LinkRequest}

/-- Candidates that run the same invocation are linked alike. -/
theorem linkedAlike_of_same (hc : c.IsDefault p) (hc' : c'.IsDefault p)
    (hd : r'.descriptor = r.descriptor) (hk : r.chosen p s = .ok k t)
    (hk' : r'.chosen p s = .ok k' t) (h : k'.invocation = k.invocation) :
    LinkedAlike args run (c.link r s) (c'.link r' s) := by
  cases hf : r.descriptor.resultFilter? k.result with
  | some f? =>
      have hf' : r'.descriptor.resultFilter? k'.result = some f? := by
        rw [hd, Candidate.result, h]
        exact hf
      obtain ⟨l, hl, hadapts⟩ := hc.link_of_ok hk hf
      obtain ⟨l', hl', hadapts'⟩ := hc'.link_of_ok hk' hf'
      rw [hl, hl']
      refine .candidates ?_
      rw [hadapts.eval, hadapts'.eval, hd, h]
      exact .refl _
  | none =>
      -- neither candidate has the types of the call site, which is the same failure for both
      have hmismatch := (r.fits_chosen p s k t hk).generic.adapt_eq
      rw [hf] at hmismatch
      obtain ⟨m, hm⟩ := hmismatch
      have hadapt : LinkerChain.adapt (k.requireOptimism r.descriptor) r.descriptor.signature t =
          .error (.broken m) t := by
        rw [hm]
        rfl
      have hlink : c.link r s = .error (.broken m) t := by
        rw [hc.link_eq, StoreM.bind_of_ok hk, map_eq_pure_bind]
        exact StoreM.bind_of_error hadapt _
      have hlink' : c'.link r' s = .error (.broken m) t := by
        rw [hc'.link_eq, StoreM.bind_of_ok hk', hd, map_eq_pure_bind]
        exact StoreM.bind_of_error (adapt_error_congr h hadapt) _
      rw [hlink, hlink']
      exact .failed _ (.refl _)

end

/-! ### The law -/

/-- A link that declares a result and one that does not agree exactly if the declared type makes no
difference. -/
theorem linkedAlike_iff_indifferent {c c' : LinkerChain} {p : PolicyRef} {r r' : LinkRequest}
    {args : List Value} {run : Runner} {s t : Store} {k k' : Candidate} {declared : StaticType}
    {code : Code} (hc : c.IsDefault p) (hc' : c'.IsDefault p) (hd : r'.descriptor = r.descriptor)
    (hk : r.chosen p s = .ok k t)
    (h : k.invocation = ⟨r.descriptor.genericSignature declared, code⟩)
    (hk' : r'.chosen p s = .ok k' t)
    (h' : k'.invocation = ⟨r.descriptor.genericSignature .object, code⟩) :
    LinkedAlike args run (c.link r s) (c'.link r' s) ↔
      r.descriptor.Indifferent declared (code.eval (r.descriptor.passes args) run t) := by
  -- the undeclared link always has a candidate: results of type `object` convert to all types
  have hany : r'.descriptor.resultFilter? k'.result = some r'.descriptor.anyFilter? := by
    rw [Candidate.result, h']
    exact r'.descriptor.resultFilter?_object
  obtain ⟨l', hl', hadapts'⟩ := hc'.link_of_ok hk' hany
  rw [hd] at hadapts'
  rw [hl', ← alike_declared_iff hc rfl hk h hadapts' (by rw [h']) args run]
  constructor
  · intro hlinked
    cases hx : c.link r s with
    | error f u =>
        rw [hx] at hlinked
        cases hlinked
    | ok l? u =>
        rw [hx] at hlinked
        obtain ⟨k₀, l, f?, rfl, hk₀, -, -⟩ := hc.link_inv hx
        rw [hk] at hk₀
        cases hk₀
        cases hlinked with
        | candidates halike => exact ⟨l, rfl, halike⟩
  · rintro ⟨l, hl, halike⟩
    rw [hl]
    exact .candidates halike

/-- **When stability does not change meaning.**  In environments that grant everything and
contribute no linkers, whatever their thresholds are, requests are linked in one way.  Linking a
request as one of a stable and as one of an unstable call site agrees, up to new identities, exactly
if it is no call of a method whose declared type makes a difference to its results. -/
theorem stability_iff {e e' : Environment} (hpolicy : e.policy = .permitAll)
    (hpolicy' : e'.policy = .permitAll) (hcontributed : e.contributed = [])
    (hcontributed' : e'.contributed = []) (d : Descriptor) (args : List Value) (s : Store)
    (run : Runner) :
    (∀ isUnstable, e.chain.link ⟨d, args, isUnstable⟩ = e'.chain.link ⟨d, args, isUnstable⟩) ∧
      (LinkedAlike args run (e.chain.link ⟨d, args, false⟩ s) (e'.chain.link ⟨d, args, true⟩ s) ↔
        (d.operation = .call → ∀ m, (Value.argument args 0).referencedMethod? = some m →
          d.Indifferent m.signature.result (d.methodCode.eval (d.passes args) run s))) := by
  have hc : e.chain.IsDefault .permitAll := by
    rw [← hpolicy]
    exact e.chain_isDefault hcontributed
  have hc' : e'.chain.IsDefault .permitAll := by
    rw [← hpolicy']
    exact e'.chain_isDefault hcontributed'
  refine ⟨fun isUnstable => by rw [hc.link_eq, hc'.link_eq], ?_⟩
  rcases chosen_flag d args s with ⟨hsame, hnone⟩ | ⟨hop, m, k, k', hm, hk, h, hk', h'⟩
  · obtain ⟨k, k', t, hk, hk', h⟩ := hsame
    refine ⟨fun _ hop m hm => ?_, fun _ => linkedAlike_of_same hc hc' rfl hk hk' h⟩
    rw [hnone hop] at hm
    cases hm
  · rw [linkedAlike_iff_indifferent hc hc' (by rfl) hk h hk' h']
    constructor
    · intro hi _ m' hm'
      rw [hm] at hm'
      cases hm'
      exact hi
    · intro hi
      exact hi hop m hm

/-! ### A result that a double does not hold -/

namespace LongResult

/-- A class with a static method that declares the type `Long`. -/
def ruler : HostClass :=
  .ofMembers 1 "Ruler" [.staticMethod "size" ⟨[], .boxedLong⟩ []] .ordinary

/-- The method. -/
def size : Value := .object (.methodRef 2 ruler "size" true)

/-- A call that wants a double. -/
def call : Descriptor := ⟨.call, none, ⟨[.object, .object], .double⟩, ⟨0⟩⟩

/-- User code that answers a number. -/
def answering (i : Int64) : Runner :=
  fun _ _ _ => pure (.number (.integer i))

/-- The odd number next to the largest power of two below which doubles hold every integer. -/
def long : Int64 := 9007199254740993

theorem normalize_eight :
    Number.normalize (Number.toBinary64 (.integer 8)) = .integer 8 := by
  decide +kernel

theorem normalize_long :
    Number.normalize (Number.toBinary64 (.integer long)) = .integer 9007199254740992 := by
  decide +kernel

/-- A small result is the same for stable and unstable sites. -/
theorem eight_stable :
    LinkedAlike [size, .undefined] (answering 8)
      (Environment.chain {} |>.link ⟨call, [size, .undefined], false⟩ {})
      (Environment.chain { config := { threshold := 0 } } |>.link
        ⟨call, [size, .undefined], true⟩ {}) := by
  refine (stability_iff rfl rfl rfl rfl call [size, .undefined] {} (answering 8)).2.mpr ?_
  rintro - m hm
  cases hm
  refine .inr ⟨rfl, fun v t hv => ?_⟩
  cases hv
  exact ⟨rfl, fun _ => congrArg Value.number normalize_eight⟩

/-- A long result is rounded at a stable site and kept at an unstable one: stability changes
meaning. -/
theorem long_unstable :
    ¬ ∀ (e e' : Environment) (d : Descriptor) (args : List Value) (s : Store) (run : Runner),
      e.policy = .permitAll → e'.policy = .permitAll → e.contributed = [] → e'.contributed = [] →
      LinkedAlike args run (e.chain.link ⟨d, args, false⟩ s)
        (e'.chain.link ⟨d, args, true⟩ s) := by
  intro h
  have hlinked := h {} {} call [size, .undefined] {} (answering long) rfl rfl rfl rfl
  have hstable : ∃ k t, (Environment.chain {}).link ⟨call, [size, .undefined], false⟩ {} =
      .ok (some k) t ∧ k.invocation.eval [size, .undefined] (answering long) t =
        .ok (.number (Number.normalize (Number.toBinary64 (.integer long)))) t :=
    ⟨_, _, rfl, rfl⟩
  have hunstable : ∃ k t, (Environment.chain {}).link ⟨call, [size, .undefined], true⟩ {} =
      .ok (some k) t ∧ k.invocation.eval [size, .undefined] (answering long) t =
        .ok (.number (.integer long)) t :=
    ⟨_, _, rfl, rfl⟩
  obtain ⟨k, t, hk, hrun⟩ := hstable
  obtain ⟨k', t', hk', hrun'⟩ := hunstable
  rw [hk, hk'] at hlinked
  cases hlinked with
  | candidates halike =>
      rw [hrun, hrun', normalize_long] at halike
      cases halike with
      | ok hv _ => exact absurd hv.eq_of_primitive (by decide)

end LongResult

end DynamicLinking
