/-
A cached candidate was linked for another call and in an earlier store.  Linking the present call
anew comes to the same if all that the choice looked at is covered by the guard and the switch
points of the candidate.  It is, kind by kind, with two exceptions: a missing static member is
guarded by the kind of the receiver alone, and so is a call of a method that does not exist.

Main definitions:

* `AnswersAlike` — two candidates, each run from a store of its own, make the same of a call;
* `LinkRequest.OverlooksMember`, `LinkRequest.OverlooksMethod` — **the two exceptions**;
* `LinkRequest.ChosenAlike` — what is chosen anew answers like the candidate.

Main results:

* `LinkRequest.chosenAlike` — **apart from the exceptions what is chosen anew answers alike**;
* `LinkRequest.eval_of_overlooksMember`, `LinkRequest.chosen_of_overlooksMethod` — what happens in
  the exceptions.
-/

import DynamicLinking.Proofs.Guards
import DynamicLinking.Proofs.Layout
import DynamicLinking.Proofs.Outcomes
import DynamicLinking.Proofs.Permitted

set_option autoImplicit false

namespace DynamicLinking

/-! ### Answering alike -/

/-- Run for one call, each candidate from a store of its own, the candidates make the same of it,
whatever the call site does with the result. -/
structure AnswersAlike (d : Descriptor) (args : List Value) (k : Candidate) (t : Store)
    (k' : Candidate) (t' : Store) : Prop where
  result : k'.result = k.result
  runs : ∀ run f?, d.resultFilter? k.result = some f? →
    Outcome.Alike ((k.invocation.eval (d.passes args) >>= finish f?) run t)
      ((k'.invocation.eval (d.passes args) >>= finish f?) run t')

/-- However the candidate is run for the arguments, it answers the value and changes nothing but the
identity that is given next. -/
def Answers (k : Candidate) (as : List Value) (t : Store) (v : Value) : Prop :=
  k.result = .object ∧ ∀ run, ∃ n, k.invocation.eval as run t = .ok v { t with nextId := n }

/-- Candidates that answer method references that differ in their identities. -/
theorem answersAlike_of_methodRef {d : Descriptor} {args : List Value} {k k' : Candidate}
    {t t' : Store} {i j : Nat} {c : HostClass} {m : String} {isStatic : Bool} (ht : t.Alike t')
    (h : Answers k (d.passes args) t (.object (.methodRef i c m isStatic)))
    (h' : Answers k' (d.passes args) t' (.object (.methodRef j c m isStatic))) :
    AnswersAlike d args k t k' t' where
  result := h'.1.trans h.1.symm
  runs := by
    intro run f? hf
    rw [h.1, d.resultFilter?_object] at hf
    cases hf
    obtain ⟨n, hn⟩ := h.2 run
    obtain ⟨n', hn'⟩ := h'.2 run
    rw [RunM.bind_of_ok hn, RunM.bind_of_ok hn']
    exact alike_finish_methodRef d (ht.withNextId n n')

/-! ### The exceptions -/

/-- The class has the static member that a call site asks for by its name: one that is read, or a
property that takes writes. -/
def HostClass.hasStatic (c : HostClass) (d : Descriptor) : Bool :=
  match d.operation with
  | .getProperty | .getElement | .getMethod =>
      d.name?.any fun n => (c.findStaticProperty? n).isSome || (c.findStaticMethod? n).isSome
  | .setProperty | .setElement =>
      ((d.name?.bind c.findStaticProperty?).bind HostProperty.setter?).isSome
  | .call | .new => false

namespace LinkRequest

/-- The candidate is one for a static member that is missing from another class, but the class that
is the receiver of the request has the member. -/
def OverlooksMember (r : LinkRequest) (k : Candidate) : Prop :=
  k.guard? = some (.type 0 .staticClass) ∧
    ∃ i c, r.receiver = .object (.staticClass i c) ∧ c.hasStatic r.descriptor = true

/-- The candidate is one for calls of all method references that a stable site linked for a method
that does not exist, but the request of the stable site is for a method that exists. -/
def OverlooksMethod (r : LinkRequest) (k : Candidate) (m : HostMethod) : Prop :=
  k.guard? = some (.type 0 .methodRef) ∧ r.descriptor.operation = .call ∧
    r.isUnstable = false ∧ r.receiver.referencedMethod? = some m

/-- What is chosen anew for the request answers like the candidate. -/
def ChosenAlike (r : LinkRequest) (k : Candidate) (t : Store) : Prop :=
  ∃ k' t', r.chosen .permitAll t = .ok k' t' ∧ AnswersAlike r.descriptor r.args k t k' t'

variable {r r₁ : LinkRequest} {k k₁ : Candidate} {s u t : Store}

/-- A candidate that runs the same invocation answers alike. -/
theorem chosenAlike_of_same (hk : r.chosen .permitAll t = .ok k t)
    (h : k.invocation = k₁.invocation) : r.ChosenAlike k₁ t := by
  refine ⟨k, t, hk, by rw [Candidate.result, h], fun run f? _ => ?_⟩
  rw [h]
  exact .refl _

/-- Code that depends on what is asked for alone has the same types for both requests. -/
theorem invocation_congr (hd : r.descriptor = r₁.descriptor) {t : StaticType} {c c₁ : Code}
    (hc : c = c₁) :
    (⟨r.genericSignature t, c⟩ : Invocation) = ⟨r₁.genericSignature t, c₁⟩ := by
  unfold genericSignature
  rw [hd, hc]

/-! ### Members that are methods -/

/-- A candidate for a method of a class as a value. -/
theorem answers_methodRef {sig : Signature} {v : Value} {g : Guard} (hsig : sig.result = .object)
    (as : List Value) (s : Store) : Answers (Candidate.guarded ⟨sig, .constant v⟩ g) as s v :=
  ⟨hsig, fun _ => ⟨s.nextId, rfl⟩⟩

/-- A candidate for a method of an instance: method references are no mirrors. -/
theorem answers_hidden_methodRef {sig : Signature} {i : Nat} {c : HostClass} {m : String}
    {isStatic : Bool} {p : PolicyRef} {g : Guard} (hsig : sig.result = .object) (as : List Value)
    (s : Store) :
    Answers (Candidate.guarded (Services.hideScripts { policy := p }
      ⟨sig, .constant (.object (.methodRef i c m isStatic))⟩) g) as s
      (.object (.methodRef i c m isStatic)) := by
  refine ⟨hsig, fun run => ?_⟩
  obtain ⟨as', n, hwrapped, -⟩ := wrapScripts_apply as run s
  refine ⟨n, ?_⟩
  rw [Candidate.guarded, eval_hideScripts, RunM.bind_of_ok hwrapped]
  rfl

/-! ### Absent properties -/

/-- Reading a property that is absent answers `undefined`, as a candidate for an absent property
does. -/
theorem eval_scriptGet_of_absent {d : Descriptor} {as : List Value} {o : Object} {n : String}
    (hn : d.name? = some n) (ho : (Value.argument as 0).script? = some o)
    (h : t.hasProperty o n = false) (run : Runner) :
    (Code.scriptGet d).eval as run t = .ok .undefined t := by
  have hkey : d.memberKey as run t = .ok n t := by
    unfold Descriptor.memberKey
    rw [hn]
    rfl
  rw [Code.eval, evalScriptGet, RunM.bind_of_ok hkey, ho]
  simp only [RunM.lift_apply, getProperty_apply, Store.getProperty_of_absent h]

/-- A property that was absent is still absent as long as the candidate for it is not revoked, and
the candidate for one that was present reads what is there. -/
theorem chosenAlike_scriptGet (hd : r.descriptor = r₁.descriptor) (hprecedes : s.Precedes t)
    {o o₁ : Object} (haccepts : t.accepts (r₁.linkScriptGet s o₁) r.args = true)
    (hr₁ : r₁.receiver = .object o₁) (hr : r.receiver = .object o) (ho : o.isScript = true)
    (hchosen : r.chosen .permitAll t = .ok (r.linkScriptGet t o) t) :
    r.ChosenAlike (r₁.linkScriptGet s o₁) t := by
  obtain ⟨hvalid, hadmits⟩ := Store.admits_of_accepts haccepts
  unfold linkScriptGet at hvalid hadmits hchosen ⊢
  rw [hd] at hchosen
  split at hvalid
  · -- the property was absent, and still is: no switch of its candidate was thrown
    rename_i habsent
    rw [if_pos habsent] at hadmits ⊢
    have hsame : r.receiver = .object o₁ := by
      have htest : (Guard.receiverIdentity r₁.receiver).test r.args = true := hadmits
      rw [hr₁] at htest
      exact Value.eq_of_equals_object htest
    rw [hr] at hsame
    cases hsame
    have habsent' : (r₁.descriptor.name?.any fun n => !t.hasProperty o n) = true := by
      rw [Option.any_eq_true] at habsent ⊢
      obtain ⟨n, hn, hfalse⟩ := habsent
      refine ⟨n, hn, ?_⟩
      rw [Store.hasProperty_eq_false_of_unthrown hprecedes hvalid (by simpa using hfalse)]
      rfl
    rw [if_pos habsent'] at hchosen
    exact chosenAlike_of_same hchosen (invocation_congr hd rfl)
  · rename_i hpresent
    rw [if_neg hpresent]
    split at hchosen
    · -- the property went absent: the candidate that looks for it finds nothing
      rename_i habsent
      rw [Option.any_eq_true] at habsent
      obtain ⟨n, hn, hfalse⟩ := habsent
      refine ⟨_, t, hchosen, rfl, fun run f? _ => ?_⟩
      have hscript : (Value.argument (r.descriptor.passes r.args) 0).script? = some o := by
        have hargument : Value.argument r.args 0 = .object o := hr
        simp [hargument, Value.script?, Value.object?, ho]
      have hread : (r₁.byType (.scriptGet r₁.descriptor)).invocation.eval
          (r.descriptor.passes r.args) run t = .ok .undefined t :=
        eval_scriptGet_of_absent hn hscript (by simpa using hfalse) run
      rw [RunM.bind_of_ok hread]
      exact .refl _
    · exact chosenAlike_of_same hchosen (invocation_congr hd rfl)

/-- A member that is missing from one class as a value is missing from every class that has no such
member. -/
theorem staticInvocation_of_missing {services : Services} {c c₁ : HostClass}
    (h : r.staticInvocation? services c₁ s = .ok none u)
    (hc : c.hasStatic r.descriptor = false) : r.staticInvocation? services c = pure none := by
  unfold HostClass.hasStatic at hc
  unfold staticInvocation? at h ⊢
  dsimp only at h ⊢
  cases hop : r.descriptor.operation with
  | call | new =>
      rw [hop] at h
      cases h
  | getProperty | getElement | getMethod =>
      rw [hop] at h hc
      cases hn : r.descriptor.name? with
      | none =>
          rw [hn] at h
          cases h
      | some n =>
          rw [hn] at hc
          simp only [Option.any_some, Bool.or_eq_false_iff, Option.isSome_eq_false_iff,
            Option.isNone_iff_eq_none] at hc
          unfold staticGet?
          simp [hc.1, hc.2]
  | setProperty | setElement =>
      rw [hop] at hc
      simp only [Option.isSome_eq_false_iff, Option.isNone_iff_eq_none] at hc
      simp [hc]

/-! ### Kinds of receivers -/

section

variable (hk : r₁.chosen .permitAll s = .ok k₁ u)

include hk

/-- What a search finds anew answers like what it found before. -/
theorem chosenAlike_lookup {m : StoreM (Option Invocation)} (hm : Lookup m)
    {f f₁ : Option Invocation → Candidate} (hchosen₁ : r₁.chosen .permitAll s = (f₁ <$> m) s)
    (hchosen : r.chosen .permitAll t = (f <$> m) t)
    (hf : ∀ i?, (f i?).invocation = (f₁ i?).invocation)
    (hmethod : ∀ sig i c n isStatic as u, sig.result = .object →
      Answers (f₁ (some ⟨sig, .constant (.object (.methodRef i c n isStatic))⟩)) as u
        (.object (.methodRef i c n isStatic))) :
    r.ChosenAlike k₁ t := by
  rw [hchosen₁] at hk
  cases hm with
  | found i? =>
      cases hk
      exact chosenAlike_of_same hchosen (hf i?)
  | @methodRef sig hsig c n isStatic =>
      cases hk
      refine ⟨_, { t with nextId := t.nextId + 1 }, hchosen, ?_⟩
      have hanswers := hmethod sig t.nextId c n isStatic (r.descriptor.passes r.args)
        { t with nextId := t.nextId + 1 } hsig
      refine answersAlike_of_methodRef (j := t.nextId) rfl
        (hmethod sig s.nextId c n isStatic _ t hsig) ?_
      unfold Answers Candidate.result at hanswers ⊢
      rw [hf]
      exact hanswers

variable (hd : r.descriptor = r₁.descriptor)

include hd

theorem chosenAlike_primitive {q q₁ : Primitive} (hr₁ : r₁.receiver = .primitive q₁)
    (hr : r.receiver = .primitive q) (hq : q.runtimeType = q₁.runtimeType) :
    r.ChosenAlike k₁ t := by
  rw [chosen_primitive hr₁] at hk
  cases hk
  refine chosenAlike_of_same (chosen_primitive hr) ?_
  have hmissing : r.missing.invocation = r₁.missing.invocation := by
    refine missing_invocation_congr hd ?_
    rw [hr, hr₁]
    cases q <;> cases q₁ <;> first | rfl | cases hq
  have hnullish : q.isNullish = q₁.isNullish := by
    cases q <;> cases q₁ <;> first | rfl | cases hq
  rw [hnullish]
  split
  · exact hmissing
  · have hlink : r.linkPrimitive?.map Candidate.invocation =
        r₁.linkPrimitive?.map Candidate.invocation := by
      unfold linkPrimitive? byType genericSignature
      rw [hr, hr₁, hd]
      cases r₁.descriptor.operation with
      | setProperty | setElement => dsimp only; split <;> rfl
      | call | new => rfl
      | _ => cases q <;> cases q₁ <;> first | rfl | cases hq
    cases hl : r.linkPrimitive? <;> cases hl₁ : r₁.linkPrimitive? <;>
      rw [hl, hl₁] at hlink <;> first | exact hmissing | cases hlink | exact Option.some.inj hlink

theorem chosenAlike_foreign {o o₁ : Object} {b : BridgeKind} (hr₁ : r₁.receiver = .object o₁)
    (ho₁ : o₁.bridge? = some b) (hr : r.receiver = .object o) (ho : o.bridge? = some b) :
    r.ChosenAlike k₁ t := by
  rw [chosen_foreign hr₁ ho₁] at hk
  cases hk
  refine chosenAlike_of_same (chosen_foreign hr ho) ?_
  unfold linkForeign
  rw [hd]
  exact invocation_congr hd rfl

theorem chosenAlike_bound {i i₁ : Nat} {f f₁ a a₁ : Value} {l l₁ : List Value}
    (hr₁ : r₁.receiver = .object (.bound i₁ f₁ a₁ l₁))
    (hr : r.receiver = .object (.bound i f a l)) : r.ChosenAlike k₁ t := by
  rw [chosen_bound hr₁] at hk
  cases hk
  refine chosenAlike_of_same (chosen_bound hr) ?_
  rw [hd]
  split
  · exact invocation_congr hd rfl
  · exact missing_invocation_congr hd (by rw [hr, hr₁]; rfl)

theorem chosenAlike_superAdapter {i i₁ : Nat} {a a₁ : Value}
    (hr₁ : r₁.receiver = .object (.superAdapter i₁ a₁))
    (hr : r.receiver = .object (.superAdapter i a)) : r.ChosenAlike k₁ t := by
  rw [chosen_superAdapter hr₁] at hk
  cases hk
  refine chosenAlike_of_same (chosen_superAdapter hr) ?_
  rw [hd]
  split
  · exact invocation_congr hd rfl
  · exact missing_invocation_congr hd (by rw [hr, hr₁]; rfl)

theorem chosenAlike_instance {o o₁ : Object} {c : HostClass} (hr₁ : r₁.receiver = .object o₁)
    (ho₁ : o₁.hostClass? = some c) (hr : r.receiver = .object o) (ho : o.hostClass? = some c)
    (hf : ∀ m, r.functionalCode m = r₁.functionalCode m) : r.ChosenAlike k₁ t := by
  have hchosen := chosen_host (s := t) hr ho
  rw [beanInvocation_congr hd hf] at hchosen
  refine chosenAlike_lookup hk (r₁.lookup_beanInvocation c) (chosen_host hr₁ ho₁) hchosen
    (fun i? => ?_) fun sig i c n isStatic as u hsig => answers_hidden_methodRef hsig as u
  cases i? with
  | none =>
      refine missing_invocation_congr hd ?_
      rw [hr, hr₁]
      rfl
  | some i => rfl

theorem chosenAlike_script (hprecedes : s.Precedes t) (haccepts : t.accepts k₁ r.args = true)
    {o o₁ : Object} (hr₁ : r₁.receiver = .object o₁)
    (ho₁ : o₁.isScript = true) (hr : r.receiver = .object o) (ho : o.isScript = true)
    (hfunction : o.isScriptFunction = o₁.isScriptFunction) : r.ChosenAlike k₁ t := by
  have hscript₁ : r₁.receiver.script? = some o₁ := by
    simp [hr₁, Value.script?, Value.object?, ho₁]
  have hscript : r.receiver.script? = some o := by
    simp [hr, Value.script?, Value.object?, ho]
  rw [chosen_script hr₁ ho₁] at hk
  cases hk
  have hchosen := chosen_script (p := .permitAll) (s := t) hr ho
  unfold linkScript? at hchosen haccepts ⊢
  rw [hscript₁] at haccepts ⊢
  rw [hscript, hd] at hchosen
  cases hop : r₁.descriptor.operation with
  | getProperty | getElement | getMethod =>
      simp only [hop, Option.getD_some] at hchosen haccepts ⊢
      exact chosenAlike_scriptGet hd hprecedes haccepts hr₁ hr ho hchosen
  | setProperty | setElement =>
      simp only [hop, Option.getD_some] at hchosen ⊢
      exact chosenAlike_of_same hchosen (invocation_congr hd rfl)
  | call | new =>
      simp only [hop, hfunction] at hchosen ⊢
      refine chosenAlike_of_same hchosen ?_
      split
      · exact invocation_congr hd rfl
      · exact missing_invocation_congr hd (by rw [hr, hr₁]; rfl)

theorem chosenAlike_methodRef (hu : r.isUnstable = r₁.isUnstable)
    (hadmits : k₁.admits r.args = true) {i i₁ : Nat} {c c₁ : HostClass} {m m₁ : String}
    {isStatic isStatic₁ : Bool} (hr₁ : r₁.receiver = .object (.methodRef i₁ c₁ m₁ isStatic₁))
    (hr : r.receiver = .object (.methodRef i c m isStatic))
    (hmethod : ∀ method, ¬ r.OverlooksMethod k₁ method) : r.ChosenAlike k₁ t := by
  rw [chosen_methodRef hr₁] at hk
  cases hk
  have hchosen := chosen_methodRef (s := t) hr
  rw [hd] at hchosen
  split at hmethod
  · rename_i hop
    rw [if_pos hop] at hadmits hchosen ⊢
    by_cases hbroad : r₁.isUnstable = true ∨ c₁.referencedMethod? m₁ isStatic₁ = none
    · -- the guard accepts all method references, so that the method may be another one
      rw [linkMethodRef_of_unstable hbroad] at hmethod ⊢
      have hagain : r.isUnstable = true ∨ c.referencedMethod? m isStatic = none := by
        by_contra hne
        simp only [not_or, Bool.not_eq_true] at hne
        obtain ⟨method, hm⟩ := Option.ne_none_iff_exists'.mp hne.2
        refine hmethod method ⟨?_, hd ▸ hop, hne.1, ?_⟩
        · rw [hr₁]
          rfl
        · rw [hr]
          exact hm
      rw [linkMethodRef_of_unstable hagain] at hchosen
      exact chosenAlike_of_same hchosen (invocation_congr hd (by rw [hd]))
    · -- the guard accepts the method reference that was linked and no other
      simp only [not_or, Bool.not_eq_true] at hbroad
      obtain ⟨method, hm⟩ := Option.ne_none_iff_exists'.mp hbroad.2
      rw [linkMethodRef_of_stable hbroad.1 hm] at hadmits ⊢
      have htest : (Guard.receiverIdentity r₁.receiver).test r.args = true := hadmits
      rw [hr₁] at htest
      have heq : r.receiver = _ := Value.eq_of_equals_object htest
      rw [hr] at heq
      cases heq
      rw [linkMethodRef_of_stable (hu.trans hbroad.1) hm] at hchosen
      exact chosenAlike_of_same hchosen (invocation_congr hd (by rw [hd]))
  · rename_i hop
    rw [if_neg hop] at hchosen ⊢
    exact chosenAlike_of_same hchosen (missing_invocation_congr hd (by rw [hr, hr₁]; rfl))

theorem chosenAlike_staticClass (hadmits : k₁.admits r.args = true) {i i₁ : Nat} {c c₁ : HostClass}
    (hr₁ : r₁.receiver = .object (.staticClass i₁ c₁))
    (hr : r.receiver = .object (.staticClass i c)) (hmember : ¬ r.OverlooksMember k₁) :
    r.ChosenAlike k₁ t := by
  have hchosen₁ := chosen_staticClass (s := s) hr₁
  have hchosen := chosen_staticClass (s := t) hr
  rw [staticInvocation_congr hd] at hchosen
  have hk' := hk
  rw [hchosen₁, map_eq_pure_bind] at hk'
  obtain ⟨i?, u', hi?, hpure⟩ := StoreM.bind_eq_ok hk'
  cases hpure
  cases i? with
  | some j =>
      -- the candidate is guarded by the class, so that the class is the same
      have htest : Guard.isStaticClass c₁ r.receiver = true := hadmits
      obtain ⟨i', hi'⟩ := Guard.eq_of_isStaticClass htest
      rw [hr] at hi'
      cases hi'
      refine chosenAlike_lookup hk (r₁.lookup_staticInvocation _ c) hchosen₁ hchosen
        (fun j? => ?_) fun sig n c' m isStatic as v hsig => answers_methodRef hsig as v
      cases j? with
      | none =>
          refine missing_invocation_congr hd ?_
          rw [hr, hr₁]
          rfl
      | some j => rfl
  | none =>
      -- the class may be another one, but it does not have the member either
      have hnone : c.hasStatic r₁.descriptor = false := by
        by_contra hne
        have hguard : Guard.receiverType r₁.receiver = .type 0 .staticClass := by
          rw [hr₁]
          rfl
        exact hmember ⟨congrArg some hguard, i, c, hr, by rw [hd]; simpa using hne⟩
      rw [staticInvocation_of_missing hi? hnone] at hchosen
      refine chosenAlike_of_same hchosen (missing_invocation_congr hd ?_)
      rw [hr, hr₁]
      rfl

end

/-- **What is chosen anew answers alike.**  A candidate that was chosen for a call of a site, in a
store that came before, and that now serves another call, answers that call like the candidate that
is chosen anew with the same stability, unless it overlooks a member or a method. -/
theorem chosenAlike (hd : r.descriptor = r₁.descriptor) (hu : r.isUnstable = r₁.isUnstable)
    (hk : r₁.chosen .permitAll s = .ok k₁ u) (hprecedes : s.Precedes t)
    (haccepts : t.accepts k₁ r.args = true) (hmember : ¬ r.OverlooksMember k₁)
    (hmethod : ∀ m, ¬ r.OverlooksMethod k₁ m) : r.ChosenAlike k₁ t := by
  have hadmits := (Store.admits_of_accepts haccepts).2
  have htype : r.receiver.runtimeType = r₁.receiver.runtimeType :=
    (r₁.fits_chosen .permitAll s k₁ u hk).runtimeType_eq hadmits
  cases hr₁ : r₁.receiver with
  | primitive q =>
      rw [hr₁] at htype
      obtain ⟨p, hr⟩ := Value.eq_of_runtimeType_primitive htype
      rw [hr] at htype
      exact chosenAlike_primitive hk hd hr₁ hr htype
  | object o =>
      rw [hr₁] at htype
      have hscript (ho : o.isScript = true) : r.ChosenAlike k₁ t := by
        obtain ⟨o', hr, ho', hfunction⟩ := Value.eq_of_runtimeType_script ho htype
        exact chosenAlike_script hk hd hprecedes haccepts hr₁ ho hr ho' hfunction
      have hforeign {b : BridgeKind} (ho : o.bridge? = some b) : r.ChosenAlike k₁ t := by
        obtain ⟨o', hr, ho'⟩ := Value.eq_of_runtimeType_foreign ho htype
        exact chosenAlike_foreign hk hd hr₁ ho hr ho'
      cases o with
      | ordinary i => exact hscript rfl
      | function i c => exact hscript rfl
      | boundFunction i t c a l => exact hscript rfl
      | foreign i f => exact hforeign rfl
      | mirror i t => exact hforeign rfl
      | bound i f a l =>
          obtain ⟨_, _, _, _, hr⟩ := Value.eq_of_runtimeType_bound htype
          exact chosenAlike_bound hk hd hr₁ hr
      | host i c =>
          obtain ⟨_, hr⟩ := Value.eq_of_runtimeType_host htype
          refine chosenAlike_instance hk hd hr₁ rfl hr rfl fun m => ?_
          unfold functionalCode
          rw [hr, hr₁, hd]
      | proxy i m v =>
          have hr := Value.eq_of_runtimeType_proxy htype
          refine chosenAlike_instance hk hd hr₁ rfl hr rfl fun m => ?_
          unfold functionalCode
          rw [hr, hr₁, hd]
      | methodRef i c m isStatic =>
          obtain ⟨_, _, _, _, hr⟩ := Value.eq_of_runtimeType_methodRef htype
          exact chosenAlike_methodRef hk hd hu hadmits hr₁ hr hmethod
      | staticClass i c =>
          obtain ⟨_, _, hr⟩ := Value.eq_of_runtimeType_staticClass htype
          exact chosenAlike_staticClass hk hd hadmits hr₁ hr hmember
      | superAdapter i a =>
          obtain ⟨_, _, hr⟩ := Value.eq_of_runtimeType_superAdapter htype
          exact chosenAlike_superAdapter hk hd hr₁ hr

/-! ### What happens in the exceptions -/

/-- A candidate for a missing member answers `undefined` for the member that it overlooks. -/
theorem eval_of_overlooksMember (hd : r.descriptor = r₁.descriptor)
    (hk : r₁.chosen .permitAll s = .ok k₁ u) (h : r.OverlooksMember k₁) (run : Runner)
    (t : Store) :
    k₁.result = .object ∧
      k₁.invocation.eval (r.descriptor.passes r.args) run t = .ok .undefined t := by
  obtain ⟨hguard, i, c, hr, hmember⟩ := h
  have htype := (r₁.fits_chosen .permitAll s k₁ u hk).runtimeType_of_guard hguard
  obtain ⟨i₁, c₁, hr₁⟩ := Value.eq_of_runtimeType_staticClass htype
  rw [chosen_staticClass hr₁, map_eq_pure_bind] at hk
  obtain ⟨i?, u', -, hpure⟩ := StoreM.bind_eq_ok hk
  cases hpure
  cases i? with
  | some j => cases hguard
  | none =>
      refine ⟨rfl, ?_⟩
      have hnullish : r₁.receiver.isNullish = false := by
        rw [hr₁]
        rfl
      have hscript : (Value.argument (r.descriptor.passes r.args) 0).script? = none := by
        have hargument : Value.argument r.args 0 = .object (.staticClass i c) := hr
        rw [Descriptor.argument_passes, hargument]
        rfl
      rcases eval_missing hnullish hscript run t with hok | ⟨hop, -⟩
      · exact hok
      · unfold HostClass.hasStatic at hmember
        rw [hd] at hmember
        rcases hop with hop | hop <;>
        · rw [hop] at hmember
          cases hmember

/-- What is chosen for a method that is overlooked declares the type of the method. -/
theorem chosen_of_overlooksMethod (hd : r.descriptor = r₁.descriptor)
    (hu : r.isUnstable = r₁.isUnstable) (hk : r₁.chosen .permitAll s = .ok k₁ u) {m : HostMethod}
    (h : r.OverlooksMethod k₁ m) (t : Store) :
    k₁.invocation = ⟨r.descriptor.genericSignature .object, r.descriptor.methodCode⟩ ∧
      ∃ k, r.chosen .permitAll t = .ok k t ∧
        k.invocation =
          ⟨r.descriptor.genericSignature m.signature.result, r.descriptor.methodCode⟩ := by
  obtain ⟨hguard, hop, hstable, hm⟩ := h
  have htype := (r₁.fits_chosen .permitAll s k₁ u hk).runtimeType_of_guard hguard
  obtain ⟨i₁, c₁, m₁, isStatic₁, hr₁⟩ := Value.eq_of_runtimeType_methodRef htype
  rw [chosen_methodRef hr₁, if_pos (hd ▸ hop)] at hk
  cases hk
  constructor
  · cases hm₁ : c₁.referencedMethod? m₁ isStatic₁ with
    | none =>
        rw [linkMethodRef_of_unstable (.inr hm₁), hd]
        rfl
    | some method =>
        rw [linkMethodRef_of_stable (hu ▸ hstable) hm₁] at hguard
        cases hguard
  · obtain ⟨i, c, n, isStatic, hr, hc⟩ := Value.eq_of_referencedMethod? hm
    refine ⟨_, (chosen_methodRef hr).trans (by rw [if_pos hop]), ?_⟩
    rw [linkMethodRef_of_stable hstable hc]
    rfl

end LinkRequest

end DynamicLinking
