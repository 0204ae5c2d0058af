/-
A call site promises results of the type of its signature.  Every candidate declares a type for its
own results, and either they are converted, or it is taken for granted that they are of the declared
type: where the types are the same they pass as they are, and a boxed result is cast to a primitive
type without being looked at.  So the promise is kept as far as candidates keep theirs.  Host
members do if their bodies do; the members that are not written by hand but made for a field or for
a static property answer what is kept there, whatever the declared type is.

Main definitions:

* `Descriptor.unchecked?` — a result as it passes without being looked at;
* `HostMethod.Honours`, `Value.Offers` — a method answers values of its declared type; the methods
  that a receiver offers;
* `Descriptor.Reads` — a property that a call site reads answers what is kept for it;
* `CallSite.ShowsIllTyped` — **something else than a value of the promised type is kept there**.

Main results:

* `admits_finish_iff` — which results come out with the type of the call site;
* `answer_cases` — what candidates answer has the declared type, or is what is kept for a property;
* `promised_iff` — **when a call site keeps its promise**.
-/

import DynamicLinking.Proofs.AdaptedInvocations
import DynamicLinking.Proofs.HostCalls

set_option autoImplicit false

namespace DynamicLinking

/-! ### Filters -/

/-- A result of a declared type as it passes to the call site where it is not looked at: nothing is
done to it, or it is cast. -/
def Descriptor.unchecked? (d : Descriptor) (declared : StaticType) (v : Value) : Option Value :=
  match d.resultFilter? declared with
  | some none => some v
  | some (some (.narrow t)) => some (narrowed t v)
  | _ => none

/-- What is done to results: nothing if they have the type of the call site already, a cast if they
are boxed, a conversion, or a test; or the result is dropped where any value is wanted. -/
theorem Descriptor.resultFilter?_cases {d : Descriptor} {declared : StaticType}
    {f? : Option ResultFilter} (hf : d.resultFilter? declared = some f?) :
    (f? = none ∧ declared = d.signature.result) ∨
      (f? = some (.narrow d.signature.result) ∧ d.signature.result.isPrimitive = true ∧
        ∃ p, declared.unboxed? = some p ∧ p.widensTo d.signature.result = true) ∨
      f? = some (.convert d.signature.result) ∨
      (f? = some .drop ∧ d.signature.result = .object) ∨
      ∃ n, f? = some (.requireFit d.signature.result n) := by
  unfold resultFilter? at hf
  dsimp only at hf
  split at hf
  · cases hf
    simp
  · rcases StaticType.filterTo?_cases hf with h | h | h | h
    · exact .inl h
    · exact .inr (.inl h)
    · exact .inr (.inr (.inl h))
    · exact .inr (.inr (.inr (.inl h)))

/-- A number that fits a type is of the type. -/
theorem admits_of_fits {t : StaticType} {v : Value} (h : fits t v = true) :
    t.admits v = true := by
  unfold fits at h
  split at h
  · exact h
  · rfl
  · rfl
  · cases h

/-- **Which results come out with the type of the call site**: those that are looked at, and those
that have the type when they pass without. -/
theorem admits_finish_iff {d : Descriptor} {declared : StaticType} {f? : Option ResultFilter}
    (hf : d.resultFilter? declared = some f?) {w v : Value} {run : Runner} {s t : Store}
    (h : finish f? w run s = .ok v t) :
    d.signature.result.admits v = true ↔
      ∀ u, d.unchecked? declared w = some u → d.signature.result.admits u = true := by
  unfold Descriptor.unchecked?
  rw [hf]
  rcases Descriptor.resultFilter?_cases hf with
    ⟨rfl, -⟩ | ⟨rfl, -⟩ | rfl | ⟨rfl, hobject⟩ | ⟨n, rfl⟩
  · cases h
    simp
  · cases h
    simp
  · simp [admits_of_convertValue h]
  · simp [hobject, StaticType.admits]
  · have hfits : d.signature.result.admits v = true := by
      cases hw : fits d.signature.result w with
      | false =>
          rw [finish_some, requireFit_of_unfit hw] at h
          cases h
      | true =>
          have h : (if fits d.signature.result w then pure w else fail (.unwarranted w.text n) :
            RunM Value) run s = .ok v t := h
          rw [if_pos hw] at h
          cases h
          exact admits_of_fits hw
    simp [hfits]

/-- A value of the declared type that passes without being looked at has the type of the call
site. -/
theorem admits_unchecked {d : Descriptor} {declared : StaticType} {w u : Value}
    (hw : declared.admits w = true) (hu : d.unchecked? declared w = some u) :
    d.signature.result.admits u = true := by
  unfold Descriptor.unchecked? at hu
  cases hf : d.resultFilter? declared with
  | none =>
      rw [hf] at hu
      cases hu
  | some f? =>
      rw [hf] at hu
      rcases Descriptor.resultFilter?_cases hf with
        ⟨rfl, rfl⟩ | ⟨rfl, hprimitive, p, hp, hwidens⟩ | rfl | ⟨rfl, -⟩ | ⟨n, rfl⟩
      · cases hu
        exact hw
      · cases hu
        exact admits_narrowed hp hprimitive hwidens hw
      all_goals cases hu

/-- What comes back for a value of a type is a value of the type. -/
theorem admits_importValue {t : StaticType} {v : Value} (hv : t.admits v = true) :
    t.admits (importValue v) = true := by
  cases v with
  | primitive q => exact hv
  | object o =>
      cases o with
      | mirror i o => cases t <;> first | rfl | cases hv
      | _ => exact hv

/-! ### What members answer -/

/-- Whatever the method answers is of its declared type. -/
def HostMethod.Honours (run : Runner) (m : HostMethod) : Prop :=
  ∀ self args s v t, run (.host m) self args s = .ok v t → m.signature.result.admits v = true

/-- The methods that a receiver offers and that someone has written: those of its class, the getters
of properties that take no writes, and the method that a method reference stands for. -/
inductive Value.Offers (v : Value) : HostMethod → Prop where
  | method {c : HostClass} {n : String} {m : HostMethod} (hc : v.hostClass? = some c)
      (hm : c.findMethod? n = some m) : Offers v m
  | getter {c : HostClass} {n : String} {q : HostProperty} (hc : v.hostClass? = some c)
      (hq : c.findProperty? n = some q) (hsetter : q.setter? = none) : Offers v q.getter
  | referenced {m : HostMethod} (hm : v.referencedMethod? = some m) : Offers v m

/-- A call that reads a property for which a value is kept, the declared type of the property, and
the value. -/
inductive Descriptor.Reads (d : Descriptor) (s : Store) (v : Value) :
    StaticType → Value → Prop where
  /-- The field of an instance. -/
  | field {c : HostClass} {n k : String} {t : StaticType} (hop : d.operation.isGet = true)
      (hn : d.name? = some n) (hc : v.hostClass? = some c)
      (hm : c.member? n (d.operation == .getMethod) =
        some (.property (HostProperty.ofField k t).getter)) :
      Reads d s v t (importValue (readField s v k))
  /-- The value of a static property. -/
  | static {i j : Nat} {c : HostClass} {n k : String} {t : StaticType}
      (hop : d.operation.isGet = true) (hn : d.name? = some n)
      (hv : v = .object (.staticClass i c))
      (hq : c.findStaticProperty? n = some (.ofStatic j k t)) :
      Reads d s v t ((s.statics.get? (j, k)).getD .undefined)

/-- What is kept for a property does not change while a call is served. -/
theorem Descriptor.Reads.of_servedIn {d : Descriptor} {s t : Store} {v w : Value}
    {declared : StaticType} (hs : s.ServedIn t) (h : d.Reads t v declared w) :
    d.Reads s v declared w := by
  rw [hs] at h
  cases h with
  | field hop hn hc hm => exact .field hop hn hc hm
  | static hop hn hv hq => exact .static hop hn hv hq

section

variable {n : Nat} {s t : Store} {self v w : Value} {args as : List Value}

theorem HostMethod.Honours.invokeHost {m : HostMethod} {run : Runner} (hm : m.Honours run)
    (h : invokeHost m self args run s = .ok v t) : m.signature.result.admits v = true := by
  obtain ⟨as, s', -, h⟩ := RunM.bind_eq_ok h
  exact hm self as s' v t h

theorem HostMethod.Honours.callMethodRef {c : HostClass} {name : String} {isStatic : Bool}
    {m : HostMethod} {run : Runner} (hm : m.Honours run)
    (hmethod : c.referencedMethod? name isStatic = some m)
    (h : callMethodRef c name isStatic self args run s = .ok v t) :
    m.signature.result.admits v = true := by
  unfold HostClass.referencedMethod? at hmethod
  unfold DynamicLinking.callMethodRef at h
  rw [hmethod] at h
  dsimp only at h
  split at h
  · exact hm.invokeHost h
  · split at h
    · exact hm.invokeHost h
    · cases h

/-- What a host member answers is what its body does, with the calls in it run one level deeper. -/
theorem exists_runHost_of_runEntry {m : HostMethod}
    (h : runEntry n (.host m) self args s = .ok v t) :
    ∃ run, runHost m.body self args run s = .ok v t := by
  cases n with
  | zero => cases h
  | succ n => exact ⟨_, h⟩

/-- A write of a field answers nothing. -/
theorem honours_setter (k : String) (ty : StaticType) :
    HostMethod.Honours (runEntry n) ⟨k, ⟨[ty], .void⟩, .writeField k⟩ := by
  intro self args s v t h
  obtain ⟨run, h⟩ := exists_runHost_of_runEntry h
  obtain ⟨_, _, -, h⟩ := RunM.bind_eq_ok h
  cases h
  rfl

/-- What a call that reads a field answers: the field of the receiver. -/
theorem eq_readField_of_runEntry {k : String} {ty : StaticType}
    (h : runEntry n (.host (HostProperty.ofField k ty).getter) self args s = .ok v t) :
    v = readField s self k := by
  obtain ⟨run, h⟩ := exists_runHost_of_runEntry h
  cases h
  rfl

theorem eq_static_of_runEntry {j : Nat} {k : String} {ty : StaticType}
    (h : runEntry n (.host (HostProperty.ofStatic j k ty).getter) self args s = .ok v t) :
    v = (s.statics.get? (j, k)).getD .undefined := by
  obtain ⟨run, h⟩ := exists_runHost_of_runEntry h
  cases h
  rfl

end

/-! ### What candidates answer -/

/-- An invocation from which script objects are hidden answers what the invocation does for the same
receiver, with the script object in the place of its mirror. -/
theorem eval_hideScripts_eq_ok {p : PolicyRef} {i : Invocation} {args : List Value} {run : Runner}
    {s t : Store} {w : Value} (hscript : (Value.argument args 0).script? = none)
    (h : (Services.hideScripts { policy := p } i).eval args run s = .ok w t) :
    ∃ as n v, Value.argument as 0 = Value.argument args 0 ∧
      i.eval as run { s with nextId := n } = .ok v t ∧ w = importValue v := by
  have h : ((ArgumentFilter.wrapScripts.apply args >>= i.eval) >>=
    ResultFilter.unwrapMirror.apply) run s = .ok w t := h
  obtain ⟨v, t', hv, h⟩ := RunM.bind_eq_ok h
  obtain ⟨as, n, has, -⟩ := wrapScripts_apply args run s
  rw [RunM.bind_of_ok has] at hv
  cases h
  exact ⟨as, n, v, receiver_of_exports (exports_of_wrapScripts has) hscript, hv, rfl⟩

section

variable {r : LinkRequest} {p : PolicyRef} {c : HostClass} {i : Invocation} {k : Candidate}
  {n : Nat} {s t : Store} {as : List Value} {v w : Value}

/-- **What an instance has for an operation** answers a value of its declared type, or the field of
the instance. -/
theorem answer_of_memberInvocation (hi : r.MemberInvocation c i)
    (hself : (Value.argument as 0).hostClass? = some c) (hc : c.IsDeclared)
    (hoffers : ∀ m, (Value.argument as 0).Offers m → m.Honours (runEntry n))
    (h : i.eval as (runEntry n) s = .ok v t) :
    i.signature.result.admits v = true ∨
      r.descriptor.Reads s (Value.argument as 0) i.signature.result (importValue v) := by
  cases hi with
  | call hop hm =>
      obtain ⟨name, hname⟩ := HostClass.exists_findMethod?_of_functionalMethod? hm
      have hhonours := hoffers _ (.method hself hname)
      have h : (r.functionalCode _).eval as (runEntry n) s = .ok v t := h
      left
      unfold LinkRequest.functionalCode at h
      split at h <;> exact hhonours.invokeHost h
  | @getter name m hop hn hm =>
      obtain ⟨q, hq, rfl⟩ := HostClass.exists_of_member? hm
      have h : runEntry n (.host q.getter) (Value.argument as 0) [] s = .ok v t := h
      rcases hc.property hq with ⟨_, _, _, rfl⟩ | ⟨_, _, rfl⟩
      · exact .inl (hoffers _ (.getter hself hq rfl) _ _ _ _ _ h)
      · rw [eq_readField_of_runEntry h]
        exact .inr (.field hop hn hself hm)
  | method j => exact .inl rfl
  | setter hop hn hm =>
      obtain ⟨q, hq, hm⟩ := Option.bind_eq_some_iff.mp hm
      rcases hc.property hq with ⟨_, _, _, rfl⟩ | ⟨_, _, rfl⟩
      · cases hm
      · cases hm
        exact .inl ((honours_setter _ _).invokeHost h)
  | named hop hn => exact .inl rfl

/-- **What a class as a value has for an operation** answers a value of its declared type, or the
value of a static property. -/
theorem answer_of_staticInvocation {j : Nat} (hi : r.StaticInvocation p c i)
    (hself : Value.argument as 0 = .object (.staticClass j c)) (hc : c.IsDeclared)
    (h : i.eval as (runEntry n) s = .ok v t) :
    i.signature.result.admits v = true ∨
      r.descriptor.Reads s (Value.argument as 0) i.signature.result v := by
  cases hi with
  | getter hop hn hq =>
      obtain ⟨_, _, _, rfl⟩ := hc.staticProperty hq
      have h : runEntry n (.host _) .undefined [] s = .ok v t := h
      rw [eq_static_of_runEntry h]
      exact .inr (.static hop hn hself hq)
  | _ => exact .inl rfl

/-- A method reference that is called answers a value of the type that its method declares. -/
theorem answer_of_methodCode {d : Descriptor} {j : Nat} {m : String} {isStatic : Bool}
    {method : HostMethod} (hself : Value.argument as 0 = .object (.methodRef j c m isStatic))
    (hm : c.referencedMethod? m isStatic = some method) {run : Runner}
    (hhonours : method.Honours run) (h : d.methodCode.eval as run s = .ok w t) :
    method.signature.result.admits w = true := by
  have hscript : (Value.argument as 0).script? = none := by
    rw [hself]
    rfl
  obtain ⟨bs, n', v, hbs, hv, rfl⟩ := eval_hideScripts_eq_ok (p := .permitAll)
    (i := ⟨d.genericSignature .object, .methodCall d⟩) hscript h
  have hv : evalMethodCall d bs run { s with nextId := n' } = .ok v t := hv
  unfold evalMethodCall at hv
  rw [hbs, hself] at hv
  exact admits_importValue (hhonours.callMethodRef hm hv)

/-- **What a chosen candidate answers** has its declared type, or it is kept for a property that the
call reads. -/
theorem answer_cases {s₁ s₂ : Store} (hk : r.chosen p s₁ = .ok k s₂) (hadmits : k.admits as = true)
    (hc : (Value.argument as 0).IsDeclared)
    (hoffers : ∀ m, (Value.argument as 0).Offers m → m.Honours (runEntry n))
    (h : k.invocation.eval as (runEntry n) s = .ok w t) :
    k.result.admits w = true ∨ (k.guard? ≠ some (.type 0 .staticClass) ∧
      r.descriptor.Reads s (Value.argument as 0) k.result w) := by
  have hfits : r.Fits k := r.fits_chosen p s₁ k s₂ hk
  have htype := hfits.runtimeType_eq hadmits
  cases r.choice_of_chosen p s₁ k s₂ hk with
  | plain hresult _ =>
      left
      rw [hresult]
      rfl
  | bound hr hop => exact .inl rfl
  | @methodRef j c m isStatic hr hop =>
      left
      cases hm : c.referencedMethod? m isStatic with
      | none =>
          rw [LinkRequest.linkMethodRef_of_unstable (.inr hm)]
          rfl
      | some method =>
          cases hunstable : r.isUnstable with
          | true =>
              rw [LinkRequest.linkMethodRef_of_unstable (.inl hunstable)]
              rfl
          | false =>
              rw [LinkRequest.linkMethodRef_of_stable hunstable hm] at hadmits h ⊢
              have hself := Candidate.receiver_of_identity hadmits rfl hr
              have hmethod : (Value.argument as 0).referencedMethod? = some method := by
                rw [hself]
                exact hm
              exact answer_of_methodCode hself hm (hoffers method (.referenced hmethod)) h
  | @static _ c j hr hj =>
      obtain ⟨i, hself⟩ := Guard.eq_of_isStaticClass
        (Candidate.test_of_admits (g := .staticClass c) hadmits rfl)
      exact (answer_of_staticInvocation hj hself (hc c (.inr ⟨i, hself⟩)) h).imp_right
        fun hreads => ⟨nofun, hreads⟩
  | @member o c j hr ho hj =>
      have hself : (Value.argument as 0).hostClass? = some c :=
        Value.hostClass?_of_runtimeType (by rw [hr]; exact ho) htype
      obtain ⟨bs, n', v, hbs, hv, rfl⟩ :=
        eval_hideScripts_eq_ok (p := p) (Value.of_hostClass? hself).1 h
      rw [← hbs] at hself hc hoffers ⊢
      refine (answer_of_memberInvocation hj hself (hc c (.inl hself)) hoffers hv).imp
        admits_importValue fun hreads => ⟨?_, ?_⟩
      · intro hguard
        have hclass := (Guard.type.inj (Option.some.inj hguard)).2
        rw [← htype, ← hbs] at hclass
        obtain ⟨i, c', hstatic⟩ := Value.eq_of_runtimeType_staticClass hclass
        rw [hstatic] at hself
        cases hself
      · exact hreads.of_servedIn (by exact rfl)

/-- A site that reads a property for which a value is kept has a candidate for it, unless the
candidate was linked for another class that has no such member. -/
theorem eq_of_reads {s₁ s₂ : Store} (hk : r.chosen p s₁ = .ok k s₂) (hadmits : k.admits as = true)
    (hguard : k.guard? = some (.type 0 .staticClass) → r.receiver = Value.argument as 0)
    {declared : StaticType} (hreads : r.descriptor.Reads s (Value.argument as 0) declared v)
    (h : k.invocation.eval as (runEntry n) s = .ok w t) : k.result = declared ∧ w = v := by
  have hfits : r.Fits k := r.fits_chosen p s₁ k s₂ hk
  cases hreads with
  | @field c _ _ _ hop hn hc hm =>
      have hreceiver : r.receiver.hostClass? = some c :=
        Value.hostClass?_of_runtimeType hc (hfits.runtimeType_eq hadmits).symm
      have hcandidate := LinkRequest.eq_of_chosen_property hreceiver hop hn hm hk
      subst hcandidate
      obtain ⟨bs, n', v, hbs, hv, rfl⟩ :=
        eval_hideScripts_eq_ok (p := p) (Value.of_hostClass? hc).1 h
      have hv : runEntry n (.host _) (Value.argument bs 0) [] { s with nextId := n' } = .ok v _ :=
        hv
      refine ⟨rfl, ?_⟩
      rw [eq_readField_of_runEntry hv, hbs]
      rfl
  | @static i _ c _ _ _ hop hn hv hq =>
      have hreceiver : ∃ i, r.receiver = .object (.staticClass i c) := by
        rcases hfits.guard with hg | ⟨o, ho, hg⟩ | ⟨i', c', hr, hg⟩
        · refine ⟨i, ?_⟩
          rw [hguard ?_, hv]
          rw [hg, Guard.receiverType, ← hfits.runtimeType_eq hadmits, hv]
          rfl
        · have hself := Candidate.receiver_of_identity hadmits hg ho
          exact ⟨i, by rw [ho, ← hself, hv]⟩
        · obtain ⟨i'', hself⟩ := Guard.eq_of_isStaticClass (Candidate.test_of_admits hadmits hg)
          rw [hv] at hself
          cases hself
          exact ⟨i', hr⟩
      obtain ⟨i', hreceiver⟩ := hreceiver
      have hcandidate := LinkRequest.eq_of_chosen_staticProperty hreceiver hop hn hq hk
      subst hcandidate
      exact ⟨rfl, eq_static_of_runEntry h⟩

end

/-! ### The law -/

/-- The call reads a property for which something else than a value of the promised type is kept,
and which passes without being looked at.  Nothing is read where the candidate of an earlier call
serves, which was linked for a class without the member. -/
def CallSite.ShowsIllTyped (c : CallSite) (s : Store) (args : List Value) : Prop :=
  (∀ k, c.cached? s args = some k → k.guard? ≠ some (.type 0 .staticClass)) ∧
    ∃ declared w u, c.descriptor.Reads s (Value.argument args 0) declared w ∧
      c.descriptor.unchecked? declared w = some u ∧ c.descriptor.signature.result.admits u = false

/-- **When a call site keeps its promise.**  In every run of the call sites of an environment
without contributed linkers, a call of a site whose receiver offers only methods that honour their
declared types answers a value of the type of the site exactly if it shows nothing else that is kept
for a property. -/
theorem promised_iff {e : Environment} (hcontributed : e.contributed = []) {s : Store}
    (hs : s.Reachable) {id : Nat} {c : CallSite} (hsite : s.sites.get? id = some c)
    (hchain : c.chain = e.chain) {args : List Value} (hc : (Value.argument args 0).IsDeclared)
    {n : Nat} (hoffers : ∀ m, (Value.argument args 0).Offers m → m.Honours (runEntry n))
    {v : Value} {t : Store} (h : invokeSite id args (runEntry n) s = .ok v t) :
    c.descriptor.signature.result.admits v = true ↔ ¬ c.ShowsIllTyped s args := by
  have hdefault : c.chain.IsDefault e.policy := by
    rw [hchain]
    exact e.chain_isDefault hcontributed
  rcases invokeSite_cases hdefault hs hsite args with
    ⟨f, t', herror⟩ | ⟨r, k, f?, u, hserves, hu, heq⟩
  · rw [herror] at h
    cases h
  rw [heq] at h
  obtain ⟨w, t', hw, hfinish⟩ := RunM.bind_eq_ok h
  obtain ⟨s₁, s₂, hk⟩ := hserves.chosen
  have hself : Value.argument (c.descriptor.passes args) 0 = Value.argument args 0 := by simp
  rw [admits_finish_iff hserves.filter hfinish]
  constructor
  · rintro hadmits ⟨hcached, declared, w', u', hreads, hunchecked, hill⟩
    have hguard (hg : k.guard? = some (.type 0 .staticClass)) :
        r.receiver = Value.argument (c.descriptor.passes args) 0 := by
      rcases hserves.origin with ⟨-, hargs⟩ | ⟨k', hk', hg'⟩
      · rw [hself, LinkRequest.receiver, hargs]
      · exact absurd (hg'.trans hg) (hcached k' hk')
    rw [← hserves.descriptor, ← hself] at hreads
    obtain ⟨hresult, rfl⟩ := eq_of_reads hk hserves.admits hguard (hreads.of_servedIn hu.symm) hw
    rw [hresult] at hadmits
    rw [hadmits u' hunchecked] at hill
    cases hill
  · intro hkept u' hunchecked
    rw [← hself] at hc hoffers
    rcases answer_cases hk hserves.admits hc hoffers hw with hadmits | ⟨hguard, hreads⟩
    · exact admits_unchecked hadmits hunchecked
    · by_contra hill
      rw [hself, hserves.descriptor] at hreads
      refine hkept ⟨fun k' hk' hg => ?_, k.result, w, u', hreads.of_servedIn hu, hunchecked,
        by simpa using hill⟩
      rcases hserves.origin with ⟨hmiss, -⟩ | ⟨k'', hk'', hg'⟩
      · rw [hmiss] at hk'
        cases hk'
      · rw [hk''] at hk'
        cases hk'
        exact hguard (hg'.symm.trans hg)

/-! ### A field that was never written -/

namespace FieldSite

/-- A class with a field for a number. -/
def lamp : HostClass := .ofMembers 0 "Lamp" [.field "level" .int] .ordinary

/-- An instance of the class. -/
def object : Value := .object (.host 1 lamp)

/-- A site of the default environment that reads the field as a number. -/
def site : CallSite :=
  ({} : Environment).newSite ⟨.getProperty, some "level", ⟨[.object], .int⟩, ⟨0⟩⟩

/-- A store with the new site, and with fields of the instance. -/
def store (fields : List (String × Value)) : Store :=
  ({ fields := Table.ofList [(1, Table.ofList fields)] } : Store).withSite 0 site

theorem isDeclared_object : object.IsDeclared := by
  rintro c (hc | ⟨i, hi⟩)
  · cases hc
    exact HostClass.isDeclared_ofMembers _ _ _ _
  · cases hi

/-- The instance has no methods that someone has written. -/
theorem not_offers (m : HostMethod) : ¬ object.Offers m := by
  rintro (⟨hc, hm⟩ | ⟨hc, hq, hsetter⟩ | hm)
  · cases hc
    simp [HostClass.findMethod?, lamp, ClassDecl.add] at hm
  · cases hc
    obtain ⟨-, rfl⟩ : "level" = _ ∧ HostProperty.ofField "level" .int = _ := by
      simpa [HostClass.findProperty?, lamp, ClassDecl.add, Table.get?_insert] using hq
    cases hsetter
  · cases hm

/-- A field that holds a number is read as a number. -/
theorem written_promised :
    (∃ t, invokeSite 0 [object] (runEntry 1) (store [("level", .int 3)]) = .ok (.int 3) t) ∧
      ¬ site.ShowsIllTyped (store [("level", .int 3)]) [object] := by
  have hread : ∃ t, invokeSite 0 [object] (runEntry 1) (store [("level", .int 3)]) =
    .ok (.int 3) t := ⟨_, rfl⟩
  obtain ⟨t, ht⟩ := hread
  exact ⟨⟨t, ht⟩, (promised_iff (e := {}) rfl (Store.reachable_newSite rfl _ _ _) rfl rfl
    (by exact isDeclared_object) (by exact fun m hm => absurd hm (not_offers m)) ht).mp rfl⟩

/-- A field that was never written is read as `null`. -/
theorem unwritten_null :
    ¬ ∀ (e : Environment) (s : Store) (id : Nat) (c : CallSite) (args : List Value) (n : Nat)
        (v : Value) (t : Store),
      e.contributed = [] → s.Reachable → s.sites.get? id = some c → c.chain = e.chain →
      (Value.argument args 0).IsDeclared →
      (∀ m, (Value.argument args 0).Offers m → m.Honours (runEntry n)) →
      invokeSite id args (runEntry n) s = .ok v t →
      c.descriptor.signature.result.admits v = true := by
  intro hall
  have hnull := hall {} (store []) 0 site [object] 1 .null _ rfl (Store.reachable_newSite rfl _ _ _)
    rfl rfl
    isDeclared_object (fun m hm => absurd hm (not_offers m)) rfl
  cases hnull

end FieldSite

end DynamicLinking
