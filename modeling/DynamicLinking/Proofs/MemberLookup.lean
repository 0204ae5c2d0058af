/-
An instance has the methods and the properties of its class and of the ancestors of that class, and
a class as a value has its static ones.  A site with a fixed key is linked for the member that is
found, or for a missing one, and it declares the type of a getter or of a setter.  A site that gets
the key as an argument looks the member up when it runs, and declares nothing.

Main definitions:

* `Value.GettersYield` — no getter that reads a member of the value is declared without a result.

Main results:

* `LinkRequest.performs_staticClass`, `LinkRequest.performs_instance` — a choice for a call that
  asks for a member of a class performs the access;
* `LinkRequest.performs_of_asks` — **so does every choice for a call that asks for an access**.
-/

import DynamicLinking.Proofs.MemberAccess

set_option autoImplicit false

namespace DynamicLinking

/-! ### Members of classes -/

/-- No getter that reads a member of the value is declared without a result. -/
def Value.GettersYield (v : Value) : Prop :=
  (∀ c, v.hostClass? = some c → ∀ n q, c.findProperty? n = some q →
    q.getter.signature.result ≠ .void) ∧
  (∀ i c, v = .object (.staticClass i c) → ∀ n q, c.findStaticProperty? n = some q →
    q.getter.signature.result ≠ .void)

namespace LinkRequest

section

variable {r : LinkRequest} {p : PolicyRef} {q : MemberAccess} {s : Store} {k : Candidate}

/-- A static member that is looked up when it is read. -/
theorem evalStaticMember_of_asks (h : r.descriptor.Asks r.args q) (c : HostClass) :
    evalStaticMember c r.descriptor r.args = c.readStatic q.key := by
  rw [evalStaticMember, h.memberKey, pure_bind]
  rfl

/-- A new method reference is one whenever it is made. -/
theorem alike_newMethodRef (i : Nat) (c : HostClass) (m : String) (isStatic : Bool) (run : Runner)
    (u : Store) :
    Outcome.Alike ((pure (.object (.methodRef i c m isStatic)) : RunM Value) run u)
      ((newMethodRef c m isStatic : RunM Value) run u) :=
  .ok (.methodRef i u.nextId c m isStatic) rfl

/-- What is linked for a fixed static member comes to the read of the member. -/
theorem exists_of_staticGet {i : Nat} {c : HostClass} (h : r.descriptor.Asks r.args q)
    (hr : q.receiver = .object (.staticClass i c))
    (hvoid : ∀ n q, c.findStaticProperty? n = some q → q.getter.signature.result ≠ .void) :
    ∃ k t, (r.staticCandidate c <$> r.staticGet? c q.key) s = .ok k t ∧
      ∀ run u, Outcome.Alike (k.delivers r.args run u) (c.readStatic q.key run u) := by
  have hreceiver : r.receiver = .object (.staticClass i c) := h.argument_zero.trans hr
  unfold staticGet? HostClass.readStatic
  cases hp : c.findStaticProperty? q.key with
  | some property =>
      refine ⟨_, s, rfl, ?_⟩
      intro run u
      rw [Candidate.delivers_of_result (by exact hvoid _ _ hp)]
      exact .refl _
  | none =>
      dsimp only
      split
      · exact ⟨_, _, rfl, fun run u => alike_newMethodRef s.nextId c q.key true run u⟩
      · refine ⟨r.missing, s, rfl, ?_⟩
        intro run u
        rw [delivers_missing h (by rw [hreceiver]; rfl) (by rw [hreceiver]; rfl)]
        exact .refl _

theorem performs_staticClass {i : Nat} {c : HostClass} (h : r.descriptor.Asks r.args q)
    (hr : q.receiver = .object (.staticClass i c)) (hc : c.IsDeclared)
    (hvoid : ∀ n q, c.findStaticProperty? n = some q → q.getter.signature.result ≠ .void) :
    r.Performs p q s := by
  have hreceiver : r.receiver = .object (.staticClass i c) := h.argument_zero.trans hr
  have hchosen : r.chosen p = (do
      ofExcept (((← get).policy p).check c true)
      r.staticCandidate c <$> r.staticInvocation? { policy := p } c) := by
    rw [chosen_eq_staticClass hreceiver]
    simp only [map_eq_pure_bind]
    rfl
  refine performs_checked (by rw [hr]; rfl) hchosen ?_
  cases q with
  | read w key b =>
      obtain rfl : w = .object (.staticClass i c) := hr
      rcases h.2.2 with ⟨hn, -⟩ | ⟨hn, -⟩
      · rw [staticInvocation?_of_fixed_read h.1 hn]
        obtain ⟨k, t, hk, halike⟩ := exists_of_staticGet (s := s) h rfl hvoid
        exact ⟨k, t, hk, fun run u _ => halike run u⟩
      · rw [staticInvocation?_of_computed_read h.1 hn]
        refine ⟨r.staticCandidate c (some _), s, rfl, .of_eq ?_⟩
        rw [Candidate.delivers_of_object rfl]
        exact evalStaticMember_of_asks h c
  | write w key x b =>
      obtain rfl : w = .object (.staticClass i c) := hr
      have hsetter :
          (r.descriptor.name?.bind c.findStaticProperty?).bind HostProperty.setter? = none := by
        cases r.descriptor.name? with
        | none => rfl
        | some n => exact hc.staticSetter?_eq_none
      rw [staticInvocation?_of_write h.1, hsetter]
      refine ⟨r.missing, s, rfl, .of_eq ?_⟩
      exact delivers_missing h (by rw [hreceiver]; rfl) (by rw [hreceiver]; rfl)

/-- A member of an instance that is looked up when it is read or written. -/
theorem evalHostMember_of_read {d : Descriptor} {args : List Value} {v : Value} {key : String}
    {b : Bool} (h : d.Asks args (.read v key b)) (c : HostClass) :
    evalHostMember c d args = c.readMember v key b := by
  have hget := h.1
  have hset : ¬ d.operation.isSet = true := by
    intro hset
    rw [Operation.isGet_of_isSet hset] at hget
    cases hget
  rw [evalHostMember, h.memberKey, pure_bind, h.argument_zero]
  dsimp only
  rw [if_neg hset, h.2.1]
  rfl

theorem evalHostMember_of_write {d : Descriptor} {args : List Value} {v w : Value} {key : String}
    {b : Bool} (h : d.Asks args (.write v key w b)) (c : HostClass) :
    evalHostMember c d args = c.writeMember v key w := by
  rw [evalHostMember, h.memberKey, pure_bind, h.argument_zero, h.memberValue]
  dsimp only
  rw [if_pos h.1]
  rfl

/-- What a write gives back is no mirror. -/
theorem importValue_writeMember (c : HostClass) (self : Value) (key : String) (w : Value) :
    (do return importValue (← c.writeMember self key w)) = c.writeMember self key w := by
  unfold HostClass.writeMember
  cases (c.findProperty? key).bind HostProperty.setter? with
  | none => rfl
  | some m =>
      simp only [bind_assoc, pure_bind]
      rfl

section

variable {o : Object} {c : HostClass} {key : String} {b : Bool}

/-- What an instance does itself. -/
theorem perform_of_read (ho : o.hostClass? = some c) :
    MemberAccess.perform p (.read (.object o) key b) =
      (do return importValue (← c.readMember (.object o) key b)) := by
  cases o with
  | host i d =>
      cases ho
      rfl
  | proxy i m t =>
      cases ho
      rfl
  | _ => cases ho

theorem perform_of_write {w : Value} (ho : o.hostClass? = some c) :
    MemberAccess.perform p (.write (.object o) key w b) =
      (do c.writeMember (.object o) key (← exportValue w)) := by
  cases o with
  | host i d =>
      cases ho
      rfl
  | proxy i m t =>
      cases ho
      rfl
  | _ => cases ho

/-- A member of an instance that is looked up when the site is linked comes to the read of the
member. -/
theorem exists_of_fixed_read (h : r.descriptor.Asks r.args (.read (.object o) key b))
    (hn : r.descriptor.name? = some key) (hargs : r.args = [.object o])
    (ho : o.hostClass? = some c)
    (hvoid : ∀ n q, c.findProperty? n = some q → q.getter.signature.result ≠ .void) :
    ∃ k t, (r.instanceCandidate p <$> r.beanInvocation? c) s = .ok k t ∧
      r.Delivers p (.read (.object o) key b) s k := by
  have hreceiver : r.receiver = .object o := h.argument_zero
  have hscript : (Value.object o).script? = none := (Value.of_hostClass? (v := .object o) ho).1
  have hwrap : ArgumentFilter.wrapScripts.apply r.args = pure [.object o] := by
    rw [hargs]
    exact wrapScripts_of_script?_eq_none (by simpa using hscript)
  rw [beanInvocation?_of_fixed_read h.1 hn, h.2.1]
  unfold LinkRequest.Delivers
  rw [perform_of_read ho]
  unfold HostClass.readMember
  cases hm : c.member? key b with
  | none =>
      refine ⟨r.missing, s, rfl, ?_⟩
      intro run u hu
      rw [delivers_missing h (by rw [hreceiver]; rfl) (by rw [hreceiver]; exact hscript)]
      exact .refl _
  | some m =>
      cases m with
      | property m =>
          obtain ⟨property, hq, rfl⟩ := HostClass.exists_of_member? hm
          refine ⟨r.instanceCandidate p (some _), s, rfl, ?_⟩
          intro run u hu
          rw [Candidate.delivers_of_result (by exact hvoid _ _ hq), eval_instanceCandidate,
            eval_hideScripts, hwrap, pure_bind]
          exact .refl _
      | method =>
          refine ⟨r.instanceCandidate p (some _), _, rfl, ?_⟩
          intro run u hu
          rw [Candidate.delivers_of_object rfl, eval_instanceCandidate, eval_hideScripts, hwrap,
            pure_bind]
          exact alike_newMethodRef s.nextId c key false run u

/-- A member of an instance that is looked up by the site comes to the read of the member. -/
theorem exists_of_computed_read (h : r.descriptor.Asks r.args (.read (.object o) key b))
    (hn : r.descriptor.name? = none) (hargs : r.args = [.object o, .string key])
    (ho : o.hostClass? = some c) :
    ∃ k t, (r.instanceCandidate p <$> r.beanInvocation? c) s = .ok k t ∧
      r.Delivers p (.read (.object o) key b) s k := by
  have hscript : (Value.object o).script? = none := (Value.of_hostClass? (v := .object o) ho).1
  have hwrap : ArgumentFilter.wrapScripts.apply r.args = pure r.args := by
    rw [hargs]
    exact wrapScripts_of_script?_eq_none (by simpa using ⟨hscript, rfl⟩)
  rw [beanInvocation?_of_computed h.operation hn]
  refine ⟨r.instanceCandidate p (some _), s, rfl, .of_eq ?_⟩
  rw [Candidate.delivers_of_object rfl, perform_of_read ho, ← evalHostMember_of_read h c,
    eval_instanceCandidate, eval_hideScripts, hwrap, pure_bind]
  rfl

/-- A property of an instance that is looked up when the site is linked comes to the write of the
property. -/
theorem exists_of_fixed_write {w : Value}
    (h : r.descriptor.Asks r.args (.write (.object o) key w b))
    (hn : r.descriptor.name? = some key) (ho : o.hostClass? = some c) (hc : c.IsDeclared) :
    ∃ k t, (r.instanceCandidate p <$> r.beanInvocation? c) s = .ok k t ∧
      r.Delivers p (.write (.object o) key w b) s k := by
  have hreceiver : r.receiver = .object o := h.argument_zero
  have hscript : (Value.object o).script? = none := (Value.of_hostClass? (v := .object o) ho).1
  obtain ⟨leading, hargs, hleading, hasks⟩ := h.exists_leading hscript
  have hwrap := wrapScripts_append hleading w
  rw [← hargs] at hwrap
  rw [beanInvocation?_of_fixed_write h.1 hn]
  unfold LinkRequest.Delivers
  rw [perform_of_write ho]
  unfold HostClass.writeMember
  cases hm : (c.findProperty? key).bind HostProperty.setter? with
  | none =>
      refine ⟨r.missing, s, rfl, ?_⟩
      intro run u hu
      rw [delivers_missing h (by rw [hreceiver]; rfl) (by rw [hreceiver]; exact hscript)]
      -- the value is not exported, so only the next identity differs
      obtain ⟨w', n, hw', -⟩ := exportValue_apply w u
      have hexport : (exportValue w : RunM Value) run u = .ok w' { u with nextId := n } := hw'
      rw [RunM.bind_of_ok hexport]
      exact .ok (.refl _) rfl
  | some m =>
      obtain ⟨property, hq, hsetter⟩ := Option.bind_eq_some_iff.mp hm
      have hvoid : m.signature.result = .void := by
        rcases hc.property hq with ⟨_, _, _, rfl⟩ | ⟨_, _, rfl⟩
        · cases hsetter
        · cases hsetter
          rfl
      have hrun (sig : Signature) (w' : Value) :
          Invocation.eval ⟨sig, .hostSetter m r.descriptor⟩ (leading ++ [w']) =
            invokeHost m (.object o) [w'] := by
        rw [Invocation.eval, Code.eval, (hasks w').argument_zero, (hasks w').memberValue]
        rfl
      have hresult : (r.instanceCandidate p (some ⟨r.genericSignature m.signature.result,
          .hostSetter m r.descriptor⟩)).result = .void := hvoid
      refine ⟨r.instanceCandidate p (some _), s, rfl, ?_⟩
      intro run u hu
      simp only [Candidate.delivers, eval_instanceCandidate, eval_hideScripts, hwrap, hresult,
        if_true, bind_assoc, pure_bind, hrun]
      exact .refl _

/-- A property of an instance that is looked up by the site comes to the write of the property. -/
theorem exists_of_computed_write {w : Value}
    (h : r.descriptor.Asks r.args (.write (.object o) key w b)) (hn : r.descriptor.name? = none)
    (ho : o.hostClass? = some c) :
    ∃ k t, (r.instanceCandidate p <$> r.beanInvocation? c) s = .ok k t ∧
      r.Delivers p (.write (.object o) key w b) s k := by
  have hscript : (Value.object o).script? = none := (Value.of_hostClass? (v := .object o) ho).1
  obtain ⟨leading, hargs, hleading, hasks⟩ := h.exists_leading hscript
  have hwrap := wrapScripts_append hleading w
  rw [← hargs] at hwrap
  have hrun (sig : Signature) (w' : Value) :
      Invocation.eval ⟨sig, .hostMember c r.descriptor⟩ (leading ++ [w']) =
        c.writeMember (.object o) key w' :=
    evalHostMember_of_write (hasks w') c
  rw [beanInvocation?_of_computed h.operation hn]
  refine ⟨r.instanceCandidate p (some _), s, rfl, .of_eq ?_⟩
  rw [Candidate.delivers_of_object rfl, perform_of_write ho]
  simp only [eval_instanceCandidate, eval_hideScripts, hwrap, bind_assoc, pure_bind, hrun,
    importValue_writeMember]

end

theorem performs_instance {o : Object} {c : HostClass} (h : r.descriptor.Asks r.args q)
    (hr : q.receiver = .object o) (ho : o.hostClass? = some c) (hc : c.IsDeclared)
    (hvoid : ∀ n q, c.findProperty? n = some q → q.getter.signature.result ≠ .void) :
    r.Performs p q s := by
  have hreceiver : r.receiver = .object o := h.argument_zero.trans hr
  have hreflected : q.receiver.reflected? = some (c, false) := by
    rw [hr]
    exact Value.reflected?_of_hostClass? ho
  have hchosen : r.chosen p = (do
      ofExcept (((← get).policy p).check c false)
      r.instanceCandidate p <$> r.beanInvocation? c) := by
    rw [chosen_eq_host hreceiver ho]
    simp only [chosenMember, map_eq_pure_bind]
    rfl
  refine performs_checked hreflected hchosen ?_
  cases q with
  | read w key b =>
      obtain rfl : w = .object o := hr
      rcases h.2.2 with ⟨hn, hargs⟩ | ⟨hn, hargs⟩
      · exact exists_of_fixed_read h hn hargs ho hvoid
      · exact exists_of_computed_read h hn hargs ho
  | write w key x b =>
      obtain rfl : w = .object o := hr
      rcases h.2.2 with ⟨hn, -⟩ | ⟨hn, -⟩
      · exact exists_of_fixed_write h hn ho hc
      · exact exists_of_computed_write h hn ho

/-- **A choice for a call that asks for an access performs it**, whatever the receiver is. -/
theorem performs_of_asks (h : r.descriptor.Asks r.args q) (hdeclared : q.receiver.IsDeclared)
    (hyields : q.receiver.GettersYield) (p : PolicyRef) (s : Store) : r.Performs p q s := by
  cases hr : q.receiver with
  | primitive v => exact performs_primitive h hr
  | object o =>
      have hinstance {c : HostClass} (ho : o.hostClass? = some c) : r.Performs p q s := by
        rw [hr] at hdeclared hyields
        exact performs_instance h hr ho (hdeclared c (.inl ho)) (hyields.1 c ho)
      cases o with
      | ordinary i => exact performs_script h hr rfl
      | function i c => exact performs_script h hr rfl
      | boundFunction i t c a l => exact performs_script h hr rfl
      | bound i f a l => exact performs_bound h hr
      | foreign i f => exact performs_foreign h hr rfl
      | mirror i t => exact performs_foreign h hr rfl
      | host i c => exact hinstance rfl
      | proxy i m t => exact hinstance rfl
      | methodRef i c m b => exact performs_methodRef h hr
      | staticClass i c =>
          rw [hr] at hdeclared hyields
          exact performs_staticClass h hr (hdeclared c (.inr ⟨i, rfl⟩)) (hyields.2 i c rfl)
      | superAdapter i a => exact performs_superAdapter h hr

end

end LinkRequest

end DynamicLinking
