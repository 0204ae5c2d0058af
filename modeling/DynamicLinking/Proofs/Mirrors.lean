/-
A mirror is the foreign view of a script object.  Scripts that come across one can use it as they
would use the object.  A call site links the two in different ways: the object goes through the
linker for script objects, which may answer an absent property right away; the mirror goes through
its bridge, which looks members up by their index if the key is one.  Both come to the same.

Main definitions:

* `Outcome.Matches`, `Store.CallsMatch` — equality of outcomes and of calls, up to the texts of
  errors of the kind `type`.

Main results:

* `evalForeignGet_mirror`, `evalForeignSet_mirror`, `runMirror_of_function` — operations on a mirror
  are those on the object;
* `callsMatch_mirror` — **a mirror and its object serve scripts alike**.
-/

import DynamicLinking.Proofs.Callability
import DynamicLinking.Proofs.ComputedKeys
import DynamicLinking.Proofs.Numerals

set_option autoImplicit false

namespace DynamicLinking

/-! ### Operations on a mirror -/

section

variable {d : Descriptor} {o : Object} {i : Nat} {rest : List Value}

/-- A slot of a mirror is the property whose key is its index. -/
theorem getSlot_mirror {key : String} {n : Nat} (h : Primitive.arrayIndex? key = some n) :
    (Object.mirror i o).getSlot n = getProperty o key := by
  have hname : (Object.mirror i o).slotName n = key := (toString_of_arrayIndex? h).1
  rw [Object.getSlot, hname]
  rfl

theorem setSlot_mirror {key : String} {n : Nat} (h : Primitive.arrayIndex? key = some n)
    (w : Value) : (Object.mirror i o).setSlot n w = putProperty o key w false := by
  have hname : (Object.mirror i o).slotName n = key := (toString_of_arrayIndex? h).1
  rw [Object.setSlot, hname]
  rfl

/-- A read through a mirror is a read of the object. -/
theorem evalForeignGet_mirror (ho : o.isScript = true) :
    evalForeignGet d (.object (.mirror i o) :: rest) = evalScriptGet d (.object o :: rest) := by
  have hscript : (Value.argument (.object o :: rest) 0).script? = some o :=
    LinkRequest.script?_of_isScript ho
  unfold evalForeignGet evalScriptGet
  have hmirror : foreignReceiver (Value.argument (.object (.mirror i o) :: rest) 0) =
      pure (.mirror i o) := rfl
  rw [hscript, hmirror]
  -- the key is behind the receiver, and both convert it first
  refine congrArg (d.memberKey (.object o :: rest) >>= ·) (funext fun key => ?_)
  rw [liftM_pure, pure_bind]
  cases h : Primitive.arrayIndex? key with
  | some n => simp only [getSlot_mirror h]
  | none => rfl

/-- A write through a mirror is a write to the object that is dropped if the object does not take
it. -/
theorem evalForeignSet_mirror (ho : o.isScript = true) (hstrict : d.isStrict = false) :
    evalForeignSet d (.object (.mirror i o) :: rest) = evalScriptSet d (.object o :: rest) := by
  have hscript : (Value.argument (.object o :: rest) 0).script? = some o :=
    LinkRequest.script?_of_isScript ho
  have hvalue : d.memberValue (.object (.mirror i o) :: rest) =
      d.memberValue (.object o :: rest) := by
    unfold Descriptor.memberValue
    split <;> rfl
  unfold evalForeignSet evalScriptSet
  rw [hscript, hvalue, hstrict]
  refine congrArg (d.memberKey (.object o :: rest) >>= ·) (funext fun key => ?_)
  have hwrite (m : StoreM Unit) (hm : m = putProperty o key
      (d.memberValue (.object o :: rest)) false) :
      ((m : RunM Unit) >>= fun _ => pure Value.undefined) =
        ((putProperty o key (d.memberValue (.object o :: rest)) false : RunM Unit) >>= fun _ =>
          pure .undefined) := by
    rw [hm]
  cases h : Primitive.arrayIndex? key with
  | some n => exact hwrite _ (setSlot_mirror h _)
  | none => exact hwrite _ rfl

end

/-! ### Calls of sites -/

/-- The outcomes are the same, but for the texts of errors of the kind `type`. -/
inductive Outcome.Matches : Outcome → Outcome → Prop where
  | same (x : Outcome) : Matches x x
  | typeErrors {x y : ScriptError} (hx : x.isTypeError = true) (hy : y.isTypeError = true)
      (s : Store) : Matches (.error (.error x) s) (.error (.error y) s)

/-- Two calls are both served, and what serves them comes to the same in every store in which a call
is served: to the same value or fault, but for the texts of errors of the kind `type`, and to the
same store. -/
def Store.CallsMatch (s : Store) (id : Nat) (args : List Value) (id' : Nat) (args' : List Value) :
    Prop :=
  ∃ i i' t t', resolve id args s = .ok i t ∧ resolve id' args' s = .ok i' t' ∧
    s.ServedIn t ∧ s.ServedIn t' ∧
    ∀ (run : Runner) (u : Store), s.ServedIn u →
      Outcome.Matches (i.eval args run u) (i'.eval args' run u)

theorem Outcome.Matches.of_refuses {m m' : RunM Value} (hm : m.Refuses) (hm' : m'.Refuses)
    (run : Runner) (u : Store) : Outcome.Matches (m run u) (m' run u) := by
  obtain ⟨x, hx, rfl⟩ := hm
  obtain ⟨y, hy, rfl⟩ := hm'
  exact .typeErrors hx hy u

section

variable {p : PolicyRef} {r : LinkRequest} {o : Object} {i : Nat} {rest : List Value}
  {s t : Store} {k : Candidate}

/-- What is linked for an operation on a mirror, on its arguments. -/
def Descriptor.runMirror (d : Descriptor) (i : Nat) (o : Object) (rest : List Value) (b : Bool) :
    RunM Value :=
  (LinkRequest.linkForeign ⟨d, .object (.mirror i o) :: rest, b⟩).invocation.eval
    (.object (.mirror i o) :: rest)

/-- The candidate for an operation on a script object comes to what is linked for the operation on a
mirror of the object, as long as script objects are those of the store. -/
def Candidate.MirroredBy (k : Candidate) (d : Descriptor) (o : Object) (rest : List Value)
    (s : Store) (i : Nat) : Prop :=
  ∀ (b : Bool) (run : Runner) (u : Store), u.scripts = s.scripts →
    Outcome.Matches (k.invocation.eval (.object o :: rest) run u) (d.runMirror i o rest b run u)

theorem runMirror_of_isGet {d : Descriptor} (ho : o.isScript = true)
    (hop : d.operation.isGet = true) (b : Bool) :
    d.runMirror i o rest b = evalScriptGet d (.object o :: rest) := by
  rw [Descriptor.runMirror, Invocation.eval,
    LinkRequest.code_linkForeign_of_isGet (r := ⟨d, .object (.mirror i o) :: rest, b⟩) hop]
  exact evalForeignGet_mirror ho

theorem runMirror_of_isSet {d : Descriptor} (ho : o.isScript = true)
    (hop : d.operation.isSet = true) (hstrict : d.isStrict = false) (b : Bool) :
    d.runMirror i o rest b = evalScriptSet d (.object o :: rest) := by
  rw [Descriptor.runMirror, Invocation.eval,
    LinkRequest.code_linkForeign_of_isSet (r := ⟨d, .object (.mirror i o) :: rest, b⟩) hop]
  exact evalForeignSet_mirror ho hstrict

/-- Calls and constructions with a mirror of a function are those with the function. -/
theorem runMirror_of_function {d : Descriptor} (ho : o.isScriptFunction = true)
    (hop : d.operation = .call ∨ d.operation = .new) (b : Bool) :
    d.runMirror i o rest b = evalCallable d (.object o :: rest) := by
  rw [Descriptor.runMirror, LinkRequest.eval_linkForeign_of_call
    (r := ⟨d, .object (.mirror i o) :: rest, b⟩) hop rfl rfl]
  have hcall (self : Value) (given : List Value) :
      (Object.mirror i o).callForeign self given = callValue (.object o) self given := by
    rw [Object.callForeign, if_pos ho]
    cases o with
    | function j c => simp only [callValue]
    | boundFunction j t c self leading => simp only [callValue]
    | _ => cases ho
  have hnew (given : List Value) :
      (Object.mirror i o).constructForeign given = constructValue (.object o) given := by
    rw [Object.constructForeign, if_pos ho]
    cases o with
    | function j c => simp only [constructValue]
    | boundFunction j t c self leading => simp only [constructValue]
    | _ => cases ho
  unfold evalCallable
  rcases hop with hop | hop
  · simp only [hop, hcall, Descriptor.callArguments, reduceCtorEq, if_false]
    rfl
  · simp only [hop, hnew, Descriptor.callArguments, if_true]
    rfl

theorem mirrored_read (hr : r.receiver = .object o) (ho : o.isScript = true)
    (hop : r.descriptor.operation.isGet = true) (hk : r.chosen p s = .ok k t) :
    k.result = .object ∧ k.MirroredBy r.descriptor o rest s i := by
  obtain rfl := LinkRequest.eq_of_chosen_read hr ho hop hk
  rcases r.linkScriptGet_cases s o with hasks | ⟨n, hn, habsent, hconstant⟩
  · rw [hasks]
    refine ⟨rfl, fun b run u _ => ?_⟩
    rw [runMirror_of_isGet ho hop]
    exact .same _
  · -- the property is still absent, since the script objects are those of before
    rw [hconstant]
    refine ⟨rfl, fun b run u hu => ?_⟩
    have hkey : r.descriptor.stringKey? (.object o :: rest) = some n := by
      simp [Descriptor.stringKey?, hn]
    have hscript : (Value.argument (.object o :: rest) 0).script? = some o :=
      LinkRequest.script?_of_isScript ho
    have hread : evalScriptGet r.descriptor (.object o :: rest) run u = .ok .undefined u := by
      rw [Descriptor.evalScriptGet_apply hscript hkey, Access.serve, getProperty_apply,
        Store.getProperty_congr hu, Store.getProperty_of_absent habsent]
    rw [runMirror_of_isGet ho hop, hread]
    exact .same _

theorem mirrored_write (hr : r.receiver = .object o) (ho : o.isScript = true)
    (hop : r.descriptor.operation.isSet = true) (hstrict : r.descriptor.isStrict = false)
    (hk : r.chosen p s = .ok k t) :
    k.result = .object ∧ k.MirroredBy r.descriptor o rest s i := by
  obtain rfl := LinkRequest.eq_of_chosen_write hr ho hop hk
  refine ⟨rfl, fun b run u _ => ?_⟩
  rw [runMirror_of_isSet ho hop hstrict]
  exact .same _

/-- Functions are called, and both a plain object and its mirror refuse. -/
theorem mirrored_call (hr : r.receiver = .object o) (ho : o.isScript = true)
    (hop : r.descriptor.operation = .call ∨ r.descriptor.operation = .new)
    (hk : r.chosen p s = .ok k t) :
    k.result = .object ∧ k.MirroredBy r.descriptor o rest s i := by
  cases hfunction : o.isScriptFunction with
  | true =>
      have hlink : r.linkScript? s = some (Candidate.guarded
          ⟨r.genericSignature .object, .callable r.descriptor⟩ r.calleeGuard) := by
        unfold LinkRequest.linkScript?
        rw [hr, LinkRequest.script?_of_isScript ho]
        rcases hop with hop | hop <;> simp only [hop, hfunction, if_true]
      rw [LinkRequest.chosen_script hr ho, hlink] at hk
      cases hk
      refine ⟨rfl, fun b run u _ => ?_⟩
      rw [runMirror_of_function hfunction hop]
      exact .same _
  | false =>
      obtain ⟨j, rfl⟩ : ∃ j, o = .ordinary j := by
        cases o with
        | ordinary j => exact ⟨j, rfl⟩
        | function j c => cases hfunction
        | boundFunction j t c self leading => cases hfunction
        | _ => cases ho
      obtain rfl := LinkRequest.eq_missing_of_chosen hop (by rw [hr]; rfl) (by rw [hr]; rfl) hk
      refine ⟨rfl, fun b run u _ => ?_⟩
      refine .of_refuses ⟨_, rfl, LinkRequest.eval_missing_of_call hop _⟩ ?_ run u
      have hmirror : Value.argument (.object (.mirror i (.ordinary j)) :: rest) 0 =
          .object (.mirror i (.ordinary j)) := rfl
      exact LinkRequest.linkForeign_refusesOrRuns hop hmirror rfl rfl

/-- **What is chosen for an operation on a script object comes to what is linked for the operation
on a mirror**, unless writes are strict. -/
theorem mirrored_of_chosen (hr : r.receiver = .object o) (ho : o.isScript = true)
    (hstrict : r.descriptor.isStrict = false) (hk : r.chosen p s = .ok k t) (rest : List Value)
    (i : Nat) : k.result = .object ∧ k.MirroredBy r.descriptor o rest s i := by
  cases hop : r.descriptor.operation with
  | getProperty | getElement | getMethod => exact mirrored_read hr ho (by rw [hop]; rfl) hk
  | setProperty | setElement => exact mirrored_write hr ho (by rw [hop]; rfl) hstrict hk
  | call => exact mirrored_call hr ho (.inl hop) hk
  | new => exact mirrored_call hr ho (.inr hop) hk

end

/-- **A mirror and its object serve scripts alike.**  Two new sites of an environment without
contributed linkers have one descriptor, which is not strict and whose types are all `object`.  One
is called on a script object or a function, and the other on a mirror of it with the same arguments
behind.  Then the calls have the same outcome and the same effects, whatever the operation and the
key are, except that two errors of the kind `type` may have different texts.  And what is exported
as a mirror is imported as the object itself. -/
theorem callsMatch_mirror {e : Environment} (he : e.contributed = []) {s : Store} {id id' : Nat}
    {d : Descriptor} {n : Nat}
    (hsite : s.sites.get? id = some { descriptor := d, chain := e.chain })
    (hsite' : s.sites.get? id' = some { descriptor := d, chain := e.chain })
    (hd : d.signature = Signature.generic n) (hstrict : d.isStrict = false)
    {o : Object} (ho : o.isScript = true) (i : Nat) (rest : List Value) :
    s.CallsMatch id (.object o :: rest) id' (.object (.mirror i o) :: rest) ∧
    ∃ m u, exportValue (.object o) s = .ok m u ∧ m ≠ .object o ∧ importValue m = .object o := by
  have hdefault := Environment.chain_isDefault he
  let c : CallSite := { descriptor := d, chain := e.chain }
  let linking (id : Nat) : Store := s.withSite id (c.countInvoke false).countLink
  refine ⟨?_, ?_⟩
  · have hk := LinkRequest.chosen_script (p := e.policy) (s := linking id)
      (r := ⟨d, .object o :: rest, (c.countInvoke false).isUnstable⟩) rfl ho
    obtain ⟨hresult, hmatches⟩ := mirrored_of_chosen rfl ho hstrict hk rest i
    have hk' := LinkRequest.chosen_foreign (p := e.policy) (s := linking id')
      (r := ⟨d, .object (.mirror i o) :: rest, (c.countInvoke false).isUnstable⟩)
      (o := .mirror i o) (k := .generic) rfl rfl
    obtain ⟨j, t, hj, ht, heval⟩ := resolve_of_chosen hdefault hd hsite rfl hk
    obtain ⟨j', t', hj', ht', heval'⟩ := resolve_of_chosen hdefault hd hsite' rfl hk'
    refine ⟨j, j', t, t', hj, hj', ht, ht', fun run u hu => ?_⟩
    rw [heval, heval', Candidate.delivers_of_object hresult, Candidate.delivers_of_object rfl]
    exact hmatches _ run u (scripts_of_servedIn hu)
  · refine ⟨.object (.mirror s.nextId o), { s with nextId := s.nextId + 1 }, ?_, ?_, rfl⟩
    · unfold exportValue newMirror?
      rw [LinkRequest.script?_of_isScript ho]
      rfl
    · intro hsame
      have htarget := Value.object.inj hsame
      rw [← htarget] at ho
      cases ho

/-! ### A property under an index -/

namespace IndexedRead

/-- A site that reads an element under a key that is an argument. -/
def site : CallSite :=
  ({} : Environment).newSite ⟨.getElement, none, Signature.generic 2, ⟨0⟩⟩

/-- A store with two new sites and with a property of an object under an index. -/
def store : Store :=
  let scripts := Table.ofList [(1, { properties := Table.ofList [("7", .string "seven")] })]
  (Store.withSite { scripts } 2 site).withSite 3 site

/-- The property is read of the object and of its mirror alike. -/
theorem mirror_reads_alike :
    store.CallsMatch 2 [.object (.ordinary 1), .string "7"]
      3 [.object (.mirror 4 (.ordinary 1)), .string "7"] := by
  have hsite : store.sites.get? 2 = some site := rfl
  have hsite' : store.sites.get? 3 = some site := rfl
  exact (callsMatch_mirror rfl hsite hsite' rfl rfl rfl 4 [.string "7"]).1

end IndexedRead

end DynamicLinking
