/-
A call site that reads or writes a member has the key of the member in its descriptor, or it gets
the key as an argument.  In the first case linkers look the member up when they link, and decline if
there is none; in the second case they always have a candidate, which looks the member up when it
runs.  Both come to what the receiver does with the key itself.

Main definitions:

* `MemberAccess` — a read or a write of a member of any receiver;
* `Descriptor.Asks` — a call asks for an access, by a fixed key or by an argument;
* `MemberAccess.check`, `MemberAccess.perform` — what the policy says of an access, and **what the
  receiver does itself**;
* `LinkRequest.Performs` — the choice for a request comes to an access.

Main results:

* `LinkRequest.performs_script`, …, `LinkRequest.performs_superAdapter` — **a choice for a call that
  asks for an access performs it**, for each kind of receiver that has no members of a class.
-/

import DynamicLinking.Proofs.ScriptAccess
import DynamicLinking.Proofs.TotalLinking

set_option autoImplicit false

namespace DynamicLinking

/-! ### Accesses -/

/-- A read or a write of a member under a key. -/
inductive MemberAccess where
  /-- A method counts before a property if methods are asked for. -/
  | read (receiver : Value) (key : String) (prefersMethod : Bool)
  | write (receiver : Value) (key : String) (v : Value) (isStrict : Bool)

namespace MemberAccess

/-- The value whose member is read or written. -/
def receiver : MemberAccess → Value
  | .read v _ _ => v
  | .write v _ _ _ => v

/-- The key of the member. -/
def key : MemberAccess → String
  | .read _ key _ => key
  | .write _ key _ _ => key

/-- What a policy says of an access: the class that the receiver stands for is checked, and that of
the adapted object if a method is read through an adapter. -/
def check (p : AccessPolicy) : MemberAccess → Except ScriptError Unit
  | .read (.object (.superAdapter _ a)) _ true => p.checkCallee a
  | q => (q.receiver.reflected?.map fun x => p.check x.1 x.2).getD (.ok ())

theorem check_of_reflected {q : MemberAccess} {c : HostClass} {b : Bool}
    (h : q.receiver.reflected? = some (c, b)) (p : AccessPolicy) : q.check p = p.check c b := by
  unfold check
  split
  · cases h
  · rw [h]
    rfl

theorem check_of_primitive {q : MemberAccess} {v : Primitive} (h : q.receiver = .primitive v)
    (p : AccessPolicy) : q.check p = .ok () := by
  cases q <;> (cases h; rfl)

theorem check_of_script {q : MemberAccess} {o : Object} (h : q.receiver = .object o)
    (ho : o.isScript = true) (p : AccessPolicy) : q.check p = .ok () := by
  cases q <;> (cases h; cases o <;> first | rfl | cases ho)

theorem check_of_foreign {q : MemberAccess} {o : Object} {b : BridgeKind}
    (h : q.receiver = .object o) (ho : o.bridge? = some b) (p : AccessPolicy) :
    q.check p = .ok () := by
  cases q <;> (cases h; cases o <;> first | rfl | cases ho)

end MemberAccess

/-- A call asks for an access: the operation and the flags are right, and the key is fixed or is the
string behind the receiver.  Properties and elements are the same. -/
def Descriptor.Asks (d : Descriptor) (args : List Value) : MemberAccess → Prop
  | .read v key prefersMethod =>
      d.operation.isGet = true ∧ (d.operation == .getMethod) = prefersMethod ∧
        (d.name? = some key ∧ args = [v] ∨ d.name? = none ∧ args = [v, .string key])
  | .write v key w isStrict =>
      d.operation.isSet = true ∧ d.isStrict = isStrict ∧
        (d.name? = some key ∧ args = [v, w] ∨ d.name? = none ∧ args = [v, .string key, w])

namespace Descriptor.Asks

variable {d : Descriptor} {args : List Value} {q : MemberAccess}

theorem argument_zero (h : d.Asks args q) : Value.argument args 0 = q.receiver := by
  cases q with
  | read v key b =>
      obtain ⟨-, -, ⟨-, rfl⟩ | ⟨-, rfl⟩⟩ := h <;> rfl
  | write v key w b =>
      obtain ⟨-, -, ⟨-, rfl⟩ | ⟨-, rfl⟩⟩ := h <;> rfl

theorem stringKey? (h : d.Asks args q) : d.stringKey? args = some q.key := by
  cases q with
  | read v key b =>
      obtain ⟨-, -, ⟨hn, rfl⟩ | ⟨hn, rfl⟩⟩ := h <;> simp [Descriptor.stringKey?, hn] <;> rfl
  | write v key w b =>
      obtain ⟨-, -, ⟨hn, rfl⟩ | ⟨hn, rfl⟩⟩ := h <;> simp [Descriptor.stringKey?, hn] <;> rfl

theorem memberKey (h : d.Asks args q) : d.memberKey args = pure q.key :=
  memberKey_of_stringKey? h.stringKey?

theorem memberValue {v w : Value} {key : String} {b : Bool} (h : d.Asks args (.write v key w b)) :
    d.memberValue args = w := by
  obtain ⟨-, -, ⟨hn, rfl⟩ | ⟨hn, rfl⟩⟩ := h <;> simp [Descriptor.memberValue, hn] <;> rfl

/-- The value that is written comes last, behind what stands for the member; with another value in
its place the call asks for the write of that value. -/
theorem exists_leading {v w : Value} {key : String} {b : Bool}
    (h : d.Asks args (.write v key w b)) (hv : v.script? = none) :
    ∃ leading, args = leading ++ [w] ∧ (∀ a ∈ leading, a.script? = none) ∧
      ∀ x, d.Asks (leading ++ [x]) (.write v key x b) := by
  rcases h.2.2 with ⟨hn, hargs⟩ | ⟨hn, hargs⟩
  · exact ⟨[v], hargs, by simpa using hv, fun x => ⟨h.1, h.2.1, .inl ⟨hn, rfl⟩⟩⟩
  · exact ⟨[v, .string key], hargs, by simpa using ⟨hv, rfl⟩,
      fun x => ⟨h.1, h.2.1, .inr ⟨hn, rfl⟩⟩⟩

theorem operation (h : d.Asks args q) :
    d.operation.isGet = true ∨ d.operation.isSet = true := by
  cases q with
  | read v key b => exact .inl h.1
  | write v key w b => exact .inr h.1

/-- An access is no call. -/
theorem ne_call (h : d.Asks args q) : d.operation ≠ .call ∧ d.operation ≠ .new := by
  constructor <;>
    (intro hcall
     rcases h.operation with hop | hop <;> (rw [hcall] at hop; cases hop))

end Descriptor.Asks

/-! ### What receivers do -/

/-- Reads a member of an instance. -/
def HostClass.readMember (c : HostClass) (self : Value) (key : String) (prefersMethod : Bool) :
    RunM Value :=
  match c.member? key prefersMethod with
  | some (.property getter) => runGetter getter self
  | some .method => newMethodRef c key false
  | none => return .undefined

/-- Writes a property of an instance; without a setter the write is dropped. -/
def HostClass.writeMember (c : HostClass) (self : Value) (key : String) (w : Value) :
    RunM Value := do
  match (c.findProperty? key).bind HostProperty.setter? with
  | some m => let _ ← invokeHost m self [w]
  | none => pure ()
  return .undefined

/-- Reads a static member: a property before a method. -/
def HostClass.readStatic (c : HostClass) (key : String) : RunM Value :=
  match c.findStaticProperty? key with
  | some q => runGetter q.getter .undefined
  | none =>
      if (c.findStaticMethod? key).isSome then newMethodRef c key true
      else return .undefined

/-- The member of a primitive value: strings have a length and units. -/
def Primitive.member : Primitive → String → Value
  | .string s, key => .primitive (Primitive.stringMember s key)
  | _, _ => .undefined

/-- Reads a member of a primitive value. -/
def Primitive.readMember (q : Primitive) (key : String) : RunM Value :=
  if q.isNullish then fail (.unreadable key q.text)
  else return q.member key

/-- Writes a member of a primitive value, which no primitive value takes. -/
def Primitive.writeMember (q : Primitive) (key : String) (isStrict : Bool) : RunM Value :=
  if q.isNullish then fail (.unwritable key q.text)
  else if isStrict then fail (.primitiveWrite key q.text)
  else return .undefined

namespace Object

/-- Reads a member of a foreign object, by its index if the key is one. -/
def readForeign (o : Object) (key : String) : StoreM Value :=
  match Primitive.arrayIndex? key with
  | some i => o.getSlot i
  | none => o.getMember key

/-- Writes a member of a foreign object, by its index if the key is one. -/
def writeForeign (o : Object) (key : String) (w : Value) : StoreM Value := do
  match Primitive.arrayIndex? key with
  | some i => o.setSlot i w
  | none => o.setMember key w
  return .undefined

/-- Reads a member of an object.  Host code gives back mirrors, which are replaced by the script
objects that they show. -/
def readMember (o : Object) (p : PolicyRef) (key : String) (prefersMethod : Bool) : RunM Value :=
  match o with
  | .ordinary _ | .function _ _ | .boundFunction _ _ _ _ _ => getProperty o key
  | .foreign _ _ | .mirror _ _ => o.readForeign key
  | .host _ c => do return importValue (← c.readMember (.object o) key prefersMethod)
  | .proxy i m _ => do
      return importValue (← (HostClass.proxy i m).readMember (.object o) key prefersMethod)
  | .staticClass _ c => c.readStatic key
  | .superAdapter _ a => if prefersMethod then superMethod p a key else return .undefined
  | .bound _ _ _ _ | .methodRef _ _ _ _ => return .undefined

/-- Writes a member of an object.  Host code sees a mirror in the place of a script object. -/
def writeMember (o : Object) (key : String) (w : Value) (isStrict : Bool) : RunM Value :=
  match o with
  | .ordinary _ | .function _ _ | .boundFunction _ _ _ _ _ => (Access.write o key w isStrict).serve
  | .foreign _ _ | .mirror _ _ => o.writeForeign key w
  | .host _ c => do c.writeMember (.object o) key (← exportValue w)
  | .proxy i m _ => do (HostClass.proxy i m).writeMember (.object o) key (← exportValue w)
  | _ => return .undefined

end Object

/-- **What the receiver does itself.** -/
def MemberAccess.perform (p : PolicyRef) : MemberAccess → RunM Value
  | .read (.primitive v) key _ => v.readMember key
  | .read (.object o) key prefersMethod => o.readMember p key prefersMethod
  | .write (.primitive v) key _ isStrict => v.writeMember key isStrict
  | .write (.object o) key w isStrict => o.writeMember key w isStrict

/-! ### Choices -/

namespace LinkRequest

variable {r : LinkRequest} {p : PolicyRef} {q : MemberAccess} {s : Store} {k : Candidate}

/-- The candidate comes to an access: a site whose types are all `object` delivers what the receiver
does itself, as long as script objects are those of the store. -/
def Delivers (r : LinkRequest) (p : PolicyRef) (q : MemberAccess) (s : Store) (k : Candidate) :
    Prop :=
  ∀ (run : Runner) (u : Store), u.scripts = s.scripts →
    Outcome.Alike (k.delivers r.args run u) (q.perform p run u)

/-- The choice for a request comes to an access: it fails if the policy denies the access, and
otherwise the candidate does what the receiver does itself. -/
inductive Performs (r : LinkRequest) (p : PolicyRef) (q : MemberAccess) (s : Store) : Prop where
  | denied {e : ScriptError} (hcheck : q.check (s.policy p) = .error e)
      (hk : r.chosen p s = .error (.error e) s)
  | granted {k : Candidate} {t : Store} (hcheck : q.check (s.policy p) = .ok ())
      (hk : r.chosen p s = .ok k t) (hdelivers : r.Delivers p q s k)

theorem Delivers.of_eq (h : k.delivers r.args = q.perform p) : r.Delivers p q s k := by
  intro run u _
  rw [h]
  exact .refl _

/-- A receiver whose class is checked first. -/
theorem performs_checked {c : HostClass} {b : Bool} {m : StoreM Candidate}
    (hreflected : q.receiver.reflected? = some (c, b))
    (hchosen : r.chosen p = (do ofExcept (((← get).policy p).check c b); m))
    (hm : ∃ k t, m s = .ok k t ∧ r.Delivers p q s k) : r.Performs p q s := by
  have hcheck : q.check (s.policy p) = (s.policy p).check c b :=
    MemberAccess.check_of_reflected hreflected _
  have heq : r.chosen p s = (ofExcept ((s.policy p).check c b) >>= fun _ => m) s := by
    rw [hchosen]
    rfl
  cases h : (s.policy p).check c b with
  | error e =>
      rw [h] at hcheck heq
      exact .denied hcheck heq
  | ok u =>
      obtain ⟨k, t, hk, hdelivers⟩ := hm
      rw [h] at hcheck heq
      exact .granted hcheck (heq.trans hk) hdelivers

/-- A member that is missing reads as `undefined`, and writes of it are dropped. -/
theorem delivers_missing (h : r.descriptor.Asks r.args q) (hnull : r.receiver.isNullish = false)
    (hscript : r.receiver.script? = none) : r.missing.delivers r.args = pure .undefined := by
  have hargument : (Value.argument r.args 0).script? = none := hscript
  have hset : evalMissingSet r.descriptor r.args = pure .undefined := by
    rw [evalMissingSet, hargument]
  rw [Candidate.delivers_of_object rfl, eval_missing_eq, missingCode, if_neg (by simp [hnull])]
  cases hop : r.descriptor.operation with
  | getProperty | getElement | getMethod => rfl
  | setProperty | setElement => exact hset
  | call => exact absurd hop h.ne_call.1
  | new => exact absurd hop h.ne_call.2

/-! ### Receivers without members of a class -/

/-- The access of a script object that a call asks for. -/
theorem access?_of_asks {o : Object} (h : r.descriptor.Asks r.args q)
    (hr : q.receiver = .object o) (ho : o.isScript = true) :
    ∃ a, r.descriptor.access? r.args = some a ∧
      ∀ run, q.perform p run = a.serve := by
  have hscript : (Value.argument r.args 0).script? = some o := by
    rw [h.argument_zero, hr]
    exact script?_of_isScript ho
  cases q with
  | read v key b =>
      obtain rfl : v = .object o := hr
      refine ⟨.read o key, ?_, fun run => ?_⟩
      · simp [Descriptor.access?, hscript, h.stringKey?, h.1, MemberAccess.key]
      · cases o <;> first | rfl | cases ho
  | write v key w b =>
      obtain rfl : v = .object o := hr
      refine ⟨.write o key w b, ?_, fun run => ?_⟩
      · have hget : r.descriptor.operation.isGet = false := Operation.isGet_of_isSet h.1
        simp [Descriptor.access?, hscript, h.stringKey?, hget, h.1, h.2.1, h.memberValue,
          MemberAccess.key]
      · cases o <;> first | rfl | cases ho

theorem performs_script {o : Object} (h : r.descriptor.Asks r.args q)
    (hr : q.receiver = .object o) (ho : o.isScript = true) : r.Performs p q s := by
  obtain ⟨a, ha, hperform⟩ := access?_of_asks (p := p) h hr ho
  obtain ⟨k, hk, hvalid⟩ := chosen_of_access ha p s
  have hfits : r.Fits k := r.fits_chosen p s k s hk
  obtain ⟨hresult, heval⟩ := eval_of_chosen hk (.refl s) hvalid hfits.admits_self ha
  refine .granted (MemberAccess.check_of_script hr ho _) hk fun run u hu => ?_
  rw [Candidate.delivers_of_object hresult, heval run u hu, hperform]
  exact .refl _

/-- Without a value there is no member: reads and writes fail. -/
theorem evalNullish_of_asks {v : Primitive} (h : r.descriptor.Asks r.args q)
    (hr : q.receiver = .primitive v) (hv : v.isNullish = true) :
    evalNullish r.descriptor r.args = q.perform p := by
  have hkey := h.memberKey
  rw [evalNullish, h.argument_zero, hkey]
  cases q with
  | read w key b =>
      obtain rfl : w = .primitive v := hr
      rw [if_pos h.1, MemberAccess.perform, Primitive.readMember, if_pos hv]
      rfl
  | write w key x b =>
      obtain rfl : w = .primitive v := hr
      rw [if_neg (by simp [Operation.isGet_of_isSet h.1]), if_pos h.1, MemberAccess.perform,
        Primitive.writeMember, if_pos hv]
      rfl

/-- Strings have a length and units, and no primitive value takes writes. -/
theorem linkPrimitive_of_asks {v : Primitive} (h : r.descriptor.Asks r.args q)
    (hr : q.receiver = .primitive v) (hv : ¬ v.isNullish = true) :
    ∃ code, r.linkPrimitive? = some (r.byType code) ∧ code.eval r.args = q.perform p := by
  have hreceiver : r.receiver = .primitive v := h.argument_zero.trans hr
  have hargument : Value.argument r.args 0 = .primitive v := hreceiver
  have hkey := h.memberKey
  unfold linkPrimitive?
  cases q with
  | read w key b =>
      obtain rfl : w = .primitive v := hr
      have hop := h.1
      have hperform : MemberAccess.perform p (.read (.primitive v) key b) = pure (v.member key) :=
        if_neg hv
      rw [hperform, hreceiver]
      cases hget : r.descriptor.operation with
      | getProperty | getElement | getMethod =>
          cases v with
          | string x =>
              refine ⟨_, rfl, ?_⟩
              rw [Code.eval, evalStringGet, hkey, hargument]
              rfl
          | _ => exact ⟨_, rfl, rfl⟩
      | _ =>
          rw [hget] at hop
          cases hop
  | write w key x b =>
      obtain rfl : w = .primitive v := hr
      have hop := h.1
      have hperform : MemberAccess.perform p (.write (.primitive v) key x b) =
          if b then (fail (.primitiveWrite key v.text) : RunM Value) else pure .undefined :=
        if_neg hv
      have hrefuse : Code.eval (.primitiveSet r.descriptor) r.args =
          fail (.primitiveWrite key v.text) := by
        rw [Code.eval, hkey, hargument, pure_bind]
        rfl
      rw [hperform, h.2.1]
      cases hset : r.descriptor.operation with
      | setProperty | setElement =>
          cases b with
          | true => exact ⟨_, rfl, hrefuse⟩
          | false => exact ⟨_, rfl, rfl⟩
      | _ =>
          rw [hset] at hop
          cases hop

theorem performs_primitive {v : Primitive} (h : r.descriptor.Asks r.args q)
    (hr : q.receiver = .primitive v) : r.Performs p q s := by
  have hreceiver : r.receiver = .primitive v := h.argument_zero.trans hr
  refine .granted (MemberAccess.check_of_primitive hr _) (chosen_primitive hreceiver) (.of_eq ?_)
  by_cases hv : v.isNullish = true
  · rw [if_pos hv, Candidate.delivers_of_object rfl, ← evalNullish_of_asks h hr hv]
    rw [eval_missing_eq, missingCode, if_pos (by rw [hreceiver]; exact hv), Code.eval]
  · obtain ⟨code, hlink, heval⟩ := linkPrimitive_of_asks (p := p) h hr hv
    rw [if_neg hv, hlink, ← heval]
    exact Candidate.delivers_of_object rfl

theorem code_linkForeign_of_isGet (hop : r.descriptor.operation.isGet = true) :
    r.linkForeign.invocation.code = .foreignGet r.descriptor := by
  unfold linkForeign
  cases h : r.descriptor.operation with
  | getProperty | getElement | getMethod =>
      dsimp only
      rw [h]
      rfl
  | _ =>
      rw [h] at hop
      cases hop

theorem code_linkForeign_of_isSet (hop : r.descriptor.operation.isSet = true) :
    r.linkForeign.invocation.code = .foreignSet r.descriptor := by
  unfold linkForeign
  cases h : r.descriptor.operation with
  | setProperty | setElement =>
      dsimp only
      rw [h]
      rfl
  | _ =>
      rw [h] at hop
      cases hop

theorem foreignReceiver_of_bridge {o : Object} {b : BridgeKind} (ho : o.bridge? = some b) :
    foreignReceiver (.object o) = pure o := by
  have hfilter : (Value.object o).object?.filter (fun o => o.bridge?.isSome) = some o := by
    simp [Value.object?, ho]
  rw [foreignReceiver, hfilter]

theorem evalForeignGet_of_asks {o : Object} {b : BridgeKind} (h : r.descriptor.Asks r.args q)
    (hr : q.receiver = .object o) (ho : o.bridge? = some b) :
    evalForeignGet r.descriptor r.args = (o.readForeign q.key : RunM Value) := by
  rw [evalForeignGet, h.memberKey, h.argument_zero, hr, foreignReceiver_of_bridge ho, pure_bind,
    liftM_pure, pure_bind, Object.readForeign]
  cases Primitive.arrayIndex? q.key <;> rfl

theorem evalForeignSet_of_asks {o : Object} {b : BridgeKind} {key : String} {w : Value}
    {isStrict : Bool} (h : r.descriptor.Asks r.args (.write (.object o) key w isStrict))
    (ho : o.bridge? = some b) :
    evalForeignSet r.descriptor r.args = (o.writeForeign key w : RunM Value) := by
  have hargument : Value.argument r.args 0 = .object o := h.argument_zero
  have hkey : r.descriptor.memberKey r.args = pure key := h.memberKey
  rw [evalForeignSet, hkey, hargument, foreignReceiver_of_bridge ho, h.memberValue, pure_bind,
    liftM_pure, pure_bind, Object.writeForeign]
  cases Primitive.arrayIndex? key <;> rfl

theorem performs_foreign {o : Object} {b : BridgeKind} (h : r.descriptor.Asks r.args q)
    (hr : q.receiver = .object o) (ho : o.bridge? = some b) : r.Performs p q s := by
  have hreceiver : r.receiver = .object o := h.argument_zero.trans hr
  refine .granted (MemberAccess.check_of_foreign hr ho _) (chosen_foreign hreceiver ho) (.of_eq ?_)
  rw [Candidate.delivers_of_object rfl, Invocation.eval]
  cases q with
  | read v key prefersMethod =>
      obtain rfl : v = .object o := hr
      have hperform : MemberAccess.perform p (.read (.object o) key prefersMethod) =
          o.readForeign key := by
        cases o <;> first | rfl | cases ho
      rw [code_linkForeign_of_isGet h.1, hperform]
      exact evalForeignGet_of_asks h rfl ho
  | write v key w isStrict =>
      obtain rfl : v = .object o := hr
      have hperform : MemberAccess.perform p (.write (.object o) key w isStrict) =
          o.writeForeign key w := by
        cases o <;> first | rfl | cases ho
      rw [code_linkForeign_of_isSet h.1, hperform]
      exact evalForeignSet_of_asks h ho

/-! ### Receivers that answer for no members -/

theorem performs_bound {i : Nat} {f a : Value} {l : List Value}
    (h : r.descriptor.Asks r.args q) (hr : q.receiver = .object (.bound i f a l)) :
    r.Performs p q s := by
  have hreceiver : r.receiver = .object (.bound i f a l) := h.argument_zero.trans hr
  have hop : ¬ (r.descriptor.operation = .call ∨ r.descriptor.operation = .new) := by
    rintro (hop | hop)
    · exact h.ne_call.1 hop
    · exact h.ne_call.2 hop
  have hk : r.chosen p s = .ok r.missing s := by
    rw [chosen_apply_bound hreceiver, if_neg hop]
  have hcheck : q.check (s.policy p) = .ok () := by
    cases q <;> (cases hr; rfl)
  have hperform : q.perform p = pure .undefined := by
    cases q <;> (cases hr; rfl)
  refine .granted hcheck hk (.of_eq ?_)
  rw [hperform]
  exact delivers_missing h (by rw [hreceiver]; rfl) (by rw [hreceiver]; rfl)

theorem performs_methodRef {i : Nat} {c : HostClass} {m : String} {b : Bool}
    (h : r.descriptor.Asks r.args q) (hr : q.receiver = .object (.methodRef i c m b)) :
    r.Performs p q s := by
  have hreceiver : r.receiver = .object (.methodRef i c m b) := h.argument_zero.trans hr
  have hperform : q.perform p = pure .undefined := by
    cases q <;> (cases hr; rfl)
  refine performs_checked (by rw [hr]; rfl) (chosen_eq_methodRef hreceiver)
    ⟨r.missing, s, by rw [if_neg h.ne_call.1]; rfl, .of_eq ?_⟩
  rw [hperform]
  exact delivers_missing h (by rw [hreceiver]; rfl) (by rw [hreceiver]; rfl)

/-- A method that is read through an adapter. -/
theorem performs_superMethod {i : Nat} {a : Value} {key : String}
    (h : r.descriptor.Asks r.args (.read (.object (.superAdapter i a)) key true)) :
    r.Performs p (.read (.object (.superAdapter i a)) key true) s := by
  have hreceiver : r.receiver = .object (.superAdapter i a) := h.argument_zero
  have hkey : r.descriptor.memberKey r.args = pure key := h.memberKey
  have hop : r.descriptor.operation = .getMethod := by simpa using h.2.1
  have hchosen := chosen_apply_superAdapter (p := p) hreceiver s
  rw [if_pos hop] at hchosen
  cases hcheck : (s.policy p).checkCallee a with
  | error e =>
      rw [hcheck] at hchosen
      exact .denied hcheck hchosen
  | ok u =>
      rw [hcheck] at hchosen
      refine .granted hcheck hchosen (.of_eq ?_)
      rw [Candidate.delivers_of_object rfl, eval_byType, Code.eval, evalSuperGet, hkey,
        h.argument_zero]
      rfl

/-- An adapter has nothing but the overridden methods of the adapted object. -/
theorem performs_superAdapter {i : Nat} {a : Value} (h : r.descriptor.Asks r.args q)
    (hr : q.receiver = .object (.superAdapter i a)) : r.Performs p q s := by
  have hreceiver : r.receiver = .object (.superAdapter i a) := h.argument_zero.trans hr
  -- whatever is no read of a method is linked for a missing member
  have hmissing (hop : r.descriptor.operation ≠ .getMethod)
      (hcheck : q.check (s.policy p) = .ok ()) (hperform : q.perform p = pure .undefined) :
      r.Performs p q s := by
    have hchosen := chosen_apply_superAdapter (p := p) hreceiver s
    rw [if_neg hop] at hchosen
    refine .granted hcheck hchosen (.of_eq ?_)
    rw [hperform]
    exact delivers_missing h (by rw [hreceiver]; rfl) (by rw [hreceiver]; rfl)
  cases q with
  | read v key prefersMethod =>
      obtain rfl : v = .object (.superAdapter i a) := hr
      cases prefersMethod with
      | true => exact performs_superMethod h
      | false => exact hmissing (by simpa using h.2.1) rfl rfl
  | write v key w isStrict =>
      obtain rfl : v = .object (.superAdapter i a) := hr
      refine hmissing ?_ rfl rfl
      intro hop
      have hset := h.1
      rw [hop] at hset
      cases hset

end LinkRequest

end DynamicLinking
