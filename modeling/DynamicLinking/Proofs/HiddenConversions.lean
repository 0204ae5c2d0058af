/-
A script object that is passed to a host method is replaced by a mirror first, and converted to the
type of the parameter then.  Where the type is one of texts or of numbers, a conversion of the
object would ask its own methods; the conversion of the mirror asks nobody, cannot fail, and gives
what it gives for every object of the kind.

Main definitions:

* `StaticType.mirrorValue` — what a conversion makes of a mirror;
* `Value.hostMethod?` — the host method that a call runs, and its receiver;
* `Overlooks` — **a conversion of arguments overlooks what an object would answer**.

Main results:

* `convertArguments_at` — the conversion of arguments around one of them;
* `overlooks_of_mirror` — a conversion with a mirror among the arguments overlooks its object;
* `LinkRequest.eval_of_hostMethod` — what is linked for a call of a host method;
* `overlooks_hidden` — **calls of host methods overlook what script objects would answer**.
-/

import DynamicLinking.Proofs.HiddenObjects

set_option autoImplicit false

namespace DynamicLinking

/-! ### The conversion of a mirror -/

namespace StaticType

/-- Is the type one of texts or of numbers? -/
def isTextOrNumber : StaticType → Bool
  | .string | .int | .long | .double | .boxedInt | .boxedLong | .boxedDouble => true
  | _ => false

/-- What a conversion to a type of texts or of numbers makes of a mirror: the text that it shows, or
the number of this text. -/
def mirrorValue (t : StaticType) (target : Object) : Value :=
  match t with
  | .double | .boxedDouble => .number .nan
  | .int | .boxedInt | .long | .boxedLong => .number (.integer 0)
  | _ => .string ("[object " ++ target.mirrorClassName ++ "]")

theorem admits_mirrorValue {t : StaticType} (ht : t.isTextOrNumber = true) (o : Object) :
    t.admits (t.mirrorValue o) = true := by
  cases t <;> first | rfl | cases ht

end StaticType

/-- The text of a mirror is no number. -/
theorem ofText_mirror (o : Object) :
    Number.ofText ("[object " ++ o.mirrorClassName ++ "]") = .nan := by
  unfold Object.mirrorClassName
  split <;> decide +kernel

theorem toNumber_mirror (i : Nat) (o : Object) :
    toNumber (.object (.mirror i o)) = pure .nan := by
  exact congrArg (pure : Number → RunM Number) (ofText_mirror o)

/-- A conversion of a mirror asks nobody and cannot fail. -/
theorem convertValue_mirror {t : StaticType} (ht : t.isTextOrNumber = true) (i : Nat)
    (o : Object) : convertValue (.object (.mirror i o)) t = pure (t.mirrorValue o) := by
  have hint : Number.ofInt32 (Number.toInt32 .nan) = .integer 0 := by decide +kernel
  have hlong : Number.toInt64 .nan = 0 := by decide +kernel
  have hdouble : Number.normalize (Number.toBinary64 .nan) = .nan := by decide +kernel
  have hprimitive (t : StaticType) (ht : t = .int ∨ t = .long ∨ t = .double) :
      convertToPrimitive (.object (.mirror i o)) t = pure (t.mirrorValue o) := by
    rcases ht with rfl | rfl | rfl <;>
      simp [convertToPrimitive, toNumber_mirror, StaticType.mirrorValue, hint, hlong, hdouble]
  cases t with
  | string => rfl
  | int => exact hprimitive .int (by simp)
  | long => exact hprimitive .long (by simp)
  | double => exact hprimitive .double (by simp)
  | boxedInt => exact hprimitive .int (by simp)
  | boxedLong => exact hprimitive .long (by simp)
  | boxedDouble => exact hprimitive .double (by simp)
  | _ => cases ht

/-! ### One argument among others -/

section

variable {ts : List StaticType} {given as : List Value} {j : Nat} {t : StaticType} {v : Value}
  {o : Object} {run : Runner} {s u : Store}

/-- The conversion of arguments around one of them. -/
theorem convertArguments_at (ht : ts[j]? = some t) (hv : given[j]? = some v) :
    convertArguments ts given = (do
      let before ← convertArguments (ts.take j) (given.take j)
      let a ← convertValue v t
      let after ← convertArguments (ts.drop (j + 1)) (given.drop (j + 1))
      return before ++ a :: after) := by
  induction j generalizing ts given with
  | zero =>
      obtain ⟨ts, rfl⟩ : ∃ ts', ts = t :: ts' := by
        cases ts with
        | nil => cases ht
        | cons t' ts =>
            cases ht
            exact ⟨ts, rfl⟩
      obtain ⟨given, rfl⟩ : ∃ given', given = v :: given' := by
        cases given with
        | nil => cases hv
        | cons v' given =>
            cases hv
            exact ⟨given, rfl⟩
      simp [convertArguments]
  | succ j ih =>
      cases ts with
      | nil => cases ht
      | cons t' ts =>
          cases given with
          | nil => cases hv
          | cons v' given =>
              simp [convertArguments, ih (by simpa using ht) (by simpa using hv)]

/-- As many arguments come out of a conversion as there are parameters for them. -/
theorem length_of_convertArguments (h : convertArguments ts given run s = .ok as u)
    (hlength : given.length = ts.length) : as.length = ts.length := by
  obtain ⟨converted, rfl, hconverted⟩ := Converted.exists_append ⟨run, s, u, h⟩
  rw [← hlength, List.drop_length, List.append_nil]
  rw [← hconverted.length_eq, hlength]

end

/-- A conversion of arguments overlooks what the object behind one of them would answer if it were
asked itself. -/
structure Overlooks (ts : List StaticType) (given : List Value) (j : Nat) (t : StaticType)
    (o : Object) (run : Runner) (s : Store) : Prop where
  /-- The argument might as well be the value that every mirror of the kind is converted to, so that
  its conversion asks nobody and cannot fail. -/
  fixed : convertArguments ts given = convertArguments ts (given.set j (t.mirrorValue o))
  /-- This value is what comes out at the position. -/
  received : ∀ as u, convertArguments ts given run s = .ok as u →
    as[j]? = some (t.mirrorValue o)
  /-- If the object can be asked without a change, then the same arguments come out with the object
  itself at the position exactly if this value is what it answers. -/
  agrees_iff : ∀ before s' as u,
    convertArguments (ts.take j) (given.take j) run s = .ok before s' →
    convertArguments ts given run s = .ok as u →
    StoreM.after (convertValue (.object o) t run) s' = s' →
      (convertArguments ts (given.set j (.object o)) run s = .ok as u ↔
        convertValue (.object o) t run s' = .ok (t.mirrorValue o) s')

section

variable {ts : List StaticType} {given as : List Value} {j : Nat} {t : StaticType} {v : Value}
  {o : Object} {run : Runner} {s u : Store}

/-- A conversion that ends well ends well before a position, at it, and behind it. -/
theorem exists_of_convertArguments (ht : ts[j]? = some t) (hv : given[j]? = some v)
    (h : convertArguments ts given run s = .ok as u) :
    ∃ before s₁ a s₂ after,
      convertArguments (ts.take j) (given.take j) run s = .ok before s₁ ∧
      convertValue v t run s₁ = .ok a s₂ ∧
      convertArguments (ts.drop (j + 1)) (given.drop (j + 1)) run s₂ = .ok after u ∧
      as = before ++ a :: after := by
  rw [convertArguments_at ht hv] at h
  obtain ⟨before, s₁, hbefore, h⟩ := RunM.bind_eq_ok h
  obtain ⟨a, s₂, ha, h⟩ := RunM.bind_eq_ok h
  obtain ⟨after, s₃, hafter, h⟩ := RunM.bind_eq_ok h
  cases h
  exact ⟨before, s₁, a, s₂, after, hbefore, ha, hafter, rfl⟩

theorem convertArguments_of_parts (ht : ts[j]? = some t) (hv : given[j]? = some v)
    {before after : List Value} {a : Value} {s₁ s₂ : Store}
    (hbefore : convertArguments (ts.take j) (given.take j) run s = .ok before s₁)
    (ha : convertValue v t run s₁ = .ok a s₂)
    (hafter : convertArguments (ts.drop (j + 1)) (given.drop (j + 1)) run s₂ = .ok after u) :
    convertArguments ts given run s = .ok (before ++ a :: after) u := by
  rw [convertArguments_at ht hv, RunM.bind_of_ok hbefore, RunM.bind_of_ok ha,
    RunM.bind_of_ok hafter]
  rfl

/-- Around a mirror, the conversion of arguments goes on where it was. -/
theorem exists_of_convertArguments_mirror (ht : ts[j]? = some t)
    (htype : t.isTextOrNumber = true) {i : Nat}
    (hmirror : given[j]? = some (.object (.mirror i o)))
    (h : convertArguments ts given run s = .ok as u) :
    ∃ before s₁ after,
      convertArguments (ts.take j) (given.take j) run s = .ok before s₁ ∧
      convertArguments (ts.drop (j + 1)) (given.drop (j + 1)) run s₁ = .ok after u ∧
      as = before ++ t.mirrorValue o :: after := by
  obtain ⟨before, s₁, a, s₂, after, hbefore, ha, hafter, rfl⟩ :=
    exists_of_convertArguments ht hmirror h
  rw [convertValue_mirror htype] at ha
  cases ha
  exact ⟨before, s₁, after, hbefore, hafter, rfl⟩

/-- **A conversion of a mirror overlooks what the object would answer.** -/
theorem overlooks_of_mirror (ht : ts[j]? = some t) (htype : t.isTextOrNumber = true) {i : Nat}
    (hmirror : given[j]? = some (.object (.mirror i o))) (run : Runner) (s : Store) :
    Overlooks ts given j t o run s := by
  obtain ⟨hj, -⟩ := List.getElem?_eq_some_iff.mp hmirror
  obtain ⟨hts, -⟩ := List.getElem?_eq_some_iff.mp ht
  have hset (w : Value) : (given.set j w)[j]? = some w := by simp [hj]
  have htake (w : Value) : (given.set j w).take j = given.take j :=
    List.take_set_of_le (by omega)
  have hdrop (w : Value) : (given.set j w).drop (j + 1) = given.drop (j + 1) :=
    List.drop_set_of_lt (by omega)
  refine ⟨?_, fun as u h => ?_, fun before s' as u hbefore h hquiet => ?_⟩
  · rw [convertArguments_at ht hmirror, convertArguments_at ht (hset _), htake, hdrop,
      convertValue_mirror htype, convertValue_of_admits (StaticType.admits_mirrorValue htype o)]
  · obtain ⟨before, s₁, after, hbefore, -, rfl⟩ :=
      exists_of_convertArguments_mirror ht htype hmirror h
    have hlength : before.length = j := by
      have := length_of_convertArguments hbefore (by simp; omega)
      simp only [List.length_take] at this
      omega
    rw [List.getElem?_append_right (by omega), hlength]
    simp
  · obtain ⟨before', s₁, after, hbefore', hafter, rfl⟩ :=
      exists_of_convertArguments_mirror ht htype hmirror h
    rw [hbefore] at hbefore'
    cases hbefore'
    constructor
    · intro hself
      obtain ⟨before', s₁, a, s₂, after', hbefore', ha, -, hsame⟩ :=
        exists_of_convertArguments ht (hset _) hself
      rw [htake, hbefore] at hbefore'
      cases hbefore'
      rw [StoreM.after_of_ok ha] at hquiet
      subst hquiet
      rw [ha, (List.cons.inj (List.append_cancel_left hsame)).1]
    · intro hanswer
      refine convertArguments_of_parts ht (hset _) ?_ hanswer ?_
      · rw [htake]
        exact hbefore
      · rw [hdrop]
        exact hafter

end

/-! ### Calls of host methods -/

/-- The host method that a call of a method reference or of a functional object on a receiver runs,
and the receiver that it is run on. -/
def Value.hostMethod? (callee self : Value) : Option (HostMethod × Value) :=
  match callee with
  | .object (.methodRef _ c name isStatic) =>
      (c.referencedMethod? name isStatic).bind fun m =>
        if isStatic then some (m, .undefined)
        else if self.hostClass?.any fun d => d.isAssignableTo c then some (m, self)
        else none
  | v => (v.hostClass?.bind HostClass.functionalMethod?).map fun m => (m, v)

theorem Value.hostMethod?_cases {callee receiver self : Value} {h : HostMethod}
    (hm : callee.hostMethod? receiver = some (h, self)) :
    (∃ i c name isStatic, callee = .object (.methodRef i c name isStatic)) ∨
      self = callee ∧ ∃ c, callee.hostClass? = some c ∧ c.functionalMethod? = some h := by
  unfold hostMethod? at hm
  split at hm
  · exact .inl ⟨_, _, _, _, rfl⟩
  · obtain ⟨m, hmethod, hm⟩ := Option.map_eq_some_iff.mp hm
    cases hm
    obtain ⟨c, hc, hmethod⟩ := Option.bind_eq_some_iff.mp hmethod
    exact .inr ⟨rfl, c, hc, hmethod⟩

/-- A method reference calls its method. -/
theorem callMethodRef_of_hostMethod? {i : Nat} {c : HostClass} {name : String} {isStatic : Bool}
    {receiver seen self : Value} {h : HostMethod}
    (hm : (Value.object (.methodRef i c name isStatic)).hostMethod? receiver = some (h, self))
    (hseen : receiver.Exports seen) (given : List Value) :
    callMethodRef c name isStatic seen given = invokeHost h self given := by
  obtain ⟨m, hmethod, hm⟩ := Option.bind_eq_some_iff.mp hm
  unfold HostClass.referencedMethod? at hmethod
  unfold callMethodRef
  rw [hmethod]
  dsimp only at hm ⊢
  cases isStatic with
  | true =>
      cases hm
      rfl
  | false =>
      simp only [Bool.false_eq_true, if_false] at hm ⊢
      split at hm
      · rename_i hinstance
        cases hm
        -- an instance is seen as it is
        obtain ⟨d, hd, -⟩ := (Option.any_eq_true _ _).mp hinstance
        rw [hseen.eq_of_script?_eq_none (Value.of_hostClass? hd).1, if_pos hinstance]
      · cases hm

namespace LinkRequest

variable {r : LinkRequest} {p : PolicyRef} {s t : Store} {k : Candidate} {args : List Value}
  {c : HostClass} {h : HostMethod} {self : Value}

/-- A call of an instance with a single method to call is linked for the method. -/
theorem eq_of_chosen_functional (hop : r.descriptor.operation = .call)
    (hr : r.receiver.hostClass? = some c) (hm : c.functionalMethod? = some h)
    (hk : r.chosen p s = .ok k t) :
    k = Candidate.guarded
      (Services.hideScripts { policy := p }
        ⟨r.genericSignature h.signature.result, r.functionalCode h⟩)
      (Guard.receiverType r.receiver) := by
  refine eq_of_chosen_bean hr ?_ hk
  unfold beanInvocation?
  simp [hop, hm]

/-- A call of a method reference is linked for the method reference. -/
theorem eq_of_chosen_methodRef {i : Nat} {name : String} {isStatic : Bool}
    (hop : r.descriptor.operation = .call)
    (hr : r.receiver = .object (.methodRef i c name isStatic))
    (hk : r.chosen p s = .ok k t) : k = r.linkMethodRef { policy := p } c name isStatic := by
  rw [chosen_eq_methodRef hr] at hk
  obtain ⟨_, _, -, hk⟩ := StoreM.bind_eq_ok hk
  obtain ⟨_, _, -, hk⟩ := StoreM.bind_eq_ok hk
  cases hk
  exact if_pos hop

/-- The callee itself is called, whether it stands for a callable or not. -/
theorem eval_functionalCode (htype : (Value.argument args 0).runtimeType = r.receiver.runtimeType) :
    (r.functionalCode h).eval args =
      invokeHost h (Value.argument args 0) (r.descriptor.callArguments args) := by
  unfold functionalCode
  split
  · rename_i i m u hr
    rw [hr] at htype
    rw [Value.eq_of_runtimeType_proxy htype, hr]
    rfl
  · rfl

/-- The code that is linked for a call of a host method runs it behind the filter for host code. -/
theorem exists_eval_hideScripts (hop : r.descriptor.operation = .call)
    (hk : r.chosen p s = .ok k t) (hadmits : k.admits args = true)
    (hm : (Value.argument args 0).hostMethod? (Value.argument args 1) = some (h, self)) :
    ∃ i : Invocation,
      k.invocation.eval args = (Services.hideScripts { policy := p } i).eval args ∧
      ∀ as, List.Forall₂ Value.Exports args as →
        i.eval as = invokeHost h self (r.descriptor.callArguments as) := by
  have htype := (r.fits_chosen p s k t hk).runtimeType_eq hadmits
  rcases Value.hostMethod?_cases hm with ⟨i, c, name, isStatic, hself⟩ | ⟨rfl, c, hc, hmethod⟩
  · rw [hself] at htype hm
    obtain ⟨j, c', name', isStatic', hr⟩ := Value.eq_of_runtimeType_methodRef htype.symm
    obtain rfl := eq_of_chosen_methodRef hop hr hk
    refine ⟨⟨r.genericSignature .object, .methodCall r.descriptor⟩, ?_, fun as has => ?_⟩
    · exact r.eval_linkMethodRef p c name isStatic args
    · have hcallee : Value.argument as 0 = .object (.methodRef i c name isStatic) := by
        rw [receiver_of_exports has (by rw [hself]; rfl), hself]
      rw [Invocation.eval, Code.eval, evalMethodCall, hcallee]
      exact callMethodRef_of_hostMethod? hm (exports_argument has 1) _
  · obtain rfl := eq_of_chosen_functional hop (Value.hostClass?_of_runtimeType hc htype.symm)
      hmethod hk
    refine ⟨⟨r.genericSignature h.signature.result, r.functionalCode h⟩, rfl, fun as has => ?_⟩
    have hcallee := receiver_of_exports has (Value.of_hostClass? hc).1
    rw [← hcallee] at htype ⊢
    exact eval_functionalCode htype

/-- **What is linked for a call of a host method** runs it on the arguments as host code sees
them. -/
theorem eval_of_hostMethod (hop : r.descriptor.operation = .call) (hk : r.chosen p s = .ok k t)
    (hadmits : k.admits args = true)
    (hm : (Value.argument args 0).hostMethod? (Value.argument args 1) = some (h, self))
    (run : Runner) (u : Store) :
    ∃ given n,
      List.Forall₂ Value.Exports (r.descriptor.callArguments args) given ∧
      k.invocation.eval args run u =
        (do return importValue (← invokeHost h self given) : RunM Value)
          run { u with nextId := n } := by
  obtain ⟨i, heval, hi⟩ := exists_eval_hideScripts hop hk hadmits hm
  obtain ⟨as, n, has, -⟩ := wrapScripts_apply args run u
  have hexports := exports_of_wrapScripts has
  refine ⟨r.descriptor.callArguments as, n, List.forall₂_drop _ hexports, ?_⟩
  rw [heval, eval_hideScripts, RunM.bind_of_ok has, hi as hexports]

end LinkRequest

/-- Host code sees a mirror in the place of a script object. -/
theorem Value.Exports.exists_mirror {o : Object} {w : Value} (h : (Value.object o).Exports w)
    (ho : o.isScript = true) : ∃ n, w = .object (.mirror n o) := by
  have hscript : (Value.object o).script? = some o := by
    simp [Value.script?, Value.object?, ho]
  cases h with
  | plain hplain =>
      rw [hplain] at hscript
      cases hscript
  | mirror hmirror n =>
      rw [hmirror] at hscript
      cases hscript
      exact ⟨n, rfl⟩

theorem exists_mirror_of_exports {operands given : List Value} {j : Nat} {o : Object}
    (h : List.Forall₂ Value.Exports operands given) (hj : operands[j]? = some (.object o))
    (ho : o.isScript = true) : ∃ n, given[j]? = some (.object (.mirror n o)) := by
  obtain ⟨hlt, hget⟩ := List.getElem?_eq_some_iff.mp hj
  have hlt' : j < given.length := h.length_eq ▸ hlt
  have hseen : (Value.object o).Exports given[j] := by
    have hseen := (List.forall₂_iff_get.mp h).2 j hlt hlt'
    simpa [hget] using hseen
  obtain ⟨n, hn⟩ := hseen.exists_mirror ho
  exact ⟨n, by rw [List.getElem?_eq_getElem hlt', hn]⟩

/-- Computations that start alike go on alike. -/
theorem RunM.bind_congr_apply {α β : Type} {m m' : RunM α} {run : Runner} {s s' : Store}
    (h : m run s = m' run s') (f : α → RunM β) : (m >>= f) run s = (m' >>= f) run s' := by
  rw [RunM.bind_apply, RunM.bind_apply, StoreM.bind_apply, StoreM.bind_apply, h]

/-- **Calls of host methods overlook what script objects would answer.**  In every run of the call
sites of an environment without contributed linkers, let a site that calls serve a call of a host
method, through a method reference or through an instance with a single method.  Let a script object
stand among the operands where the method has a parameter of a type of texts or of numbers.  The
site converts the operands as host code sees them, runs the method on what comes out, and imports
its result.  The conversion overlooks what the object would answer: it asks nobody about the object
and cannot fail there, the method receives what every mirror of the kind is converted to, and this
is what it would receive for the object itself exactly if the object answers it. -/
theorem overlooks_hidden {e : Environment} (he : e.contributed = []) {s : Store}
    (hs : s.Reachable) {id : Nat} {c : CallSite} (hsite : s.sites.get? id = some c)
    (hchain : c.chain = e.chain) (hop : c.descriptor.operation = .call) {args : List Value}
    {h : HostMethod} {self : Value}
    (hcallee : (Value.argument args 0).hostMethod? (Value.argument args 1) = some (h, self))
    (hserved : ∃ i t, resolve id args s = .ok i t) {j : Nat} {ty : StaticType} {o : Object}
    (hty : h.signature.params[j]? = some ty) (htype : ty.isTextOrNumber = true)
    (hoperand : (c.descriptor.callArguments (c.descriptor.passes args))[j]? = some (.object o))
    (ho : o.isScript = true) :
    ∃ f? : Option ResultFilter, ∀ run, ∃ given u, s.ServedIn u ∧
      List.Forall₂ Value.Exports (c.descriptor.callArguments (c.descriptor.passes args)) given ∧
      invokeSite id args run s = (do
        let as ← convertArguments h.signature.params given
        let v ← enter (.host h) self as
        finish f? (importValue v)) run u ∧
      Overlooks h.signature.params given j ty o run u := by
  have hdefault : c.chain.IsDefault e.policy := by
    rw [hchain]
    exact e.chain_isDefault he
  rcases resolve_cases hdefault hs hsite args with
    ⟨f, t, hfails⟩ | ⟨r, k, f?, i, t, hserves, hserved, hresolve, heval⟩
  · obtain ⟨i, t', hresolve⟩ := hserved
    rw [hfails] at hresolve
    cases hresolve
  · obtain ⟨s₁, s₂, hchosen⟩ := hserves.chosen
    refine ⟨f?, fun run => ?_⟩
    obtain ⟨given, n, hexports, hruns⟩ := LinkRequest.eval_of_hostMethod
      (by rwa [hserves.descriptor]) hchosen hserves.admits (by simpa using hcallee) run t
    rw [hserves.descriptor] at hexports
    obtain ⟨n', hmirror⟩ := exists_mirror_of_exports hexports hoperand ho
    refine ⟨given, { t with nextId := n }, hserved.of_alike rfl, hexports, ?_,
      overlooks_of_mirror hty htype hmirror run _⟩
    rw [invokeSite_apply, hresolve]
    dsimp only
    rw [heval, RunM.bind_congr_apply hruns]
    simp only [invokeHost, bind_assoc, pure_bind]

/-! ### A script object that describes itself -/

namespace DescribedObject

/-- A static method that takes a text. -/
def method : HostMethod := ⟨"describe", ⟨[.string], .string⟩, .statements []⟩

/-- A class whose only member is the method. -/
def lamp : HostClass :=
  .ofMembers 10 "Lamp" [.staticMethod method.name method.signature []] .ordinary

/-- The method, detached. -/
def callee : Value := .object (.methodRef 1 lamp "describe" true)

/-- A function that answers a text. -/
def describe : Value :=
  .object (.function 2 ⟨"describe", false, true, [.answer (.literal (.string "lamp"))]⟩)

/-- A script object that answers `toString` with the text. -/
def script : Object := .ordinary 3

/-- A store with a new site and with the property of the object. -/
def store : Store :=
  let scripts := Table.ofList [(3, { properties := Table.ofList [("toString", describe)] })]
  Store.withSite { scripts } 0 (newCallSite 3)

/-- The object is converted to the text that it answers. -/
theorem convertValue_script :
    convertValue (.object script) .string (runEntry maxDepth) store =
      .ok (.string "lamp") store :=
  rfl

/-- The method gets the text of the mirror. -/
theorem comesTo_mirrorText :
    (invokeSite 0 [callee, .undefined, .object script]).ComesTo store method .undefined
      [.string "[object Object]"] := by
  have hserved (run : Runner) : invokeSite 0 [callee, .undefined, .object script] run store =
      (Code.filterResult (newCallSite 3).descriptor.methodCode (.convert .object)).eval
        [callee, .undefined, .object script] run
        ((resolve 0 [callee, .undefined, .object script]).after store) :=
    rfl
  have hseen (run : Runner) : ArgumentFilter.wrapScripts.apply
      [callee, .undefined, .object script] run
        ((resolve 0 [callee, .undefined, .object script]).after store) =
      .ok [callee, .undefined, .object (.mirror 0 script)]
        { (resolve 0 [callee, .undefined, .object script]).after store with nextId := 1 } :=
    rfl
  refine RunM.ComesTo.of_eq ?_ hserved
  refine RunM.ComesTo.bind (RunM.ComesTo.bind (RunM.ComesTo.of_ok ?_ hseen) _) _
  exact RunM.ComesTo.of_ok (RunM.ComesTo.enter _ _ _ _) fun run => rfl

/-- What the method gets for the object is the text of every mirror. -/
theorem receives_mirrorText :
    callee.hostMethod? .undefined = some (method, .undefined) ∧
    ∀ run, ∃ given u, store.ServedIn u ∧
      List.Forall₂ Value.Exports [.object script] given ∧
      ∀ as u', convertArguments [.string] given run u = .ok as u' →
        as[0]? = some (.string "[object Object]") := by
  have hserved : ∃ i t, resolve 0 [callee, .undefined, .object script] store = .ok i t :=
    ⟨_, _, rfl⟩
  have hsite : store.sites.get? 0 = some (newCallSite 3) := rfl
  have hcallee : (Value.argument [callee, .undefined, .object script] 0).hostMethod?
      (Value.argument [callee, .undefined, .object script] 1) = some (method, .undefined) := rfl
  have hty : method.signature.params[0]? = some .string := rfl
  obtain ⟨f?, hserves⟩ := overlooks_hidden (e := {}) (s := store) rfl
    (Store.reachable_newSite rfl _ _ _) hsite rfl rfl hcallee hserved hty rfl rfl rfl
  refine ⟨hcallee, fun run => ?_⟩
  obtain ⟨given, u, hu, hexports, -, hoverlooks⟩ := hserves run
  exact ⟨given, u, hu, hexports, hoverlooks.received⟩

/-- It is not what the object answers. -/
theorem not_always_answered :
    ¬ ∀ (e : Environment) (s : Store) (id : Nat) (c : CallSite) (args : List Value) (run : Runner)
        (h : HostMethod) (self : Value) (as : List Value) (j : Nat) (ty : StaticType) (o : Object)
        (w : Value),
      e.contributed = [] → s.Reachable → s.sites.get? id = some c → c.chain = e.chain →
      c.descriptor.operation = .call →
      (Value.argument args 0).hostMethod? (Value.argument args 1) = some (h, self) →
      h.signature.params[j]? = some ty → ty.isTextOrNumber = true →
      (c.descriptor.callArguments (c.descriptor.passes args))[j]? = some (.object o) →
      o.isScript = true → (invokeSite id args).Enters run s h self as →
      convertValue (.object o) ty run s = .ok w s → as[j]? = some w := by
  intro hall
  have hanswered := hall {} store 0 (newCallSite 3) [callee, .undefined, .object script]
    (runEntry maxDepth) method .undefined [.string "[object Object]"] 0 .string script
    (.string "lamp") rfl (Store.reachable_newSite rfl _ _ _) rfl rfl rfl rfl rfl rfl rfl rfl
    (comesTo_mirrorText.enters _) convertValue_script
  simp at hanswered

end DescribedObject

end DynamicLinking
