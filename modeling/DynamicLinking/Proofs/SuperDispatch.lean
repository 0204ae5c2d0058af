/-
A super adapter wraps a host object.  Reading a method `m` through it gives the method `super$m` of
the object, bound to the object.  The receiver of this first binding is kept by every later one, and
a call site passes on whatever the callable is bound to, so that nothing that comes afterwards
changes where the call ends: neither the receivers of further bindings nor the receiver of the call.

The site that reads the method has a type for its results.  It returns the callable itself only if
the type takes any value; a site for texts, say, returns the text of the callable.

Main definitions:

* `Value.DispatchesTo` — however often a callable is bound further, its calls run one method on one
  receiver.

Main results:

* `invokeSite_superGet`, `invokeSite_bound` — what sites do with super adapters and with bound
  callables, in any state of their caches;
* `dispatchesTo_of_binding?` — an instance method bound to an instance dispatches to the method;
* `superDispatch_fixed` — **so does what is read through a super adapter**.
-/

import DynamicLinking.Proofs.BindingSteps
import DynamicLinking.Proofs.Members
import DynamicLinking.Proofs.ScriptAccess

set_option autoImplicit false

namespace DynamicLinking

/-! ### What the sites run -/

section

variable {s : Store} {id : Nat} {site : CallSite} {args : List Value}

/-- **A site reads a method through a super adapter** by looking it up in the class of the adapted
object, whatever the site holds; then the type of the site makes something of it. -/
theorem invokeSite_superGet (hs : s.Reachable) (hsite : s.sites.get? id = some site)
    (hchain : site.chain.IsDefault .permitAll) (hop : site.descriptor.operation = .getMethod)
    {i : Nat} {h : Value} (hreceiver : Value.argument args 0 = .object (.superAdapter i h))
    {name : String} (hkey : site.descriptor.stringKey? args = some name) :
    ∃ t, s.ServedIn t ∧ ∀ run, invokeSite id args run s =
      ((superMethod .permitAll h name : RunM Value) >>= finish site.descriptor.anyFilter?)
        run t := by
  obtain ⟨hserved, hrun⟩ := invokeSite_of_code hchain hs hsite args
    (.superGet site.descriptor .permitAll) fun r u hd htype => by
      rw [hreceiver] at htype
      obtain ⟨j, b, hr⟩ := Value.eq_of_runtimeType_superAdapter htype
      refine ⟨_, u, LinkRequest.chosen_superAdapter hr, ?_⟩
      rw [hd, if_pos hop]
      exact ⟨rfl, rfl⟩
  refine ⟨_, hserved, fun run => ?_⟩
  rw [hrun, Code.eval, evalSuperGet, Descriptor.memberKey_passes,
    Descriptor.memberKey_of_stringKey? hkey, pure_bind, Descriptor.argument_passes, hreceiver]

/-- **A site calls a bound callable** by calling what it is bound to, whatever the site holds. -/
theorem invokeSite_bound (hs : s.Reachable) (hsite : s.sites.get? id = some site)
    (hchain : site.chain.IsDefault .permitAll) (hop : site.descriptor.operation = .call) {n : Nat}
    (hd : site.descriptor.signature = Signature.generic n) (i : Nat) (callee self this : Value)
    (leading rest : List Value) :
    ∃ t, s.ServedIn t ∧ ∀ run,
      invokeSite id (.object (.bound i callee self leading) :: this :: rest) run s =
        callValue callee self (leading ++ rest) run t := by
  obtain ⟨hserved, hrun⟩ := invokeSite_of_code_of_generic hchain hs hsite hd
    (.object (.bound i callee self leading) :: this :: rest)
    (.checkedCallable site.descriptor .permitAll) fun r u hr htype => by
      obtain ⟨j, f, a, l, hreceiver⟩ := Value.eq_of_runtimeType_bound htype
      refine ⟨_, u, LinkRequest.chosen_bound hreceiver, ?_⟩
      rw [hr, if_pos (.inl hop)]
      exact ⟨rfl, rfl⟩
  refine ⟨_, hserved, fun run => ?_⟩
  rw [hrun, Code.eval, checkCallee_permitAll, liftM_pure, pure_bind, evalCallable,
    if_neg (by simp [hop]), Descriptor.callArguments, if_neg (by simp [hop])]
  exact congrFun (congrFun (callValue_bound i callee self leading this rest) run) _

end

/-! ### Dispatch -/

/-- However often the callable is bound further, to whatever receivers, a call of the result runs
the method on `h`, on the arguments of all bindings and then those of the call, converted to the
types that the method declares.  The call may be made at any site of the default chain whose types
are all `object`, in any state of its cache, and with any receiver. -/
def Value.DispatchesTo (f h : Value) (m : HostMethod) : Prop :=
  ∀ (steps : List (Value × List Value)) (u : Store), ∃ g u', bindAll f steps u = .ok g u' ∧
    ∀ (s : Store) (id : Nat) (site : CallSite) (n : Nat), s.Reachable →
      s.sites.get? id = some site → site.chain.IsDefault .permitAll →
      site.descriptor.operation = .call → site.descriptor.signature = Signature.generic n →
      ∀ (this : Value) (args : List Value), ∃ t, s.ServedIn t ∧ ∀ run,
        invokeSite id (g :: this :: args) run s =
          invokeHost m h (steps.flatMap Prod.snd ++ args) run t

section

variable {h : Value} {c : HostClass} {name : String} {m : HostMethod}

/-- An instance method of the class of an instance can be called on the instance. -/
theorem callMethodRef_of_findMethod? (hc : h.hostClass? = some c)
    (hm : c.findMethod? name = some m) (args : List Value) :
    callMethodRef c name false h args = invokeHost m h args := by
  have hassignable : (h.hostClass?.any fun d => d.isAssignableTo c) = true := by
    rw [hc]
    exact HostClass.isAssignableTo_refl c
  unfold callMethodRef
  rw [if_neg Bool.false_ne_true, hm]
  dsimp only
  rw [if_neg Bool.false_ne_true, if_pos hassignable]

/-- **An instance method that is bound to an instance dispatches to the method on the instance.** -/
theorem dispatchesTo_of_binding? (hc : h.hostClass? = some c) (hm : c.findMethod? name = some m)
    {f : Value} {i : Nat}
    (hf : f.binding? = some (.object (.methodRef i c name false), h, [])) :
    f.DispatchesTo h m := by
  intro steps u
  obtain ⟨g, hg, hbinding⟩ := bindAll_of_bound hf steps u
  refine ⟨g, _, hg, ?_⟩
  intro s id site n hs hsite hchain hop hd this args
  rcases binding?_cases hbinding with ⟨j, rfl⟩ | ⟨j, t, code, -, hcallee⟩
  · obtain ⟨t, hserved, hrun⟩ := invokeSite_bound hs hsite hchain hop hd j
      (.object (.methodRef i c name false)) h this (steps.flatMap Prod.snd) args
    refine ⟨t, hserved, fun run => ?_⟩
    rw [List.nil_append, hrun, callValue, callMethodRef_of_findMethod? hc hm]
  · cases hcallee

/-- What is read through an adapter is the overridden method, bound to the adapted object. -/
theorem superMethod_of_findMethod? (hc : h.hostClass? = some c)
    (hm : c.findMethod? ("super$" ++ name) = some m) (t : Store) :
    ∃ f, superMethod .permitAll h name t = .ok f { t with nextId := t.nextId + 2 } ∧
      f.isCallable = true ∧
      f.binding? = some (.object (.methodRef t.nextId c ("super$" ++ name) false), h, []) := by
  refine ⟨.object (.bound (t.nextId + 1) _ h []), ?_, rfl, rfl⟩
  unfold superMethod
  rw [hc]
  dsimp only
  rw [checkCallee_permitAll, hm]
  rfl

/-- **Super dispatch is fixed.**  Every instance of a host class can be wrapped in a super adapter.
If the class has a method under `super$` and a name, a site of the default chain that reads a method
of this name through the adapter reads a callable that dispatches to the method on the instance
itself, whatever receivers later bindings and calls come with.  A site that takes results of all
types returns the callable; any other site returns what its type makes of it. -/
theorem superDispatch_fixed (hc : h.hostClass? = some c)
    (hm : c.findMethod? ("super$" ++ name) = some m) (s₀ : Store) :
    ∃ adapter s₁, superAdapterOf h s₀ = .ok adapter s₁ ∧
      ∀ (s : Store) (id : Nat) (site : CallSite) (args : List Value), s.Reachable →
        s.sites.get? id = some site → site.chain.IsDefault .permitAll →
        site.descriptor.operation = .getMethod → Value.argument args 0 = adapter →
        site.descriptor.stringKey? args = some name →
        ∃ f t, f.isCallable = true ∧ f.DispatchesTo h m ∧ s.ServedIn t ∧ ∀ run,
          invokeSite id args run s = finish site.descriptor.anyFilter? f run t ∧
          (site.descriptor.signature.result = .object → invokeSite id args run s = .ok f t) := by
  have hadapter : superAdapterOf h s₀ =
      .ok (.object (.superAdapter s₀.nextId h)) { s₀ with nextId := s₀.nextId + 1 } := by
    unfold superAdapterOf
    rw [hc]
    rfl
  refine ⟨_, _, hadapter, ?_⟩
  intro s id site args hs hsite hchain hop hreceiver hkey
  obtain ⟨t, hserved, hrun⟩ := invokeSite_superGet hs hsite hchain hop hreceiver hkey
  obtain ⟨f, hmethod, hcallable, hbinding⟩ := superMethod_of_findMethod? hc hm t
  refine ⟨f, _, hcallable, dispatchesTo_of_binding? hc hm hbinding,
    hserved.of_alike (rfl : t.Alike { t with nextId := t.nextId + 2 }), fun run => ?_⟩
  have hread := (hrun run).trans (RunM.bind_of_ok hmethod _)
  refine ⟨hread, fun hobject => ?_⟩
  rw [hread, Descriptor.anyFilter?_of_object hobject]
  rfl

end

namespace Overridden

/-- A method that was overridden. -/
def method : HostMethod := ⟨"super$run", ⟨[], .string⟩, .statements []⟩

/-- A class whose only member is the method. -/
def lamp : HostClass := .ofMembers 10 "Lamp" [.method method.name method.signature []] .ordinary

/-- An instance of the class. -/
def receiver : Value := .object (.host 1 lamp)

/-- A store with a site that reads the method, for results of a type. -/
def store (result : StaticType) : Store :=
  ({} : Store).withSite 0
    (({} : Environment).newSite ⟨.getMethod, some "run", ⟨[.object], result⟩, ⟨0⟩⟩)

/-- Read through an adapter, the method is called on the instance whatever it is bound to. -/
theorem dispatchesTo_method : ∃ adapter s₁ f t, superAdapterOf receiver {} = .ok adapter s₁ ∧
    f.DispatchesTo receiver method ∧
    ∀ run, invokeSite 0 [adapter] run (store .object) = .ok f t := by
  have hc : receiver.hostClass? = some lamp := rfl
  have hm : lamp.findMethod? ("super$" ++ "run") = some method := rfl
  obtain ⟨adapter, s₁, hadapter, hread⟩ := superDispatch_fixed hc hm {}
  obtain ⟨f, t, -, hf, -, hrun⟩ := hread (store .object) 0 _ [adapter]
    (Store.reachable_newSite rfl _ _ _) rfl
    (Environment.chain_isDefault rfl) rfl rfl rfl
  exact ⟨adapter, s₁, f, t, hadapter, hf, fun run => (hrun run).2 rfl⟩

/-- A site for texts reads the text of the callable. -/
theorem text_read :
    ¬ ∀ (h : Value) (c : HostClass) (name : String) (m : HostMethod) (s₀ : Store),
      h.hostClass? = some c → c.findMethod? ("super$" ++ name) = some m →
      ∃ adapter s₁, superAdapterOf h s₀ = .ok adapter s₁ ∧
        ∀ (s : Store) (id : Nat) (site : CallSite) (args : List Value), s.Reachable →
          s.sites.get? id = some site → site.chain.IsDefault .permitAll →
          site.descriptor.operation = .getMethod → Value.argument args 0 = adapter →
          site.descriptor.stringKey? args = some name →
          ∃ f t, f.isCallable = true ∧ f.DispatchesTo h m ∧
            ∀ run, invokeSite id args run s = .ok f t := by
  intro hall
  obtain ⟨adapter, s₁, hadapter, hread⟩ := hall receiver lamp "run" method {} rfl rfl
  cases hadapter
  obtain ⟨f, t, hcallable, -, hrun⟩ := hread (store .string) 0 _
    [.object (.superAdapter 0 receiver)] (Store.reachable_newSite rfl _ _ _) rfl
    (Environment.chain_isDefault rfl) rfl rfl rfl
  have htext : ∃ u, invokeSite 0 [.object (.superAdapter 0 receiver)] (fun _ _ _ => pure .null)
      (store .string) = .ok (.string "[bound [method Lamp.super$run]]") u := ⟨_, rfl⟩
  obtain ⟨u, hu⟩ := htext
  have hsame := (hrun _).symm.trans hu
  cases hsame
  cases hcallable

end Overridden

end DynamicLinking
