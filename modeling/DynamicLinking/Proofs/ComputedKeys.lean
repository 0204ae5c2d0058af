/-
Whether a call site has the key of a member in its descriptor or gets it as an argument makes no
difference, and neither does asking for a property or for an element.  Two new sites whose calls ask
for the same access both fail with the error of the policy, or both run what does the access.  Only
the identity of a method reference tells them apart: a site with a fixed key makes it when it links,
a site with a computed key makes it when it runs.

Main definitions:

* `Store.CallsAlike` — two calls have the same outcome and the same effects.

Main results:

* `callsAlike_of_asks` — **calls of new sites that ask for the same access are alike**.
-/

import DynamicLinking.Proofs.MemberLookup

set_option autoImplicit false

namespace DynamicLinking

/-- Two calls have the same outcome and the same effects.  Either both fail with the same error
before anything is run, and nothing but the state of sites and the next identity has changed.  Or
both are served, and what serves them comes to the same in every store in which a call is
served: to the same value or fault, and to the same store, up to the identities of new method
references. -/
inductive Store.CallsAlike (s : Store) (id : Nat) (args : List Value) (id' : Nat)
    (args' : List Value) : Prop where
  | denied {e : ScriptError} {t t' : Store} (h : resolve id args s = .error (.error e) t)
      (h' : resolve id' args' s = .error (.error e) t') (ht : s.ServedIn t) (ht' : s.ServedIn t')
  | served {i i' : Invocation} {t t' : Store} (h : resolve id args s = .ok i t)
      (h' : resolve id' args' s = .ok i' t') (ht : s.ServedIn t) (ht' : s.ServedIn t')
      (halike : ∀ (run : Runner) (u : Store), s.ServedIn u →
        Outcome.Alike (i.eval args run u) (i'.eval args' run u))

section

variable {s : Store} {id : Nat} {c : CallSite} {p : PolicyRef} {q : MemberAccess}
  {args : List Value}

/-- What a call of a new site that asks for an access comes to. -/
inductive CallPerforms (s : Store) (id : Nat) (args : List Value) (p : PolicyRef)
    (q : MemberAccess) : Prop where
  | denied {e : ScriptError} {t : Store} (hcheck : q.check (s.policy p) = .error e)
      (h : resolve id args s = .error (.error e) t) (ht : s.ServedIn t)
  | granted {i : Invocation} {t : Store} (hcheck : q.check (s.policy p) = .ok ())
      (h : resolve id args s = .ok i t) (ht : s.ServedIn t)
      (halike : ∀ (run : Runner) (u : Store), s.ServedIn u →
        Outcome.Alike (i.eval args run u) (q.perform p run u))

/-- A call of a new site comes to the access that it asks for. -/
theorem callPerforms_of_asks {e : Environment} (he : e.contributed = []) {d : Descriptor} {n : Nat}
    (hsite : s.sites.get? id = some { descriptor := d, chain := e.chain })
    (hd : d.signature = Signature.generic n) (h : d.Asks args q)
    (hdeclared : q.receiver.IsDeclared) (hyields : q.receiver.GettersYield) :
    CallPerforms s id args e.policy q := by
  have hdefault := Environment.chain_isDefault he
  let c : CallSite := { descriptor := d, chain := e.chain }
  let linking : Store := s.withSite id (c.countInvoke false).countLink
  have hlinking : s.ServedIn linking := rfl
  have hpolicy : linking.policy e.policy = s.policy e.policy := policy_withSite s id _ _
  have hperforms : LinkRequest.Performs ⟨d, args, (c.countInvoke false).isUnstable⟩ e.policy q
      linking := LinkRequest.performs_of_asks h hdeclared hyields e.policy linking
  cases hperforms with
  | denied hcheck hk =>
      rw [hpolicy] at hcheck
      exact .denied hcheck (resolve_of_chosen_error hdefault hsite rfl hk) hlinking
  | granted hcheck hk hdelivers =>
      rw [hpolicy] at hcheck
      obtain ⟨i, t, hi, ht, heval⟩ := resolve_of_chosen hdefault hd hsite rfl hk
      refine .granted hcheck hi ht fun run u hu => ?_
      rw [heval]
      exact hdelivers run u (scripts_of_servedIn hu)

end

/-- **Fixed and computed keys agree.**  Two new sites of an environment without contributed linkers,
all of whose types are `object`, are called in one store, and the calls ask for the same access: a
read or a write of a member of one receiver under one key, which is fixed by the descriptor or given
as an argument; whether a property or an element is asked for does not matter.  The class of the
receiver is one that was defined, and its getters are not declared without a result.  Then the calls
have the same outcome and the same effects. -/
theorem callsAlike_of_asks {e : Environment} (he : e.contributed = []) {s : Store} {id id' : Nat}
    {d d' : Descriptor} {n n' : Nat}
    (hsite : s.sites.get? id = some { descriptor := d, chain := e.chain })
    (hsite' : s.sites.get? id' = some { descriptor := d', chain := e.chain })
    (hd : d.signature = Signature.generic n) (hd' : d'.signature = Signature.generic n')
    {args args' : List Value} {q : MemberAccess} (h : d.Asks args q) (h' : d'.Asks args' q)
    (hdeclared : q.receiver.IsDeclared) (hyields : q.receiver.GettersYield) :
    s.CallsAlike id args id' args' := by
  have hcall := callPerforms_of_asks he hsite hd h hdeclared hyields
  have hcall' := callPerforms_of_asks he hsite' hd' h' hdeclared hyields
  -- the policy is asked about the access, so that it decides the same for both calls
  cases hcall with
  | denied hcheck hi ht =>
      cases hcall' with
      | denied hcheck' hi' ht' =>
          rw [hcheck] at hcheck'
          cases hcheck'
          exact .denied hi hi' ht ht'
      | granted hcheck' =>
          rw [hcheck] at hcheck'
          cases hcheck'
  | granted hcheck hi ht halike =>
      cases hcall' with
      | denied hcheck' =>
          rw [hcheck] at hcheck'
          cases hcheck'
      | granted _ hi' ht' halike' =>
          refine .served hi hi' ht ht' fun run u hu => ?_
          exact (halike run u hu).trans (halike' run u hu).symm

/-! ### A field of an instance -/

namespace FieldAccess

/-- A class with a single field. -/
def gaugeClass : HostClass := .ofMembers 1 "Gauge" [.field "level" .object] .ordinary

/-- An instance of the class. -/
def gauge : Value := .object (.host 2 gaugeClass)

/-- A site with a fixed key. -/
def fixed : CallSite :=
  ({} : Environment).newSite ⟨.getProperty, some "level", Signature.generic 1, ⟨0⟩⟩

/-- A site that gets the key as an argument. -/
def computed : CallSite :=
  ({} : Environment).newSite ⟨.getElement, none, Signature.generic 2, ⟨0⟩⟩

/-- A store with both sites. -/
def store : Store := (({} : Store).withSite 3 fixed).withSite 4 computed

theorem isDeclared_gauge : gauge.IsDeclared := by
  rintro c (hc | ⟨i, hc⟩)
  · cases hc
    exact HostClass.isDeclared_ofMembers _ _ _ _
  · cases hc

theorem yields_gauge : gauge.GettersYield := by
  refine ⟨fun c hc n q hq => ?_, fun i c hc => by cases hc⟩
  cases hc
  obtain ⟨d, hd, hq⟩ := List.exists_of_findSome?_eq_some hq
  rw [gaugeClass, HostClass.chain_ofMembers, List.mem_singleton] at hd
  subst hd
  simp only [List.foldl_cons, List.foldl_nil, ClassDecl.add, Table.get?_insert] at hq
  split at hq
  · cases hq
    intro hvoid
    cases hvoid
  · simp at hq

/-- The field of the instance is read alike both ways. -/
theorem callsAlike_gauge : store.CallsAlike 3 [gauge] 4 [gauge, .string "level"] := by
  have hfixed : fixed.descriptor.Asks [gauge] (.read gauge "level" false) :=
    ⟨rfl, rfl, .inl ⟨rfl, rfl⟩⟩
  have hcomputed :
      computed.descriptor.Asks [gauge, .string "level"] (.read gauge "level" false) :=
    ⟨rfl, rfl, .inr ⟨rfl, rfl⟩⟩
  have hsite : store.sites.get? 3 =
      some { descriptor := fixed.descriptor, chain := ({} : Environment).chain } := rfl
  have hsite' : store.sites.get? 4 =
      some { descriptor := computed.descriptor, chain := ({} : Environment).chain } := rfl
  exact callsAlike_of_asks rfl hsite hsite' rfl rfl hfixed hcomputed isDeclared_gauge yields_gauge

end FieldAccess

end DynamicLinking
