/-
A callable is bound to a receiver and leading arguments, and the result can be bound again, as often
as one likes.  However many steps there are, the result is one layer around the callable that was
there before the first of them: it keeps the receiver of the first step and has the arguments of all
steps, in their order.  There are two kinds of layers, one for script functions and one for all
other callables.  They are made, called and constructed with by different code, and they obey the
same laws.

Main definitions:

* `Value.IsLayer` — **the laws of a bound callable**;
* `bindAll` — binding step after step.

Main results:

* `isLayer_of_binding?` — both kinds of layers obey the laws;
* `bindValue_of_unbound`, `bindValue_of_bound` — what one step makes of a callable and of a layer;
* `bindAll_of_unbound` — **all steps make one layer**.
-/

import DynamicLinking.Callable
import DynamicLinking.Proofs.Evolution

set_option autoImplicit false

namespace DynamicLinking

/-! ### The laws of a layer -/

/-- The computations are the same, except that they may refuse to construct and report different
names: the name of a bound script function says that it is bound. -/
def ConstructsAlike (m m' : RunM Value) : Prop :=
  m = m' ∨ ∃ name : String, m = fail (.notConstructor ("bound " ++ name)) ∧
    m' = fail (.notConstructor name)

/-- The value is one layer around a callable, with a receiver and leading arguments. -/
structure Value.IsLayer (f callee self : Value) (leading : List Value) : Prop where
  binding : f.binding? = some (callee, self, leading)
  /-- The callable is no layer itself. -/
  single : callee.binding? = none
  strictness : f.strictness = callee.strictness
  /-- The receiver of a call is overlooked. -/
  call : ∀ this args, callValue f this args = callValue callee self (leading ++ args)
  construct : ∀ args,
    ConstructsAlike (constructValue f args) (constructValue callee (leading ++ args))

section

variable {f c self : Value} {leading : List Value}

/-- What is bound to something is a layer of one of the two kinds. -/
theorem binding?_cases (h : f.binding? = some (c, self, leading)) :
    (∃ i, f = .object (.bound i c self leading)) ∨
    (∃ i t code, f = .object (.boundFunction i t code self leading) ∧
      c = .object (.function t code)) := by
  unfold Value.binding? at h
  split at h
  · cases h
    exact .inl ⟨_, rfl⟩
  · cases h
    exact .inr ⟨_, _, _, rfl, rfl⟩
  · cases h

theorem callValue_of_binding? (h : f.binding? = some (c, self, leading)) (this : Value)
    (args : List Value) : callValue f this args = callValue c self (leading ++ args) := by
  rcases binding?_cases h with ⟨i, rfl⟩ | ⟨i, t, code, rfl, rfl⟩
  · exact callValue_bound i c self leading this args
  · simp only [callValue, callFunction]

theorem constructValue_of_binding? (h : f.binding? = some (c, self, leading))
    (args : List Value) :
    ConstructsAlike (constructValue f args) (constructValue c (leading ++ args)) := by
  rcases binding?_cases h with ⟨i, rfl⟩ | ⟨i, t, code, rfl, rfl⟩
  · left
    rw [constructValue]
  · simp only [constructValue, constructFunction]
    cases code.isConstructor with
    | true => exact .inl rfl
    | false => exact .inr ⟨code.name, rfl, rfl⟩

theorem strictness_of_binding? (h : f.binding? = some (c, self, leading))
    (hc : c.isCallable = true) : f.strictness = c.strictness := by
  rcases binding?_cases h with ⟨i, rfl⟩ | ⟨i, t, code, rfl, rfl⟩
  · have hf : (Value.object (.bound i c self leading)).isCallable = true := rfl
    simp only [Value.strictness, hf, hc, Value.isStrict, ↓reduceIte]
  · rfl

theorem isLayer_of_binding? (h : f.binding? = some (c, self, leading))
    (hc : c.isCallable = true) (hbound : c.binding? = none) : f.IsLayer c self leading where
  binding := h
  single := hbound
  strictness := strictness_of_binding? h hc
  call := callValue_of_binding? h
  construct := constructValue_of_binding? h

end

/-! ### Steps -/

section

variable {f c self : Value} {leading : List Value}

/-- The first step makes a layer around the callable. -/
theorem bindValue_of_unbound (hc : c.isCallable = true) (hbound : c.binding? = none)
    (self : Value) (leading : List Value) (s : Store) :
    ∃ f, bindValue c self leading s = .ok f { s with nextId := s.nextId + 1 } ∧
      f.binding? = some (c, self, leading) := by
  cases c with
  | primitive p => cases hc
  | object o =>
      cases o with
      | bound i callee this l => cases hbound
      | boundFunction i t code this l => cases hbound
      | function t code => exact ⟨_, rfl, rfl⟩
      | _ =>
        refine ⟨.object (.bound s.nextId _ self leading), ?_, rfl⟩
        simp only [bindValue, hc]
        rfl

/-- A further step keeps the callable and the receiver, and its arguments follow those of the
steps before. -/
theorem bindValue_of_bound (h : f.binding? = some (c, self, leading)) (this : Value)
    (more : List Value) (s : Store) :
    ∃ g, bindValue f this more s = .ok g { s with nextId := s.nextId + 1 } ∧
      g.binding? = some (c, self, leading ++ more) := by
  rcases binding?_cases h with ⟨i, rfl⟩ | ⟨i, t, code, rfl, rfl⟩
  · exact ⟨_, rfl, rfl⟩
  · exact ⟨_, rfl, rfl⟩

/-- A callable bound step after step, each time to a receiver and leading arguments. -/
def bindAll (f : Value) (steps : List (Value × List Value)) : StoreM Value :=
  steps.foldlM (fun g step => bindValue g step.1 step.2) f

/-- Further steps only add their arguments, in the order of the steps. -/
theorem bindAll_of_bound (h : f.binding? = some (c, self, leading))
    (steps : List (Value × List Value)) (s : Store) :
    ∃ g, bindAll f steps s = .ok g { s with nextId := s.nextId + steps.length } ∧
      g.binding? = some (c, self, leading ++ steps.flatMap Prod.snd) := by
  induction steps generalizing f leading s with
  | nil => exact ⟨f, rfl, by rw [h, List.flatMap_nil, List.append_nil]⟩
  | cons step steps ih =>
      obtain ⟨g, hg, hbinding⟩ := bindValue_of_bound h step.1 step.2 s
      obtain ⟨k, hk, hsteps⟩ := ih hbinding { s with nextId := s.nextId + 1 }
      refine ⟨k, ?_, ?_⟩
      · rw [bindAll, List.foldlM_cons, StoreM.bind_of_ok hg]
        rw [List.length_cons, Nat.add_comm steps.length 1, ← Nat.add_assoc]
        exact hk
      · rw [hsteps, List.flatMap_cons, List.append_assoc]

/-- **All steps make one layer.**  A callable that is not bound can be bound step after step, which
takes a new identity for every step and changes nothing else.  The result is one layer around the
callable, with the receiver of the first step and the arguments of all steps. -/
theorem bindAll_of_unbound (hc : c.isCallable = true) (hbound : c.binding? = none) (self : Value)
    (leading : List Value) (steps : List (Value × List Value)) (s : Store) :
    ∃ f, bindAll c ((self, leading) :: steps) s =
        .ok f { s with nextId := s.nextId + (steps.length + 1) } ∧
      f.IsLayer c self (leading ++ steps.flatMap Prod.snd) := by
  obtain ⟨g, hg, hfirst⟩ := bindValue_of_unbound hc hbound self leading s
  obtain ⟨f, hf, hlayer⟩ := bindAll_of_bound hfirst steps { s with nextId := s.nextId + 1 }
  refine ⟨f, ?_, isLayer_of_binding? hlayer hc hbound⟩
  rw [bindAll, List.foldlM_cons, StoreM.bind_of_ok hg, Nat.add_comm steps.length 1,
    ← Nat.add_assoc]
  exact hf

end

namespace TwoSteps

/-- A strict function that cannot be constructed with. -/
def sum : Value :=
  .object (.function 0 ⟨"sum", true, false, []⟩)

/-- The second receiver is dropped, the second argument is not. -/
theorem isLayer_sum : sum.isCallable = true ∧ sum.binding? = none ∧
    ∃ f, bindAll sum [(.int 1, [.int 2]), (.null, [.int 3])] {} = .ok f { nextId := 2 } ∧
      f.IsLayer sum (.int 1) [.int 2, .int 3] :=
  ⟨rfl, rfl, bindAll_of_unbound rfl rfl (.int 1) [.int 2] [(.null, [.int 3])] {}⟩

end TwoSteps

end DynamicLinking
