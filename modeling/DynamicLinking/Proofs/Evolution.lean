/-
Whatever scripts and their environment do, the store changes in small steps of a few kinds: a
script object gets a property, another prototype or no further properties, a call site is made or
serves a call, and everything else leaves script objects and call sites alone.  A property of the
store that these steps preserve is preserved by every computation of the model, user code included.

Main definitions:

* `StoreM.after` — the store that a computation leaves behind, whether it fails or not;
* `Store.Step`, `Store.Evolves` — **the steps**, and the runs made of them;
* `Takes`, `RunTakes` — a computation whose effect is a run of steps of some kind, whatever store it
  starts from and whatever user code it meets;
* `AllowsIds`, `AllowsCalls`, `AllowsBodies` — the kinds of steps among which are the effects of new
  identities, of calls and of user code;
* `Store.Reachable` — the stores in which a run ends that starts with call sites that were never
  called.

Main results:

* `Store.Evolves.preserves` — **an invariant of the steps is an invariant of the runs**;
* `takes_bind`, `runTakes_bind` — computations one after the other take the steps of both;
* `Takes.single` — a run of steps of a reflexive and transitive kind is one such step.
-/

import DynamicLinking.Execution
import Mathlib.Logic.Relation

set_option autoImplicit false

namespace DynamicLinking

/-! ### The store after a computation -/

/-- The store that a computation leaves behind. -/
def StoreM.after {α : Type} (m : StoreM α) (s : Store) : Store :=
  match m s with
  | .ok _ t => t
  | .error _ t => t

namespace StoreM

theorem after_of_ok {α : Type} {m : StoreM α} {s t : Store} {a : α} (h : m s = .ok a t) :
    m.after s = t := by
  simp [after, h]

theorem after_of_error {α : Type} {m : StoreM α} {s t : Store} {f : Fault}
    (h : m s = .error f t) : m.after s = t := by
  simp [after, h]

theorem bind_apply {α β : Type} (m : StoreM α) (f : α → StoreM β) (s : Store) :
    (m >>= f) s =
      match m s with
      | .ok a t => f a t
      | .error e t => .error e t := by
  simp only [bind, EStateM.bind]
  cases m s <;> rfl

theorem bind_of_ok {α β : Type} {m : StoreM α} {s t : Store} {a : α} (h : m s = .ok a t)
    (f : α → StoreM β) : (m >>= f) s = f a t := by
  rw [bind_apply, h]

theorem bind_of_error {α β : Type} {m : StoreM α} {s t : Store} {e : Fault}
    (h : m s = .error e t) (f : α → StoreM β) : (m >>= f) s = .error e t := by
  rw [bind_apply, h]

theorem get_bind {β : Type} (f : Store → StoreM β) (s : Store) : (get >>= f) s = f s s := rfl

/-- A sequence that ends well ended well after its first part. -/
theorem bind_eq_ok {α β : Type} {m : StoreM α} {f : α → StoreM β} {s u : Store} {b : β}
    (h : (m >>= f) s = .ok b u) : ∃ a t, m s = .ok a t ∧ f a t = .ok b u := by
  rw [bind_apply] at h
  cases hm : m s with
  | ok a t => exact ⟨a, t, rfl, by simpa [hm] using h⟩
  | error e t => simp [hm] at h

end StoreM

namespace RunM

theorem bind_apply {α β : Type} (m : RunM α) (f : α → RunM β) (run : Runner) :
    (m >>= f) run = m run >>= fun a => f a run := rfl

theorem pure_apply {α : Type} (a : α) (run : Runner) : (pure a : RunM α) run = pure a := rfl

theorem lift_apply {α : Type} (m : StoreM α) (run : Runner) : (liftM m : RunM α) run = m := rfl

theorem bind_of_ok {α β : Type} {m : RunM α} {run : Runner} {s t : Store} {a : α}
    (h : m run s = .ok a t) (f : α → RunM β) : (m >>= f) run s = f a run t :=
  StoreM.bind_of_ok h fun a => f a run

theorem bind_of_error {α β : Type} {m : RunM α} {run : Runner} {s t : Store} {e : Fault}
    (h : m run s = .error e t) (f : α → RunM β) : (m >>= f) run s = .error e t :=
  StoreM.bind_of_error h fun a => f a run

/-- Computations that do nothing but give a value differ if the values do. -/
theorem pure_inj {α : Type} {a b : α} (h : (pure a : RunM α) = pure b) : a = b := by
  have happly : (EStateM.Result.ok a ({} : Store) : EStateM.Result Fault Store α) = .ok b {} :=
    congrFun (congrFun h fun _ _ _ => pure .undefined) {}
  exact (EStateM.Result.ok.inj happly).1

end RunM

/-! ### Steps -/

namespace Store

/-- Neither script objects nor call sites differ. -/
def Apart (s t : Store) : Prop :=
  t.scripts = s.scripts ∧ t.sites = s.sites

/-- One change of the store. -/
inductive Step : Store → Store → Prop where
  /-- Something else than a script object or a call site changes. -/
  | apart {s t : Store} (h : s.Apart t) : Step s t
  /-- A property is added or overwritten. -/
  | define (s : Store) (o : Object) (key : String) (v : Value) :
      Step s (s.defineProperty o key v).1
  /-- A prototype is replaced. -/
  | setPrototype (s : Store) (o : Object) (p? : Option Object) :
      Step s (s.setPrototype o p?).1
  /-- An object is kept from taking new properties. -/
  | preventExtensions (s : Store) (o : Object) : Step s (s.preventExtensions o)
  /-- An object is made with a prototype. -/
  | create (s : Store) (id : Nat) (p : Object) :
      Step s (s.setScript id { prototype? := some p, layout := (s.script id).layout + 1 })
  /-- A call site is made. -/
  | addSite {s : Store} {id : Nat} (d : Descriptor) (chain : LinkerChain)
      (h : s.sites.get? id = none) :
      Step s { s with sites := s.sites.insert id { descriptor := d, chain } }
  /-- A call site serves a call, from its cache or by linking. -/
  | serve (s : Store) (id : Nat) (args : List Value) : Step s ((resolve id args).after s)

/-- A run of steps. -/
abbrev Evolves : Store → Store → Prop :=
  Relation.ReflTransGen Step

/-- Every call site is as it was made. -/
def Untouched (s : Store) : Prop :=
  ∀ id c, s.sites.get? id = some c → c = { descriptor := c.descriptor, chain := c.chain }

/-- A run that started with call sites that were never called ends in the store. -/
def Reachable (s : Store) : Prop :=
  ∃ s₀ : Store, s₀.Untouched ∧ s₀.Evolves s

theorem Reachable.evolves {s t : Store} (hs : s.Reachable) (h : s.Evolves t) : t.Reachable := by
  obtain ⟨s₀, h₀, hs⟩ := hs
  exact ⟨s₀, h₀, hs.trans h⟩

/-- What every step preserves is preserved by every run. -/
theorem Evolves.preserves {P : Store → Prop} (hP : ∀ s t, Step s t → P s → P t) {s t : Store}
    (h : s.Evolves t) (hs : P s) : P t := by
  induction h with
  | refl => exact hs
  | tail _ hstep ih => exact hP _ _ hstep ih

/-! ### What computations do by themselves

A relation between stores that has room for the effects of the basic operations has room for those
of everything that is made of them. -/

/-- Among the steps is the handing out of an identity. -/
class AllowsIds (S : Store → Store → Prop) : Prop where
  fresh (s : Store) : S s { s with nextId := s.nextId + 1 }

/-- Among the steps are the effects of calls, the user code that they run aside. -/
class AllowsCalls (S : Store → Store → Prop) : Prop extends AllowsIds S where
  define (s : Store) (o : Object) (key : String) (v : Value) : S s (s.defineProperty o key v).1
  create (s : Store) (p : Object) :
    Relation.ReflTransGen S s ((newScriptObject (some p)).after s)
  setForeign (s : Store) (id : Nat) (f : ForeignState) : S s (s.setForeign id f)
  serve (s : Store) (id : Nat) (args : List Value) : S s ((resolve id args).after s)

/-- Among the steps are the effects of user code, too: it also makes host objects and writes their
fields. -/
class AllowsBodies (S : Store → Store → Prop) : Prop extends AllowsCalls S where
  setField (s : Store) (id : Nat) (key : String) (v : Value) : S s (s.setField id key v)
  make (s : Store) (fields : List (String × Value)) :
    S s { s with
      nextId := s.nextId + 1
      fields := s.fields.insert s.nextId (Table.ofList fields) }

instance : AllowsBodies Step where
  fresh _ := .apart ⟨rfl, rfl⟩
  define := .define
  create s p :=
    (Relation.ReflTransGen.single (.apart ⟨rfl, rfl⟩)).tail
      (.create { s with nextId := s.nextId + 1 } s.nextId p)
  setForeign _ _ _ := .apart ⟨rfl, rfl⟩
  serve := .serve
  setField _ _ _ _ := .apart ⟨rfl, rfl⟩
  make _ _ := .apart ⟨rfl, rfl⟩

end Store

/-! ### Computations that take steps -/

/-- The effect of the computation is a run of steps of one kind. -/
def Takes {α : Type} (S : Store → Store → Prop) (m : StoreM α) : Prop :=
  ∀ s, Relation.ReflTransGen S s (m.after s)

/-- The effect of the computation is a run of steps of one kind if that of the user code is. -/
def RunTakes {α : Type} (S : Store → Store → Prop) (m : RunM α) : Prop :=
  ∀ run : Runner, (∀ e self args, Takes S (run e self args)) → Takes S (m run)

section Takes

variable {α β : Type} {S : Store → Store → Prop}

@[simp] theorem takes_pure (a : α) : Takes S (pure a : StoreM α) :=
  fun _ => .refl

@[simp] theorem takes_get : Takes S (get : StoreM Store) :=
  fun _ => .refl

@[simp] theorem takes_throw (f : Fault) : Takes S (throw f : StoreM α) :=
  fun _ => .refl

@[simp] theorem takes_fail (e : ScriptError) : Takes S (fail e : StoreM α) :=
  fun _ => .refl

@[simp] theorem takes_ofExcept (x : Except ScriptError α) : Takes S (ofExcept x) := by
  cases x <;> exact fun _ => .refl

/-- A sequence takes the steps of its first part and then, if that does not fail, of the rest. -/
@[simp] theorem takes_bind {m : StoreM α} {f : α → StoreM β} (hm : Takes S m)
    (hf : ∀ a, Takes S (f a)) : Takes S (m >>= f) := by
  intro s
  have hs := hm s
  cases h : m s with
  | ok a t =>
      rw [StoreM.after_of_ok h] at hs
      have hrest : (m >>= f).after s = (f a).after t := by
        simp [StoreM.after, StoreM.bind_of_ok h]
      rw [hrest]
      exact hs.trans (hf a t)
  | error e t =>
      -- a failure ends the sequence, but the store that it leaves behind counts
      rw [StoreM.after_of_error h] at hs
      rw [StoreM.after_of_error (StoreM.bind_of_error h f)]
      exact hs

@[simp] theorem takes_map {m : StoreM α} {f : α → β} (hm : Takes S m) :
    Takes S (f <$> m) := by
  intro s
  have hs := hm s
  have hstate : (f <$> m).after s = m.after s := by
    simp only [StoreM.after, Functor.map, EStateM.map]
    cases m s <;> rfl
  rw [hstate]
  exact hs

theorem takes_modify {f : Store → Store} (h : ∀ s, S s (f s)) :
    Takes S (modify f : StoreM Unit) :=
  fun s => .single (h s)

theorem Takes.mono {S' : Store → Store → Prop} {m : StoreM α} (hm : Takes S m)
    (h : ∀ s t, S s t → S' s t) : Takes S' m :=
  fun s => Relation.ReflTransGen.mono h _ _ (hm s)

/-- A run of steps of a kind is one such step if the kind is reflexive and transitive. -/
theorem Takes.single {m : StoreM α} (hm : Takes S m) (hrefl : ∀ s, S s s)
    (htrans : ∀ {s t u}, S s t → S t u → S s u) (s : Store) : S s (m.after s) := by
  -- induction on the run from `s`, for which its end has to be a variable
  generalize hu : m.after s = u
  have h := hm s
  rw [hu] at h
  clear hu
  induction h with
  | refl => exact hrefl s
  | tail _ hstep ih => exact htrans ih hstep

end Takes

section RunTakes

variable {α β : Type} {S : Store → Store → Prop}

@[simp] theorem runTakes_pure (a : α) : RunTakes S (pure a : RunM α) :=
  fun _ _ => takes_pure a

/-- A computation that runs no user code takes the steps it takes by itself. -/
@[simp] theorem runTakes_lift {m : StoreM α} (hm : Takes S m) : RunTakes S (liftM m : RunM α) :=
  fun _ _ => hm

@[simp] theorem runTakes_monadLift {m : StoreM α} (hm : Takes S m) :
    RunTakes S (MonadLift.monadLift m : RunM α) :=
  fun _ _ => hm

@[simp] theorem runTakes_get : RunTakes S (get : RunM Store) :=
  fun _ _ => takes_get

@[simp] theorem runTakes_bind {m : RunM α} {f : α → RunM β} (hm : RunTakes S m)
    (hf : ∀ a, RunTakes S (f a)) : RunTakes S (m >>= f) :=
  fun run hrun => takes_bind (hm run hrun) fun a => hf a run hrun

@[simp] theorem runTakes_map {m : RunM α} {f : α → β} (hm : RunTakes S m) :
    RunTakes S (f <$> m) :=
  fun run hrun => takes_map (hm run hrun)

@[simp] theorem runTakes_enter (e : Entry) (self : Value) (args : List Value) :
    RunTakes S (enter e self args) :=
  fun _ hrun => hrun e self args

end RunTakes

end DynamicLinking
