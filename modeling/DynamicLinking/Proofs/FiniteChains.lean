/-
Four operations walk up a prototype chain: a property is looked for, or read, the layouts are
collected, and a new prototype is checked for a way back to its object.  None of the walks counts
its steps, so that they end only because no object is on its own prototype chain.

On a heap on which functions construct objects, too, the prototype of a new object is what user code
has stored under a key.  So the invariant says of values, too, that they were made before the object
that is made next: what was not made yet is no prototype, and a new object closes no circle.

Main definitions:

* `Store.HeapUse` — **what is done to a heap if functions construct on it**, the code of functions
  using the heap in turn;
* `Store.Walk` — a walk up a prototype chain, as long as there are prototypes.

Main results:

* `Store.HeapUse.sound` — the use of a heap keeps it free of circles;
* `Store.Acyclic.walk` — **every walk up a chain without circles ends**, with the answer that the
  chain gives;
* `Store.IsUsedHeap.walks_end` — no object is on its own prototype chain, and the four walks end.
-/

import DynamicLinking.Proofs.PrototypeChains

set_option autoImplicit false

namespace DynamicLinking

/-- The function that a construction makes its object for, its code, and the arguments that the code
runs on: a bound function constructs with its target. -/
def Object.constructs? (o : Object) (args : List Value) :
    Option (Object × FunctionCode × List Value) :=
  match o with
  | .function _ c => if c.isConstructor then some (o, c, args) else none
  | .boundFunction _ t c _ leading =>
      if c.isConstructor then some (.function t c, c, leading ++ args) else none
  | _ => none

namespace Store

variable {s t : Store} {o : Object} {v : Value}

/-! ### Uses of a heap -/

/-- The value is no script object, or one that was made. -/
def HasMade (s : Store) (v : Value) : Prop :=
  ∀ p, v.script? = some p → p.id < s.nextId

/-- The store in which a function has made the object that it constructs. -/
def withInstance (s : Store) (f : Object) : Store :=
  (newScriptObject (s.getProperty f "prototype").script?).after s

/-- What is done to a heap, one after another.  A construction makes an object and runs the code of
the function, which uses the heap in turn. -/
inductive HeapUse : Store → Store → Prop where
  | refl (s : Store) : HeapUse s s
  | trans {s t u : Store} (h : HeapUse s t) (h' : HeapUse t u) : HeapUse s u
  /-- An operation on script objects; a prototype was made before, and so was a value that is
  stored. -/
  | operate (s : Store) (op : HeapOperation)
      (hp : ∀ p, op.prototype? = some p → p.id < s.nextId)
      (hv : ∀ v, op.value? = some v → s.HasMade v) : HeapUse s (s.operate op)
  /-- A function is made, which has no prototype, or something else than a script object is made or
  changed. -/
  | elsewhere {s t : Store} (hscripts : t.scripts = s.scripts) (hid : s.nextId ≤ t.nextId) :
      HeapUse s t
  /-- A construct call, with whatever the code of the function does to the heap. -/
  | construct (s : Store) (o : Object) (args : List Value) (run : Runner)
      (hrun : ∀ f c as, o.constructs? args = some (f, c, as) →
        HeapUse (s.withInstance f)
          ((run (.code c.body) (.object (.ordinary s.nextId)) as).after (s.withInstance f))) :
      HeapUse s ((constructFunction o args run).after s)

/-- A use of a heap that started without script objects ends in the store. -/
def IsUsedHeap (s : Store) : Prop :=
  ∃ s₀ : Store, s₀.scripts = {} ∧ s₀.HeapUse s

/-! ### Values that were made -/

theorem HasMade.mono (h : s.HasMade v) (hle : s.nextId ≤ t.nextId) : t.HasMade v :=
  fun p hp => (h p hp).trans_le hle

/-- All values of properties are values that were made. -/
def HoldsMade (s : Store) : Prop :=
  ∀ id key v, (s.script id).properties.get? key = some v → s.HasMade v

/-- What is read was stored, or is `undefined`. -/
theorem HoldsMade.getProperty (h : s.HoldsMade) (o : Object) (key : String) :
    s.HasMade (s.getProperty o key) := by
  unfold Store.getProperty
  cases hfind : (s.protoChain o).findSome? fun p => s.ownProperty? p key with
  | none => exact nofun
  | some v =>
      obtain ⟨p, -, hp⟩ := List.exists_of_findSome?_eq_some hfind
      exact h p.id key v hp

/-- A change of one object stores what was made if its properties were. -/
theorem HoldsMade.setScript {i : Nat} {u : ScriptState} (h : s.HoldsMade)
    (hu : ∀ key v, u.properties.get? key = some v → s.HasMade v) :
    (s.setScript i u).HoldsMade := by
  intro j key v hv
  rw [script_setScript] at hv
  split at hv
  · exact hu key v hv
  · exact h j key v hv

theorem HoldsMade.of_scripts (h : s.HoldsMade) (hscripts : t.scripts = s.scripts)
    (hid : s.nextId ≤ t.nextId) : t.HoldsMade := by
  intro id key v hv
  rw [script, hscripts] at hv
  exact (h id key v hv).mono hid

/-- **An operation stores what was made**, if the value that it stores was. -/
theorem HoldsMade.operate (h : s.HoldsMade) (op : HeapOperation)
    (hv : ∀ v, op.value? = some v → s.HasMade v) : (s.operate op).HoldsMade := by
  have hdefine (o : Object) (key : String) (v : Value) (hv : s.HasMade v) :
      (s.operate (.define o key v)).HoldsMade := by
    have hinsert (k : String) (w : Value)
        (hw : ((s.script o.id).properties.insert key v).get? k = some w) : s.HasMade w := by
      rw [Table.get?_insert] at hw
      split at hw
      · cases hw
        exact hv
      · exact h o.id k w hw
    simp only [Store.operate, Store.defineProperty]
    split
    · exact h.setScript hinsert
    · split
      · exact h.setScript hinsert
      · exact h
  cases op with
  | create p? =>
      have hfresh : ({ s with nextId := s.nextId + 1 } : Store).HoldsMade :=
        h.of_scripts rfl (Nat.le_succ _)
      cases p? with
      | none => exact hfresh
      | some p =>
          refine hfresh.setScript ?_
          intro key v hv
          cases hv
  | define o key v => exact hdefine o key v (hv v rfl)
  | put o key v isStrict =>
      rw [operate_put]
      exact hdefine o key v (hv v rfl)
  | setPrototype o p? =>
      simp only [Store.operate, Store.setPrototype]
      split
      · exact h
      · exact h.setScript (h o.id)
  | preventExtensions o => exact h.setScript (h o.id)

/-! ### The invariant -/

/-- What holds of every heap that is used: there are no circles, and everything that is a prototype
or the value of a property was made. -/
structure Sound (s : Store) : Prop extends Grown s where
  holds : s.HoldsMade

/-- A construct call makes the object and runs the code, or fails before it does anything. -/
theorem after_constructFunction (o : Object) (args : List Value) (run : Runner) (s : Store) :
    (constructFunction o args run).after s =
      match o.constructs? args with
      | some (f, c, as) =>
          (run (.code c.body) (.object (.ordinary s.nextId)) as).after (s.withInstance f)
      | none => s := by
  have hplain (f : Object) (c : FunctionCode) (as : List Value) :
      (constructPlain f c as run).after s =
        (run (.code c.body) (.object (.ordinary s.nextId)) as).after (s.withInstance f) := by
    have hprototype : (liftM (DynamicLinking.getProperty f "prototype") : RunM Value) run s =
        .ok (s.getProperty f "prototype") s := rfl
    have hmade : (liftM (newScriptObject (s.getProperty f "prototype").script?) : RunM Object)
        run s = .ok (.ordinary s.nextId) (s.withInstance f) := by
      unfold withInstance StoreM.after
      cases (s.getProperty f "prototype").script? <;> rfl
    rw [StoreM.after, constructPlain, RunM.bind_of_ok hprototype, RunM.bind_of_ok hmade,
      RunM.bind_apply, StoreM.bind_apply, enter, StoreM.after]
    cases run (.code c.body) (.object (.ordinary s.nextId)) as (s.withInstance f) <;> rfl
  unfold constructFunction Object.constructs?
  cases o with
  | function i c =>
      dsimp only
      split
      · exact hplain _ c args
      · rfl
  | boundFunction i t c self leading =>
      dsimp only
      split
      · exact hplain _ c (leading ++ args)
      · rfl
  | _ => rfl

theorem Sound.operate (h : s.Sound) (op : HeapOperation)
    (hp : ∀ p, op.prototype? = some p → p.id < s.nextId)
    (hv : ∀ v, op.value? = some v → s.HasMade v) : (s.operate op).Sound :=
  ⟨h.toGrown.operate op hp, h.holds.operate op hv⟩

/-- The object that a function makes has a prototype that was made. -/
theorem Sound.withInstance (h : s.Sound) (f : Object) : (s.withInstance f).Sound :=
  h.operate (.create _) (h.holds.getProperty f "prototype") nofun

/-- **The use of a heap keeps it free of circles**, and everything on it is what was made. -/
theorem HeapUse.sound (h : s.HeapUse t) (hs : s.Sound) : t.Sound := by
  -- induction on the use, that of the code of functions included
  induction h with
  | refl => exact hs
  | trans h h' ih ih' => exact ih' (ih hs)
  | operate s op hp hv => exact hs.operate op hp hv
  | elsewhere hscripts hid =>
      refine ⟨hs.toGrown.of_prototype? (fun id => ?_) hid, hs.holds.of_scripts hscripts hid⟩
      rw [script, hscripts]
      rfl
  | construct s o args run hrun ih =>
      rw [after_constructFunction]
      split
      · rename_i f c as hconstructs
        exact ih f c as hconstructs (hs.withInstance f)
      · exact hs

theorem IsUsedHeap.sound (h : s.IsUsedHeap) : s.Sound := by
  obtain ⟨s₀, h₀, huse⟩ := h
  have hnone (id : Nat) : s₀.script id = {} := by simp [script, h₀]
  refine huse.sound ⟨⟨acyclic_of_empty h₀, fun id p hp => ?_⟩, fun id key v hv => ?_⟩
  · rw [hnone] at hp
    cases hp
  · rw [hnone] at hv
    cases hv

/-! ### Walks -/

/-- A walk from an object up its prototype chain.  It visits one script object after another, with
what it has gathered so far, until a visit answers; where there is no further script object, the
answer is made of what was gathered. -/
inductive Walk {σ α : Type} (s : Store) (visit : Object → σ → α ⊕ σ) (finish : σ → α) :
    Option Object → σ → α → Prop where
  | ended (a : σ) : Walk s visit finish none a (finish a)
  | outside {p : Object} (hp : p.isScript = false) (a : σ) :
      Walk s visit finish (some p) a (finish a)
  | answered {p : Object} {a : σ} {r : α} (hp : p.isScript = true) (hr : visit p a = .inl r) :
      Walk s visit finish (some p) a r
  | onward {p : Object} {a b : σ} {r : α} (hp : p.isScript = true) (hb : visit p a = .inr b)
      (h : Walk s visit finish (s.script p.id).prototype? b r) : Walk s visit finish (some p) a r

namespace Walk

/-- The answer of a walk past the given objects. -/
def along {σ α : Type} (visit : Object → σ → α ⊕ σ) (finish : σ → α) : List Object → σ → α
  | [], a => finish a
  | p :: ps, a =>
      match visit p a with
      | .inl r => r
      | .inr b => along visit finish ps b

/-- A visit that looks for an own property. -/
def seek (s : Store) (key : String) (p : Object) (_ : Unit) : Bool ⊕ Unit :=
  if s.hasOwnProperty p key then .inl true else .inr ()

/-- A visit that reads an own property. -/
def read (s : Store) (key : String) (p : Object) (_ : Unit) : Value ⊕ Unit :=
  match s.ownProperty? p key with
  | some v => .inl v
  | none => .inr ()

/-- A visit that collects the layout. -/
def collect (s : Store) (p : Object) (points : List SwitchPoint) :
    List SwitchPoint ⊕ List SwitchPoint :=
  .inr (points ++ [.layout p.id (s.script p.id).layout])

/-- A visit that watches for an object. -/
def watch (o p : Object) (_ : Unit) : Bool ⊕ Unit :=
  if p.id = o.id then .inl true else .inr ()

theorem along_seek (s : Store) (key : String) (ps : List Object) :
    along (seek s key) (fun _ => false) ps () = ps.any fun p => s.hasOwnProperty p key := by
  induction ps with
  | nil => rfl
  | cons p ps ih =>
      rw [along, seek, List.any_cons]
      cases s.hasOwnProperty p key with
      | true => rfl
      | false => exact ih

theorem along_read (s : Store) (key : String) (ps : List Object) :
    along (read s key) (fun _ => .undefined) ps () =
      (ps.findSome? fun p => s.ownProperty? p key).getD .undefined := by
  induction ps with
  | nil => rfl
  | cons p ps ih =>
      rw [along, read, List.findSome?_cons]
      cases s.ownProperty? p key with
      | some v => rfl
      | none => exact ih

theorem along_collect (s : Store) (ps : List Object) (points : List SwitchPoint) :
    along (collect s) id ps points =
      points ++ ps.map fun p => .layout p.id (s.script p.id).layout := by
  induction ps generalizing points with
  | nil => exact (List.append_nil points).symm
  | cons p ps ih =>
      rw [along, collect]
      dsimp only
      rw [ih, List.append_assoc]
      rfl

theorem along_watch (o : Object) (ps : List Object) :
    along (watch o) (fun _ => false) ps () = ps.any fun p => p.id == o.id := by
  induction ps with
  | nil => rfl
  | cons p ps ih =>
      rw [along, watch, List.any_cons]
      by_cases hp : p.id = o.id
      · simp [hp]
      · simp [hp, ih]

end Walk

/-- The chain of an object is the object, before the chain of its prototype. -/
theorem Acyclic.protoChain_eq (h : s.Acyclic) (ho : o.isScript = true) :
    s.protoChain o = o :: (s.script o.id).prototype?.elim [] s.protoChain := by
  refine List.ext_getElem? fun i => ?_
  rw [h.getElem?_protoChain]
  cases i with
  | zero => rw [ancestor?, if_pos ho, List.getElem?_cons_zero]
  | succ i =>
      rw [ancestor?, if_pos ho, List.getElem?_cons_succ]
      cases (s.script o.id).prototype? with
      | none => rfl
      | some p => exact (h.getElem?_protoChain p i).symm

/-- **Every walk up a chain without circles ends**, with the answer that the chain gives. -/
theorem Acyclic.walk {σ α : Type} (h : s.Acyclic) (visit : Object → σ → α ⊕ σ) (finish : σ → α)
    (p? : Option Object) (a : σ) :
    Walk s visit finish p? a (Walk.along visit finish (p?.elim [] s.protoChain) a) := by
  -- induction on the chain, which is one shorter at the prototype
  generalize hchain : p?.elim [] s.protoChain = ps
  induction ps generalizing p? a with
  | nil =>
      cases p? with
      | none => exact .ended a
      | some p =>
          cases hp : p.isScript with
          | false => exact .outside hp a
          | true =>
              rw [Option.elim_some, h.protoChain_eq hp] at hchain
              cases hchain
  | cons q ps ih =>
      cases p? with
      | none => cases hchain
      | some p =>
          cases hp : p.isScript with
          | false =>
              rw [Option.elim_some, protoChain, chainUpTo, if_neg (by simp [hp])] at hchain
              cases hchain
          | true =>
              rw [Option.elim_some, h.protoChain_eq hp] at hchain
              obtain ⟨rfl, hrest⟩ := List.cons.inj hchain
              rw [Walk.along]
              cases hvisit : visit p a with
              | inl r => exact .answered hp hvisit
              | inr b => exact .onward hp hvisit (ih _ b hrest)

/-- **Prototype chains are finite.**  On a heap that was used in any way, no object is on its own
prototype chain.  So the walks end that look for a property, read one, collect the layouts, and
watch out for an object above its new prototype, and they end with the answers of these
operations. -/
theorem IsUsedHeap.walks_end (h : s.IsUsedHeap) :
    (∀ o n q, s.ancestor? (n + 1) o = some q → q.id ≠ o.id) ∧
    ∀ (o : Object) (key : String),
      Walk s (Walk.seek s key) (fun _ => false) (some o) () (s.hasProperty o key) ∧
      Walk s (Walk.read s key) (fun _ => .undefined) (some o) () (s.getProperty o key) ∧
      Walk s (Walk.collect s) id (some o) [] (s.layoutPoints o) ∧
      ∀ p? : Option Object, ∃ isCyclic,
        Walk s (Walk.watch o) (fun _ => false) p? () isCyclic ∧
          (s.setPrototype o p?).2 = ((s.script o.id).isExtensible && !isCyclic) := by
  have hacyclic := h.sound.acyclic
  refine ⟨hacyclic, fun o key => ⟨?_, ?_, ?_, fun p? => ⟨_, hacyclic.walk _ _ p? (), ?_⟩⟩⟩
  · have hwalk := hacyclic.walk (Walk.seek s key) (fun _ => false) (some o) ()
    rwa [Walk.along_seek] at hwalk
  · have hwalk := hacyclic.walk (Walk.read s key) (fun _ => .undefined) (some o) ()
    rwa [Walk.along_read] at hwalk
  · have hwalk := hacyclic.walk (Walk.collect s) id (some o) []
    rwa [Walk.along_collect] at hwalk
  · have hwatch : Walk.along (Walk.watch o) (fun _ => false) (p?.elim [] s.protoChain) () =
        p?.any fun p => (s.protoChain p).any fun q => q.id == o.id := by
      rw [Walk.along_watch]
      cases p? <;> rfl
    rw [hwatch, Store.setPrototype]
    cases (s.script o.id).isExtensible <;>
      cases p?.any fun p => (s.protoChain p).any fun q => q.id == o.id <;> rfl

namespace ConstructedPoint

/-- A function whose code gives the object that it runs on a property of its own. -/
def code : FunctionCode :=
  { name := "Point", isStrict := true, isConstructor := true,
    body := [.assign .receiver "size" (.literal .null)] }

/-- The function. -/
def point : Object :=
  .function 2 code

/-- Two objects, one the prototype of the other, and the function, which has the latter under
`prototype`. -/
def prepared : Store :=
  ((freshId.after ((newScriptObject (some (.ordinary 0))).after
    ((newScriptObject none).after {}))).defineProperty point "prototype"
      (.object (.ordinary 1))).1

/-- User code, to a small depth. -/
def user : Runner :=
  fun e self args => runEntry 3 e self args

/-- The function has constructed, and the first object was to get the new one as its prototype. -/
def constructed : Store :=
  (((constructFunction point [] user).after prepared).setPrototype (.ordinary 0)
    (some (.ordinary 3))).1

theorem heapUse_prepared : ({} : Store).HeapUse prepared := by
  have hfirst : ({} : Store).HeapUse _ := .operate {} (.create none) nofun nofun
  have hsecond := hfirst.trans (.operate _ (.create (some (.ordinary 0))) (by decide) nofun)
  have hpoint := hsecond.trans (.elsewhere (t := freshId.after _) rfl (Nat.le_succ _))
  refine hpoint.trans (.operate _ (.define point "prototype" _) nofun ?_)
  rintro v ⟨⟩ p ⟨⟩
  decide

theorem isUsedHeap_constructed : constructed.IsUsedHeap := by
  have hconstructed := heapUse_prepared.trans (.construct _ point [] user ?_)
  · exact ⟨{}, rfl, hconstructed.trans (.operate _ (.setPrototype _ _) (by decide) nofun)⟩
  · rintro f c as hconstructs
    cases hconstructs
    exact .operate _ (.define (.ordinary 3) "size" .null) nofun nofun

/-- The object that was constructed has its property and two objects above it, the first of which
did not get it as a prototype. -/
theorem walks_constructed :
    constructed.IsUsedHeap ∧
    Walk constructed (Walk.seek constructed "size") (fun _ => false) (some (.ordinary 3)) () true ∧
    Walk constructed (Walk.collect constructed) id (some (.ordinary 3)) []
      [.layout 3 2, .layout 1 1, .layout 0 0] := by
  obtain ⟨-, hwalks⟩ := isUsedHeap_constructed.walks_end
  obtain ⟨hseek, -, hcollect, -⟩ := hwalks (.ordinary 3) "size"
  have hsize : constructed.hasProperty (.ordinary 3) "size" = true := by decide
  have hpoints : constructed.layoutPoints (.ordinary 3) =
      [.layout 3 2, .layout 1 1, .layout 0 0] := by decide
  rw [hsize] at hseek
  rw [hpoints] at hcollect
  exact ⟨isUsedHeap_constructed, hseek, hcollect⟩

end ConstructedPoint

end Store

end DynamicLinking
