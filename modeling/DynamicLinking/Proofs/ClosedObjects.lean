/-
A script object that is closed takes no new properties.  Properties reach an object in many ways:
they are defined, written strictly or not, written through a mirror, by call sites, and by user code
that runs meanwhile.  All of them end in one operation that asks the object first, as does the one
that replaces the prototype, so that a closed object keeps its keys and its prototype for ever.
Objects that are made later have identities of their own.

Main definitions:

* `Store.KeepsClosed` — **what a change of the store leaves to closed objects**;
* `Store.ObjectUse` — what is done to objects, one after another: operations on objects, calls of
  values and of call sites, and whatever user code does on the way.

Main results:

* `Store.ObjectUse.keepsClosed` — everything that is done keeps closed objects closed;
* `Store.objectUse_runEntry` — user code does nothing else;
* `Store.closed_forever` — **a closed object stays as it is, but for the values of its properties**,
  which can still be overwritten.
-/

import DynamicLinking.Proofs.HeapOperations
import DynamicLinking.Proofs.ScriptAccess

set_option autoImplicit false

namespace DynamicLinking

namespace Store

variable {s t u : Store} {o : Object} {key : String}

/-! ### Closed objects -/

/-- A change of the store in which identities are only given out, and closed objects stay closed,
with their prototypes and their keys. -/
structure KeepsClosed (s t : Store) : Prop where
  nextId_le : s.nextId ≤ t.nextId
  isExtensible : ∀ id < s.nextId, (s.script id).isExtensible = false →
    (t.script id).isExtensible = false
  prototype? : ∀ id < s.nextId, (s.script id).isExtensible = false →
    (t.script id).prototype? = (s.script id).prototype?
  keys : ∀ id < s.nextId, (s.script id).isExtensible = false → ∀ key,
    (t.script id).properties.contains key = (s.script id).properties.contains key

namespace KeepsClosed

theorem of_scripts (h : t.scripts = s.scripts) (hid : s.nextId ≤ t.nextId) : s.KeepsClosed t := by
  have hscript (id : Nat) : t.script id = s.script id := by simp [script, h]
  refine ⟨hid, fun id _ hclosed => ?_, fun id _ _ => ?_, fun id _ _ key => ?_⟩
  · rw [hscript, hclosed]
  · rw [hscript]
  · rw [hscript]

theorem refl (s : Store) : s.KeepsClosed s :=
  of_scripts rfl (Nat.le_refl _)

theorem trans (h : s.KeepsClosed t) (h' : t.KeepsClosed u) : s.KeepsClosed u where
  nextId_le := h.nextId_le.trans h'.nextId_le
  isExtensible id hid hclosed :=
    h'.isExtensible id (hid.trans_le h.nextId_le) (h.isExtensible id hid hclosed)
  prototype? id hid hclosed :=
    (h'.prototype? id (hid.trans_le h.nextId_le) (h.isExtensible id hid hclosed)).trans
      (h.prototype? id hid hclosed)
  keys id hid hclosed key :=
    (h'.keys id (hid.trans_le h.nextId_le) (h.isExtensible id hid hclosed) key).trans
      (h.keys id hid hclosed key)

/-- A change of one object, which leaves it closed if it was, with its prototype and its keys. -/
theorem setScript {i : Nat} {x : ScriptState}
    (h : i < s.nextId → (s.script i).isExtensible = false →
      x.isExtensible = false ∧ x.prototype? = (s.script i).prototype? ∧
        ∀ key, x.properties.contains key = (s.script i).properties.contains key) :
    s.KeepsClosed (s.setScript i x) := by
  have hkeeps (id : Nat) (hid : id < s.nextId) (hclosed : (s.script id).isExtensible = false) :
      ((s.setScript i x).script id).isExtensible = false ∧
      ((s.setScript i x).script id).prototype? = (s.script id).prototype? ∧
      ∀ key, ((s.setScript i x).script id).properties.contains key =
        (s.script id).properties.contains key := by
    rw [script_setScript]
    split
    · rename_i hi
      subst hi
      exact h hid hclosed
    · exact ⟨hclosed, rfl, fun _ => rfl⟩
  exact ⟨Nat.le_refl _, fun id hid hclosed => (hkeeps id hid hclosed).1,
    fun id hid hclosed => (hkeeps id hid hclosed).2.1,
    fun id hid hclosed => (hkeeps id hid hclosed).2.2⟩

theorem defineProperty (s : Store) (o : Object) (key : String) (v : Value) :
    s.KeepsClosed (s.defineProperty o key v).1 := by
  unfold Store.defineProperty
  dsimp only
  split
  · rename_i hkey
    exact .setScript fun _ hclosed => ⟨hclosed, rfl, contains_insert_of_contains hkey v⟩
  · split
    · rename_i hextensible
      exact .setScript fun _ hclosed => by rw [hclosed] at hextensible; cases hextensible
    · exact .refl s

theorem setPrototype (s : Store) (o : Object) (p? : Option Object) :
    s.KeepsClosed (s.setPrototype o p?).1 := by
  unfold Store.setPrototype
  dsimp only
  split
  · exact .refl s
  · rename_i hallowed
    exact .setScript fun _ hclosed => absurd (by simp [hclosed]) hallowed

theorem preventExtensions (s : Store) (o : Object) : s.KeepsClosed (s.preventExtensions o) :=
  .setScript fun _ _ => ⟨rfl, rfl, fun _ => rfl⟩

/-- An object that is made is none of those that were there. -/
theorem create (s : Store) (p? : Option Object) :
    s.KeepsClosed ((newScriptObject p?).after s) := by
  have hfresh : s.KeepsClosed { s with nextId := s.nextId + 1 } :=
    .of_scripts rfl (Nat.le_succ _)
  cases p? with
  | none => exact hfresh
  | some p =>
      have hmade : ((newScriptObject (some p)).after s) =
          ({ s with nextId := s.nextId + 1 } : Store).setScript s.nextId
            { prototype? := some p, layout := (s.script s.nextId).layout + 1 } := rfl
      rw [hmade]
      refine ⟨Nat.le_succ _, fun id hid hclosed => ?_, fun id hid _ => ?_, fun id hid _ key => ?_⟩
      all_goals rw [script_setScript, if_neg hid.ne']
      · exact hclosed
      · rfl
      · rfl

/-- **Every operation leaves closed objects closed.** -/
theorem operate (s : Store) (op : HeapOperation) : s.KeepsClosed (s.operate op) := by
  cases op with
  | create p? => exact .create s p?
  | define o key v => exact .defineProperty s o key v
  | put o key v isStrict =>
      rw [operate_put]
      exact .defineProperty s o key v
  | setPrototype o p? => exact .setPrototype s o p?
  | preventExtensions o => exact .preventExtensions s o

end KeepsClosed

instance : AllowsCalls KeepsClosed where
  fresh _ := .of_scripts rfl (Nat.le_succ _)
  define := KeepsClosed.defineProperty
  create s p := .single (.create s (some p))
  setForeign _ _ _ := .of_scripts rfl (Nat.le_refl _)
  serve s id args :=
    .of_scripts (scripts_after_resolve id args s) (called_after_resolve id args s).2

/-! ### Uses of objects -/

/-- What is done to objects, one after another.  Calls run user code, which does such things in
turn. -/
inductive ObjectUse : Store → Store → Prop where
  | refl (s : Store) : ObjectUse s s
  | trans {s t u : Store} (h : ObjectUse s t) (h' : ObjectUse t u) : ObjectUse s u
  /-- An operation on script objects. -/
  | operate (s : Store) (op : HeapOperation) : ObjectUse s (s.operate op)
  /-- A member of a mirror is written, or of another foreign object. -/
  | setMember (s : Store) (o : Object) (name : String) (v : Value) :
      ObjectUse s ((o.setMember name v).after s)
  /-- A value is called. -/
  | call (s : Store) (callee self : Value) (args : List Value) (run : Runner)
      (hrun : ∀ e self args u, ObjectUse u ((run e self args).after u)) :
      ObjectUse s ((callValue callee self args run).after s)
  /-- A value constructs. -/
  | construct (s : Store) (callee : Value) (args : List Value) (run : Runner)
      (hrun : ∀ e self args u, ObjectUse u ((run e self args).after u)) :
      ObjectUse s ((constructValue callee args run).after s)
  /-- A call site is called, in any state of its cache. -/
  | invoke (s : Store) (id : Nat) (args : List Value) (run : Runner)
      (hrun : ∀ e self args u, ObjectUse u ((run e self args).after u)) :
      ObjectUse s ((invokeSite id args run).after s)
  /-- Something else than a script object is made or changed: a function, a call site, a host
  object, a field. -/
  | elsewhere {s t : Store} (hscripts : t.scripts = s.scripts) (hid : s.nextId ≤ t.nextId) :
      ObjectUse s t

/-- **Everything that is done keeps closed objects closed.** -/
theorem ObjectUse.keepsClosed (h : s.ObjectUse t) : s.KeepsClosed t := by
  have htakes {α : Type} {m : StoreM α} (hm : Takes KeepsClosed m) (s : Store) :
      s.KeepsClosed (m.after s) := hm.single .refl .trans s
  -- induction on the use, that of the user code in calls included
  induction h with
  | refl s => exact .refl s
  | trans h h' ih ih' => exact ih.trans ih'
  | operate s op => exact .operate s op
  | setMember s o name v => exact htakes (takes_setMember o name v) s
  | call s callee self args run hrun ih =>
      exact htakes (runTakes_callValue callee self args run fun e self args u =>
        .single (ih e self args u)) s
  | construct s callee args run hrun ih =>
      exact htakes (runTakes_constructValue callee args run fun e self args u =>
        .single (ih e self args u)) s
  | invoke s id args run hrun ih =>
      exact htakes (runTakes_invokeSite id args run fun e self args u =>
        .single (ih e self args u)) s
  | elsewhere hscripts hid => exact .of_scripts hscripts hid

instance : AllowsBodies ObjectUse where
  fresh _ := .elsewhere rfl (Nat.le_succ _)
  define s o key v := .operate s (.define o key v)
  create s p := .single (.operate s (.create (some p)))
  setForeign _ _ _ := .elsewhere rfl (Nat.le_refl _)
  serve s id args :=
    .elsewhere (scripts_after_resolve id args s) (called_after_resolve id args s).2
  setField _ _ _ _ := .elsewhere rfl (Nat.le_refl _)
  make _ _ := .elsewhere rfl (Nat.le_succ _)

/-- **User code does nothing else**, however deep its calls are nested. -/
theorem objectUse_runEntry (n : Nat) (e : Entry) (self : Value) (args : List Value) (s : Store) :
    s.ObjectUse ((runEntry n e self args).after s) :=
  (takes_runEntry n e self args).single .refl .trans s

/-! ### Properties that are there -/

/-- A property that is there can be overwritten. -/
theorem defineProperty_of_own (h : s.hasOwnProperty o key = true) (v : Value) :
    (s.defineProperty o key v).2 = true ∧
      (s.defineProperty o key v).1.ownProperty? o key = some v := by
  have hkey : (s.script o.id).properties.contains key = true := h
  unfold Store.defineProperty
  dsimp only
  rw [if_pos hkey]
  exact ⟨rfl, by simp [ownProperty?]⟩

/-- So the property is written, strictly or not. -/
theorem putProperty_of_own (h : s.hasOwnProperty o key = true) (v : Value) (isStrict : Bool) :
    putProperty o key v isStrict s = .ok () (s.defineProperty o key v).1 := by
  rw [putProperty_apply, (defineProperty_of_own h v).1]
  rfl

/-- **A closed object stays as it is, but for the values of its properties.**  Whatever is done
after an object was closed, by operations on objects and by calls of call sites and of values, with
all the user code that runs: the object takes no new properties, it has the keys that it had and the
prototype that it had.  Its properties can still be overwritten: directly, by strict and by other
writes, through mirrors, and by call sites in any state of their caches. -/
theorem closed_forever (hmade : o.id < s.nextId) (h : (s.preventExtensions o).ObjectUse t) :
    (t.script o.id).isExtensible = false ∧
    (t.script o.id).prototype? = (s.script o.id).prototype? ∧
    (∀ key, t.hasOwnProperty o key = s.hasOwnProperty o key) ∧
    ∀ (key : String) (v : Value), s.hasOwnProperty o key = true →
      (t.defineProperty o key v).2 = true ∧
      (t.defineProperty o key v).1.ownProperty? o key = some v ∧
      (∀ isStrict, putProperty o key v isStrict t = .ok () (t.defineProperty o key v).1) ∧
      (∀ i, (Object.mirror i o).setMember key v t = .ok () (t.defineProperty o key v).1) ∧
      ∀ (id : Nat) (c : CallSite) (args : List Value) (isStrict : Bool) (run : Runner),
        t.Reachable → t.sites.get? id = some c → c.Accesses args (.write o key v isStrict) →
        ∃ u, invokeSite id args run t = .ok .undefined u ∧ u.ownProperty? o key = some v := by
  have hkeeps := h.keepsClosed
  have hclosed : ((s.preventExtensions o).script o.id).isExtensible = false := by
    simp [Store.preventExtensions]
  have hprototype : ((s.preventExtensions o).script o.id).prototype? =
      (s.script o.id).prototype? := by
    simp [Store.preventExtensions]
  have hkeys (key : String) : t.hasOwnProperty o key = s.hasOwnProperty o key := by
    have hsame := hkeeps.keys o.id hmade hclosed key
    have hbefore : ((s.preventExtensions o).script o.id).properties.contains key =
        (s.script o.id).properties.contains key := by
      simp [Store.preventExtensions]
    exact hsame.trans hbefore
  refine ⟨hkeeps.isExtensible o.id hmade hclosed,
    (hkeeps.prototype? o.id hmade hclosed).trans hprototype, hkeys, fun key v hown => ?_⟩
  have hown : t.hasOwnProperty o key = true := (hkeys key).trans hown
  refine ⟨(defineProperty_of_own hown v).1, (defineProperty_of_own hown v).2,
    putProperty_of_own hown v, fun i => putProperty_of_own hown v false,
    fun id c args isStrict run hreachable hsite ha => ?_⟩
  obtain ⟨hserved, hinvoke⟩ := invokeSite_of_accesses hreachable hsite ha run
  -- the site leaves script objects alone until it writes
  have hown' : ((resolve id args).after t).hasOwnProperty o key = true := by
    rw [← hown]
    simp [hasOwnProperty, ownProperty?, script, scripts_after_resolve]
  refine ⟨_, hinvoke.trans ?_, (defineProperty_of_own hown' v).2⟩
  exact StoreM.bind_of_ok (putProperty_of_own hown' v isStrict) _

/-! ### A lamp that is closed -/

namespace ClosedLamp

/-- The object. -/
def lamp : Object :=
  .ordinary 0

/-- The object has a color. -/
def made : Store :=
  (((newScriptObject none).after {}).defineProperty lamp "color" .null).1

/-- A strict site that writes the property that an argument names. -/
def writer : CallSite :=
  ({} : Environment).newSite ⟨.setElement, none, Signature.generic 3, ⟨1⟩⟩

/-- The arguments with which the site writes a property of the object. -/
def arguments (key : String) (v : Value) : List Value :=
  [.object lamp, .string key, v]

/-- User code, to a small depth. -/
def user : Runner :=
  fun e self args => runEntry 3 e self args

/-- The object was closed, there is the site, and the object was to get a prototype. -/
def refused : Store :=
  (((newScriptObject none).after ((made.preventExtensions lamp).withSite 0 writer)).setPrototype
    lamp (some (.ordinary 1))).1

/-- The site was to write a new property. -/
def later : Store :=
  (invokeSite 0 (arguments "size" .null) user).after refused

theorem objectUse_later : (made.preventExtensions lamp).ObjectUse later := by
  have hsite : (made.preventExtensions lamp).ObjectUse
      ((made.preventExtensions lamp).withSite 0 writer) := .elsewhere rfl (Nat.le_refl _)
  have hmade := hsite.trans (.operate _ (.create none))
  have hrefused := hmade.trans (.operate _ (.setPrototype lamp (some (.ordinary 1))))
  exact hrefused.trans (.invoke _ 0 (arguments "size" .null) user (objectUse_runEntry 3))

theorem reachable_later : later.Reachable := by
  have hsite : ((made.preventExtensions lamp).withSite 0 writer).Reachable :=
    reachable_newSite rfl 0 _ _
  refine hsite.evolves ?_
  have hcreated : ((made.preventExtensions lamp).withSite 0 writer).Evolves refused :=
    (Relation.ReflTransGen.single (.apart ⟨rfl, rfl⟩)).tail (.setPrototype _ lamp _)
  exact hcreated.trans (runTakes_invokeSite 0 (arguments "size" .null) user (takes_runEntry 3) _)

/-- The closed object has neither the property nor the prototype that it was to get, and the same
site, which has linked meanwhile, changes its color. -/
theorem closed_lamp :
    lamp.id < made.nextId ∧ (made.preventExtensions lamp).ObjectUse later ∧
    (later.script 0).isExtensible = false ∧ (later.script 0).prototype? = none ∧
    later.hasOwnProperty lamp "size" = false ∧
    ∃ u, invokeSite 0 (arguments "color" (.boolean true)) user later = .ok .undefined u ∧
      u.ownProperty? lamp "color" = some (.boolean true) := by
  have hmade : lamp.id < made.nextId := by decide
  obtain ⟨hclosed, hprototype, hkeys, hoverwritten⟩ := closed_forever hmade objectUse_later
  obtain ⟨-, -, -, -, hsites⟩ := hoverwritten "color" (.boolean true) (by decide)
  have hsite : later.sites.get? 0 = some ((later.sites.get? 0).get (by decide)) :=
    (Option.some_get _).symm
  exact ⟨hmade, objectUse_later, hclosed, hprototype, hkeys "size",
    hsites 0 _ (arguments "color" (.boolean true)) true user reachable_later hsite
      ⟨⟨{}, rfl, rfl⟩, ⟨3, rfl⟩, rfl⟩⟩

end ClosedLamp

end Store

end DynamicLinking
