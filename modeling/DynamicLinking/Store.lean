/-
Everything that changes: the properties and prototypes of script objects, the fields of host
objects, the members of foreign objects, the caches and counters of call sites, the policies, and
what names refer to.  Objects are found in it by their identity; an object that was never written to
has no entry and reads as a new one.

Main definitions:

* `ScriptState`, `ForeignState`, `CallSite` — the changing parts of objects and of call sites;
* `Store` — the whole;
* `Fault`, `StoreM` — computations that change the store and may fail, keeping the changes made;
* `RunM` — computations that may also run user code, through a parameter that runs it;
* `enter` — the only way in which user code is run.
-/

import DynamicLinking.Linker

set_option autoImplicit false

namespace DynamicLinking

/-! ### The parts of the store -/

/-- The changing part of a script object.  Its layout — its keys, its prototype and whether it takes
new properties — is numbered, and every change of layout counts the number up. -/
structure ScriptState where
  properties : Table String Value := {}
  isExtensible : Bool := true
  prototype? : Option Object := none
  /-- The number of the present layout. -/
  layout : Nat := 0

/-- The own properties, in the order of their keys. -/
def ScriptState.sortedProperties (t : ScriptState) : List (String × Value) :=
  t.properties.bindings.mergeSort fun a b => decide (a.1 ≤ b.1)

/-- What a foreign object answers for a member that it does not have. -/
inductive MissingAnswer where
  | value (v : Value)
  | failure (e : ScriptError)

/-- The changing part of a foreign object. -/
structure ForeignState where
  members : Table String Value := {}
  /-- The answer for any other member. -/
  missing : MissingAnswer := .value .undefined

/-- A call site: a descriptor, a chain, the cached candidate and the counters. -/
structure CallSite where
  descriptor : Descriptor
  chain : LinkerChain
  target? : Option Candidate := none
  isLinked : Bool := false
  /-- The number of links after the first one. -/
  relinks : Nat := 0
  /-- Has the site stopped caching? -/
  isMegamorphic : Bool := false
  /-- The calls that were served from the cache, on profiled sites. -/
  hits : Nat := 0
  /-- The calls that had to link, on profiled sites. -/
  misses : Nat := 0

/-- What a contributed linker was asked. -/
structure Inquiry where
  linker : String
  isUnstable : Bool
  argumentCount : Nat
  deriving DecidableEq, Repr

/-- Everything that changes. -/
structure Store where
  nextId : Nat := 0
  /-- The script objects that were written to. -/
  scripts : Table Nat ScriptState := {}
  /-- The fields of host objects. -/
  fields : Table Nat (Table String Value) := {}
  /-- The foreign objects that were written to. -/
  foreigns : Table Nat ForeignState := {}
  /-- The values of static properties, by class and name. -/
  statics : Table (Nat × String) Value := {}
  /-- The switches that were thrown by hand. -/
  thrown : List Nat := []
  /-- The values that have names. -/
  values : Table String Value := {}
  /-- The classes that have names. -/
  classes : Table String HostClass := {}
  sites : Table Nat CallSite := {}
  /-- The call sites that have names. -/
  siteNames : Table String Nat := {}
  /-- The policies that have names. -/
  policies : Table String AccessPolicy := {}
  /-- The descriptors that are shared, by encoding, signature and flags. -/
  descriptors : Table (String × Signature × CallSiteFlags) Nat := {}
  /-- What contributed linkers were asked, in order. -/
  inquiries : List Inquiry := []

namespace Store

/-- The changing part of the script object with an identity. -/
def script (s : Store) (id : Nat) : ScriptState :=
  (s.scripts.get? id).getD {}

/-- The changing part of the foreign object with an identity. -/
def foreign (s : Store) (id : Nat) : ForeignState :=
  (s.foreigns.get? id).getD {}

/-- The fields of the host object with an identity. -/
def fieldsOf (s : Store) (id : Nat) : Table String Value :=
  (s.fields.get? id).getD {}

/-- The policy that a reference denotes; a name without a policy grants everything. -/
def policy (s : Store) : PolicyRef → AccessPolicy
  | .fixed p => p
  | .named n => (s.policies.get? n).getD .permitAll

theorem policy_fixed (s : Store) (p : AccessPolicy) : s.policy (.fixed p) = p := rfl

/-- Was the switch thrown? -/
def isThrown (s : Store) : SwitchPoint → Bool
  | .manual i => s.thrown.contains i
  | .layout o v => (s.script o).layout != v

/-- Does a candidate rest on an assumption that was revoked? -/
def isInvalidated (s : Store) (c : Candidate) : Bool :=
  c.switchPoints.any s.isThrown

/-- May a candidate serve a call with the given arguments? -/
def accepts (s : Store) (c : Candidate) (args : List Value) : Bool :=
  !s.isInvalidated c && c.admits args

/-- The store with the changing part of a script object replaced. -/
def setScript (s : Store) (id : Nat) (o : ScriptState) : Store :=
  { s with scripts := s.scripts.insert id o }

/-- The store with a field of a host object replaced. -/
def setField (s : Store) (id : Nat) (key : String) (v : Value) : Store :=
  { s with fields := s.fields.insert id ((s.fieldsOf id).insert key v) }

/-- The store with the changing part of a foreign object replaced. -/
def setForeign (s : Store) (id : Nat) (f : ForeignState) : Store :=
  { s with foreigns := s.foreigns.insert id f }

/-- The store in which a name refers to a value. -/
def nameValue (s : Store) (name : String) (v : Value) : Store :=
  { s with values := s.values.insert name v }

/-- The store in which a name refers to a class. -/
def nameClass (s : Store) (name : String) (c : HostClass) : Store :=
  { s with classes := s.classes.insert name c }

/-- The store in which a name refers to a call site. -/
def nameSite (s : Store) (name : String) (id : Nat) : Store :=
  { s with siteNames := s.siteNames.insert name id }

/-- The store in which a name refers to a policy. -/
def namePolicy (s : Store) (name : String) (p : AccessPolicy) : Store :=
  { s with policies := s.policies.insert name p }

/-- The store in which a switch is thrown by hand.  A layout cannot be thrown by hand. -/
def throwSwitch (s : Store) : SwitchPoint → Store
  | .manual i => { s with thrown := i :: s.thrown }
  | .layout _ _ => s

@[simp] theorem script_setScript (s : Store) (i j : Nat) (o : ScriptState) :
    (s.setScript i o).script j = if i = j then o else s.script j := by
  by_cases h : i = j <;> simp [setScript, script, h]

@[simp] theorem fieldsOf_setField (s : Store) (i j : Nat) (k : String) (v : Value) :
    (s.setField i k v).fieldsOf j = if i = j then (s.fieldsOf i).insert k v else s.fieldsOf j := by
  by_cases h : i = j <;> simp [setField, fieldsOf, h]

@[simp] theorem foreign_setForeign (s : Store) (i j : Nat) (f : ForeignState) :
    (s.setForeign i f).foreign j = if i = j then f else s.foreign j := by
  by_cases h : i = j <;> simp [setForeign, foreign, h]

end Store

/-! ### Computations -/

/-- How a computation ends without a result. -/
inductive Fault where
  /-- An error that scripts see. -/
  | error (e : ScriptError)
  /-- A linker broke the contract of its chain. -/
  | broken (m : Mismatch)
  /-- There is no call site with an identity. -/
  | unknownSite (id : Nat)
  /-- User code called itself too deeply. -/
  | tooDeep
  deriving DecidableEq, Repr

/-- A computation on the store.  What it changed before a fault stays changed. -/
abbrev StoreM := EStateM Fault Store

/-- What user code is entered for. -/
inductive Entry where
  /-- A script function, a foreign object or the candidate of a contributed linker. -/
  | code (body : Body)
  | host (method : HostMethod)
  deriving DecidableEq, Repr

/-- Something that runs user code on a receiver and arguments. -/
abbrev Runner := Entry → Value → List Value → StoreM Value

/-- A computation on the store that may run user code. -/
abbrev RunM := ReaderT Runner StoreM

/-- Runs user code. -/
def enter (e : Entry) (self : Value) (args : List Value) : RunM Value :=
  fun run => run e self args

/-- Fails with an error that scripts see. -/
def fail {α : Type} (e : ScriptError) : StoreM α :=
  throw (.error e)

/-- The result of a computation that cannot change the store. -/
def ofExcept {α : Type} : Except ScriptError α → StoreM α
  | .ok a => pure a
  | .error e => fail e

/-- An identity that nothing else has. -/
def freshId : StoreM Nat := do
  let s ← get
  set { s with nextId := s.nextId + 1 }
  return s.nextId

end DynamicLinking
