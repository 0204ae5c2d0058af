/-
The meaning of bodies and of host members.  Everything so far runs user code through a parameter;
here the knot is tied: what a body calls is run by the same rules, one level deeper.

Main definitions:

* `Expr.eval`, `Statement.exec`, `runBody` — expressions, statements and bodies;
* `runHost` — host members;
* `runEntry` — user code, to a given depth;
* `RunM.toStore` — a computation with its user code run.
-/

import DynamicLinking.CallSite

set_option autoImplicit false

namespace DynamicLinking

/-! ### Bodies -/

/-- A field or property of a receiver. -/
def receiverField (s : Store) (self : Value) (key : String) : Value :=
  match self with
  | .object o =>
      if o.isScript then s.getProperty o key
      else if o.hostClass?.isSome then ((s.fieldsOf o.id).get? key).getD .null
      else .undefined
  | .primitive _ => .undefined

/-- The value of an expression. -/
def Expr.eval (s : Store) (self : Value) (args : List Value) : Expr → Value
  | .literal p => .primitive p
  | .named n => (s.values.get? n).getD .undefined
  | .argument i => Value.argument args i
  | .receiver => self
  | .argumentCount => .int args.length
  | .field k => receiverField s self k

/-- Writes a property of a script object or a field of a host object; on anything else nothing is
written. -/
def assignTo (target : Value) (key : String) (v : Value) : StoreM Unit :=
  match target with
  | .object o =>
      if o.isScript then do
        let _ ← defineProperty o key v
      else if o.hostClass?.isSome then modify fun s => s.setField o.id key v
      else pure ()
  | .primitive _ => pure ()

/-- A new instance of a host class with the given fields. -/
def newHostObject (c : HostClass) (fields : List (String × Value)) : StoreM Value := do
  let id ← freshId
  modify fun s => { s with fields := s.fields.insert id (Table.ofList fields) }
  return .object (.host id c)

/-- Runs a statement: the answer of the body, or nothing if the body goes on. -/
def Statement.exec (self : Value) (args : List Value) : Statement → RunM (Option Value)
  | .display => pure (some (.string (self.showCall args)))
  | .inspect => pure (some (.string (Value.inspectAll args)))
  | .answer e => do return some (e.eval (← get) self args)
  | .raise k t => fail (.raised k t)
  | .assign e key v => do
      let s ← get
      assignTo (e.eval s self args) key (v.eval s self args)
      return none
  | .call f t es => do
      let s ← get
      return some (← callValue (f.eval s self args) (t.eval s self args)
        (es.map (Expr.eval s self args)))
  | .invoke site es => do
      let s ← get
      match s.siteNames.get? site with
      | some id => return some (← invokeSite id (es.map (Expr.eval s self args)))
      | none => return some .undefined
  | .instantiate c fs => do
      let s ← get
      match s.classes.get? c with
      | some cls =>
          return some (← newHostObject cls (fs.map fun f => (f.1, f.2.eval s self args)))
      | none => return some .undefined

/-- Runs a body: the first answer counts, and without one the answer is `undefined`. -/
def runBody (self : Value) (args : List Value) : Body → RunM Value
  | [] => pure .undefined
  | st :: r => do
      match ← st.exec self args with
      | some v => return v
      | none => runBody self args r

/-! ### Host members -/

/-- The field of an instance, `null` if it was never written. -/
def readField (s : Store) (self : Value) (key : String) : Value :=
  match self with
  | .object o =>
      if o.hostClass?.isSome then ((s.fieldsOf o.id).get? key).getD .null else .null
  | .primitive _ => .null

/-- Writes the field of an instance; on anything else the write is dropped. -/
def writeField (self : Value) (key : String) (v : Value) : StoreM Unit :=
  match self with
  | .object o =>
      if o.hostClass?.isSome then modify fun s => s.setField o.id key v else pure ()
  | .primitive _ => pure ()

/-- Runs a host member. -/
def runHost (b : HostBody) (self : Value) (args : List Value) : RunM Value :=
  match b with
  | .statements b => runBody self args b
  | .readField k => do return readField (← get) self k
  | .writeField k => do
      writeField self k (Value.argument args 0)
      return .undefined
  | .readStatic c k => do return ((← get).statics.get? (c, k)).getD .undefined
  | .forward =>
      match self with
      | .object (.proxy _ _ t) => callValue t .undefined args
      | v => fail (.notFunction v.text)

/-- Runs what user code is entered for. -/
def Entry.run (e : Entry) (self : Value) (args : List Value) : RunM Value :=
  match e with
  | .code b => runBody self args b
  | .host m => runHost m.body self args

/-! ### The knot -/

/-- Runs user code in which calls are nested at most `n` deep. -/
def runEntry : Nat → Runner
  | 0, _, _, _ => throw .tooDeep
  | n + 1, e, self, args => e.run self args (fun e self args => runEntry n e self args)

theorem enter_runEntry (e : Entry) (self : Value) (args : List Value) (n : Nat) :
    enter e self args (runEntry (n + 1)) = e.run self args (runEntry n) := rfl

/-- The depth to which calls may be nested. -/
def maxDepth : Nat := 100000

/-- A computation with its user code run. -/
def RunM.toStore {α : Type} (m : RunM α) : StoreM α :=
  m (fun e self args => runEntry maxDepth e self args)

end DynamicLinking
