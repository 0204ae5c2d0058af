/-
A foreign object answers for its own members, slots, calls and constructions.  A mirror is the
foreign view of a script object and passes everything on to it.

* `Object.getMember`, `Object.setMember`, `Object.hasMember` — members by name;
* `Object.getSlot`, `Object.setSlot` — members by index;
* `Object.callForeign`, `Object.constructForeign` — calling and constructing;
* `exportValue`, `importValue` — a script object as host code sees it, and back.
-/

import DynamicLinking.ScriptFunction
import DynamicLinking.Value.Display

set_option autoImplicit false

namespace DynamicLinking

namespace Object

/-- The name of the class of a foreign object. -/
def foreignClassName : Object → String
  | .foreign _ f => f.className
  | .mirror _ t => t.mirrorClassName
  | _ => "Object"

/-- Does a foreign object present itself as a function? -/
def isForeignFunction : Object → Bool
  | .foreign _ f => f.isFunction
  | .mirror _ t => t.isScriptFunction
  | _ => false

/-- Does a foreign object present itself as a strict function? -/
def isStrictForeign : Object → Bool
  | .foreign _ f => f.isStrict
  | .mirror _ t => (t.code?.map FunctionCode.isStrict).getD false
  | _ => false

/-- The text that a foreign object displays. -/
def foreignText : Object → Except ScriptError String
  | .foreign _ f => f.displayText
  | o => .ok (Value.text (.object o))

/-- The script object behind a mirror. -/
def mirrored? : Object → Option Object
  | .mirror _ t => some t
  | _ => none

/-- Reads a member of a foreign object. -/
def getMember (o : Object) (name : String) : StoreM Value :=
  match o with
  | .foreign i _ => do
      let f := (← get).foreign i
      match f.members.get? name, f.missing with
      | some v, _ => return v
      | none, .value v => return v
      | none, .failure e => fail e
  | .mirror _ t => getProperty t name
  | o => fail (.notForeign (Value.text (.object o)))

/-- Writes a member of a foreign object. -/
def setMember (o : Object) (name : String) (v : Value) : StoreM Unit :=
  match o with
  | .foreign i info =>
      if info.refusesWrites then fail (.readOnly name)
      else
        modify fun s =>
          let f := s.foreign i
          s.setForeign i { f with members := f.members.insert name v }
  | .mirror _ t => putProperty t name v false
  | o => fail (.notForeign (Value.text (.object o)))

/-- Has a foreign object a member? -/
def hasMember (s : Store) (o : Object) (name : String) : Bool :=
  match o with
  | .foreign i _ => (s.foreign i).members.contains name
  | .mirror _ t => s.hasProperty t name
  | _ => false

/-- The name of the member that an index denotes. -/
def slotName (o : Object) (index : Int) : String :=
  match o with
  | .foreign _ f => if f.hasSlots then "slot:" ++ toString index else toString index
  | _ => toString index

/-- Reads a member of a foreign object by its index. -/
def getSlot (o : Object) (index : Int) : StoreM Value :=
  o.getMember (o.slotName index)

/-- Writes a member of a foreign object by its index. -/
def setSlot (o : Object) (index : Int) (v : Value) : StoreM Unit :=
  o.setMember (o.slotName index) v

/-- Calls a foreign object. -/
def callForeign (o : Object) (self : Value) (args : List Value) : RunM Value :=
  match o with
  | .foreign _ f =>
      match f.callBody? with
      | some b => enter (.code b) self args
      | none => fail (.notFunction f.className)
  | .mirror _ t =>
      if t.isScriptFunction then callFunction t self args
      else fail (.notFunction t.mirrorClassName)
  | o => fail (.notForeign (Value.text (.object o)))

/-- Constructs with a foreign object. -/
def constructForeign (o : Object) (args : List Value) : RunM Value :=
  match o with
  | .foreign _ f =>
      match f.constructBody? with
      | some b => enter (.code b) .undefined args
      | none => fail (.notConstructor f.className)
  | .mirror _ t =>
      if t.isScriptFunction then constructFunction t args
      else fail (.notConstructor t.mirrorClassName)
  | o => fail (.notForeign (Value.text (.object o)))

end Object

/-- A new mirror of a script object; other values have none. -/
def newMirror? (v : Value) : StoreM (Option Value) :=
  match v.script? with
  | some o => do return some (.object (.mirror (← freshId) o))
  | none => pure none

/-- A value as host code sees it: a new mirror in the place of a script object. -/
def exportValue (v : Value) : StoreM Value := do
  return (← newMirror? v).getD v

/-- A value that host code gives back: the script object in the place of its mirror. -/
def importValue : Value → Value
  | .object (.mirror _ t) => .object t
  | v => v

end DynamicLinking
