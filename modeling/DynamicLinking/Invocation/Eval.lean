/-
The meaning of the code of an invocation on the arguments of a call site.

* `narrowed` — the cast of a boxed result to a primitive type;
* `fits` — is a result a number of a type;
* `ResultFilter.apply`, `ArgumentFilter.apply` — the filters;
* `Code.eval` — the meaning of code.
-/

import DynamicLinking.Callable

set_option autoImplicit false

namespace DynamicLinking

/-! ### Filters -/

/-- The cast of a boxed result to a primitive type.  `null` becomes zero or `false`, and numbers
are narrowed; what is no number stays as it is, except that every value has a truth. -/
def narrowed (t : StaticType) (v : Value) : Value :=
  match t, v with
  | .boolean, .null => .boolean false
  | _, .null => .number (.integer 0)
  | .boolean, v => .boolean v.isTruthy
  | .int, .number n => .number (.ofInt32 n.toInt32)
  | .long, .number (.float x) => .number (.integer x.toInt64)
  | .double, .number n => .number (.normalize n.toBinary64)
  | _, v => v

/-- Is a value a number of a numeric type? -/
def fits (t : StaticType) (v : Value) : Bool :=
  match t, v with
  | .int, .number (.integer i) => inInt32 i.toInt
  | .long, .number (.integer _) => true
  | .double, .number _ => true
  | _, _ => false

/-- What a filter makes of a result. -/
def ResultFilter.apply : ResultFilter → Value → RunM Value
  | .convert t, v => convertValue v t
  | .narrow t, v => pure (narrowed t v)
  | .drop, _ => pure .undefined
  | .unwrapMirror, v => pure (importValue v)
  | .requireFit t p, v => if fits t v then pure v else fail (.unwarranted v.text p)
  | .label l, v => pure (.string (l ++ ":" ++ v.inspectText))

/-- What a filter makes of arguments. -/
def ArgumentFilter.apply : ArgumentFilter → List Value → RunM (List Value)
  | .convert ts, args => convertArguments ts args
  | .wrapScripts, args => args.mapM fun v => exportValue v

/-! ### Operations -/

/-- Checks access to the class that a call of a value ends up in. -/
def checkCallee (p : PolicyRef) (v : Value) : StoreM Unit := do
  ofExcept (((← get).policy p).checkCallee v)

/-- Checks access to a class. -/
def checkClass (p : PolicyRef) (c : HostClass) (isStatic : Bool) : StoreM Unit := do
  ofExcept (((← get).policy p).check c isStatic)

/-- A new method reference. -/
def newMethodRef (c : HostClass) (name : String) (isStatic : Bool) : StoreM Value := do
  return .object (.methodRef (← freshId) c name isStatic)

/-- Reads a property. -/
def runGetter (m : HostMethod) (self : Value) : RunM Value :=
  enter (.host m) self []

/-- Calls or constructs argument 0. -/
def evalCallable (d : Descriptor) (args : List Value) : RunM Value :=
  let callee := Value.argument args 0
  if d.operation = .new then constructValue callee (d.callArguments args)
  else callValue callee (Descriptor.callReceiver args) (d.callArguments args)

/-- Reads a property of a script object; of anything else it reads `undefined`. -/
def evalScriptGet (d : Descriptor) (args : List Value) : RunM Value := do
  let key ← d.memberKey args
  match (Value.argument args 0).script? with
  | some o => getProperty o key
  | none => return .undefined

/-- Writes a property of a script object; on anything else the write is dropped. -/
def evalScriptSet (d : Descriptor) (args : List Value) : RunM Value := do
  let key ← d.memberKey args
  match (Value.argument args 0).script? with
  | some o => putProperty o key (d.memberValue args) d.isStrict
  | none => pure ()
  return .undefined

/-- Writes a property of a script object; on anything else not even the key is looked at. -/
def evalMissingSet (d : Descriptor) (args : List Value) : RunM Value :=
  match (Value.argument args 0).script? with
  | some _ => evalScriptSet d args
  | none => pure .undefined

/-- Reads a member of a string. -/
def evalStringGet (d : Descriptor) (args : List Value) : RunM Value := do
  let key ← d.memberKey args
  match Value.argument args 0 with
  | .string s => return .primitive (Primitive.stringMember s key)
  | _ => return .undefined

/-- The overridden method of an adapter, bound to the adapter. -/
def superMethod (p : PolicyRef) (adapter : Value) (name : String) : StoreM Value :=
  match adapter.hostClass? with
  | none => pure .undefined
  | some c => do
      checkCallee p adapter
      let superName := "super$" ++ name
      match c.findMethod? superName with
      | none => return .undefined
      | some _ => bindGeneric (← newMethodRef c superName false) adapter []

/-- Reads an overridden method through a super adapter. -/
def evalSuperGet (d : Descriptor) (p : PolicyRef) (args : List Value) : RunM Value := do
  let key ← d.memberKey args
  match Value.argument args 0 with
  | .object (.superAdapter _ a) => superMethod p a key
  | _ => return .undefined

/-- The foreign object that an operation is about. -/
def foreignReceiver (v : Value) : StoreM Object :=
  match v.object?.filter fun o => o.bridge?.isSome with
  | some o => pure o
  | none => fail (.notForeign v.text)

/-- Reads a member of a foreign object, by its index if the key is one. -/
def evalForeignGet (d : Descriptor) (args : List Value) : RunM Value := do
  let key ← d.memberKey args
  let o ← foreignReceiver (Value.argument args 0)
  match Primitive.arrayIndex? key with
  | some i => o.getSlot i
  | none => o.getMember key

/-- Writes a member of a foreign object, by its index if the key is one. -/
def evalForeignSet (d : Descriptor) (args : List Value) : RunM Value := do
  let key ← d.memberKey args
  let o ← foreignReceiver (Value.argument args 0)
  match Primitive.arrayIndex? key with
  | some i => o.setSlot i (d.memberValue args)
  | none => o.setMember key (d.memberValue args)
  return .undefined

/-- Reads a static member: a property before a method. -/
def evalStaticMember (c : HostClass) (d : Descriptor) (args : List Value) : RunM Value := do
  let key ← d.memberKey args
  match c.findStaticProperty? key with
  | some p => runGetter p.getter .undefined
  | none =>
      if (c.findStaticMethod? key).isSome then newMethodRef c key true
      else return .undefined

/-- A member that is read from an instance. -/
inductive HostMember where
  | property (getter : HostMethod)
  | method

/-- The member of a name.  A method counts before a property if methods are asked for. -/
def HostClass.member? (c : HostClass) (name : String) (prefersMethod : Bool) :
    Option HostMember :=
  let property := (c.findProperty? name).map fun p => HostMember.property p.getter
  let method := (c.findMethod? name).map fun _ => HostMember.method
  if prefersMethod then method <|> property else property <|> method

/-- Reads or writes the member of an instance that an argument names. -/
def evalHostMember (c : HostClass) (d : Descriptor) (args : List Value) : RunM Value := do
  let key ← d.memberKey args
  let self := Value.argument args 0
  if d.operation.isSet then
    match (c.findProperty? key).bind HostProperty.setter? with
    | some m => let _ ← invokeHost m self [d.memberValue args]
    | none => pure ()
    return .undefined
  else
    match c.member? key (d.operation == .getMethod) with
    | some (.property getter) => runGetter getter self
    | some .method => newMethodRef c key false
    | none => return .undefined

/-- Calls a method reference on the receiver of the call. -/
def evalMethodCall (d : Descriptor) (args : List Value) : RunM Value :=
  match Value.argument args 0 with
  | .object (.methodRef _ c m isStatic) =>
      callMethodRef c m isStatic (Descriptor.callReceiver args) (d.callArguments args)
  | v => fail (.notFunction v.text)

/-- Fails because the receiver is `undefined` or `null`.  The key is looked at first. -/
def evalNullish (d : Descriptor) (args : List Value) : RunM Value := do
  let receiver := (Value.argument args 0).text
  if d.operation.isGet then
    fail (.unreadable (← d.memberKey args) receiver)
  else if d.operation.isSet then
    fail (.unwritable (← d.memberKey args) receiver)
  else fail (.notFunction receiver)

/-! ### Code -/

/-- What code does with the arguments of a call site. -/
def Code.eval : Code → List Value → RunM Value
  | .constant v, _ => pure v
  | .failing e, _ => fail e
  | .run b, args => enter (.code b) (Value.argument args 0) args
  | .callable d, args => evalCallable d args
  | .checkedCallable d p, args => do
      checkCallee p (Value.argument args 0)
      evalCallable d args
  | .scriptGet d, args => evalScriptGet d args
  | .scriptSet d, args => evalScriptSet d args
  | .stringGet d, args => evalStringGet d args
  | .primitiveSet d, args => do
      fail (.primitiveWrite (← d.memberKey args) (Value.argument args 0).text)
  | .superGet d p, args => evalSuperGet d p args
  | .foreignGet d, args => evalForeignGet d args
  | .foreignSet d, args => evalForeignSet d args
  | .foreignCall d, args => do
      (← foreignReceiver (Value.argument args 0)).callForeign (Descriptor.callReceiver args)
        (d.callArguments args)
  | .foreignNew d, args => do
      (← foreignReceiver (Value.argument args 0)).constructForeign (d.callArguments args)
  | .staticGetter m, _ => runGetter m .undefined
  | .staticSetter m d, args => do
      let _ ← invokeHost m .undefined [d.memberValue args]
      return .undefined
  | .staticMember c d, args => evalStaticMember c d args
  | .hostGetter m, args => runGetter m (Value.argument args 0)
  | .hostSetter m d, args => invokeHost m (Value.argument args 0) [d.memberValue args]
  | .hostCall m d, args => invokeHost m (Value.argument args 0) (d.callArguments args)
  | .proxyCall m p d, args => invokeHost m p (d.callArguments args)
  | .hostMember c d, args => evalHostMember c d args
  | .methodCall d, args => evalMethodCall d args
  | .missingSet d, args => evalMissingSet d args
  | .missingCall, args => fail (.notFunction (Value.argument args 0).text)
  | .nullish d, args => evalNullish d args
  | .filterResult c f, args => do f.apply (← c.eval args)
  | .filterArguments c f, args => do c.eval (← f.apply args)

/-- Runs an invocation. -/
def Invocation.eval (i : Invocation) (args : List Value) : RunM Value :=
  i.code.eval args

namespace Invocation

theorem eval_filterResult (i : Invocation) (t : StaticType) (f : ResultFilter)
    (args : List Value) : (i.filterResult t f).eval args = i.eval args >>= f.apply := rfl

theorem eval_filterArguments (i : Invocation) (ps : List StaticType) (f : ArgumentFilter)
    (args : List Value) : (i.filterArguments ps f).eval args = f.apply args >>= i.eval := rfl

end Invocation

end DynamicLinking
