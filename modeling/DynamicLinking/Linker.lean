/-
A chain of linkers answers the requests of call sites: the first linker that knows the receiver and
has a candidate for the operation wins.  This module holds the linkers and the chains as data.

Main definitions:

* `Linker` — the built-in linkers and those that an environment contributes;
* `Linker.name`, `Linker.handles` — the name of a linker, and the receivers it is asked about;
* `Services` — what a chain grants to its linkers;
* `LinkerChain`, `ChainPlan` — a chain, and the choices that one is made from;
* `LinkRequest` — a descriptor with the arguments of one call.
-/

import DynamicLinking.Invocation

set_option autoImplicit false

namespace DynamicLinking

/-! ### Requests -/

/-- One attempt to link: what a call site asks for, and the arguments of the call. -/
structure LinkRequest where
  descriptor : Descriptor
  args : List Value
  /-- Has the call site been linked so often that broad guards are preferred? -/
  isUnstable : Bool := false

namespace LinkRequest

/-- The receiver of the operation: argument 0, which is the callee of a call. -/
def receiver (r : LinkRequest) : Value :=
  Value.argument r.args 0

/-- The signature of a candidate: all parameters are `object`. -/
def genericSignature (r : LinkRequest) (result : StaticType) : Signature :=
  r.descriptor.genericSignature result

end LinkRequest

/-- What a chain grants to its linkers. -/
structure Services where
  policy : PolicyRef := .fixed .permitAll
  hidesScripts : Bool := true

/-! ### Linkers -/

/-- The receivers that a contributed linker is asked about. -/
inductive ReceiverMatch where
  | any
  /-- The instances of host classes of a name. -/
  | className (name : String)
  /-- The values to which `typeof` gives a name. -/
  | typeName (name : String)
  deriving DecidableEq, Repr

/-- The guard that a contributed linker puts on its candidates. -/
inductive GuardChoice where
  | receiverType
  | receiverIdentity
  | unguarded
  | never
  /-- The type of the receiver and the identity of argument 1. -/
  | typeAndArgument
  | argumentType
  deriving DecidableEq, Repr

/-- A linker that an environment contributes. -/
structure ContributedLinker where
  name : String
  /-- The receivers it is asked about. -/
  receivers : ReceiverMatch := .any
  /-- The operations it does not decline; all of them if none are listed. -/
  operations? : Option (List Operation) := none
  /-- The error with which it fails, if it fails. -/
  failure? : Option ScriptError := none
  /-- What its candidates run; without it the linker declines. -/
  body? : Option Body := none
  /-- The type of the result of its candidates. -/
  result : StaticType := .object
  /-- The types of its candidates, if they are not those of the call site. -/
  signature? : Option Signature := none
  guard : GuardChoice := .receiverType
  /-- The switch that its candidates depend on. -/
  switch? : Option SwitchPoint := none
  deriving Repr

/-- A linker. -/
inductive Linker where
  /-- Script objects and script functions. -/
  | script
  /-- Strings, numbers and booleans. -/
  | primitive
  /-- Calls of bound callables. -/
  | boundCallable
  /-- Overridden methods through super adapters. -/
  | superAdapter
  /-- The foreign objects of one bridge. -/
  | foreign (bridge : BridgeKind)
  /-- Denies restricted classes that the policy does not grant, and declines otherwise. -/
  | reflectionCheck
  /-- Host classes as values. -/
  | staticClass
  /-- Host objects and method references. -/
  | beans
  /-- Host objects and method references, leaving missing members to others. -/
  | exposedBeans
  /-- The instances and the method references of exactly one class. -/
  | beansOf (cls : HostClass)
  /-- Whatever is left. -/
  | bottom
  | contributed (c : ContributedLinker)

namespace Linker

/-- The name of a linker. -/
def name : Linker → String
  | .script => "ScriptLinker"
  | .primitive => "PrimitiveLinker"
  | .boundCallable => "BoundCallableLinker"
  | .superAdapter => "SuperAdapterLinker"
  | .foreign k => "ForeignObjectLinker(" ++ k.name ++ ")"
  | .reflectionCheck => "ReflectionCheckLinker"
  | .staticClass => "StaticClassLinker"
  | .beans => "BeansLinker"
  | .exposedBeans => "BeansLinker(exposed)"
  | .beansOf _ => "BeansLinker(class)"
  | .bottom => "BottomLinker"
  | .contributed c => c.name

/-- The host class that a receiver of the bean linkers stands for: its own if it is an instance,
the declaring one if it is a method reference. -/
def beanClass? : Value → Option HostClass
  | .object (.methodRef _ c _ _) => some c
  | v => v.hostClass?

/-- Does a contributed linker match a receiver? -/
def matchesReceiver : ReceiverMatch → Value → Bool
  | .any, _ => true
  | .className n, v => v.hostClass?.any fun c => c.name == n
  | .typeName n, v => v.typeName == n

/-- Is the linker asked about a receiver? -/
def handles : Linker → Value → Bool
  | .script, v => v.script?.isSome
  | .primitive, v => v.isPrimitive && !v.isNullish
  | .boundCallable, .object (.bound _ _ _ _) => true
  | .boundCallable, _ => false
  | .superAdapter, .object (.superAdapter _ _) => true
  | .superAdapter, _ => false
  | .foreign k, v => v.object?.bind Object.bridge? == some k
  | .reflectionCheck, .object (.staticClass _ _) => true
  | .reflectionCheck, v => (beanClass? v).isSome
  | .staticClass, .object (.staticClass _ _) => true
  | .staticClass, _ => false
  | .beans, v => (beanClass? v).isSome
  | .exposedBeans, v => (beanClass? v).isSome
  | .beansOf c, v => beanClass? v == some c
  | .bottom, _ => true
  | .contributed c, v => matchesReceiver c.receivers v

end Linker

/-! ### Chains -/

/-- What is done to every candidate between its choice and its adaptation. -/
inductive PrelinkFilter where
  /-- Optimistic sites check that the result fits. -/
  | optimistic
  /-- The result is replaced by a text that tells its static type and its kind, after a label. -/
  | label (text : String)
  deriving DecidableEq, Repr

/-- A chain of linkers in two tiers. -/
structure LinkerChain where
  /-- The linkers that are asked first. -/
  prioritized : List Linker
  /-- The linkers that are asked last. -/
  fallback : List Linker
  /-- What the chain grants to its linkers. -/
  services : Services
  /-- Are missing members linked when every linker declines? -/
  synthesizesMissing : Bool
  /-- What is done to every candidate. -/
  prelink? : Option PrelinkFilter
  /-- The number of relinks after which a call site stops caching. -/
  threshold : Nat
  /-- Do call sites relink one call at a time? -/
  syncOnRelink : Bool

/-- The choices from which a chain is made.  Contributed linkers come between the prioritized ones
and the fallbacks. -/
structure ChainPlan where
  prioritized : List Linker := []
  /-- The linkers of the environment. -/
  contributed : List Linker := []
  fallback : List Linker := []
  services : Services := {}
  synthesizesMissing : Bool := true
  prelink? : Option PrelinkFilter := none
  threshold : Nat := 8
  syncOnRelink : Bool := false

/-- The chain that a plan describes. -/
def ChainPlan.build (p : ChainPlan) : LinkerChain where
  prioritized := p.prioritized
  fallback := p.contributed ++ p.fallback
  services := p.services
  synthesizesMissing := p.synthesizesMissing
  prelink? := p.prelink?
  threshold := p.threshold
  syncOnRelink := p.syncOnRelink

namespace LinkerChain

/-- All linkers of a chain, in the order in which they are asked. -/
def linkers (c : LinkerChain) : List Linker :=
  c.prioritized ++ c.fallback

/-- The prioritized linkers of the default chain. -/
def defaultPrioritized : List Linker :=
  [.script, .primitive, .boundCallable, .superAdapter, .foreign .generic, .foreign .browser,
   .reflectionCheck]

/-- The fallback linkers of the default chain. -/
def defaultFallback : List Linker :=
  [.staticClass, .beans, .bottom]

/-- The linkers for native code that wants no missing members. -/
def exposedLinkers : List Linker :=
  [.foreign .generic, .exposedBeans]

/-- The plan of a chain with the default tiers, the optimistic filter and serialized relinking. -/
def defaultPlan : ChainPlan where
  prioritized := defaultPrioritized
  fallback := defaultFallback
  prelink? := some .optimistic
  syncOnRelink := true

/-- The chain with the default tiers, contributed linkers and a threshold. -/
def standard (contributed : List Linker) (threshold : Nat) : LinkerChain :=
  { defaultPlan with contributed, threshold }.build

/-- A list of names in brackets. -/
def namesText (ls : List Linker) : String :=
  "[" ++ String.intercalate ", " (ls.map fun l => Text.quoted l.name) ++ "]"

/-- The text of a chain in diagnostics. -/
def text (c : LinkerChain) : String :=
  "DynamicLinker \x7b prioritized: " ++ namesText c.prioritized ++ ", fallback: " ++
    namesText c.fallback ++ ", unstable_relink_threshold: " ++ toString c.threshold ++ " \x7d"

end LinkerChain

end DynamicLinking
