/-
What every linker answers to a request, and how a chain arrives at its answer: the first candidate
of a linker that handles the receiver is taken, filtered, and adapted to the types of the call site.
Linking never runs user code.

* `Linker.link` — the answer of one linker;
* `LinkerChain.select`, `LinkerChain.link` — the answer of a chain.
-/

import DynamicLinking.Linker.Host
import DynamicLinking.Linker.Script

set_option autoImplicit false

namespace DynamicLinking

namespace ContributedLinker

/-- The guard that a contributed linker puts on a candidate. -/
def guardFor? (c : ContributedLinker) (r : LinkRequest) : Option Guard :=
  match c.guard with
  | .receiverType => some (.receiverType r.receiver)
  | .receiverIdentity => some (.receiverIdentity r.receiver)
  | .unguarded => none
  | .never => some .never
  | .typeAndArgument =>
      some (.both (.receiverType r.receiver) (.identity 1 (Value.argument r.args 1)))
  | .argumentType => some (.type 1 (Value.argument r.args 1).runtimeType)

/-- The answer of a contributed linker, which also records that it was asked. -/
def link (c : ContributedLinker) (r : LinkRequest) : StoreM (Option Candidate) := do
  modify fun s =>
    { s with inquiries := s.inquiries ++ [⟨c.name, r.isUnstable, r.args.length⟩] }
  if c.operations?.any fun ops => !ops.contains r.descriptor.operation then
    return none
  match c.failure?, c.body? with
  | some e, _ => fail e
  | none, none => return none
  | none, some b =>
      return some
        { invocation := ⟨c.signature?.getD (r.genericSignature c.result), .run b⟩
          guard? := c.guardFor? r
          switchPoints := c.switch?.toList }

end ContributedLinker

/-- The answer of a linker to a request whose receiver it handles. -/
def Linker.link (l : Linker) (r : LinkRequest) (services : Services) :
    StoreM (Option Candidate) := do
  match l with
  | .script => return r.linkScript? (← get)
  | .primitive => return r.linkPrimitive?
  | .boundCallable => ofExcept (r.linkBound? services.policy (← get))
  | .superAdapter => ofExcept (r.linkSuper? services.policy (← get))
  | .foreign _ => return some r.linkForeign
  | .reflectionCheck =>
      ofExcept (r.checkReflection ((← get).policy services.policy))
      return none
  | .staticClass => r.linkStaticClass? services
  | .beans => r.linkBean? services false
  | .exposedBeans => r.linkBean? services true
  | .beansOf _ => r.linkBean? services false
  | .bottom => return r.linkMissing?
  | .contributed c => c.link r

/-- The first candidate of a list of linkers. -/
def firstCandidate (r : LinkRequest) (services : Services) :
    List Linker → StoreM (Option Candidate)
  | [] => pure none
  | l :: ls =>
      if l.handles r.receiver then do
        match ← l.link r services with
        | some c => return some c
        | none => firstCandidate r services ls
      else firstCandidate r services ls

namespace LinkerChain

/-- The candidate that a chain chooses: the first one of its linkers, or else that of a missing
member. -/
def select (c : LinkerChain) (r : LinkRequest) : StoreM (Option Candidate) := do
  match ← firstCandidate r c.services c.linkers with
  | some k => return some k
  | none => return if c.synthesizesMissing then r.linkMissing? else none

/-- A candidate after the filter of the chain. -/
def prelink (c : LinkerChain) (k : Candidate) (d : Descriptor) : Candidate :=
  match c.prelink? with
  | some f => f.apply k d
  | none => k

/-- The candidate with the types of a signature.  One that has no conversion breaks the contract of
the chain. -/
def adapt (k : Candidate) (s : Signature) : StoreM Candidate :=
  match k.adaptTo s with
  | .ok k => pure k
  | .error m => throw (.broken m)

/-- The answer of a chain to a request: a candidate with exactly the types of the call site, or
nothing if every linker declines. -/
def link (c : LinkerChain) (r : LinkRequest) : StoreM (Option Candidate) := do
  match ← c.select r with
  | none => return none
  | some k => return some (← adapt (c.prelink k r.descriptor) r.descriptor.signature)

end LinkerChain

end DynamicLinking
