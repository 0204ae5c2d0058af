/-
A call site keeps one candidate.  A call that the candidate does not admit links again; once a site
was linked again more often than the threshold of its chain allows, it stops caching for good.

Main definitions:

* `CallSite.countInvoke`, `CallSite.countLink`, `CallSite.cache` — the steps of a site's state;
* `relink` — links a call and keeps the candidate;
* `invokeSite` — serves a call from the cache or by linking, and runs the invocation;
* `internDescriptor`, `bootstrap` — descriptors shared by equal call sites, and call sites of an
  environment.
-/

import DynamicLinking.Environment
import DynamicLinking.Invocation.Eval
import DynamicLinking.Linker.Link

set_option autoImplicit false

namespace DynamicLinking

namespace CallSite

/-- The site with a call counted as a hit or as a miss, if it is profiled. -/
def countInvoke (c : CallSite) (isHit : Bool) : CallSite :=
  if c.descriptor.flags.isProfiling then
    if isHit then { c with hits := c.hits + 1 } else { c with misses := c.misses + 1 }
  else c

/-- The number of relinks once another link is counted: the first link is none. -/
def nextRelinks (c : CallSite) : Nat :=
  if c.isLinked then c.relinks + 1 else 0

/-- The site with another link counted.  Crossing the threshold empties the cache for good. -/
def countLink (c : CallSite) : CallSite :=
  let crosses := c.chain.threshold < c.nextRelinks && !c.isMegamorphic
  { c with
    isLinked := true
    relinks := c.nextRelinks
    isMegamorphic := c.isMegamorphic || crosses
    target? := if crosses then none else c.target? }

/-- Should the link that is counted next prefer broad guards? -/
def isUnstable (c : CallSite) : Bool :=
  c.countLink.isMegamorphic || c.chain.threshold ≤ c.nextRelinks

/-- The site with a candidate kept, unless it has stopped caching. -/
def cache (c : CallSite) (k : Candidate) : CallSite :=
  if c.isMegamorphic then c else { c with target? := some k }

/-- The candidate that serves a call from the cache. -/
def cached? (c : CallSite) (s : Store) (args : List Value) : Option Candidate :=
  if c.isMegamorphic then none
  else c.target?.filter fun k => s.accepts k args

end CallSite

/-- The call site with an identity. -/
def getSite (id : Nat) : StoreM CallSite := do
  match (← get).sites.get? id with
  | some c => return c
  | none => throw (.unknownSite id)

/-- Replaces the call site with an identity. -/
def setSite (id : Nat) (c : CallSite) : StoreM Unit :=
  modify fun s => { s with sites := s.sites.insert id c }

/-- Links a call of a site.  The link is counted first; a failing link leaves the cached candidate
as it is. -/
def relink (id : Nat) (args : List Value) : StoreM Invocation := do
  let c ← getSite id
  setSite id c.countLink
  match ← c.chain.link ⟨c.descriptor, args, c.isUnstable⟩ with
  | none => fail (.noOperation c.descriptor.encoding (Value.argument args 0).text)
  | some k =>
      setSite id ((← getSite id).cache k)
      return k.invocation

/-- The invocation that serves a call of a site: that of the cached candidate, or that of a new
link. -/
def resolve (id : Nat) (args : List Value) : StoreM Invocation := do
  let c ← getSite id
  match c.cached? (← get) args with
  | some k =>
      setSite id (c.countInvoke true)
      return k.invocation
  | none =>
      setSite id (c.countInvoke false)
      relink id args

/-- Runs the operation of a call site. -/
def invokeSite (id : Nat) (args : List Value) : RunM Value := do
  (← resolve id args).eval args

/-! ### Making call sites -/

/-- A descriptor and its identity: call sites of one encoding, signature and flags share theirs,
unless they have a program point. -/
structure SharedDescriptor where
  id : Nat
  descriptor : Descriptor
  deriving DecidableEq, Repr

/-- The shared descriptor of an encoding, a signature and flags. -/
def internDescriptor (encoding : String) (signature : Signature) (flags : CallSiteFlags) :
    StoreM SharedDescriptor := do
  let d ← ofExcept (Descriptor.parse encoding signature flags)
  if flags.programPoint ≠ 0 then
    return ⟨← freshId, d⟩
  let key := (encoding, signature, flags)
  match (← get).descriptors.get? key with
  | some id => return ⟨id, d⟩
  | none =>
      let id ← freshId
      modify fun s => { s with descriptors := s.descriptors.insert key id }
      return ⟨id, d⟩

/-- A new call site. -/
def newSite (d : Descriptor) (chain : LinkerChain) : StoreM Nat := do
  let id ← freshId
  setSite id { descriptor := d, chain }
  return id

/-- A new call site of an environment. -/
def bootstrap (e : Environment) (encoding : String) (signature : Signature)
    (flags : CallSiteFlags) : StoreM Nat := do
  let d ← internDescriptor encoding signature (e.effectiveFlags flags)
  newSite d.descriptor e.chain

/-- A new call site of the default environment that calls: its signature has room for the callee and
the receiver. -/
def bootstrapCall (signature : Signature) : StoreM Nat :=
  if signature.arity < 2 then fail (.shortCallSignature signature.text)
  else bootstrap {} Operation.call.mnemonic signature ⟨0⟩

end DynamicLinking
