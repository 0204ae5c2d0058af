/-
The settings, the access policy and the contributed linkers that a group of call sites shares.  An
environment determines the chain of its call sites.

* `Environment` — the environment, with the steps by which one is built up;
* `Environment.chain` — the chain of its call sites;
* `Environment.effectiveFlags` — the flags of a call site with the settings folded in.
-/

import DynamicLinking.Config
import DynamicLinking.Linker

set_option autoImplicit false

namespace DynamicLinking

/-- What a group of call sites shares. -/
structure Environment where
  config : LinkerConfig := {}
  /-- The policy on restricted classes. -/
  policy : PolicyRef := .fixed .permitAll
  contributed : List Linker := []

namespace Environment

/-- The environment with other settings.  Settings that do not allow reflection deny it from now
on. -/
def withConfig (e : Environment) (c : LinkerConfig) : Environment :=
  { e with
    config := c
    policy := if c.allowsReflection then e.policy else .fixed .denyAll }

/-- The environment with another policy. -/
def withPolicy (e : Environment) (p : PolicyRef) : Environment :=
  { e with policy := p }

/-- The environment with further linkers after its own. -/
def withContributed (e : Environment) (ls : List Linker) : Environment :=
  { e with contributed := e.contributed ++ ls }

/-- The chain of the call sites. -/
def chain (e : Environment) : LinkerChain :=
  { LinkerChain.defaultPlan with
    contributed := e.contributed
    services := { policy := e.policy }
    threshold := e.config.threshold
    syncOnRelink := e.config.syncOnRelink }.build

/-- The flags of a call site with the settings of the environment folded in. -/
def effectiveFlags (e : Environment) (f : CallSiteFlags) : CallSiteFlags :=
  let f := if e.config.profilesSites then f.set CallSiteFlags.profile else f
  if e.config.tracesSites then f.set CallSiteFlags.trace else f

end Environment

end DynamicLinking
