/-
What a call site does when no linker has anything for its receiver: reading gives `undefined`,
writing extends the receiver or is dropped, and calling fails, but only when it runs.  The decision
rests on the type of the receiver alone.

* `Value.answersForMissing` — does a receiver answer for its own missing members;
* `LinkRequest.linkMissing?` — the candidate for a missing member.
-/

import DynamicLinking.Linker

set_option autoImplicit false

namespace DynamicLinking

/-- Does the receiver answer for its own missing members?  Objects of the browser do. -/
def Value.answersForMissing (v : Value) : Bool :=
  v.object?.bind Object.bridge? == some .browser

namespace LinkRequest

/-- The code for a missing member. -/
def missingCode (r : LinkRequest) : Code :=
  if r.receiver.isNullish then .nullish r.descriptor
  else
    match r.descriptor.operation with
    | .getProperty | .getElement | .getMethod => .constant .undefined
    | .setProperty | .setElement => .missingSet r.descriptor
    | .call | .new => .missingCall

/-- The candidate for a missing member, unless the receiver answers for those itself. -/
def linkMissing? (r : LinkRequest) : Option Candidate :=
  if r.receiver.answersForMissing then none
  else
    some (Candidate.guarded ⟨r.genericSignature .object, r.missingCode⟩
      (Guard.receiverType r.receiver))

end LinkRequest

end DynamicLinking
