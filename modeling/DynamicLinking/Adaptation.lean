/-
A candidate has static types of its own; the call site has others.  Adapting an invocation converts
its arguments and its result.  Adaptations that have no conversion break the contract between
linkers and chains, which is reported and not an error of the script.

* `Invocation.unboxResult` — a boxed result cast to a primitive type;
* `Invocation.asType` — an invocation with exactly the wanted signature;
* `Services.hideScripts` — an invocation that shows host code mirrors instead of script objects;
* `Candidate.requireOptimism` — a candidate whose result has to fit the type of its call site.
-/

import DynamicLinking.Invocation
import DynamicLinking.Linker

set_option autoImplicit false

namespace DynamicLinking

/-- Does a boxed result reach a primitive type by widening?  All other results pass. -/
def StaticType.unboxesByWidening (a b : StaticType) : Bool :=
  match a.unboxed? with
  | some p => !b.isPrimitive || p.widensTo b
  | none => true

namespace Invocation

/-- The invocation with a boxed result cast to the wanted primitive type, and with no result in the
place of `void` where an object is wanted.  Other results are left alone. -/
def unboxResult (i : Invocation) (wanted : StaticType) : Except Mismatch Invocation :=
  match i.signature.result.unboxed?.filter fun _ => wanted.isPrimitive with
  | some p =>
      if p.widensTo wanted then .ok (i.filterResult wanted (.narrow wanted))
      else .error (.results i.signature.result wanted)
  | none =>
      if i.signature.result = .void ∧ wanted = .object then .ok (i.filterResult .object .drop)
      else .ok i

/-- The invocation with its arguments converted from the types of `wanted`. -/
def convertParams (i : Invocation) (wanted : Signature) : Except Mismatch Invocation :=
  if i.signature.params = wanted.params then .ok i
  else if (wanted.params.zip i.signature.params).all fun p => p.1.convertsTo p.2 then
    .ok (i.filterArguments wanted.params (.convert i.signature.params))
  else .error (.signatures i.signature wanted)

/-- The invocation with its result converted to a type. -/
def convertResult (i : Invocation) (declared wanted : Signature) : Except Mismatch Invocation :=
  if i.signature.result = wanted.result then .ok i
  else if i.signature.result.convertsTo wanted.result then
    .ok (i.filterResult wanted.result (.convert wanted.result))
  else .error (.signatures declared wanted)

/-- The invocation with exactly the wanted signature. -/
def asType (i : Invocation) (wanted : Signature) : Except Mismatch Invocation :=
  if i.signature = wanted then .ok i
  else if i.signature.arity ≠ wanted.arity then .error (.signatures i.signature wanted)
  else do
    let adapted ← i.convertParams wanted
    let adapted ←
      if adapted.signature.result.unboxesByWidening wanted.result then
        adapted.unboxResult wanted.result
      else .ok adapted
    adapted.convertResult i.signature wanted

end Invocation

/-- The invocation with script objects hidden from host code, if the services ask for it: mirrors
go in, and the script objects of mirrors come back. -/
def Services.hideScripts (s : Services) (i : Invocation) : Invocation :=
  if s.hidesScripts then
    (i.filterArguments i.signature.params .wrapScripts).filterResult i.signature.result
      .unwrapMirror
  else i

/-- Is the type one that an optimistic call site narrows to? -/
def StaticType.isNumeric : StaticType → Bool
  | .int | .long | .double => true
  | _ => false

/-- The candidate with its result required to fit the type of an optimistic call site. -/
def Candidate.requireOptimism (c : Candidate) (d : Descriptor) : Candidate :=
  let t := d.signature.result
  if d.flags.isOptimistic && t.isNumeric then
    c.mapInvocation fun i => i.filterResult t (.requireFit t d.flags.programPoint.toNat)
  else c

/-- The candidate with its result replaced by a labelled text. -/
def Candidate.labelled (c : Candidate) (label : String) : Candidate :=
  c.mapInvocation fun i =>
    i.filterResult .string (.label (label ++ i.signature.result.text))

/-- What a prelink filter makes of a candidate. -/
def PrelinkFilter.apply (f : PrelinkFilter) (c : Candidate) (d : Descriptor) : Candidate :=
  match f with
  | .optimistic => c.requireOptimism d
  | .label l => c.labelled l

/-- The candidate with exactly the signature of a descriptor. -/
def Candidate.adaptTo (c : Candidate) (s : Signature) : Except Mismatch Candidate :=
  (c.invocation.asType s).map fun i => { c with invocation := i }

end DynamicLinking
