/-
A candidate is linked with the types of its operation, all of them `object` but for that of the
result, and then adapted to those of the call site.  Adapting spreads the arguments over the
parameters, converts the parameters, and unboxes, narrows or converts the result.  All of it comes
down to two things: the arguments that are passed, and one filter for the result.

Main definitions:

* `Descriptor.passes` — the arguments that a call site passes on;
* `Descriptor.resultFilter?` — **the filter for results of a declared type**, if there is one;
* `Candidate.Adapts` — a candidate is another one with its arguments passed and its result filtered.

Main results:

* `Descriptor.passes_of_generic`, `Descriptor.resultFilter?_of_generic` — sites whose types are all
  `object`;
* `Invocation.asType_eq` — an adapted invocation, run;
* `Candidate.IsGeneric.adapt_eq` — **a candidate is adapted exactly if its result has a filter**.
-/

import DynamicLinking.Proofs.Evolution

set_option autoImplicit false

namespace DynamicLinking

/-! ### Arguments -/

/-- At least `n` arguments: those that are absent are `undefined`. -/
def padded : Nat → List Value → List Value
  | 0, args => args
  | n + 1, args => args.head?.getD .undefined :: padded n args.tail

@[simp] theorem argument_padded (n : Nat) (args : List Value) (i : Nat) :
    Value.argument (padded n args) i = Value.argument args i := by
  induction n generalizing args i with
  | zero => rfl
  | succ n ih =>
      cases i with
      | zero => cases args <;> simp [padded, Value.argument]
      | succ i =>
          have := ih args.tail i
          cases args <;> simpa [padded, Value.argument] using this

/-- Every value converts to `object` as it is. -/
theorem convertArguments_object (n : Nat) (args : List Value) :
    convertArguments (List.replicate n .object) args = pure (padded n args) := by
  induction n generalizing args with
  | zero => rfl
  | succ n ih =>
      simp [List.replicate_succ, convertArguments, convertValue, StaticType.admits, ih, padded]

/-- The arguments that a call site passes to the invocations that it links: their number is made up
to that of the parameters, unless all types are `object` anyway. -/
def Descriptor.passes (d : Descriptor) (args : List Value) : List Value :=
  if List.replicate d.signature.arity .object = d.signature.params then args
  else padded d.signature.arity args

@[simp] theorem Descriptor.argument_passes (d : Descriptor) (args : List Value) (i : Nat) :
    Value.argument (d.passes args) i = Value.argument args i := by
  unfold passes
  split <;> simp

/-- Where all types are `object` the arguments are passed as they are. -/
theorem Descriptor.passes_of_generic {d : Descriptor} {n : Nat}
    (h : d.signature = Signature.generic n) (args : List Value) : d.passes args = args := by
  have hparams : List.replicate d.signature.arity .object = d.signature.params := by
    rw [h, Signature.arity_generic]
    rfl
  rw [passes, if_pos hparams]

/-! ### Results -/

/-- What is done to a result, if anything is. -/
def finish : Option ResultFilter → Value → RunM Value
  | none, v => pure v
  | some f, v => f.apply v

theorem finish_none : finish none = (pure : Value → RunM Value) := rfl

theorem finish_some (f : ResultFilter) (v : Value) : finish (some f) v = f.apply v := rfl

theorem requireFit_of_fits {t : StaticType} {v : Value} (h : fits t v = true) (n : Nat)
    (run : Runner) (s : Store) : ResultFilter.apply (.requireFit t n) v run s = .ok v s := by
  rw [ResultFilter.apply, if_pos h]
  rfl

/-- What does not fit fails. -/
theorem requireFit_of_unfit {t : StaticType} {v : Value} (h : fits t v = false) (n : Nat)
    (run : Runner) (s : Store) :
    ResultFilter.apply (.requireFit t n) v run s = .error (.error (.unwarranted v.text n)) s := by
  rw [ResultFilter.apply, if_neg (by simp [h])]
  rfl

/-- The filter between results of a type and those of another one, if there is a conversion. -/
def StaticType.filterTo? (a b : StaticType) : Option (Option ResultFilter) :=
  if a = b then some none
  else if a.unboxed?.any fun p => b.isPrimitive && p.widensTo b then some (some (.narrow b))
  else if a = .void ∧ b = .object then some (some .drop)
  else if a.convertsTo b then some (some (.convert b))
  else none

/-- There is a filter wherever there is a conversion. -/
theorem StaticType.isSome_filterTo? (a b : StaticType) :
    (a.filterTo? b).isSome = a.convertsTo b := by
  unfold filterTo?
  split
  · rename_i h
    rw [h, convertsTo_refl]
    rfl
  · split
    · cases a <;> cases b <;> first | rfl | simp [unboxed?, isPrimitive] at *
    · split
      · rename_i h
        rw [h.1, h.2]
        rfl
      · split <;> simp_all

/-- What is done to results: nothing if the types are the same, a cast if they are boxed, a
conversion, or they are dropped where any value is wanted. -/
theorem StaticType.filterTo?_cases {a b : StaticType} {f? : Option ResultFilter}
    (hf : a.filterTo? b = some f?) :
    (f? = none ∧ a = b) ∨
      (f? = some (.narrow b) ∧ b.isPrimitive = true ∧
        ∃ p, a.unboxed? = some p ∧ p.widensTo b = true) ∨
      f? = some (.convert b) ∨ f? = some .drop ∧ b = .object := by
  unfold filterTo? at hf
  split at hf
  · rename_i heq
    cases hf
    exact .inl ⟨rfl, heq⟩
  · split at hf
    · rename_i hbox
      cases hf
      obtain ⟨p, hp, hprimitive⟩ := (Option.any_eq_true _ _).mp hbox
      rw [Bool.and_eq_true] at hprimitive
      exact .inr (.inl ⟨rfl, hprimitive.1, p, hp, hprimitive.2⟩)
    · split at hf
      · rename_i hvoid
        cases hf
        simp [hvoid.2]
      · split at hf
        · cases hf
          simp
        · cases hf

/-- The filter that a call site puts on results of a type.  An optimistic site of a numeric type
takes any result that fits. -/
def Descriptor.resultFilter? (d : Descriptor) (result : StaticType) :
    Option (Option ResultFilter) :=
  let t := d.signature.result
  if d.flags.isOptimistic && t.isNumeric then
    some (some (.requireFit t d.flags.programPoint.toNat))
  else result.filterTo? t

/-- An optimistic site of a numeric type takes any result that fits, whatever is declared. -/
theorem Descriptor.resultFilter?_of_optimistic {d : Descriptor}
    (h : (d.flags.isOptimistic && d.signature.result.isNumeric) = true) (declared : StaticType) :
    d.resultFilter? declared =
      some (some (.requireFit d.signature.result d.flags.programPoint.toNat)) := by
  simp only [resultFilter?, h, if_true]

theorem Descriptor.resultFilter?_of_pessimistic {d : Descriptor}
    (h : ¬ (d.flags.isOptimistic && d.signature.result.isNumeric) = true)
    (declared : StaticType) : d.resultFilter? declared = declared.filterTo? d.signature.result := by
  simp only [resultFilter?, h]
  rfl

/-- A site that takes results of all types is not an optimistic one of a numeric type. -/
theorem Descriptor.resultFilter?_of_generic {d : Descriptor} {n : Nat}
    (h : d.signature = Signature.generic n) (declared : StaticType) :
    d.resultFilter? declared = declared.filterTo? .object := by
  have hresult : d.signature.result = .object := by rw [h]; rfl
  rw [← hresult]
  refine resultFilter?_of_pessimistic ?_ declared
  rw [hresult]
  simp [StaticType.isNumeric]

namespace Invocation

variable {i : Invocation} {wanted : Signature}

/-- The invocation behind an optional filter. -/
def finished (i : Invocation) (t : StaticType) : Option ResultFilter → Invocation
  | none => i
  | some f => i.filterResult t f

theorem eval_finished (i : Invocation) (t : StaticType) (f? : Option ResultFilter)
    (args : List Value) : (i.finished t f?).eval args = i.eval args >>= finish f? := by
  cases f? with
  | none => exact (bind_pure (i.eval args)).symm
  | some f => rfl

/-- The adaptation of the result. -/
def adaptResult (i : Invocation) (declared wanted : Signature) : Except Mismatch Invocation := do
  let adapted ←
    if i.signature.result.unboxesByWidening wanted.result then i.unboxResult wanted.result
    else .ok i
  adapted.convertResult declared wanted

theorem adaptResult_eq (i : Invocation) (declared wanted : Signature) :
    i.adaptResult declared wanted =
      match i.signature.result.filterTo? wanted.result with
      | some f? => .ok (i.finished wanted.result f?)
      | none => .error (.signatures declared wanted) := by
  obtain ⟨⟨ps, a⟩, c⟩ := i
  obtain ⟨qs, b⟩ := wanted
  -- two types are told apart by computation, unless both are functional interfaces
  cases a with
  | functional m =>
      cases b with
      | functional n =>
          by_cases h : m = n
          · subst h
            simp [adaptResult, StaticType.unboxesByWidening, StaticType.unboxed?, unboxResult,
              convertResult, StaticType.filterTo?, finished, bind, Except.bind]
          · simp [adaptResult, StaticType.unboxesByWidening, StaticType.unboxed?, unboxResult,
              convertResult, StaticType.filterTo?, StaticType.convertsTo, h, bind, Except.bind]
      | _ => rfl
  | _ => cases b <;> rfl

/-- The invocation with the parameters of a call site. -/
def spread (i : Invocation) (wanted : Signature) : Invocation :=
  if i.signature.params = wanted.params then i
  else i.filterArguments wanted.params (.convert i.signature.params)

theorem result_spread (i : Invocation) (wanted : Signature) :
    (i.spread wanted).signature.result = i.signature.result := by
  unfold spread
  split <;> rfl

theorem eval_spread {d : Descriptor}
    (hp : i.signature.params = List.replicate d.signature.arity .object) (args : List Value) :
    (i.spread d.signature).eval args = i.eval (d.passes args) := by
  rw [spread, Descriptor.passes, hp]
  split
  · rfl
  · rw [eval_filterArguments, ArgumentFilter.apply, convertArguments_object, pure_bind]

/-- Parameters are converted if each of them can be. -/
theorem convertParams_of_all
    (h : (wanted.params.zip i.signature.params).all (fun p => p.1.convertsTo p.2) = true) :
    i.convertParams wanted = .ok (i.spread wanted) := by
  rw [convertParams, if_pos h, spread]
  split <;> rfl

/-- Parameters of type `object` take arguments of all types. -/
theorem convertParams_eq (hp : i.signature.params = List.replicate wanted.arity .object) :
    i.convertParams wanted = .ok (i.spread wanted) := by
  refine convertParams_of_all ?_
  rw [List.all_eq_true]
  rintro ⟨a, b⟩ hab
  have hb : b ∈ i.signature.params := (List.of_mem_zip hab).2
  rw [hp] at hb
  rw [List.eq_of_mem_replicate hb]
  cases a <;> rfl

/-- **An adapted invocation.**  Its arguments are made up to the parameters of the call site, and
its result goes through the filter for its type. -/
theorem asType_eq {d : Descriptor} (hi : i.signature = d.genericSignature i.signature.result) :
    match i.signature.result.filterTo? d.signature.result with
    | some f? =>
        ∃ j, i.asType d.signature = .ok j ∧
          ∀ args, j.eval args = i.eval (d.passes args) >>= finish f?
    | none => ∃ m, i.asType d.signature = .error m := by
  have harity : i.signature.arity = d.signature.arity := by
    rw [hi]
    simp [Descriptor.genericSignature]
  have hparams : i.signature.params = List.replicate d.signature.arity .object := by
    rw [hi]
    rfl
  -- also where nothing is adapted the general way leads to the invocation itself
  have hasType : i.asType d.signature =
      (i.spread d.signature).adaptResult i.signature d.signature := by
    unfold asType
    by_cases hs : i.signature = d.signature
    · have hself : i.spread d.signature = i := by simp [spread, hs]
      have hresult : i.signature.result.filterTo? d.signature.result = some none := by
        simp [hs, StaticType.filterTo?]
      rw [if_pos hs, hself, adaptResult_eq, hresult]
      rfl
    · rw [if_neg hs, if_neg (by simpa using harity), convertParams_eq hparams]
      rfl
  rw [hasType, adaptResult_eq, result_spread]
  cases i.signature.result.filterTo? d.signature.result with
  | none => exact ⟨_, rfl⟩
  | some f? =>
      refine ⟨_, rfl, fun args => ?_⟩
      rw [eval_finished, eval_spread hparams]

end Invocation

/-! ### What a chain links -/

/-- A candidate with the types of a call site made of one whose types are all `object` but for the
result: it holds under the same conditions. -/
structure Candidate.Adapts (k' k : Candidate) (d : Descriptor) (f? : Option ResultFilter) :
    Prop where
  guard : k'.guard? = k.guard?
  switchPoints : k'.switchPoints = k.switchPoints
  eval : ∀ args, k'.invocation.eval args = k.invocation.eval (d.passes args) >>= finish f?

/-- Candidates with the same guard admit the same calls. -/
theorem Candidate.admits_of_guard {k k' : Candidate} (h : k'.guard? = k.guard?)
    (args : List Value) : k'.admits args = k.admits args := by
  unfold admits
  rw [h]

namespace Candidate.Adapts

variable {k' k : Candidate} {d : Descriptor} {f? : Option ResultFilter}

theorem isInvalidated_eq (h : k'.Adapts k d f?) (s : Store) :
    s.isInvalidated k' = s.isInvalidated k := by
  unfold Store.isInvalidated
  rw [h.switchPoints]

/-- The adapted candidate may serve the same calls. -/
theorem accepts_eq (h : k'.Adapts k d f?) (s : Store) (args : List Value) :
    s.accepts k' args = s.accepts k args := by
  unfold Store.accepts
  rw [h.isInvalidated_eq, admits_of_guard h.guard]

end Candidate.Adapts

/-- All types of the candidate are `object`, but for that of the result. -/
def Candidate.IsGeneric (k : Candidate) (d : Descriptor) : Prop :=
  k.invocation.signature = d.genericSignature k.invocation.signature.result

/-- The static type of the results of a candidate. -/
abbrev Candidate.result (k : Candidate) : StaticType :=
  k.invocation.signature.result

namespace Candidate.IsGeneric

variable {k : Candidate} {d : Descriptor}

/-- **A candidate adapted to its call site.** -/
theorem adapt_eq (hk : k.IsGeneric d) :
    match d.resultFilter? k.result with
    | some f? =>
        ∃ k' : Candidate, LinkerChain.adapt (k.requireOptimism d) d.signature = pure k' ∧
          k'.Adapts k d f?
    | none => ∃ m, LinkerChain.adapt (k.requireOptimism d) d.signature = throw (.broken m) := by
  by_cases hopt : (d.flags.isOptimistic && d.signature.result.isNumeric) = true
  · -- the filter of the optimistic site gives the result its type, so that no other is needed
    obtain ⟨i, hi⟩ : ∃ i, i = k.invocation.filterResult d.signature.result
      (.requireFit d.signature.result d.flags.programPoint.toNat) := ⟨_, rfl⟩
    have hsig : i.signature = d.genericSignature i.signature.result := by
      have hparams := congrArg Signature.params hk
      simp only [hi, Invocation.signature_filterResult]
      rw [hparams]
      rfl
    have hreq : k.requireOptimism d = { k with invocation := i } := by
      simp only [requireOptimism, hopt, if_true, hi]
      rfl
    have hnone : i.signature.result.filterTo? d.signature.result = some none := by
      simp [hi, StaticType.filterTo?]
    have := Invocation.asType_eq hsig
    rw [hnone] at this
    obtain ⟨j, hj, heval⟩ := this
    rw [Descriptor.resultFilter?_of_optimistic hopt]
    refine ⟨{ k with invocation := j }, ?_, rfl, rfl, fun args => ?_⟩
    · simp [LinkerChain.adapt, hreq, adaptTo, hj, Except.map]
    · rw [heval, hi, Invocation.eval_filterResult]
      exact bind_pure _
  · have hreq : k.requireOptimism d = k := by
      simp only [requireOptimism, hopt]
      rfl
    have := Invocation.asType_eq hk
    rw [Descriptor.resultFilter?_of_pessimistic hopt, hreq]
    cases hf : k.result.filterTo? d.signature.result with
    | none =>
        rw [hf] at this
        obtain ⟨m, hm⟩ := this
        exact ⟨m, by simp [LinkerChain.adapt, adaptTo, hm, Except.map]⟩
    | some f? =>
        rw [hf] at this
        obtain ⟨j, hj, heval⟩ := this
        refine ⟨{ k with invocation := j }, ?_, rfl, rfl, heval⟩
        simp [LinkerChain.adapt, adaptTo, hj, Except.map]

end Candidate.IsGeneric

end DynamicLinking
