/-
A property of a host class may be the field of the same name.  A call site that writes it exports
the value, converts it to the declared type of the property and keeps what comes out; one that reads
it imports what is kept.  The property may be inherited, and its key may be fixed or computed; what
sites hold in their caches makes no difference.

What host code is handed is no script object, so that the conversion asks no methods of scripts: it
runs no user code, and either fails with all fields as they were or changes the one field only.
From then on the field answers what is kept there, until somebody writes it.

Main definitions:

* `CallSite.IsOpen` — a site of the default chain to which everything is granted and whose types are
  all `object`;
* `StaticType.kept` — what a field of a type keeps of a value;
* `Store.ReadsBack` — every later read of a field answers a value, as long as nobody writes the
  field;
* `Store.FieldWrite` — **the outcomes of a write of a field**.

Main results:

* `takes_convertValue_of_hidden` — a conversion of a value that is no script object runs no user
  code;
* `invokeSite_write`, `invokeSite_read` — what calls that write and read a field do;
* `fieldWrite_of_asks` — **fields of host objects read back what was written**.
-/

import DynamicLinking.Proofs.FieldWrites
import DynamicLinking.Proofs.HostCalls
import DynamicLinking.Proofs.MemberLookup

set_option autoImplicit false

namespace DynamicLinking

/-! ### Conversions of values that are no script objects -/

section

variable {S : Store → Store → Prop} {v : Value}

/-- Only script objects are asked for their primitive values. -/
theorem takes_toPrimitive_of_hidden (hv : v.script? = none) (hint : Hint) (run : Runner) :
    Takes S (toPrimitive v hint run) := by
  cases v with
  | primitive p => exact takes_pure p
  | object o =>
      cases o with
      | ordinary i => cases hv
      | function i c => cases hv
      | boundFunction i t c s l => cases hv
      | foreign i f => exact takes_bind (takes_ofExcept _) fun x => takes_pure _
      | _ => exact takes_pure _

/-- **A conversion of a value that is no script object runs no user code.** -/
theorem takes_convertValue_of_hidden [Store.AllowsIds S] (hv : v.script? = none) (t : StaticType)
    (run : Runner) : Takes S (convertValue v t run) := by
  have hnumber : Takes S (toNumber v run) :=
    takes_bind (takes_toPrimitive_of_hidden hv .number run) fun p => takes_pure _
  have hprimitive (t : StaticType) : Takes S (convertToPrimitive v t run) := by
    unfold convertToPrimitive
    split
    · exact takes_pure _
    · exact takes_bind hnumber fun n => takes_pure _
    · exact takes_bind hnumber fun n => takes_pure _
    · exact takes_bind hnumber fun n => takes_pure _
    · exact takes_pure _
  have hboxed (t : StaticType) :
      Takes S
        ((if v = .undefined then pure .null else convertToPrimitive v t : RunM Value) run) := by
    split
    · exact takes_pure _
    · exact hprimitive t
  unfold convertValue
  split
  · exact takes_pure _
  · cases t with
    | object => exact takes_pure _
    | void => exact takes_pure _
    | string =>
        refine takes_bind (takes_bind (takes_toPrimitive_of_hidden hv .string run) fun p => ?_)
          fun x => takes_pure _
        exact takes_pure _
    | functional m => exact takes_functionalProxy v m
    | boxedBoolean | boxedInt | boxedLong | boxedDouble => exact hboxed _
    | boolean | int | long | double => exact hprimitive _

end

/-- What a field of a type keeps of a value: the value as host code sees it, converted. -/
def StaticType.kept (t : StaticType) (v : Value) : RunM Value := do
  convertValue (← exportValue v) t

section

variable {t : StaticType} {v w : Value} {run : Runner} {s u : Store}

/-- Finding out what a field keeps changes nothing but the next identity. -/
theorem alike_after_kept (t : StaticType) (v : Value) (run : Runner) (s : Store) :
    s.Alike ((t.kept v run).after s) := by
  obtain ⟨x, n, hx, -⟩ := exportValue_apply v s
  have hexport : (exportValue v : RunM Value) run s = .ok x { s with nextId := n } := hx
  have hkept : (t.kept v run).after s = (convertValue x t run).after { s with nextId := n } := by
    unfold StoreM.after StaticType.kept
    rw [RunM.bind_of_ok hexport]
  have hhidden : x.script? = none := (exports_of_exportValue hx).script?_eq_none
  have hnext : s.Alike { s with nextId := n } := rfl
  rw [hkept]
  exact hnext.trans ((takes_convertValue_of_hidden hhidden t run).alike _)

/-- What a field keeps is of the type of the field. -/
theorem admits_of_kept (h : t.kept v run s = .ok w u) : t.admits w = true := by
  obtain ⟨x, s', -, hx⟩ := RunM.bind_eq_ok h
  exact admits_of_convertValue hx

/-- Where there is no result only `undefined` is one. -/
theorem eq_undefined_of_admits (h : StaticType.void.admits v = true) : v = .undefined := by
  cases v with
  | object o => cases h
  | primitive p => cases p <;> first | rfl | cases h

end

/-! ### Getters and setters -/

/-- Keeps a value in a field. -/
def keepField (o : Object) (key : String) (w : Value) : StoreM Value := do
  modify fun s => s.setField o.id key w
  return .undefined

section

variable {o : Object} {c : HostClass} {key : String} {t : StaticType} {n : Nat}

/-- The setter of a field converts its argument and keeps it. -/
theorem invokeHost_setter (ho : o.hostClass? = some c) (x : Value) :
    invokeHost ⟨key, ⟨[t], .void⟩, .writeField key⟩ (.object o) [x] (runEntry (n + 1)) =
      (do keepField o key (← convertValue x t) : RunM Value) (runEntry (n + 1)) := by
  have hsetter (w : Value) :
      enter (.host ⟨key, ⟨[t], .void⟩, .writeField key⟩) (.object o) [w] (runEntry (n + 1)) =
        keepField o key w := by
    rw [enter_runEntry, Entry.run, runHost]
    simp only [writeField, ho, Option.isSome_some, if_true]
    rfl
  funext s
  rw [invokeHost, RunM.bind_apply]
  cases hx : convertValue x t (runEntry (n + 1)) s with
  | error f u =>
      rw [RunM.bind_of_error hx]
      exact StoreM.bind_of_error (RunM.bind_of_error hx _) _
  | ok w u =>
      rw [RunM.bind_of_ok hx, ← hsetter]
      exact StoreM.bind_of_ok (RunM.bind_of_ok hx _) _

/-- The getter of a field answers what is kept there. -/
theorem runGetter_field (ho : o.hostClass? = some c) (s : Store) :
    runGetter (HostProperty.ofField key t).getter (.object o) (runEntry (n + 1)) s =
      .ok (((s.fieldsOf o.id).get? key).getD .null) s := by
  have hread : readField s (.object o) key = ((s.fieldsOf o.id).get? key).getD .null := by
    simp only [readField, ho, Option.isSome_some, if_true]
  rw [runGetter, enter_runEntry, ← hread]
  rfl

end

/-! ### What instances have for an access of a field -/

section

variable {d : Descriptor} {args : List Value} {o : Object} {c : HostClass} {key : String}
  {t : StaticType} {v : Value} {b : Bool}

/-- The invocation for an operation on an instance of a class. -/
def Descriptor.LinksBean (d : Descriptor) (c : HostClass) (i : Invocation) : Prop :=
  ∀ r : LinkRequest, r.descriptor = d → r.beanInvocation? c = pure (some i)

/-- Host code that keeps its last argument gets the argument exported; nothing comes back, so that
there is nothing to import. -/
theorem eval_hidden_write {i : Invocation} {leading : List Value}
    (hleading : ∀ a ∈ leading, a.script? = none) {run : Runner}
    (hi : ∀ x, i.eval (leading ++ [x]) run =
      (do keepField o key (← convertValue x t) : RunM Value) run) (v : Value) :
    (Services.hideScripts { policy := .permitAll } i).eval (leading ++ [v]) run =
      (do keepField o key (← t.kept v) : RunM Value) run := by
  rw [eval_hideScripts, wrapScripts_append hleading]
  simp only [StaticType.kept, keepField, bind_assoc, pure_bind, RunM.bind_apply, RunM.pure_apply,
    RunM.lift_apply, hi]
  rfl

/-- **A write of a field** keeps the exported and converted value, wherever the key comes from. -/
theorem exists_linksBean_write (ho : o.hostClass? = some c)
    (hfield : c.findProperty? key = some (.ofField key t))
    (h : d.Asks args (.write (.object o) key v b)) :
    ∃ i, d.LinksBean c i ∧ ∀ n,
      (Services.hideScripts { policy := .permitAll } i).eval args (runEntry (n + 1)) =
        (do keepField o key (← t.kept v) : RunM Value) (runEntry (n + 1)) := by
  have hscript : (Value.object o).script? = none := (Value.of_hostClass? (v := .object o) ho).1
  obtain ⟨leading, hargs, hleading, hasks⟩ := h.exists_leading hscript
  rcases h.2.2 with ⟨hn, -⟩ | ⟨hn, -⟩
  · refine ⟨⟨d.genericSignature .void, .hostSetter ⟨key, ⟨[t], .void⟩, .writeField key⟩ d⟩, ?_, ?_⟩
    · rintro r rfl
      rw [LinkRequest.beanInvocation?_of_fixed_write h.1 hn, hfield]
      rfl
    · intro n
      rw [hargs]
      refine eval_hidden_write hleading (fun x => ?_) v
      rw [Invocation.eval, Code.eval, (hasks x).argument_zero, (hasks x).memberValue]
      exact invokeHost_setter ho x
  · refine ⟨⟨d.genericSignature .object, .hostMember c d⟩, ?_, ?_⟩
    · rintro r rfl
      exact LinkRequest.beanInvocation?_of_computed h.operation hn c
    · intro n
      rw [hargs]
      refine eval_hidden_write hleading (fun x => ?_) v
      rw [Invocation.eval, Code.eval, LinkRequest.evalHostMember_of_write (hasks x),
        HostClass.writeMember, hfield]
      -- the setter answers nothing, and the write does so too
      simp only [Option.bind_some, HostProperty.ofField, RunM.bind_apply, RunM.pure_apply,
        RunM.lift_apply, invokeHost_setter ho, keepField, bind_assoc, pure_bind]

/-- **A read of a field** imports what is kept there, wherever the key comes from.  Only a site with
a fixed key knows the type of the field. -/
theorem exists_linksBean_read (ho : o.hostClass? = some c)
    (hfield : c.findProperty? key = some (.ofField key t))
    (h : d.Asks args (.read (.object o) key false)) :
    ∃ i, d.LinksBean c i ∧ (i.signature.result = t ∨ i.signature.result = .object) ∧ ∀ n s,
      (Services.hideScripts { policy := .permitAll } i).eval args (runEntry (n + 1)) s =
        .ok (importValue (((s.fieldsOf o.id).get? key).getD .null)) s := by
  have hscript : (Value.object o).script? = none := (Value.of_hostClass? (v := .object o) ho).1
  have hmember : c.member? key false = some (.property (HostProperty.ofField key t).getter) := by
    simp [HostClass.member?, hfield]
  rcases h.2.2 with ⟨hn, hargs⟩ | ⟨hn, hargs⟩
  · refine ⟨⟨d.genericSignature t, .hostGetter (HostProperty.ofField key t).getter⟩, ?_,
      .inl rfl, ?_⟩
    · rintro r rfl
      exact LinkRequest.beanInvocation?_of_property h.1 hn (by rwa [h.2.1])
    · intro n s
      rw [eval_hideScripts, hargs, wrapScripts_of_script?_eq_none (by simpa using hscript),
        pure_bind]
      exact RunM.bind_of_ok (runGetter_field ho s) _
  · refine ⟨⟨d.genericSignature .object, .hostMember c d⟩, ?_, .inr rfl, ?_⟩
    · rintro r rfl
      exact LinkRequest.beanInvocation?_of_computed h.operation hn c
    · intro n s
      rw [eval_hideScripts, hargs, wrapScripts_of_script?_eq_none (by simpa using ⟨hscript, rfl⟩),
        pure_bind, ← hargs]
      rw [Invocation.eval, Code.eval, LinkRequest.evalHostMember_of_read h, HostClass.readMember,
        hmember]
      exact RunM.bind_of_ok (runGetter_field ho s) _

end

/-! ### Call sites -/

/-- A site of the default chain to which everything is granted and whose types are all `object`. -/
structure CallSite.IsOpen (c : CallSite) : Prop where
  chain : c.chain.IsDefault .permitAll
  signature : ∃ n, c.descriptor.signature = Signature.generic n

section

variable {s : Store} {id : Nat} {site : CallSite} {args : List Value} {o : Object} {c : HostClass}
  {key : String} {t : StaticType} {v w : Value} {b : Bool}

/-- **A call about an instance** delivers what the instance has for the operation, whatever the
cache of the site holds. -/
theorem exists_delivers_of_linksBean (hs : s.Reachable) (hsite : s.sites.get? id = some site)
    (hopen : site.IsOpen) (hself : Value.argument args 0 = .object o) (ho : o.hostClass? = some c)
    {i : Invocation} (hi : site.descriptor.LinksBean c i) :
    ∃ (k : Candidate) (u : Store),
      k.invocation = Services.hideScripts { policy := .permitAll } i ∧ s.ServedIn u ∧
      ∀ run, invokeSite id args run s = k.delivers args run u := by
  obtain ⟨hchain, n, hd⟩ := hopen
  rcases invokeSite_delivers hchain hs hsite hd args with
    ⟨f, t, hdenied, -⟩ | ⟨r, k, u, hdescriptor, ⟨s₁, s₂, hchosen⟩, hadmits, hserved, hinvoke⟩
  · -- nothing is denied
    have hreceiver : LinkRequest.receiver
        ⟨site.descriptor, args, (site.countInvoke false).isUnstable⟩ = .object o := hself
    rw [LinkRequest.chosen_host hreceiver ho, hi _ rfl] at hdenied
    cases hdenied
  · have hreceiver : r.receiver.hostClass? = some c := by
      have hfits : r.Fits k := r.fits_chosen _ s₁ k s₂ hchosen
      refine Value.hostClass?_of_runtimeType ?_ (hfits.runtimeType_eq hadmits).symm
      rw [hself]
      exact ho
    have hk := LinkRequest.eq_of_chosen_bean hreceiver (hi r hdescriptor) hchosen
    exact ⟨k, u, by rw [hk]; rfl, hserved, hinvoke⟩

/-- **What a call that writes a field does.** -/
theorem invokeSite_write (hs : s.Reachable) (hsite : s.sites.get? id = some site)
    (hopen : site.IsOpen) (ho : o.hostClass? = some c)
    (hfield : c.findProperty? key = some (.ofField key t))
    (h : site.descriptor.Asks args (.write (.object o) key v b)) (n : Nat) :
    ∃ u, s.ServedIn u ∧ invokeSite id args (runEntry (n + 1)) s =
      (do keepField o key (← t.kept v) : RunM Value) (runEntry (n + 1)) u := by
  obtain ⟨i, hi, heval⟩ := exists_linksBean_write ho hfield h
  obtain ⟨k, u, hk, hserved, hinvoke⟩ :=
    exists_delivers_of_linksBean hs hsite hopen h.argument_zero ho hi
  refine ⟨u, hserved, ?_⟩
  -- there is no result but `undefined`, so that it makes no difference whether it is dropped
  rw [hinvoke, Candidate.delivers, hk, RunM.bind_apply, heval]
  simp only [keepField, bind_assoc, pure_bind, RunM.bind_apply, RunM.pure_apply, RunM.lift_apply,
    ite_self]

/-- **What a call that reads a field answers**, if something of the type of the field is kept
there. -/
theorem invokeSite_read (hs : s.Reachable) (hsite : s.sites.get? id = some site)
    (hopen : site.IsOpen) (ho : o.hostClass? = some c)
    (hfield : c.findProperty? key = some (.ofField key t))
    (h : site.descriptor.Asks args (.read (.object o) key false))
    (hkept : (s.fieldsOf o.id).get? key = some w) (hw : t.admits w = true) (n : Nat) :
    ∃ u, s.ServedIn u ∧
      invokeSite id args (runEntry (n + 1)) s = .ok (importValue w) u := by
  obtain ⟨i, hi, hresult, heval⟩ := exists_linksBean_read ho hfield h
  obtain ⟨k, u, hk, hserved, hinvoke⟩ :=
    exists_delivers_of_linksBean hs hsite hopen h.argument_zero ho hi
  refine ⟨u, hserved, ?_⟩
  have hfields : u.fieldsOf o.id = s.fieldsOf o.id := by rw [hserved]; rfl
  have hvoid : k.result = .void → w = .undefined := by
    intro hvoid
    have hdropped : i.signature.result = .void := by rw [← hvoid, Candidate.result, hk]; rfl
    rw [hdropped] at hresult
    rcases hresult with hresult | hresult
    · exact eq_undefined_of_admits (hresult ▸ hw)
    · cases hresult
  rw [hinvoke, Candidate.delivers, hk, RunM.bind_of_ok (heval n u), hfields, hkept]
  by_cases hdropped : k.result = .void
  · rw [if_pos hdropped, hvoid hdropped]
    rfl
  · rw [if_neg hdropped]
    rfl

end

/-! ### The law -/

/-- The fields of host objects but for one. -/
abbrev Store.allBut (id : Nat) (key : String) : Store.Fields :=
  fun i k => ¬ (i = id ∧ k = key)

/-- **Every later read of a field answers a value**, as long as nobody writes the field: a read of
the property or of the element, at any open site of any store that a run of such steps leads to. -/
def Store.ReadsBack (s : Store) (o : Object) (key : String) (v : Value) : Prop :=
  ∀ t, Relation.ReflTransGen (Store.Change (Store.allBut o.id key)) s t →
    ∀ (id : Nat) (site : CallSite) (args : List Value) (n : Nat),
      t.sites.get? id = some site → site.IsOpen →
      site.descriptor.Asks args (.read (.object o) key false) →
      ∃ u, t.ServedIn u ∧ invokeSite id args (runEntry (n + 1)) t = .ok v u

/-- **The outcomes of a write of a field.**  If the conversion of the value fails, so does the write,
and it leaves all fields as they were.  Otherwise what comes out is kept in the field, all other
fields are as they were, and the field reads back what is kept. -/
inductive Store.FieldWrite (s : Store) (o : Object) (key : String) (t : StaticType) (v : Value)
    (run : Runner) : Outcome → Prop where
  | failed {s₁ s₂ : Store} {f : Fault} (hserved : s.ServedIn s₁)
      (hkept : t.kept v run s₁ = .error f s₂) (hsame : s.ServedIn s₂) :
      FieldWrite s o key t v run (.error f s₂)
  | stored {s₁ s₂ : Store} {w : Value} (hserved : s.ServedIn s₁)
      (hkept : t.kept v run s₁ = .ok w s₂) (hsame : s.ServedIn s₂)
      (hreads : (s₂.setField o.id key w).ReadsBack o key (importValue w)) :
      FieldWrite s o key t v run (.ok .undefined (s₂.setField o.id key w))

/-- A field that holds a value of its type reads it back. -/
theorem readsBack_of_get? {s : Store} (hs : s.Reachable) {o : Object} {c : HostClass}
    (ho : o.hostClass? = some c) (hmade : o.id < s.nextId) {key : String} {t : StaticType}
    (hfield : c.findProperty? key = some (.ofField key t)) {w : Value}
    (hkept : (s.fieldsOf o.id).get? key = some w) (hw : t.admits w = true) :
    s.ReadsBack o key (importValue w) := by
  intro u hchanges id site args n hsite hopen hread
  have hsame := Store.field_eq_of_changes hchanges hmade fun hother => hother ⟨rfl, rfl⟩
  rw [hkept] at hsame
  have hreachable : u.Reachable := hs.evolves (Store.evolves_of_changes hchanges)
  exact invokeSite_read hreachable hsite hopen ho hfield hread hsame hw n

/-- **Fields of host objects read back what was written.**  In every run of the call sites, let a
site of the default chain to which everything is granted and whose types are all `object` be called
to write a property of an instance that was made before, under a key that is fixed or computed, and
let the class of the instance or an ancestor of it have the property as a field of some type.
Whatever the site holds in its cache, the call either fails in the conversion of the value and
leaves all fields of all host objects as they were, or it keeps the value, exported and converted to
the type, in that field and in no other; and every later read of the field imports what was kept, as
long as nobody else writes the field. -/
theorem fieldWrite_of_asks {s : Store} (hs : s.Reachable) {o : Object} {c : HostClass}
    (ho : o.hostClass? = some c) (hmade : o.id < s.nextId) {key : String} {t : StaticType}
    (hfield : c.findProperty? key = some (.ofField key t)) {id : Nat} {site : CallSite}
    (hsite : s.sites.get? id = some site) (hopen : site.IsOpen) {args : List Value} {v : Value}
    {b : Bool} (h : site.descriptor.Asks args (.write (.object o) key v b)) (n : Nat) :
    s.FieldWrite o key t v (runEntry (n + 1)) (invokeSite id args (runEntry (n + 1)) s) := by
  obtain ⟨u, hserved, hwrite⟩ := invokeSite_write hs hsite hopen ho hfield h n
  have hchanges := changes_invokeSite (changes_runEntry (n + 1)) id args s
  have hquiet := alike_after_kept t v (runEntry (n + 1)) u
  cases hkept : t.kept v (runEntry (n + 1)) u with
  | error f u' =>
      rw [StoreM.after_of_error hkept] at hquiet
      rw [hwrite, RunM.bind_of_error hkept]
      exact .failed hserved hkept (hserved.of_alike hquiet)
  | ok w u' =>
      rw [StoreM.after_of_ok hkept] at hquiet
      have hstored : invokeSite id args (runEntry (n + 1)) s =
          .ok .undefined (u'.setField o.id key w) := by
        rw [hwrite, RunM.bind_of_ok hkept]
        rfl
      rw [StoreM.after_of_ok hstored] at hchanges
      have hreachable := hs.evolves (Store.evolves_of_changes hchanges)
      have hmade' := Nat.lt_of_lt_of_le hmade (Store.nextId_le_of_changes hchanges)
      rw [hstored]
      refine .stored hserved hkept (hserved.of_alike hquiet) ?_
      exact readsBack_of_get? hreachable ho hmade' hfield (by simp) (admits_of_kept hkept)

/-! ### A field that is written and read -/

namespace FieldOfDial

/-- A class with a field of whole numbers. -/
def declaration : ClassDecl := ClassDecl.add { id := 1, name := "Dial" } (.field "level" .int)

/-- An instance of a class that inherits the field. -/
def dial : Object := .host 3 ⟨{ id := 2, name := "Knob" }, [declaration]⟩

/-- A site that gets the key of what it writes as an argument. -/
def writer : CallSite :=
  ({} : Environment).newSite ⟨.setElement, none, Signature.generic 3, ⟨0⟩⟩

/-- A site that reads the property. -/
def reader : CallSite :=
  ({} : Environment).newSite ⟨.getProperty, some "level", Signature.generic 1, ⟨0⟩⟩

/-- A store with both sites, in which the instance was made. -/
def store : Store := { (({} : Store).withSite 4 writer).withSite 5 reader with nextId := 6 }

theorem reachable_store : store.Reachable := by
  have hsites := ((Store.untouched_of_sites (s := {}) rfl).withSite 4 writer.descriptor
    writer.chain).withSite 5 reader.descriptor reader.chain
  exact Store.Untouched.reachable hsites

/-- The truth is kept as a number, and the number is read. -/
theorem level_readsBack :
    ∃ t u, invokeSite 4 [.object dial, .string "level", .boolean true] (runEntry 1) store =
        .ok .undefined t ∧
      invokeSite 5 [.object dial] (runEntry 1) t = .ok (.int 1) u := by
  have hwrite : writer.descriptor.Asks [.object dial, .string "level", .boolean true]
      (.write (.object dial) "level" (.boolean true) false) := ⟨rfl, rfl, .inr ⟨rfl, rfl⟩⟩
  have hread : reader.descriptor.Asks [.object dial] (.read (.object dial) "level" false) :=
    ⟨rfl, rfl, .inl ⟨rfl, rfl⟩⟩
  have hdefault := Environment.chain_isDefault (e := {}) rfl
  have hsite : store.sites.get? 4 = some writer := rfl
  have h := fieldWrite_of_asks reachable_store (o := dial) (t := .int) rfl (by decide) rfl hsite
    ⟨hdefault, 3, rfl⟩ hwrite 0
  generalize hcall : invokeSite 4 _ (runEntry (0 + 1)) store = x at h
  have hkept (s : Store) :
      StaticType.int.kept (.boolean true) (runEntry (0 + 1)) s = .ok (.int 1) s := rfl
  cases h with
  | failed _ hfails _ =>
      rw [hkept] at hfails
      cases hfails
  | stored _ hstores _ hreads =>
      rw [hkept] at hstores
      cases hstores
      obtain ⟨u, -, hu⟩ := hreads _ .refl 5 reader [.object dial] 0
        (by rw [← StoreM.after_of_ok hcall]; rfl) ⟨hdefault, 1, rfl⟩ hread
      exact ⟨_, u, rfl, hu⟩

end FieldOfDial

end DynamicLinking
