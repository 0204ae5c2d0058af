/-
A script sees a string as a sequence of 16-bit units: it has a length, and a member for each of its
units under the decimal text of the index.  Under every other key there is nothing.  The indices are
recognized before the string is looked at, and only those that the integers of 64 bits have; since
no string is longer than that, none of its units is out of reach.

A string without characters beyond the basic plane can be put together from its units.  Half of a
surrogate pair cannot be told from the other half, so that other strings cannot.

Main definitions:

* `StringMember` — what there is in a string under a key;
* `CallSite.ReadsString`, `Store.ReadsString` — a call of a site that reads a member of a string.

Main results:

* `Text.length_units_le` — a text has no more units than bytes;
* `Text.join_map_unitText` — the units of a text of the basic plane put together;
* `stringMember_eq` — the member that is read is the one that there is;
* `stringMembers_read` — **sites read the members of strings**, in any state of their caches.
-/

import DynamicLinking.Proofs.Numerals
import DynamicLinking.Proofs.PropertyHeap

set_option autoImplicit false

namespace DynamicLinking

/-! ### Units -/

namespace Text

/-- Characters are outside the range of the halves of pairs. -/
theorem toNat_cases (c : Char) : c.toNat < 0xD800 ∨ 0xDFFF < c.toNat ∧ c.toNat < 0x110000 :=
  c.valid

theorem isSurrogate_toNat (c : Char) : isSurrogate c.toNat = false := by
  have := toNat_cases c
  simp only [isSurrogate, Bool.and_eq_false_iff, decide_eq_false_iff_not]
  omega

theorem unitText_toNat (c : Char) : unitText c.toNat = String.singleton c := by
  rw [unitText, isSurrogate_toNat, if_neg Bool.false_ne_true, Char.ofNat_toNat]

theorem length_unitsOf_le (c : Char) : (unitsOf c).length ≤ c.utf8Size := by
  rcases Nat.lt_or_ge c.toNat 0x10000 with hbasic | hbeyond
  · rw [unitsOf_of_lt hbasic]
    exact c.utf8Size_pos
  · have hsize (n : UInt32) (hn : n.toNat < 0x10000) : ¬ c.val ≤ n := by
      intro hle
      have hle : c.toNat ≤ n.toNat := UInt32.le_iff_toNat_le.mp hle
      omega
    rw [unitsOf_length_of_le hbeyond, Char.utf8Size, if_neg (hsize _ (by decide)),
      if_neg (hsize _ (by decide)), if_neg (hsize _ (by decide))]
    decide

/-- **A text has no more units than bytes.** -/
theorem length_units_le (s : String) : (units s).length ≤ s.utf8ByteSize := by
  have hchars (cs : List Char) : (cs.flatMap unitsOf).length ≤ (String.ofList cs).utf8ByteSize := by
    induction cs with
    | nil => exact Nat.zero_le _
    | cons c cs ih =>
        have hc := length_unitsOf_le c
        rw [List.flatMap_cons, List.length_append, String.ofList_cons, String.utf8ByteSize_append,
          String.utf8ByteSize_singleton]
        omega
  have hs := hchars s.toList
  rwa [String.ofList_toList] at hs

/-- The units of characters are units. -/
theorem lt_of_mem_units {s : String} {u : Nat} (hu : u ∈ units s) : u < 0x10000 := by
  obtain ⟨c, -, hc⟩ := List.mem_flatMap.mp hu
  have hlt := toNat_cases c
  unfold unitsOf at hc
  dsimp only at hc
  split at hc
  · rw [List.mem_singleton.mp hc]
    assumption
  · simp only [List.mem_cons, List.not_mem_nil, or_false] at hc
    rcases hc with hc | hc <;> omega

/-- The text of a unit has one unit: itself, or the replacement character for half of a pair. -/
theorem units_unitText {u : Nat} (hu : u < 0x10000) :
    units (unitText u) = if isSurrogate u then [0xFFFD] else [u] := by
  have hsingleton (c : Char) : units (String.singleton c) = unitsOf c := by
    rw [units, String.toList_singleton, List.flatMap_singleton]
  unfold unitText
  split
  · rw [hsingleton]
    rfl
  · rename_i hplain
    have hvalid : u.isValidChar := by
      simp only [isSurrogate, Bool.and_eq_true, decide_eq_true_eq] at hplain
      unfold Nat.isValidChar
      omega
    have htoNat : (Char.ofNat u).toNat = u := by
      rw [Char.ofNat, dif_pos hvalid]
      rfl
    rw [hsingleton, unitsOf_of_lt (by rw [htoNat]; exact hu), htoNat]

theorem units_of_basic {s : String} (h : ∀ c ∈ s.toList, c.toNat < 0x10000) :
    units s = s.toList.map Char.toNat := by
  have hchars (cs : List Char) (hcs : ∀ c ∈ cs, c.toNat < 0x10000) :
      cs.flatMap unitsOf = cs.map Char.toNat := by
    induction cs with
    | nil => rfl
    | cons c cs ih =>
        rw [List.flatMap_cons, unitsOf_of_lt (hcs c (by simp)), ih fun d hd => hcs d (by simp [hd])]
        rfl
  exact hchars s.toList h

/-- **A text of the basic plane is put together from its units.** -/
theorem join_map_unitText {s : String} (h : ∀ c ∈ s.toList, c.toNat < 0x10000) :
    String.join ((units s).map unitText) = s := by
  rw [units_of_basic h, List.map_map, ← String.toList_inj, String.toList_join, List.flatMap_map]
  calc s.toList.flatMap (fun c => (unitText c.toNat).toList)
      = s.toList.flatMap fun c => [c] := by simp only [unitText_toNat, String.toList_singleton]
    _ = s.toList := List.flatMap_singleton' _

end Text

/-! ### Members -/

/-- What there is in a string under a key: its length, the text of one unit, or nothing. -/
inductive StringMember (s : String) : String → Value → Prop where
  | length {i : Int64} (h : i.toInt = (Text.units s).length) :
      StringMember s "length" (.number (.integer i))
  | unit {i u : Nat} {t : String} (h : (Text.units s)[i]? = some u)
      (ht : Text.units t = if Text.isSurrogate u then [0xFFFD] else [u]) :
      StringMember s (toString i) (.string t)
  | absent {key : String} (hlength : key ≠ "length")
      (hindex : ∀ i < (Text.units s).length, key ≠ toString i) : StringMember s key .undefined

section

variable {s : String}

/-- The indices of units are indices of 64 bits. -/
theorem arrayIndex?_of_lt (hs : s.utf8ByteSize < 2 ^ 63) {i : Nat}
    (hi : i < (Text.units s).length) : Primitive.arrayIndex? (toString i) = some i := by
  have hlength := Text.length_units_le s
  refine arrayIndex?_toString ?_
  rw [inInt64_iff]
  omega

/-- Under an index there is the text of the unit. -/
theorem stringMember_toString (hs : s.utf8ByteSize < 2 ^ 63) {i : Nat}
    (hi : i < (Text.units s).length) :
    Primitive.stringMember s (toString i) = .string (Text.unitText (Text.units s)[i]) := by
  have hindex := arrayIndex?_of_lt hs hi
  have hne : toString i ≠ "length" := by
    intro hlength
    have hnone : Primitive.arrayIndex? "length" = none := by decide
    rw [hlength, hnone] at hindex
    cases hindex
  unfold Primitive.stringMember
  rw [if_neg hne, hindex, Option.bind_some, List.getElem?_eq_getElem hi]

/-- **What is read is what there is.** -/
theorem stringMember_eq (hs : s.utf8ByteSize < 2 ^ 63) (key : String) :
    StringMember s key (.primitive (Primitive.stringMember s key)) := by
  have hlength := Text.length_units_le s
  unfold Primitive.stringMember
  split
  · rename_i hkey
    subst hkey
    exact .length (Int64.toInt_ofNat_of_lt (by omega))
  rename_i hne
  cases hindex : Primitive.arrayIndex? key with
  | none =>
      refine .absent hne fun i hi hkey => ?_
      rw [hkey, arrayIndex?_of_lt hs hi] at hindex
      cases hindex
  | some i =>
      obtain ⟨rfl, -⟩ := toString_of_arrayIndex? hindex
      rw [Option.bind_some]
      cases hunit : (Text.units s)[i]? with
      | some u =>
          have hlt := Text.lt_of_mem_units (List.mem_of_getElem? hunit)
          exact .unit hunit (Text.units_unitText hlt)
      | none =>
          refine .absent hne fun j hj hkey => ?_
          rw [hkey, arrayIndex?_of_lt hs hj] at hindex
          obtain rfl := Option.some.inj hindex
          rw [List.getElem?_eq_getElem hj] at hunit
          cases hunit

end

/-! ### Reads -/

theorem Value.eq_of_runtimeType_string {v : Value} {text : String}
    (h : v.runtimeType = (Value.string text).runtimeType) : ∃ text', v = .string text' := by
  obtain ⟨q, rfl⟩ := Value.eq_of_runtimeType_primitive (q := .string text) h
  cases q with
  | string text' => exact ⟨text', rfl⟩
  | _ => cases h

/-- A read of a member of a string. -/
theorem LinkRequest.linkPrimitive?_of_string {r : LinkRequest} {text : String}
    (hr : r.receiver = .string text) (hop : r.descriptor.operation.isGet = true) :
    r.linkPrimitive? = some (r.byType (.stringGet r.descriptor)) := by
  unfold linkPrimitive?
  rw [hr]
  cases h : r.descriptor.operation <;> rw [h] at hop <;> first | rfl | cases hop

/-- The site is one of a default chain that reads members and whose types are all `object`, and the
call asks for the member of a string under a key that is fixed or a string. -/
structure CallSite.ReadsString (c : CallSite) (args : List Value) (text key : String) : Prop where
  chain : ∃ p, c.chain.IsDefault p
  signature : ∃ n, c.descriptor.signature = Signature.generic n
  get : c.descriptor.operation.isGet = true
  receiver : Value.argument args 0 = .string text
  key : c.descriptor.stringKey? args = some key

/-- The call is one of a site that reads a member of a string. -/
def Store.ReadsString (s : Store) (call : SiteCall) (text key : String) : Prop :=
  ∃ c, s.sites.get? call.1 = some c ∧ c.ReadsString call.2 text key

section

variable {s : Store} {call : SiteCall} {text key : String}

/-- Calls of sites do not change what the sites read. -/
theorem Store.ReadsString.resolve (h : s.ReadsString call text key) (id : Nat) (args : List Value) :
    ((resolve id args).after s).ReadsString call text key := by
  obtain ⟨c, hc, hreads⟩ := h
  obtain ⟨c', hc', hdescriptor, hchain⟩ := Store.site_after_resolve hc id args
  exact ⟨c', hc', hchain ▸ hreads.chain, hdescriptor ▸ hreads.signature, hdescriptor ▸ hreads.get,
    hreads.receiver, hdescriptor ▸ hreads.key⟩

/-- **A site reads the member of a string**, whatever it holds; the read changes nothing but the
site. -/
theorem invokeSite_of_readsString (hs : s.Reachable) (h : s.ReadsString call text key) :
    s.ServedIn ((resolve call.1 call.2).after s) ∧ ∀ run, invokeSite call.1 call.2 run s =
      .ok (.primitive (Primitive.stringMember text key)) ((resolve call.1 call.2).after s) := by
  obtain ⟨c, hc, hreads⟩ := h
  obtain ⟨p, hchain⟩ := hreads.chain
  obtain ⟨n, hd⟩ := hreads.signature
  obtain ⟨hserved, hrun⟩ := invokeSite_of_code_of_generic hchain hs hc hd call.2
    (.stringGet c.descriptor) fun r u hr htype => by
      rw [hreads.receiver] at htype
      obtain ⟨text', hstring⟩ := Value.eq_of_runtimeType_string htype
      refine ⟨_, u, LinkRequest.chosen_primitive hstring, ?_⟩
      rw [LinkRequest.linkPrimitive?_of_string hstring (hr ▸ hreads.get), hr]
      exact ⟨rfl, rfl⟩
  refine ⟨hserved, fun run => ?_⟩
  rw [hrun]
  rw [Code.eval, evalStringGet, Descriptor.memberKey_of_stringKey? hreads.key, pure_bind,
    hreads.receiver]
  rfl

/-- Reads one after another. -/
theorem result_serveCalls_of_readsString (run : Runner) (hs : s.Reachable) {calls : List SiteCall}
    {keys : List String}
    (h : List.Forall₂ (fun call key => s.ReadsString call text key) calls keys) :
    (serveCalls run calls s).1 =
      keys.map fun key => .ok (.primitive (Primitive.stringMember text key)) := by
  -- induction on the calls; what the later sites read is not changed by the earlier calls
  induction calls generalizing keys s with
  | nil =>
      cases h
      rfl
  | cons call calls ih =>
      cases h with
      | cons hcall hrest =>
          obtain ⟨-, hrun⟩ := invokeSite_of_readsString hs hcall
          obtain ⟨t, ht⟩ : ∃ t, t = (resolve call.1 call.2).after s := ⟨_, rfl⟩
          rw [← ht] at hrun
          have hreachable : t.Reachable := by
            rw [ht]
            exact hs.evolves (.single (.serve s call.1 call.2))
          have hrest := ih hreachable (hrest.imp fun call' key' h => ht ▸ h.resolve call.1 call.2)
          simp only [serveCalls, StoreM.after_of_ok (hrun run), hrest, StoreM.result, hrun run]
          rfl

/-- **Sites read the members of strings**, whatever they hold.  Every read of a member gives what
there is in the string under the key.  So the units of a string without characters beyond the basic
plane, read one after another, are put together to the string. -/
theorem stringMembers_read (hs : s.Reachable) (htext : text.utf8ByteSize < 2 ^ 63) (run : Runner) :
    (∀ (call : SiteCall) (key : String), s.ReadsString call text key →
      ∃ v t, invokeSite call.1 call.2 run s = .ok v t ∧ s.ServedIn t ∧
        StringMember text key v) ∧
    ((∀ c ∈ text.toList, c.toNat < 0x10000) → ∀ calls : List SiteCall,
      List.Forall₂ (fun call (i : Nat) => s.ReadsString call text (toString i)) calls
        (List.range (Text.units text).length) →
      ∃ parts : List String,
        (serveCalls run calls s).1 = parts.map (fun part => .ok (.string part)) ∧
        String.join parts = text) := by
  constructor
  · intro call key h
    obtain ⟨hserved, hrun⟩ := invokeSite_of_readsString hs h
    exact ⟨_, _, hrun run, hserved, stringMember_eq htext key⟩
  · intro hbasic calls hcalls
    refine ⟨(Text.units text).map Text.unitText, ?_, Text.join_map_unitText hbasic⟩
    have hkeys : List.Forall₂ (fun call key => s.ReadsString call text key) calls
        ((List.range (Text.units text).length).map toString) :=
      List.forall₂_map_right_iff.mpr hcalls
    rw [result_serveCalls_of_readsString run hs hkeys, List.map_map, List.map_map]
    refine List.ext_getElem (by simp) fun i hi hi' => ?_
    rw [List.length_map] at hi'
    rw [List.getElem_map, List.getElem_map, List.getElem_range]
    simp only [Function.comp_apply]
    rw [stringMember_toString htext hi']

end

namespace TwoUnits

/-- A site that reads the member that an argument names. -/
def reader : CallSite :=
  ({} : Environment).newSite ⟨.getElement, none, Signature.generic 2, ⟨0⟩⟩

/-- A store with the site. -/
def store : Store := ({} : Store).withSite 0 reader

theorem readsString (text key : String) :
    store.ReadsString (0, [.string text, .string key]) text key :=
  ⟨reader, rfl, ⟨.permitAll, Environment.chain_isDefault rfl⟩, ⟨2, rfl⟩, rfl, rfl, rfl⟩

/-- A text of two units is read unit by unit. -/
theorem join_parts : ∃ parts : List String,
    (serveCalls (fun _ _ _ => pure .undefined)
      [(0, [.string "hé", .string "0"]), (0, [.string "hé", .string "1"])] store).1 =
        parts.map (fun part => .ok (.string part)) ∧ String.join parts = "hé" := by
  have hs : store.Reachable := Store.reachable_newSite rfl _ _ _
  have htext : "hé".utf8ByteSize < 2 ^ 63 := by decide
  obtain ⟨-, hjoin⟩ := stringMembers_read hs htext fun _ _ _ => pure .undefined
  exact hjoin (by simp) _ (.cons (readsString "hé" "0") (.cons (readsString "hé" "1") .nil))

end TwoUnits

end DynamicLinking
