/-
An encoding is the mnemonic of an operation, alone or with a colon and an escaped member name behind
it.  An escaped name is read from left to right: a backslash takes the next character with it,
whatever that is, so a colon may stand behind a backslash and nowhere else, and the last character
is no backslash of its own.  Escaping a name leaves none of the separators in it, which is more than
the grammar asks for, and nothing of it is lost.

Main definitions:

* `MemberName.Escaped` — texts in which every backslash starts an escape and every colon is part of
  one;
* `Encodes` — **the encodings** of an operation with or without a member name.

Main results:

* `MemberName.decodeChars_flatMap` — an escaped name is read back, whatever stands behind it;
* `Grammar.matches_memberName_iff`, `Grammar.exists_of_matches_operation` — what the rules match;
* `parse_encoding` — **the encoding of a description is read back**;
* `parseOperation_exact` — **exactly the encodings are read**.
-/

import DynamicLinking.Descriptor
import DynamicLinking.Proofs.Patterns
import Mathlib.Data.List.Basic

set_option autoImplicit false

namespace DynamicLinking

/-! ### Escaped names -/

namespace MemberName

/-- The text is made of escapes, a backslash and any character, and of other characters than
backslashes and colons. -/
inductive Escaped : List Char → Prop where
  | nil : Escaped []
  | escape (c : Char) {r : List Char} (h : Escaped r) : Escaped ('\\' :: c :: r)
  | plain {c : Char} {r : List Char} (hcolon : c ≠ ':') (hslash : c ≠ '\\') (h : Escaped r) :
      Escaped (c :: r)

/-- The characters that separate the parts of encodings and of the names of host members. -/
def separators : List Char :=
  ['/', '.', ';', '$', '<', '>', '[', ']', ':']

section

variable {c m : Char}

theorem mem_escapes_of_letterOf? (h : letterOf? c = some m) : (c, m) ∈ escapes := by
  obtain ⟨e, he, rfl⟩ := Option.map_eq_some_iff.mp h
  have hc : e.1 = c := by simpa using List.find?_some he
  subst hc
  exact List.mem_of_find?_eq_some he

/-- The letter that stands for a character is read as the character. -/
theorem charOf?_of_letterOf? (h : letterOf? c = some m) : charOf? m = some c := by
  have hall : ∀ e ∈ escapes, charOf? e.2 = some e.1 := by decide
  exact hall _ (mem_escapes_of_letterOf? h)

/-- No escape is written with a separator. -/
theorem not_mem_separators_of_letterOf? (h : letterOf? c = some m) : m ∉ separators := by
  have hall : ∀ e ∈ escapes, e.2 ∉ separators := by decide
  exact hall _ (mem_escapes_of_letterOf? h)

/-- What is not escaped is neither a backslash nor a separator. -/
theorem not_mem_of_letterOf?_eq_none (h : letterOf? c = none) : c ∉ '\\' :: separators := by
  have hall : ∀ d ∈ '\\' :: separators, letterOf? d ≠ none := by
    simp [separators, letterOf?, escapes]
  exact fun hc => hall c hc h

theorem decodeChars_escape (r : List Char) : decodeChars ('\\' :: m :: r) =
    match charOf? m with
    | some c => c :: decodeChars r
    | none => '\\' :: m :: decodeChars r := rfl

theorem decodeChars_plain (h : c ≠ '\\') (r : List Char) :
    decodeChars (c :: r) = c :: decodeChars r := by
  rw [decodeChars]
  · exact fun h' _ => h h'
  · exact fun _ _ h' _ => h h'

/-- The two forms that a character is written in. -/
theorem encodeChar_cases (c : Char) :
    (∃ m, letterOf? c = some m ∧ encodeChar c = ['\\', m]) ∨
      letterOf? c = none ∧ encodeChar c = [c] := by
  unfold encodeChar
  cases h : letterOf? c with
  | none => exact .inr ⟨rfl, rfl⟩
  | some m => exact .inl ⟨m, rfl, rfl⟩

theorem decodeChars_encodeChar (c : Char) (r : List Char) :
    decodeChars (encodeChar c ++ r) = c :: decodeChars r := by
  rcases encodeChar_cases c with ⟨m, hm, hc⟩ | ⟨hnone, hc⟩
  · rw [hc, List.cons_append, List.cons_append, List.nil_append, decodeChars_escape,
      charOf?_of_letterOf? hm]
  · have hslash : c ≠ '\\' := by
      rintro rfl
      exact not_mem_of_letterOf?_eq_none hnone List.mem_cons_self
    rw [hc, List.cons_append, List.nil_append, decodeChars_plain hslash]

end

/-- An escaped name is read back, whatever stands behind it. -/
theorem decodeChars_flatMap (cs r : List Char) :
    decodeChars (cs.flatMap encodeChar ++ r) = cs ++ decodeChars r := by
  induction cs with
  | nil => rfl
  | cons c cs ih =>
      rw [List.flatMap_cons, List.append_assoc, decodeChars_encodeChar, ih, List.cons_append]

/-- No other name is written as the empty one is. -/
theorem flatMap_ne_emptyForm (cs : List Char) : cs.flatMap encodeChar ≠ emptyForm := by
  intro h
  have hdecode := decodeChars_flatMap cs []
  rw [List.append_nil, h] at hdecode
  -- the form of the empty name would be read as itself, but it holds a backslash
  have hself : decodeChars emptyForm = emptyForm := by decide
  obtain rfl : emptyForm = cs := by rw [← hself, hdecode, decodeChars, List.append_nil]
  exact absurd h (by decide)

theorem decodeList_encodeList (cs : List Char) : decodeList (encodeList cs) = cs := by
  unfold encodeList
  split
  · rename_i h
    rw [h]
    rfl
  · have hdecode := decodeChars_flatMap cs []
    rw [List.append_nil] at hdecode
    rw [decodeList, if_neg (flatMap_ne_emptyForm cs), hdecode]
    exact List.append_nil cs

/-- **A name is read back from its written form.** -/
theorem decode_encode (name : String) : decode (encode name) = name := by
  rw [decode, encode, String.toList_ofList, decodeList_encodeList, String.ofList_toList]

theorem escaped_flatMap (cs : List Char) : Escaped (cs.flatMap encodeChar) := by
  induction cs with
  | nil => exact .nil
  | cons c cs ih =>
      rw [List.flatMap_cons]
      rcases encodeChar_cases c with ⟨m, -, hc⟩ | ⟨hnone, hc⟩
      · rw [hc]
        exact .escape m ih
      · have hmem := not_mem_of_letterOf?_eq_none hnone
        rw [hc]
        refine .plain ?_ ?_ ih
        · rintro rfl
          exact hmem (by decide)
        · rintro rfl
          exact hmem (by decide)

theorem escaped_encodeList (cs : List Char) : Escaped (encodeList cs) := by
  unfold encodeList
  split
  · exact .escape '=' .nil
  · exact escaped_flatMap cs

theorem encodeList_ne_nil (cs : List Char) : encodeList cs ≠ [] := by
  intro h
  have hdecode := decodeList_encodeList cs
  rw [h] at hdecode
  subst hdecode
  cases h

/-- There are no separators in a written form. -/
theorem disjoint_encodeList (cs : List Char) : separators.Disjoint (encodeList cs) := by
  intro d hd hmem
  unfold encodeList at hmem
  split at hmem
  · have hall : ∀ e ∈ separators, e ∉ emptyForm := by simp [separators, emptyForm]
    exact hall d hd hmem
  · obtain ⟨c, -, hc⟩ := List.mem_flatMap.mp hmem
    rcases encodeChar_cases c with ⟨m, hm, hform⟩ | ⟨hnone, hform⟩
    · rw [hform] at hc
      have hslash : '\\' ∉ separators := by decide
      have hletter := not_mem_separators_of_letterOf? hm
      rcases List.mem_cons.mp hc with rfl | hc
      · exact hslash hd
      · rw [List.mem_singleton] at hc
        subst hc
        exact hletter hd
    · rw [hform, List.mem_singleton] at hc
      subst hc
      exact not_mem_of_letterOf?_eq_none hnone (List.mem_cons_of_mem _ hd)

end MemberName

/-! ### The rules -/

namespace Grammar

open Pattern MemberName

variable {isSealed : Bool} {i : Nat} {t r : List Char} {ns : List (Node Rule)}

/-- A character of a name is an escape, or neither a backslash nor a colon. -/
theorem matches_nameChar_iff : nameChar.Matches isSealed i t r ns ↔
    ns = [] ∧ ((∃ c, t = ['\\', c]) ∨ ∃ c, t = [c] ∧ c ≠ ':' ∧ c ≠ '\\') := by
  have hescape {t r : List Char} {ns : List (Node Rule)} :
      (seq (lit "\\") (char fun _ => true)).Matches isSealed i t r ns ↔
        ns = [] ∧ ∃ c, t = ['\\', c] := by
    rw [matches_seq_iff]
    constructor
    · rintro ⟨t₁, t₂, ns₁, ns₂, rfl, rfl, h₁, h₂⟩
      obtain ⟨rfl, rfl⟩ := matches_lit_iff.mp h₁
      obtain ⟨c, -, rfl, rfl⟩ := matches_char_iff.mp h₂
      exact ⟨rfl, c, rfl⟩
    · rintro ⟨rfl, c, rfl⟩
      exact ⟨['\\'], [c], [], [], rfl, rfl, matches_lit_iff.mpr ⟨rfl, rfl⟩,
        matches_char_iff.mpr ⟨c, rfl, rfl, rfl⟩⟩
  have hplain {t r : List Char} {ns : List (Node Rule)} :
      (char fun c => c != ':' && c != '\\').Matches isSealed i t r ns ↔
        ns = [] ∧ ∃ c, t = [c] ∧ c ≠ ':' ∧ c ≠ '\\' := by
    rw [matches_char_iff]
    constructor
    · rintro ⟨c, hc, rfl, rfl⟩
      exact ⟨rfl, c, rfl, by simpa using hc⟩
    · rintro ⟨rfl, c, rfl, hc⟩
      exact ⟨c, by simpa using hc, rfl, rfl⟩
  rw [nameChar, matches_choice_iff, hescape, hplain]
  constructor
  · rintro (⟨rfl, h⟩ | ⟨-, rfl, h⟩)
    · exact ⟨rfl, .inl h⟩
    · exact ⟨rfl, .inr h⟩
  · rintro ⟨rfl, h | ⟨c, rfl, hcolon, hslash⟩⟩
    · exact .inl ⟨rfl, h⟩
    · refine .inr ⟨fails_iff.mpr fun t' r' ns' ht h => ?_, rfl, c, rfl, hcolon, hslash⟩
      obtain ⟨-, d, rfl⟩ := hescape.mp h
      exact hslash (List.cons.inj ht).1

theorem escaped_of_repeats (h : Repeats (nameChar.run isSealed) i t r ns) :
    ns = [] ∧ Escaped t := by
  induction h with
  | stop => exact ⟨rfl, .nil⟩
  | more ht h hrest ih =>
      obtain ⟨rfl, ih⟩ := ih
      obtain ⟨rfl, ⟨c, rfl⟩ | ⟨c, rfl, hcolon, hslash⟩⟩ := matches_nameChar_iff.mp h
      · exact ⟨rfl, .escape c ih⟩
      · exact ⟨rfl, .plain hcolon hslash ih⟩

/-- Up to the end of the text, all of an escaped name is repeated. -/
theorem repeats_of_escaped (h : Escaped t) : Repeats (nameChar.run isSealed) i t [] [] := by
  induction h generalizing i with
  | nil =>
      refine .stop fun t r ns ht _ => ?_
      exact (List.append_eq_nil_iff.mp ht.symm).1
  | @escape c r h ih =>
      have hchar : nameChar.Matches isSealed i ['\\', c] (r ++ []) [] :=
        matches_nameChar_iff.mpr ⟨rfl, .inl ⟨c, rfl⟩⟩
      have hmore := Repeats.more (List.cons_ne_nil _ _) hchar ih
      exact hmore
  | @plain c r hcolon hslash h ih =>
      have hchar : nameChar.Matches isSealed i [c] (r ++ []) [] :=
        matches_nameChar_iff.mpr ⟨rfl, .inr ⟨c, rfl, hcolon, hslash⟩⟩
      have hmore := Repeats.more (List.cons_ne_nil _ _) hchar ih
      exact hmore

/-- At the end of a text, a member name is an escaped text that is not empty. -/
theorem matches_memberName_iff : memberName.Matches false i t [] ns ↔
    t ≠ [] ∧ Escaped t ∧ ns = [Node.mk .memberName i t []] := by
  rw [memberName, Grammar.unit, matches_rule_iff, repeated]
  constructor
  · rintro ⟨ms, h, rfl⟩
    obtain ⟨t₁, t₂, ns₁, ns₂, rfl, rfl, h₁, h₂⟩ := matches_seq_iff.mp h
    obtain ⟨rfl, hescaped⟩ := escaped_of_repeats (matches_many_iff.mp h₂)
    obtain ⟨rfl, ⟨c, rfl⟩ | ⟨c, rfl, hcolon, hslash⟩⟩ := matches_nameChar_iff.mp h₁
    · exact ⟨List.cons_ne_nil _ _, .escape c hescaped, rfl⟩
    · exact ⟨List.cons_ne_nil _ _, .plain hcolon hslash hescaped, rfl⟩
  · rintro ⟨hne, hescaped, rfl⟩
    refine ⟨[], matches_seq_iff.mpr ?_, rfl⟩
    cases hescaped with
    | nil => exact absurd rfl hne
    | @escape c r h =>
        exact ⟨['\\', c], r, [], [], rfl, rfl, matches_nameChar_iff.mpr ⟨rfl, .inl ⟨c, rfl⟩⟩,
          matches_many_iff.mpr (repeats_of_escaped h)⟩
    | @plain c r hcolon hslash h =>
        exact ⟨[c], r, [], [], rfl, rfl,
          matches_nameChar_iff.mpr ⟨rfl, .inr ⟨c, rfl, hcolon, hslash⟩⟩,
          matches_many_iff.mpr (repeats_of_escaped h)⟩

/-- A read or a write is a word, a colon and another word. -/
theorem exists_of_matches_spaced {w v : String} (vs : List String) {name : Rule}
    (h : (sequence [lit w, lit ":", plain name (oneOf (lit v) (vs.map lit))]).Matches
      isSealed i t r ns) :
    ∃ u ∈ v :: vs, t = w.toList ++ (":".toList ++ u.toList) := by
  obtain ⟨t₁, t', ns₁, ns', rfl, -, h₁, h'⟩ := matches_seq_iff.mp h
  obtain ⟨t₂, t₃, ns₂, ns₃, rfl, -, h₂, h₃⟩ := matches_seq_iff.mp h'
  obtain ⟨ms, hword, -⟩ := matches_rule_iff.mp h₃
  obtain ⟨q, hq, hword⟩ := exists_of_matches_oneOf hword
  rw [← List.map_cons] at hq
  obtain ⟨u, hu, rfl⟩ := List.mem_map.mp hq
  refine ⟨u, hu, ?_⟩
  rw [(matches_lit_iff.mp h₁).1, (matches_lit_iff.mp h₂).1, (matches_lit_iff.mp hword).1]

/-- An operation is one of the mnemonics. -/
theorem exists_of_matches_operation (h : operation.Matches false i t r ns) :
    ∃ o : Operation, t = o.mnemonic.toList ∧ ∃ ms, ns = [Node.mk .operation i t ms] := by
  obtain ⟨ms, hbody, hns⟩ := matches_rule_iff.mp h
  have hmnemonic : ∃ o : Operation, t = o.mnemonic.toList := by
    obtain ⟨q, hq, hq'⟩ := exists_of_matches_oneOf hbody
    simp only [List.mem_cons, List.not_mem_nil, or_false] at hq
    rcases hq with rfl | rfl | rfl | rfl
    · obtain ⟨_, hget, -⟩ := matches_rule_iff.mp hq'
      obtain ⟨u, hu, rfl⟩ := exists_of_matches_spaced ["ELEMENT", "METHOD"] hget
      simp only [List.mem_cons, List.not_mem_nil, or_false] at hu
      rcases hu with rfl | rfl | rfl
      · exact ⟨.getProperty, rfl⟩
      · exact ⟨.getElement, rfl⟩
      · exact ⟨.getMethod, rfl⟩
    · obtain ⟨_, hset, -⟩ := matches_rule_iff.mp hq'
      obtain ⟨u, hu, rfl⟩ := exists_of_matches_spaced ["ELEMENT"] hset
      simp only [List.mem_cons, List.not_mem_nil, or_false] at hu
      rcases hu with rfl | rfl
      · exact ⟨.setProperty, rfl⟩
      · exact ⟨.setElement, rfl⟩
    · obtain ⟨_, hcall, -⟩ := matches_rule_iff.mp hq'
      exact ⟨.call, (matches_lit_iff.mp hcall).1⟩
    · obtain ⟨_, hnew, -⟩ := matches_rule_iff.mp hq'
      exact ⟨.new, (matches_lit_iff.mp hnew).1⟩
  obtain ⟨o, ho⟩ := hmnemonic
  exact ⟨o, ho, ms, hns⟩

/-- Every mnemonic is an operation, whatever stands behind it. -/
theorem exists_matches_operation (o : Operation) (i : Nat) (r : List Char) :
    ∃ ms, operation.Matches false i o.mnemonic.toList r
      [Node.mk .operation i o.mnemonic.toList ms] := by
  cases o <;> exact ⟨_, matches_rule_iff.mpr ⟨_, rfl, rfl⟩⟩

end Grammar

/-! ### Encodings -/

/-- The encodings of an operation: its mnemonic alone, or the mnemonic, a colon and an escaped text
that is not empty and stands for the name of a member. -/
inductive Encodes : String → Operation → Option String → Prop where
  | bare (o : Operation) : Encodes o.mnemonic o none
  | named (o : Operation) {m : String} (hne : m ≠ "") (h : MemberName.Escaped m.toList) :
      Encodes (o.mnemonic ++ ":" ++ m) o (some (MemberName.decode m))

/-- The tree of an encoding has a node for the operation, and one for the member name if there is
one. -/
structure Grammar.Node.Tells (n : Node Rule) (o : Operation) (name? : Option String) : Prop where
  operation : ∃ m, n.child? .operation = some m ∧ String.ofList m.text = o.mnemonic
  name : (n.child? .memberName).map (fun m => MemberName.decode (String.ofList m.text)) = name?

section Encodings

open Grammar Grammar.Pattern

variable {s : String} {o : Operation} {name? : Option String} {n : Node Rule}

theorem tells_bare {i j k : Nat} {t : List Char} {ms : List (Node Rule)} :
    (Node.mk .descriptor i t [Node.mk .operation j o.mnemonic.toList ms,
      Node.mk .endOfInput k [] []]).Tells o none :=
  ⟨⟨_, rfl, String.ofList_toList⟩, rfl⟩

theorem tells_named {i j k l : Nat} {t : List Char} {m : String} {ms : List (Node Rule)} :
    (Node.mk .descriptor i t [Node.mk .operation j o.mnemonic.toList ms,
      Node.mk .memberName l m.toList [], Node.mk .endOfInput k [] []]).Tells o
        (some (MemberName.decode m)) := by
  refine ⟨⟨_, rfl, String.ofList_toList⟩, ?_⟩
  exact congrArg (fun s => some (MemberName.decode s)) String.ofList_toList

/-- A text that has a tree is an encoding. -/
theorem exists_encodes_of_read (h : read descriptor s = .ok n) :
    ∃ o name?, Encodes s o name? ∧ n.Tells o name? := by
  obtain ⟨t, r, ms, hs, hbody, rfl⟩ := read_eq_ok_iff.mp h
  obtain ⟨t₁, t', ns₁, ns', rfl, rfl, hop, hrest⟩ := matches_seq_iff.mp hbody
  obtain ⟨t₂, t₃, ns₂, ns₃, rfl, rfl, hopt, hend⟩ := matches_seq_iff.mp hrest
  obtain ⟨rfl, rfl, rfl⟩ := matches_atEnd_iff.mp hend
  obtain ⟨o, rfl, ms, rfl⟩ := exists_of_matches_operation hop
  rcases matches_optional_iff.mp hopt with hname | ⟨-, rfl, rfl⟩
  · obtain ⟨u, m, ms₁, ms₂, rfl, rfl, hcolon, hm⟩ := matches_seq_iff.mp hname
    obtain ⟨rfl, rfl⟩ := matches_lit_iff.mp hcolon
    obtain ⟨m, rfl⟩ : ∃ name : String, m = name.toList := ⟨String.ofList m, by simp⟩
    obtain ⟨hne, hescaped, rfl⟩ := matches_memberName_iff.mp hm
    have hs : s = o.mnemonic ++ ":" ++ m := by
      rw [← String.toList_inj, hs]
      simp
    refine ⟨o, _, ?_, tells_named⟩
    rw [hs]
    exact .named o (by simpa using hne) hescaped
  · have hs : s = o.mnemonic := by
      rw [← String.toList_inj, hs]
      simp
    refine ⟨o, none, ?_, tells_bare⟩
    rw [hs]
    exact .bare o

/-- An encoding has a tree. -/
theorem exists_read_of_encodes (h : Encodes s o name?) :
    ∃ n, read descriptor s = .ok n ∧ n.Tells o name? := by
  cases h with
  | bare =>
      have hopt (i : Nat) : (optional (seq (lit ":") memberName)).Matches false i [] [] [] := by
        refine matches_optional_iff.mpr (.inr ⟨fails_iff.mpr fun t r ns ht hm => ?_, rfl, rfl⟩)
        obtain ⟨t₁, t₂, ns₁, ns₂, rfl, -, hcolon, -⟩ := matches_seq_iff.mp hm
        rw [(matches_lit_iff.mp hcolon).1] at ht
        cases ht
      obtain ⟨ms, hop⟩ := exists_matches_operation o 0 []
      have hbody := Matches.seq hop (Matches.seq_atEnd .endOfInput (hopt _))
      refine ⟨_, read_eq_ok_iff.mpr ⟨_, [], _, ?_, hbody, rfl⟩, tells_bare⟩
      simp
  | @named _ m hne hescaped =>
      have hname (i : Nat) : memberName.Matches false i m.toList []
          [Node.mk .memberName i m.toList []] :=
        matches_memberName_iff.mpr ⟨by simpa using hne, hescaped, rfl⟩
      have hcolon (i : Nat) : (lit ":").Matches false i [':'] m.toList [] :=
        matches_lit_iff.mpr ⟨rfl, rfl⟩
      have hopt (i : Nat) : (optional (seq (lit ":") memberName)).Matches false i
          ([':'] ++ m.toList) [] [Node.mk .memberName (i + 1) m.toList []] :=
        matches_optional_iff.mpr (.inl (Matches.seq (by simpa using hcolon i) (hname _)))
      obtain ⟨ms, hop⟩ := exists_matches_operation o 0 ([':'] ++ m.toList)
      have hbody := Matches.seq (by simpa using hop) (Matches.seq_atEnd .endOfInput (hopt _))
      refine ⟨_, read_eq_ok_iff.mpr ⟨_, [], _, ?_, hbody, rfl⟩, tells_named⟩
      simp

theorem parseOperation_of_tells (h : read descriptor s = .ok n) (hn : n.Tells o name?) :
    parseOperation s = .ok (o, name?) := by
  obtain ⟨⟨m, hchild, hm⟩, hname⟩ := hn
  unfold parseOperation
  simp only [h, bind, Except.bind, hchild, Option.bind_some, hm, Operation.ofMnemonic?_mnemonic,
    hname]

/-- What has no tree is malformed, and so is no encoding. -/
theorem parseOperation_of_malformed {e : ScriptError} (h : read descriptor s = .error e) :
    parseOperation s = .error e := by
  unfold parseOperation
  rw [h]
  rfl

theorem parseOperation_eq_ok_iff :
    parseOperation s = .ok (o, name?) ↔ Encodes s o name? := by
  constructor
  · intro h
    rcases read_cases descriptor s with ⟨n, hn⟩ | ⟨place, he⟩
    · obtain ⟨o', name?', hencodes, htells⟩ := exists_encodes_of_read hn
      rw [parseOperation_of_tells hn htells] at h
      cases h
      exact hencodes
    · rw [parseOperation_of_malformed he] at h
      cases h
  · intro h
    obtain ⟨n, hn, htells⟩ := exists_read_of_encodes h
    exact parseOperation_of_tells hn htells

/-- A text has a tree exactly if it is an encoding. -/
theorem read_descriptor_isOk_iff :
    (∃ n, read descriptor s = .ok n) ↔ ∃ o name?, Encodes s o name? := by
  constructor
  · rintro ⟨n, hn⟩
    obtain ⟨o, name?, h, -⟩ := exists_encodes_of_read hn
    exact ⟨o, name?, h⟩
  · rintro ⟨o, name?, h⟩
    obtain ⟨n, hn, -⟩ := exists_read_of_encodes h
    exact ⟨n, hn⟩

theorem encodes_encoding (d : Descriptor) : Encodes d.encoding d.operation d.name? := by
  obtain ⟨o, name?, signature, flags⟩ := d
  cases name? with
  | none => exact .bare o
  | some name =>
      have hform : (MemberName.encode name).toList = MemberName.encodeList name.toList :=
        String.toList_ofList
      have hne : MemberName.encode name ≠ "" := by
        intro h
        rw [h] at hform
        exact MemberName.encodeList_ne_nil _ hform.symm
      have hescaped : MemberName.Escaped (MemberName.encode name).toList := by
        rw [hform]
        exact MemberName.escaped_encodeList _
      have hencodes := Encodes.named o hne hescaped
      rw [MemberName.decode_encode] at hencodes
      exact hencodes

/-! ### The laws -/

/-- **The encoding of a description is read back**, with the same signature and flags.  A member
name of any kind is read back from its written form, which is not empty, holds no separators and is
one member name of the grammar. -/
theorem parse_encoding (d : Descriptor) (name : String) :
    Descriptor.parse d.encoding d.signature d.flags = .ok d ∧
    MemberName.decode (MemberName.encode name) = name ∧
    MemberName.encode name ≠ "" ∧
    MemberName.separators.Disjoint (MemberName.encode name).toList ∧
    memberName.parse (MemberName.encode name).toList =
      .ok [Node.mk .memberName 0 (MemberName.encode name).toList []] := by
  have hform : (MemberName.encode name).toList = MemberName.encodeList name.toList :=
    String.toList_ofList
  have hne := MemberName.encodeList_ne_nil name.toList
  refine ⟨?_, MemberName.decode_encode name, ?_, ?_, ?_⟩
  · rw [Descriptor.parse, parseOperation_eq_ok_iff.mpr (encodes_encoding d)]
    rfl
  · intro h
    rw [h] at hform
    exact hne hform.symm
  · rw [hform]
    exact MemberName.disjoint_encodeList _
  · rw [hform]
    exact parse_eq_ok_iff.mpr ⟨_, [], (List.append_nil _).symm,
      matches_memberName_iff.mpr ⟨hne, MemberName.escaped_encodeList _, rfl⟩⟩

/-- **Exactly the encodings are read.**  What is read of a text is the operation and the name that
it encodes; every other text is answered by a syntax error, and exactly the encodings have a parse
tree. -/
theorem parseOperation_exact (s : String) :
    (∀ o name?, parseOperation s = .ok (o, name?) ↔ Encodes s o name?) ∧
    ((∃ e, parseOperation s = .error e ∧ e.kind = .syntaxFault) ↔
      ¬ ∃ o name?, Encodes s o name?) ∧
    ((∃ tree, treeText s = .ok tree) ↔ ∃ o name?, Encodes s o name?) := by
  refine ⟨fun o name? => parseOperation_eq_ok_iff, ?_, ?_⟩
  · rw [← read_descriptor_isOk_iff]
    rcases read_cases descriptor s with ⟨n, hn⟩ | ⟨place, he⟩
    · obtain ⟨o, name?, -, htells⟩ := exists_encodes_of_read hn
      simp [parseOperation_of_tells hn htells, hn]
    · simp [parseOperation_of_malformed he, he, ScriptError.kind]
  · rw [← read_descriptor_isOk_iff]
    unfold treeText
    rcases read_cases descriptor s with ⟨n, hn⟩ | ⟨place, he⟩
    · simp [hn, Except.map]
    · simp [he, Except.map]

end Encodings

end DynamicLinking
