/-
The written form of a signature is read back, and nothing else is read.  Between the two stand the
*texts* of its types: the grammar takes a signature apart into the texts of the types in it, without
asking what the texts mean, and the table of names then tells what types they are.  An identifier is
as long as it can be, so that a text of the grammar is cut into types in one way only; and a type
has one text, so that nothing of a text is lost in its signature.

Main definitions:

* `IsIdentifier` — an ASCII letter, `_` or `$`, and then ASCII letters, digits, `_` or `$`;
* `Signature.IsWellNamed` — the functional types of the signature have identifiers for names;
* `TypeText`, `signatureText` — the texts of types and of signatures.

Main results:

* `exists_texts_of_read`, `exists_read_of_texts` — **the grammar cuts a text into the texts of its
  types**, and no others;
* `typeOfText_eq_ok_iff` — a type has one text;
* `parseSignature_exact` — **exactly the written forms of signatures are read**, and each as its
  signature.
-/

import DynamicLinking.Grammar.Reading
import DynamicLinking.Proofs.Patterns
import Mathlib.Data.List.Basic
import Mathlib.Tactic.Choose

set_option autoImplicit false

namespace DynamicLinking

/-! ### Names -/

/-- The characters are an identifier: an ASCII letter, `_` or `$`, and then ASCII letters, digits,
`_` or `$`. -/
def IsIdentifier : List Char → Prop
  | [] => False
  | c :: r => (c.isAlpha ∨ c = '_' ∨ c = '$') ∧
      ∀ d ∈ r, d.isAlpha ∨ d.isDigit ∨ d = '_' ∨ d = '$'

/-- The type, if it is functional, has an identifier for its name. -/
def StaticType.IsWellNamed : StaticType → Prop
  | .functional m => IsIdentifier m.toList
  | _ => True

/-- The functional types of the signature have identifiers for their names. -/
def Signature.IsWellNamed (s : Signature) : Prop :=
  ∀ t ∈ s.result :: s.params, t.IsWellNamed

namespace Grammar

open Pattern

variable {isSealed : Bool} {i : Nat} {t r u m : List Char} {ns : List (Node Rule)}

theorem isIdentifierStart_iff {c : Char} :
    isIdentifierStart c = true ↔ c.isAlpha ∨ c = '_' ∨ c = '$' := by
  simp [isIdentifierStart, or_assoc]

theorem isIdentifierPart_iff {c : Char} :
    isIdentifierPart c = true ↔ c.isAlpha ∨ c.isDigit ∨ c = '_' ∨ c = '$' := by
  simp [isIdentifierPart, Char.isAlphanum, or_assoc]

/-- An identifier goes on as long as it can. -/
theorem matches_identifier_iff : identifier.Matches isSealed i t r ns ↔
    IsIdentifier t ∧ (∀ c ∈ r.head?, isIdentifierPart c = false) ∧
      ns = if isSealed then [] else [Node.mk .identifier i t []] := by
  rw [identifier, Grammar.unit, matches_rule_iff]
  constructor
  · rintro ⟨ms, h, rfl⟩
    obtain ⟨t₁, t₂, ns₁, ns₂, rfl, rfl, h₁, h₂⟩ := matches_seq_iff.mp h
    obtain ⟨c, hc, rfl, rfl⟩ := matches_char_iff.mp h₁
    obtain ⟨rfl, hall, hstop⟩ := matches_many_char_iff.mp h₂
    exact ⟨⟨isIdentifierStart_iff.mp hc, fun d hd => isIdentifierPart_iff.mp (hall d hd)⟩, hstop,
      rfl⟩
  · rintro ⟨hid, hstop, rfl⟩
    cases t with
    | nil => exact hid.elim
    | cons c t =>
        obtain ⟨hc, hall⟩ := hid
        have h₁ : (char isIdentifierStart : Pattern Rule).Matches (isSealed || true) i [c]
            (t ++ r) [] :=
          matches_char_iff.mpr ⟨c, isIdentifierStart_iff.mpr hc, rfl, rfl⟩
        have h₂ : (many (char isIdentifierPart) : Pattern Rule).Matches (isSealed || true) (i + 1)
            t r [] :=
          matches_many_char_iff.mpr
            ⟨rfl, fun d hd => isIdentifierPart_iff.mpr (hall d hd), hstop⟩
        exact ⟨[], h₁.seq h₂, rfl⟩

/-! ### Texts of types -/

/-- The texts of the types: an identifier, or a functional type with an identifier for its name. -/
inductive TypeText : List Char → Prop where
  | name {t : List Char} (h : IsIdentifier t) : TypeText t
  | functional {m : List Char} (h : IsIdentifier m) : TypeText ('@' :: m)

theorem not_isIdentifier_at : ¬ IsIdentifier ('@' :: m) := by
  rintro ⟨h, -⟩
  exact absurd h (by decide)

/-- What a text of a type starts with. -/
theorem TypeText.exists_cons (h : TypeText t) :
    ∃ c t', t = c :: t' ∧ (c = '@' ∨ isIdentifierStart c = true) := by
  cases h with
  | functional h => exact ⟨'@', _, rfl, .inl rfl⟩
  | name h =>
      cases t with
      | nil => exact h.elim
      | cons c t => exact ⟨c, t, rfl, .inr (isIdentifierStart_iff.mpr h.1)⟩

theorem typeText_of_matches (h : staticType.Matches false i t r ns) :
    TypeText t ∧ ∃ ms, ns = [Node.mk .staticType i t ms] := by
  obtain ⟨ms, hbody, hns⟩ := matches_rule_iff.mp h
  refine ⟨?_, ms, hns⟩
  rcases matches_choice_iff.mp hbody with hfun | ⟨-, hname⟩
  · obtain ⟨_, hfun, -⟩ := matches_rule_iff.mp hfun
    obtain ⟨t₁, t₂, ns₁, ns₂, rfl, -, h₁, h₂⟩ := matches_seq_iff.mp hfun
    rw [(matches_lit_iff.mp h₁).1]
    exact .functional (matches_identifier_iff.mp h₂).1
  · obtain ⟨_, hname, -⟩ := matches_rule_iff.mp hname
    exact .name (matches_identifier_iff.mp hname).1

/-- The text of a type is taken as a whole where no identifier goes on behind it. -/
theorem exists_matches_of_typeText (h : TypeText t)
    (hr : ∀ c ∈ r.head?, isIdentifierPart c = false) :
    ∃ ms, staticType.Matches false i t r [Node.mk .staticType i t ms] := by
  cases h with
  | @functional m hm =>
      have h₁ : (lit "@").Matches false i ['@'] (m ++ r) [] := matches_lit_iff.mpr ⟨rfl, rfl⟩
      have h₂ : identifier.Matches false (i + 1) m r [Node.mk .identifier (i + 1) m []] :=
        matches_identifier_iff.mpr ⟨hm, hr, rfl⟩
      have hfun : (plain .functionalType (seq (lit "@") identifier)).Matches false i ('@' :: m) r
          [_] := (h₁.seq h₂).plain
      exact ⟨_, (matches_choice_iff.mpr (.inl hfun)).plain⟩
  | name h =>
      have hfails : (plain .functionalType (seq (lit "@") identifier)).Fails false i (t ++ r) := by
        refine fails_iff.mpr fun t' r' ns' ht hm => ?_
        obtain ⟨_, hm, -⟩ := matches_rule_iff.mp hm
        obtain ⟨t₁, t₂, ns₁, ns₂, rfl, -, hat, -⟩ := matches_seq_iff.mp hm
        rw [(matches_lit_iff.mp hat).1] at ht
        cases t with
        | nil => exact h.elim
        | cons c t =>
            obtain rfl : c = '@' := (List.cons.inj ht).1
            exact not_isIdentifier_at h
      have hname : (Grammar.unit .typeName identifier).Matches false i t r
          [Node.mk .typeName i t []] :=
        matches_rule_iff.mpr ⟨[], matches_identifier_iff.mpr ⟨h, hr, rfl⟩, rfl⟩
      exact ⟨_, (matches_choice_iff.mpr (.inr ⟨hfails, hname⟩)).plain⟩

/-! ### Texts of parameter lists -/

/-- A list with commas in between is the first element, and then a comma before each of the
others. -/
theorem intercalate_comma (us : List (List Char)) :
    [','].intercalate (u :: us) = u ++ us.flatMap fun v => ',' :: v := by
  induction us generalizing u with
  | nil => simp
  | cons v us ih =>
      rw [List.intercalate_cons_cons, ih, List.flatMap_cons]
      simp

theorem typeTexts_of_repeats (h : Repeats ((seq (lit ",") staticType).run false) i t r ns) :
    (∀ n ∈ ns, TypeText n.text) ∧ t = (ns.map Node.text).flatMap fun v => ',' :: v := by
  induction h with
  | stop => exact ⟨nofun, rfl⟩
  | more ht h hrest ih =>
      obtain ⟨hall, htail⟩ := ih
      obtain ⟨t₁, t₂, ns₁, ns₂, rfl, rfl, h₁, h₂⟩ := matches_seq_iff.mp h
      obtain ⟨rfl, rfl⟩ := matches_lit_iff.mp h₁
      obtain ⟨htype, ms, rfl⟩ := typeText_of_matches h₂
      refine ⟨fun n hn => ?_, ?_⟩
      · rcases List.mem_cons.mp hn with rfl | hn
        · exact htype
        · exact hall n hn
      · rw [htail]
        rfl

/-- Behind a type of a parameter stands a comma or a parenthesis, which ends an identifier. -/
theorem head_of_types (us : List (List Char)) (r : List Char) :
    ∀ c ∈ ((us.flatMap fun v => ',' :: v) ++ ')' :: r).head?, isIdentifierPart c = false := by
  intro c hc
  cases us with
  | nil =>
      cases hc
      decide
  | cons v us =>
      cases hc
      decide

theorem exists_repeats_of_typeTexts (us : List (List Char)) (hus : ∀ u ∈ us, TypeText u) :
    ∀ i, ∃ ns, ns.map Node.text = us ∧
      Repeats ((seq (lit ",") staticType).run false) i (us.flatMap fun v => ',' :: v) (')' :: r)
        ns := by
  induction us with
  | nil =>
      intro i
      refine ⟨[], rfl, .stop fun t r' ns ht h => ?_⟩
      obtain ⟨t₁, t₂, ns₁, ns₂, rfl, -, h₁, -⟩ := matches_seq_iff.mp h
      rw [(matches_lit_iff.mp h₁).1] at ht
      cases ht
  | cons u us ih =>
      intro i
      obtain ⟨ns, hns, hrest⟩ :=
        ih (fun v hv => hus v (List.mem_cons_of_mem u hv)) (i + (1 + u.length))
      obtain ⟨ms, h₂⟩ := exists_matches_of_typeText (i := i + 1) (hus u List.mem_cons_self)
        (head_of_types us r)
      have h₁ : (lit ",").Matches false i [','] (u ++ ((us.flatMap fun v => ',' :: v) ++ ')' :: r))
          [] := matches_lit_iff.mpr ⟨rfl, rfl⟩
      refine ⟨Node.mk .staticType (i + 1) u ms :: ns, by rw [List.map_cons, hns]; rfl, ?_⟩
      rw [Nat.add_comm 1 u.length] at hrest
      have hmore := Repeats.more (List.cons_ne_nil _ _) (h₁.seq h₂) hrest
      exact hmore

theorem typeTexts_of_matches (h : parameterList.Matches false i t r ns) :
    ∃ ms : List (Node Rule), ms ≠ [] ∧ (∀ m ∈ ms, TypeText m.text) ∧
      t = [','].intercalate (ms.map Node.text) ∧ ns = [Node.mk .parameterList i t ms] := by
  obtain ⟨ms, hbody, hns⟩ := matches_rule_iff.mp h
  obtain ⟨t₁, t₂, ns₁, ns₂, rfl, rfl, h₁, h₂⟩ := matches_seq_iff.mp hbody
  obtain ⟨htype, ms₁, rfl⟩ := typeText_of_matches h₁
  obtain ⟨hall, htail⟩ := typeTexts_of_repeats (matches_many_iff.mp h₂)
  refine ⟨Node.mk .staticType i t₁ ms₁ :: ns₂, List.cons_ne_nil _ _, fun m hm => ?_, ?_, hns⟩
  · rcases List.mem_cons.mp hm with rfl | hm
    · exact htype
    · exact hall m hm
  · rw [List.map_cons, intercalate_comma, ← htail]
    rfl

theorem exists_matches_of_typeTexts {us : List (List Char)} (hne : us ≠ [])
    (hus : ∀ u ∈ us, TypeText u) : ∃ ms, ms.map Node.text = us ∧
      parameterList.Matches false i ([','].intercalate us) (')' :: r)
        [Node.mk .parameterList i ([','].intercalate us) ms] := by
  cases us with
  | nil => exact absurd rfl hne
  | cons u us =>
      obtain ⟨ns, hns, hrest⟩ := exists_repeats_of_typeTexts (r := r) us
        (fun v hv => hus v (List.mem_cons_of_mem u hv)) (i + u.length)
      obtain ⟨ms, h₁⟩ := exists_matches_of_typeText (i := i) (hus u List.mem_cons_self)
        (head_of_types us r)
      rw [intercalate_comma]
      refine ⟨Node.mk .staticType i u ms :: ns, by rw [List.map_cons, hns]; rfl, ?_⟩
      exact (h₁.seq (matches_many_iff.mpr hrest)).plain

/-! ### Texts of signatures -/

/-- The text of a signature with given texts of parameters and of a result. -/
def signatureText (us : List (List Char)) (u : List Char) : List Char :=
  '(' :: ([','].intercalate us ++ ')' :: u)

/-- The tree of a signature has nodes for the types of its parameters, if it has any, and one for
the type of its result. -/
structure Node.TellsTypes (n : Node Rule) (us : List (List Char)) (u : List Char) : Prop where
  params : (((n.child? .parameterList).map Node.children).getD []).map Node.text = us
  result : ∃ m, n.child? .staticType = some m ∧ m.text = u

/-- A text that has a tree is a signature of texts of types. -/
theorem exists_texts_of_read {s : String} {n : Node Rule} (h : read signature s = .ok n) :
    ∃ us u, (∀ v ∈ us, TypeText v) ∧ TypeText u ∧ s.toList = signatureText us u ∧
      n.TellsTypes us u := by
  obtain ⟨t, r, ms, hs, hbody, rfl⟩ := read_eq_ok_iff.mp h
  obtain ⟨t₁, t', ns₁, ns', rfl, rfl, hopen, h₁⟩ := matches_seq_iff.mp hbody
  obtain ⟨t₂, t', ns₂, ns', rfl, rfl, hopt, h₂⟩ := matches_seq_iff.mp h₁
  obtain ⟨t₃, t', ns₃, ns', rfl, rfl, hclose, h₃⟩ := matches_seq_iff.mp h₂
  obtain ⟨u, t₅, ns₄, ns₅, rfl, rfl, hresult, hend⟩ := matches_seq_iff.mp h₃
  obtain ⟨rfl, rfl⟩ := matches_lit_iff.mp hopen
  obtain ⟨rfl, rfl⟩ := matches_lit_iff.mp hclose
  obtain ⟨rfl, rfl, rfl⟩ := matches_atEnd_iff.mp hend
  obtain ⟨htype, ms, rfl⟩ := typeText_of_matches hresult
  rcases matches_optional_iff.mp hopt with hparams | ⟨-, rfl, rfl⟩
  · obtain ⟨ms, -, hall, rfl, rfl⟩ := typeTexts_of_matches hparams
    refine ⟨ms.map Node.text, u, ?_, htype, ?_, rfl, _, rfl, rfl⟩
    · intro v hv
      obtain ⟨m, hm, rfl⟩ := List.mem_map.mp hv
      exact hall m hm
    · rw [hs]
      simp [signatureText]
  · refine ⟨[], u, nofun, htype, ?_, rfl, _, rfl, rfl⟩
    rw [hs]
    simp [signatureText]

/-- No type starts with a parenthesis. -/
theorem parameterList_fails : parameterList.Fails false i (')' :: r) := by
  refine fails_iff.mpr fun t r' ns ht h => ?_
  obtain ⟨_, h, -⟩ := matches_rule_iff.mp h
  obtain ⟨t₁, t₂, ns₁, ns₂, rfl, -, h₁, -⟩ := matches_seq_iff.mp h
  obtain ⟨c, t', rfl, hc⟩ := (typeText_of_matches h₁).1.exists_cons
  cases ht
  revert hc
  decide

/-- A signature of texts of types has a tree. -/
theorem exists_read_of_texts {s : String} {us : List (List Char)} (hus : ∀ v ∈ us, TypeText v)
    (hu : TypeText u) (hs : s.toList = signatureText us u) :
    ∃ n, read signature s = .ok n ∧ n.TellsTypes us u := by
  have hopen (t : List Char) : (lit "(").Matches false 0 ['('] t [] :=
    matches_lit_iff.mpr ⟨rfl, rfl⟩
  have hclose (i : Nat) : (lit ")").Matches false i [')'] (u ++ []) [] :=
    matches_lit_iff.mpr ⟨rfl, rfl⟩
  have hresult (i : Nat) : ∃ ms, staticType.Matches false i u [] [Node.mk .staticType i u ms] :=
    exists_matches_of_typeText hu nofun
  choose ms hresult using hresult
  have htail (i : Nat) := (hclose i).seq (Matches.seq_atEnd Rule.endOfInput (hresult _))
  by_cases hne : us = []
  · subst hne
    have hopt : (optional parameterList).Matches false 1 [] (')' :: u) [] :=
      matches_optional_iff.mpr (.inr ⟨parameterList_fails, rfl, rfl⟩)
    have hbody := (hopen _).seq (Matches.seq (by simpa using hopt) (htail _))
    refine ⟨_, read_eq_ok_iff.mpr ⟨_, [], _, ?_, hbody, rfl⟩, rfl, _, rfl, rfl⟩
    simp [hs, signatureText]
  · obtain ⟨ns, hns, hparams⟩ := exists_matches_of_typeTexts (i := 1) (r := u) hne hus
    have hopt := matches_optional_iff.mpr (.inl hparams)
    have hbody := (hopen _).seq (Matches.seq (by simpa using hopt) (htail _))
    refine ⟨_, read_eq_ok_iff.mpr ⟨_, [], _, ?_, hbody, rfl⟩, hns, _, rfl, rfl⟩
    simp [hs, signatureText]

end Grammar

/-! ### Types of texts -/

open Grammar

variable {t u : List Char} {us : List (List Char)} {ty : StaticType} {tys : List StaticType}

theorem StaticType.ofName?_eq_some_iff {name : String} :
    StaticType.ofName? name = some ty ↔ ty ∈ StaticType.named ∧ ty.text = name := by
  constructor
  · intro h
    exact ⟨List.mem_of_find?_eq_some h, by simpa using List.find?_some h⟩
  · rintro ⟨hty, rfl⟩
    have hall : ∀ t ∈ StaticType.named, StaticType.ofName? t.text = some t := by decide
    exact hall ty hty

/-- Every type has a text of the grammar, if it has an identifier where it needs one. -/
theorem typeText_text (h : ty.IsWellNamed) : TypeText ty.text.toList := by
  by_cases hty : ty ∈ StaticType.named
  · have hall : ∀ t ∈ StaticType.named, IsIdentifier t.text.toList := by
      simp [StaticType.named, StaticType.text, IsIdentifier]
    exact .name (hall ty hty)
  · cases ty with
    | functional m =>
        have htext : (StaticType.functional m).text.toList = '@' :: m.toList := by
          simp [StaticType.text]
        rw [htext]
        exact .functional h
    | _ => exact absurd (by decide) hty

/-- The type that a node with the text stands for. -/
def typeOfText (t : List Char) : Except ScriptError StaticType :=
  typeOfNode (Node.mk .staticType 0 t [])

/-- Of a node of a type only the text counts. -/
theorem typeOfNode_eq (n : Node Rule) : typeOfNode n = typeOfText n.text := by
  cases n
  rfl

theorem typeOfText_name (h : IsIdentifier t) :
    typeOfText t = match StaticType.ofName? (String.ofList t) with
      | some ty => .ok ty
      | none => .error (.unknownType (String.ofList t)) := by
  unfold typeOfText typeOfNode
  split
  · next m hm =>
      have ht : t = '@' :: m := hm
      rw [ht] at h
      exact absurd h not_isIdentifier_at
  · rfl

/-- A type has one text, and a text of the grammar is the text of one type at most. -/
theorem typeOfText_eq_ok_iff (ht : TypeText t) :
    typeOfText t = .ok ty ↔ t = ty.text.toList ∧ ty.IsWellNamed := by
  cases ht with
  | @functional m hm =>
      have hread : typeOfText ('@' :: m) = .ok (.functional (String.ofList m)) := rfl
      rw [hread]
      constructor
      · intro h
        cases h
        exact ⟨by simp [StaticType.text], by simpa [StaticType.IsWellNamed] using hm⟩
      · rintro ⟨h, -⟩
        cases ty with
        | functional m' => simp_all [StaticType.text]
        | _ => exact absurd (List.cons.inj h).1 (by decide)
  | name hid =>
      rw [typeOfText_name hid]
      constructor
      · intro h
        cases hname : StaticType.ofName? (String.ofList t) with
        | none => simp [hname] at h
        | some ty' =>
            rw [hname] at h
            cases h
            obtain ⟨hmem, htext⟩ := StaticType.ofName?_eq_some_iff.mp hname
            refine ⟨by simp [htext], ?_⟩
            cases ty with
            | functional m' => exact absurd hmem (by simp [StaticType.named])
            | _ => trivial
      · rintro ⟨rfl, hw⟩
        have hty : ty ∈ StaticType.named := by
          cases ty with
          | functional m' => exact absurd hid (by simpa [StaticType.text] using not_isIdentifier_at)
          | _ => decide
        have hname : StaticType.ofName? (String.ofList ty.text.toList) = some ty :=
          StaticType.ofName?_eq_some_iff.mpr ⟨hty, String.ofList_toList.symm⟩
        rw [hname]

theorem kind_of_typeOfText {e : ScriptError} (h : typeOfText t = .error e) :
    e.kind = .syntaxFault := by
  unfold typeOfText typeOfNode at h
  split at h
  · cases h
  · split at h
    · cases h
    · cases h
      rfl

section Reading

variable {α β ε : Type} {x : Except ε α} {f : α → Except ε β} {b : β} {e : ε}

theorem bind_eq_ok_iff : (x >>= f) = .ok b ↔ ∃ a, x = .ok a ∧ f a = .ok b := by
  cases x <;> simp [bind, Except.bind]

theorem bind_eq_error_iff :
    (x >>= f) = .error e ↔ x = .error e ∨ ∃ a, x = .ok a ∧ f a = .error e := by
  cases x <;> simp [bind, Except.bind]

end Reading

theorem mapM_typeOfText_eq_ok_iff (hus : ∀ u ∈ us, TypeText u) :
    us.mapM typeOfText = .ok tys ↔
      us = tys.map (fun t => t.text.toList) ∧ ∀ t ∈ tys, t.IsWellNamed := by
  induction us generalizing tys with
  | nil => cases tys <;> simp [pure, Except.pure]
  | cons u us ih =>
      obtain ⟨hu, hus⟩ := List.forall_mem_cons.mp hus
      rw [List.mapM_cons]
      constructor
      · intro h
        obtain ⟨ty, hty, h⟩ := bind_eq_ok_iff.mp h
        obtain ⟨rest, hrest, h⟩ := bind_eq_ok_iff.mp h
        cases h
        obtain ⟨htext, hname⟩ := (typeOfText_eq_ok_iff hu).mp hty
        obtain ⟨htexts, hnames⟩ := (ih hus).mp hrest
        exact ⟨by rw [List.map_cons, ← htext, ← htexts],
          List.forall_mem_cons.mpr ⟨hname, hnames⟩⟩
      · rintro ⟨htexts, hnames⟩
        cases tys with
        | nil => cases htexts
        | cons ty rest =>
            obtain ⟨htext, htexts⟩ := List.cons.inj htexts
            obtain ⟨hname, hnames⟩ := List.forall_mem_cons.mp hnames
            rw [(typeOfText_eq_ok_iff hu).mpr ⟨htext, hname⟩, (ih hus).mpr ⟨htexts, hnames⟩]
            rfl

theorem kind_of_mapM_typeOfText {e : ScriptError} (h : us.mapM typeOfText = .error e) :
    e.kind = .syntaxFault := by
  induction us with
  | nil => cases h
  | cons u us ih =>
      rw [List.mapM_cons] at h
      rcases bind_eq_error_iff.mp h with hu | ⟨ty, -, h⟩
      · exact kind_of_typeOfText hu
      · rcases bind_eq_error_iff.mp h with hus | ⟨rest, -, h⟩
        · exact ih hus
        · cases h

/-! ### Signatures of texts -/

section Signatures

variable {s : String} {n : Node Rule} {sig : Signature}

/-- The signature of the texts of types. -/
def signatureOfTexts (us : List (List Char)) (u : List Char) : Except ScriptError Signature := do
  let params ← us.mapM typeOfText
  let result ← typeOfText u
  return ⟨params, result⟩

theorem toList_text (sig : Signature) : sig.text.toList =
    signatureText (sig.params.map fun t => t.text.toList) sig.result.text.toList := by
  simp [Signature.text, signatureText, Function.comp_def]

theorem signatureOfTexts_eq_ok_iff (hus : ∀ v ∈ us, TypeText v) (hu : TypeText u) :
    signatureOfTexts us u = .ok sig ↔
      us = sig.params.map (fun t => t.text.toList) ∧ u = sig.result.text.toList ∧
        sig.IsWellNamed := by
  constructor
  · intro h
    obtain ⟨params, hparams, h⟩ := bind_eq_ok_iff.mp h
    obtain ⟨result, hresult, h⟩ := bind_eq_ok_iff.mp h
    cases h
    obtain ⟨htexts, hnames⟩ := (mapM_typeOfText_eq_ok_iff hus).mp hparams
    obtain ⟨htext, hname⟩ := (typeOfText_eq_ok_iff hu).mp hresult
    exact ⟨htexts, htext, List.forall_mem_cons.mpr ⟨hname, hnames⟩⟩
  · rintro ⟨htexts, htext, hnames⟩
    obtain ⟨hname, hnames⟩ := List.forall_mem_cons.mp hnames
    unfold signatureOfTexts
    rw [(mapM_typeOfText_eq_ok_iff hus).mpr ⟨htexts, hnames⟩,
      (typeOfText_eq_ok_iff hu).mpr ⟨htext, hname⟩]
    rfl

theorem kind_of_signatureOfTexts {e : ScriptError} (h : signatureOfTexts us u = .error e) :
    e.kind = .syntaxFault := by
  rcases bind_eq_error_iff.mp h with hus | ⟨params, -, h⟩
  · exact kind_of_mapM_typeOfText hus
  · rcases bind_eq_error_iff.mp h with hu | ⟨result, -, h⟩
    · exact kind_of_typeOfText hu
    · cases h

theorem parseSignature_of_tells (h : read signature s = .ok n) (hn : n.TellsTypes us u) :
    parseSignature s = signatureOfTexts us u := by
  obtain ⟨hparams, m, hresult, rfl⟩ := hn
  have hmapM (ms : List (Node Rule)) : ms.mapM typeOfNode = (ms.map Node.text).mapM typeOfText := by
    rw [List.mapM_map]
    exact congrArg (fun f => ms.mapM f) (funext typeOfNode_eq)
  unfold parseSignature signatureOfTexts
  rw [← hparams, ← typeOfNode_eq m]
  cases hlist : n.child? .parameterList with
  | none => simp [h, hlist, hresult, bind, Except.bind, pure, Except.pure]
  | some p => simp [h, hlist, hresult, bind, Except.bind, pure, Except.pure, hmapM]

/-- What is read of a text is the signature whose written form it is. -/
theorem parseSignature_eq_ok_iff : parseSignature s = .ok sig ↔ s = sig.text ∧ sig.IsWellNamed := by
  constructor
  · intro h
    rcases read_cases signature s with ⟨n, hn⟩ | ⟨place, he⟩
    · obtain ⟨us, u, hus, hu, hs, htells⟩ := exists_texts_of_read hn
      rw [parseSignature_of_tells hn htells] at h
      obtain ⟨htexts, htext, hnames⟩ := (signatureOfTexts_eq_ok_iff hus hu).mp h
      refine ⟨?_, hnames⟩
      rw [← String.toList_inj, hs, toList_text, htexts, htext]
    · simp [parseSignature, he, bind, Except.bind] at h
  · rintro ⟨rfl, hnames⟩
    obtain ⟨hname, hparams⟩ := List.forall_mem_cons.mp hnames
    have hus : ∀ v ∈ sig.params.map (fun t => t.text.toList), TypeText v := by
      intro v hv
      obtain ⟨t, ht, rfl⟩ := List.mem_map.mp hv
      exact typeText_text (hparams t ht)
    have hu : TypeText sig.result.text.toList := typeText_text hname
    obtain ⟨n, hn, htells⟩ := exists_read_of_texts hus hu (toList_text sig)
    rw [parseSignature_of_tells hn htells]
    exact (signatureOfTexts_eq_ok_iff hus hu).mpr ⟨rfl, rfl, hnames⟩

/-- What is not read is answered by a syntax error. -/
theorem kind_of_parseSignature {e : ScriptError} (h : parseSignature s = .error e) :
    e.kind = .syntaxFault := by
  rcases read_cases signature s with ⟨n, hn⟩ | ⟨place, he⟩
  · obtain ⟨us, u, -, -, -, htells⟩ := exists_texts_of_read hn
    rw [parseSignature_of_tells hn htells] at h
    exact kind_of_signatureOfTexts h
  · have hmalformed : parseSignature s = .error (.malformed s place) := by
      unfold parseSignature
      rw [he]
      rfl
    rw [hmalformed] at h
    cases h
    rfl

/-- **Exactly the written forms of signatures are read**, each as its signature, where the
functional types have identifiers for their names; every other text is answered by a syntax
error. -/
theorem parseSignature_exact (s : String) :
    (∀ sig, parseSignature s = .ok sig ↔ s = sig.text ∧ sig.IsWellNamed) ∧
    ((∃ e, parseSignature s = .error e ∧ e.kind = .syntaxFault) ↔
      ¬ ∃ sig : Signature, s = sig.text ∧ sig.IsWellNamed) := by
  refine ⟨fun sig => parseSignature_eq_ok_iff, ?_⟩
  cases h : parseSignature s with
  | error e =>
      refine iff_of_true ⟨e, rfl, kind_of_parseSignature h⟩ ?_
      rintro ⟨sig, hsig⟩
      rw [parseSignature_eq_ok_iff.mpr hsig] at h
      cases h
  | ok sig =>
      refine iff_of_false ?_ (not_not_intro ⟨sig, parseSignature_eq_ok_iff.mp h⟩)
      rintro ⟨e, he, -⟩
      cases he

end Signatures

end DynamicLinking
