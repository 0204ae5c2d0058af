/-
What a configuration text means is said of its lines, without reading them one after another.  A
line stands in the section of the last header before it.  An assignment to a known key of its
section makes a setting, later ones taking the place of earlier ones, and a line is bad if it is
neither blank nor a header nor an assignment, or if a known key does not take the value.  The reader
finds these settings, or the first bad line.

The invariant is about the lines read so far, so that the inductions take a text from its end: one
more line decides about itself only, and the lines before it mean what they meant.

Main definitions:

* `SettingKey`, `Setting.Written` — the five keys with their sections, and what may be written for
  them;
* `lineContent`, `IsHeader`, `IsAssignment`, `sectionAfter` — what a line says, and where;
* `Config.Assigns`, `Config.Reports` — **the assignments and the errors of a text**;
* `Config.Holds` — settings with the last assignment to every key;
* `IsIdle` — lines that say nothing in a section.

Main results:

* `reads_readLines` — the reader finds the settings or the first bad line;
* `readLines_idle`, `readLines_shift` — idle lines only count in the numbers of later lines;
* `LinkerConfig.parse_exact` — **what the settings of a text are**.
-/

import DynamicLinking.Config
import DynamicLinking.Proofs.HexadecimalTexts
import Mathlib.Data.List.Induction

set_option autoImplicit false

namespace DynamicLinking

/-! ### Unsigned numbers -/

namespace Numeral

/-- The characters are decimal digits, at least one, behind a plus sign or without one, and denote a
number. -/
def IsUnsigned (cs : List Char) (n : Nat) : Prop :=
  ∃ ds, ds ≠ [] ∧ (cs = ds ∨ cs = '+' :: ds) ∧ Denotes 10 ds n

section

variable {cs : List Char} {n : Nat}

/-- A sign is no decimal digit. -/
theorem not_denotes_sign {c : Char} (hc : c = '+' ∨ c = '-') (cs : List Char) (n : Nat) :
    ¬ Denotes 10 (c :: cs) n := by
  rintro ⟨ds, hds, -⟩
  cases hds with
  | @cons _ d _ _ hd _ => rcases hc with rfl | rfl <;> cases hd

theorem isUnsigned_plus_iff : IsUnsigned ('+' :: cs) n ↔ cs ≠ [] ∧ Denotes 10 cs n := by
  constructor
  · rintro ⟨ds, hne, rfl | hds, hn⟩
    · exact absurd hn (not_denotes_sign (.inl rfl) _ _)
    · cases hds
      exact ⟨hne, hn⟩
  · rintro ⟨hne, hn⟩
    exact ⟨cs, hne, .inr rfl, hn⟩

theorem isUnsigned_plain_iff (hplus : ∀ r, cs ≠ '+' :: r) :
    IsUnsigned cs n ↔ cs ≠ [] ∧ Denotes 10 cs n := by
  constructor
  · rintro ⟨ds, hne, rfl | rfl, hn⟩
    · exact ⟨hne, hn⟩
    · exact absurd rfl (hplus ds)
  · rintro ⟨hne, hn⟩
    exact ⟨cs, hne, .inl rfl, hn⟩

/-- **What is read as an unsigned number**: digits with an optional plus sign, if their number
fits. -/
theorem unsigned_eq_ok_iff : unsigned 64 cs = .ok n ↔ n < 2 ^ 64 ∧ IsUnsigned cs n := by
  have hread (r : List Char) :
      (accumulate 10 0 ((twoPow 64 : Nat) - 1) false 0 r).map Int.toNat = .ok n ↔
        n < 2 ^ 64 ∧ Denotes 10 r n := by
    constructor
    · intro h
      cases hi : accumulate 10 0 ((twoPow 64 : Nat) - 1) false 0 r with
      | error e =>
          rw [hi] at h
          cases h
      | ok i =>
          rw [hi] at h
          cases h
          obtain ⟨m, hm, rfl, -, hmax⟩ :=
            (accumulate_iff (by decide) (by decide) (by decide)).mp hi
          have hmax : (m : Int) ≤ 2 ^ 64 - 1 := hmax
          have hfits : (m : Int).toNat < 2 ^ 64 := by omega
          exact ⟨hfits, hm⟩
    · rintro ⟨hmax, hn⟩
      have hfits : (n : Int) ≤ 2 ^ 64 - 1 := by omega
      have hok : accumulate 10 0 ((twoPow 64 : Nat) - 1) false 0 r = .ok (n : Int) :=
        (accumulate_iff (by decide) (by decide) (by decide)).mpr ⟨n, hn, rfl, by omega, hfits⟩
      rw [hok]
      rfl
  unfold unsigned integer
  split
  · simp [Except.map, isUnsigned_plain_iff]
  · simp [Except.map, isUnsigned_plus_iff]
  · simp [Except.map, isUnsigned_plain_iff, not_denotes_sign]
  · rename_i r hr
    rw [hread, isUnsigned_plus_iff, and_iff_right hr]
  · simp [Except.map, isUnsigned_plain_iff, not_denotes_sign]
  · rename_i hnil _ _ hplus hminus
    rw [hread, isUnsigned_plain_iff hplus, and_iff_right hnil]

end

end Numeral

/-! ### Keys and values -/

/-- The keys that make settings. -/
inductive SettingKey where
  | threshold
  | syncOnRelink
  | profilesSites
  | tracesSites
  | allowsReflection
  deriving DecidableEq, Repr

namespace SettingKey

/-- The section of a key. -/
def section_ : SettingKey → String
  | .allowsReflection => "reflection"
  | _ => "linker"

/-- The written form of a key. -/
def name : SettingKey → String
  | .threshold => "unstable_relink_threshold"
  | .syncOnRelink => "sync_on_relink"
  | .profilesSites => "profile_callsites"
  | .tracesSites => "trace_callsites"
  | .allowsReflection => "allow"

end SettingKey

/-- The key of a setting. -/
def Setting.key : Setting → SettingKey
  | .threshold _ => .threshold
  | .syncOnRelink _ => .syncOnRelink
  | .profilesSites _ => .profilesSites
  | .tracesSites _ => .tracesSites
  | .allowsReflection _ => .allowsReflection

/-- What may be written for a setting: a threshold in digits, and a switch in letters. -/
def Setting.Written : Setting → String → Prop
  | .threshold n, value => 0 < n ∧ n < 2 ^ 64 ∧ Numeral.IsUnsigned value.toList n
  | .syncOnRelink b, value | .profilesSites b, value | .tracesSites b, value
  | .allowsReflection b, value => value = if b then "true" else "false"

/-- The setting of a key. -/
def LinkerConfig.get (c : LinkerConfig) : SettingKey → Setting
  | .threshold => .threshold c.threshold
  | .syncOnRelink => .syncOnRelink c.syncOnRelink
  | .profilesSites => .profilesSites c.profilesSites
  | .tracesSites => .tracesSites c.tracesSites
  | .allowsReflection => .allowsReflection c.allowsReflection

namespace LinkerConfig

@[simp] theorem key_get (c : LinkerConfig) (k : SettingKey) : (c.get k).key = k := by
  cases k <;> rfl

theorem get_set (c : LinkerConfig) (v : Setting) (k : SettingKey) :
    (c.set v).get k = if v.key = k then v else c.get k := by
  cases v <;> cases k <;> rfl

theorem ext_get {c d : LinkerConfig} (h : ∀ k, c.get k = d.get k) : c = d := by
  have h₁ := h .threshold
  have h₂ := h .syncOnRelink
  have h₃ := h .profilesSites
  have h₄ := h .tracesSites
  have h₅ := h .allowsReflection
  cases c
  cases d
  simp_all [get]

end LinkerConfig

/-- A key takes the values that are written for its settings, and an assignment to anything else
says nothing. -/
theorem Setting.read?_eq_none_iff {section_ key value : String} :
    Setting.read? section_ key value = none ↔
      ∀ k : SettingKey, ¬ (k.section_ = section_ ∧ k.name = key) := by
  constructor
  · rintro h k ⟨rfl, rfl⟩
    cases k <;> cases h
  · intro h
    unfold Setting.read?
    split
    · exact absurd ⟨rfl, rfl⟩ (h .threshold)
    · exact absurd ⟨rfl, rfl⟩ (h .syncOnRelink)
    · exact absurd ⟨rfl, rfl⟩ (h .profilesSites)
    · exact absurd ⟨rfl, rfl⟩ (h .tracesSites)
    · exact absurd ⟨rfl, rfl⟩ (h .allowsReflection)
    · rfl

theorem readSwitch?_eq_some_iff {value : String} {b : Bool} :
    readSwitch? value = some b ↔ value = if b then "true" else "false" := by
  unfold readSwitch?
  split
  · cases b <;> simp
  · cases b <;> simp
  · cases b <;> simp_all

theorem readThreshold?_eq_some_iff {value : String} {n : Nat} :
    readThreshold? value = some n ↔
      0 < n ∧ n < 2 ^ 64 ∧ Numeral.IsUnsigned value.toList n := by
  rw [← Numeral.unsigned_eq_ok_iff]
  unfold readThreshold?
  cases Numeral.unsigned 64 value.toList with
  | error e => simp
  | ok m =>
      dsimp only
      split
      · rename_i hm
        rw [Option.some.injEq, Except.ok.injEq]
        constructor
        · rintro rfl
          exact ⟨hm, rfl⟩
        · exact fun h => h.2
      · rename_i hm
        simp only [Except.ok.injEq, reduceCtorEq, false_iff, not_and]
        rintro hn rfl
        exact hm hn

/-- **A known key takes what may be written for its settings**, and nothing else. -/
theorem Setting.exists_read? (k : SettingKey) (value : String) :
    ∃ v? : Option Setting, Setting.read? k.section_ k.name value = some v? ∧
      ∀ v, v? = some v ↔ v.key = k ∧ v.Written value := by
  have hswitch (f : Bool → Setting) (k : SettingKey) (hf : ∀ b, (f b).key = k)
      (hk : ∀ v : Setting, v.key = k → ∃ b, v = f b)
      (hw : ∀ b, (f b).Written value ↔ value = if b then "true" else "false") (v : Setting) :
      (readSwitch? value).map f = some v ↔ v.key = k ∧ v.Written value := by
    constructor
    · intro h
      obtain ⟨b, hb, rfl⟩ := Option.map_eq_some_iff.mp h
      exact ⟨hf b, (hw b).mpr (readSwitch?_eq_some_iff.mp hb)⟩
    · rintro ⟨hkey, hv⟩
      obtain ⟨b, rfl⟩ := hk v hkey
      rw [readSwitch?_eq_some_iff.mpr ((hw b).mp hv)]
      rfl
  cases k with
  | threshold =>
      refine ⟨_, rfl, fun v => ?_⟩
      cases v with
      | threshold n =>
          simp [Setting.key, Setting.Written, readThreshold?_eq_some_iff]
      | _ => simp [Setting.key]
  | syncOnRelink | profilesSites | tracesSites | allowsReflection =>
      refine ⟨_, rfl, hswitch _ _ (fun _ => rfl) (fun v hv => ?_) fun _ => Iff.rfl⟩
      cases v <;> first | exact ⟨_, rfl⟩ | cases hv

/-- A text stands for one setting of a key. -/
theorem Setting.Written.unique {v w : Setting} {value : String} (hv : v.Written value)
    (hw : w.Written value) (hkey : v.key = w.key) : v = w := by
  obtain ⟨v?, -, hread⟩ := Setting.exists_read? w.key value
  exact Option.some.inj (((hread v).mpr ⟨hkey, hv⟩).symm.trans ((hread w).mpr ⟨rfl, hw⟩))

/-! ### Lines -/

/-- What counts of a line: what stands before the first hash, without the blanks at both ends. -/
def lineContent (l : List Char) : List Char :=
  Text.trimList (l.takeWhile (· != '#'))

/-- A header stands in brackets. -/
def IsHeader (m : List Char) : Prop :=
  m.head? = some '[' ∧ m.getLast? = some ']'

instance : DecidablePred IsHeader := fun m =>
  inferInstanceAs (Decidable (m.head? = some '[' ∧ m.getLast? = some ']'))

/-- The name of the section in a header. -/
def headerName (m : List Char) : String :=
  String.ofList (Text.trimList m.tail.dropLast)

/-- What is no header is an assignment if it has an equals sign: the key stands before the first one
and the value behind it, both without the blanks at their ends, the value without the quotes at its
ends, too. -/
def IsAssignment (m : List Char) (key value : String) : Prop :=
  ¬ IsHeader m ∧ ∃ before after, m = before ++ '=' :: after ∧ '=' ∉ before ∧
    key = String.ofList (Text.trimList before) ∧
    value = String.ofList (Text.stripList (· == '"') (Text.trimList after))

/-- The section of a line that follows the given ones: that of the last header among them, or the
section in which they begin. -/
def sectionAfter (start : String) (ls : List (List Char)) : String :=
  ((ls.map lineContent).filter fun m => IsHeader m).getLast?.elim start headerName

section

variable {m before after : List Char} {s key value key' value' : String}

theorem not_isHeader_nil : ¬ IsHeader [] := nofun

theorem IsAssignment.mem (h : IsAssignment m key value) : '=' ∈ m := by
  obtain ⟨-, before, after, rfl, -⟩ := h
  simp

theorem IsAssignment.ne_nil (h : IsAssignment m key value) : m ≠ [] :=
  List.ne_nil_of_mem h.mem

/-- The first equals sign decides about the key and the value. -/
theorem takeWhile_of_not_mem (h : '=' ∉ before) (after : List Char) :
    (before ++ '=' :: after).takeWhile (· != '=') = before ∧
      (before ++ '=' :: after).dropWhile (· != '=') = '=' :: after := by
  have hpass : ∀ c ∈ before, (c != '=') = true := fun c hc =>
    bne_iff_ne.mpr fun heq => h (heq ▸ hc)
  rw [List.takeWhile_append_of_pos hpass, List.dropWhile_append_of_pos hpass]
  simp

theorem IsAssignment.unique (h : IsAssignment m key value) (h' : IsAssignment m key' value') :
    key = key' ∧ value = value' := by
  obtain ⟨-, before, after, rfl, hbefore, rfl, rfl⟩ := h
  obtain ⟨-, before', after', heq, hbefore', rfl, rfl⟩ := h'
  obtain ⟨htake, hdrop⟩ := takeWhile_of_not_mem hbefore after
  obtain ⟨htake', hdrop'⟩ := takeWhile_of_not_mem hbefore' after'
  rw [heq] at htake hdrop
  obtain rfl : before' = before := htake'.symm.trans htake
  obtain rfl : after' = after := (List.cons.inj (hdrop'.symm.trans hdrop)).2
  exact ⟨rfl, rfl⟩

/-- What a line says, by what counts of it. -/
inductive LineSays (m : List Char) : ConfigLine → Prop where
  | blank (h : m = []) : LineSays m .blank
  | header (h : IsHeader m) : LineSays m (.header (headerName m))
  | assignment {key value : String} (h : IsAssignment m key value) :
      LineSays m (.assignment key value)
  | malformed (hne : m ≠ []) (hheader : ¬ IsHeader m) (hequals : '=' ∉ m) :
      LineSays m (.malformed (String.ofList m))

theorem lineSays_read (l : List Char) : LineSays (lineContent l) (ConfigLine.read l) := by
  rw [ConfigLine.read, ← lineContent]
  generalize lineContent l = m
  unfold ConfigLine.ofTrimmed
  split
  · rename_i h
    exact .blank h
  · split
    · rename_i h
      exact .header h
    · split
      · rename_i hheader hequals
        obtain ⟨before, after, rfl, hbefore⟩ :=
          List.eq_append_cons_of_mem (List.contains_iff_mem.mp hequals)
        obtain ⟨hkey, hvalue⟩ := takeWhile_of_not_mem hbefore after
        rw [hkey, hvalue]
        exact .assignment ⟨hheader, before, after, rfl, hbefore, rfl, rfl⟩
      · rename_i hne hheader hequals
        exact .malformed hne hheader (by simpa using hequals)

theorem sectionAfter_cons (s : String) (l : List Char) (ls : List (List Char)) :
    sectionAfter s (l :: ls) =
      sectionAfter (if IsHeader (lineContent l) then headerName (lineContent l) else s) ls := by
  unfold sectionAfter
  rw [List.map_cons, List.filter_cons]
  split
  · rename_i h
    rw [if_pos (of_decide_eq_true h), List.getLast?_cons]
    cases ((ls.map lineContent).filter fun m => IsHeader m).getLast? <;> rfl
  · rename_i h
    rw [if_neg (by simpa using h)]

end

/-! ### Texts -/

namespace Config

/-- The line at a position stands in a section, and this counts of it. -/
def LineAt (ls : List (List Char)) (i : Nat) (section_ : String) (m : List Char) : Prop :=
  ∃ l, ls[i]? = some l ∧ sectionAfter "" (ls.take i) = section_ ∧ lineContent l = m

/-- The line at a position assigns a text to a key of the section in which it stands. -/
def Assigns (ls : List (List Char)) (i : Nat) (k : SettingKey) (value : String) : Prop :=
  ∃ m, LineAt ls i k.section_ m ∧ IsAssignment m k.name value

/-- What is wrong with the line at a position: it is neither blank nor a header nor an assignment,
or it assigns to a known key what is not written for any setting of the key. -/
inductive Reports (ls : List (List Char)) (i : Nat) : ConfigError → Prop where
  | malformed {section_ : String} {m : List Char} (h : LineAt ls i section_ m) (hne : m ≠ [])
      (hheader : ¬ IsHeader m) (hequals : '=' ∉ m) :
      Reports ls i (.malformed (i + 1) (String.ofList m))
  | invalidValue {k : SettingKey} {value : String} (h : Assigns ls i k value)
      (hinvalid : ∀ v : Setting, v.key = k → ¬ v.Written value) :
      Reports ls i (.invalidValue (i + 1) k.name value)

/-- Something is wrong with the line at a position. -/
def IsBad (ls : List (List Char)) (i : Nat) : Prop :=
  ∃ e, Reports ls i e

/-- Settings that have, for every key, what the last assignment to the key says, or the default if
there is none. -/
def Holds (ls : List (List Char)) (c : LinkerConfig) : Prop :=
  ∀ k : SettingKey,
    (∃ i value, Assigns ls i k value ∧ (∀ j, i < j → ∀ w, ¬ Assigns ls j k w) ∧
      (c.get k).Written value) ∨
    (∀ i value, ¬ Assigns ls i k value) ∧ c.get k = ({} : LinkerConfig).get k

/-- What a text with these lines comes to: its settings, if no line is bad, and otherwise what is
wrong with the first bad line. -/
def Reads (ls : List (List Char)) : Except ConfigError LinkerConfig → Prop
  | .ok c => (∀ i, ¬ IsBad ls i) ∧ Holds ls c
  | .error e => ∃ i, Reports ls i e ∧ ∀ j < i, ¬ IsBad ls j

section

variable {ls : List (List Char)} {l m m' : List Char} {i : Nat} {s s' value value' : String}
  {k : SettingKey} {v : Setting} {c c' : LinkerConfig} {e e' : ConfigError}

theorem LineAt.lt (h : LineAt ls i s m) : i < ls.length := by
  obtain ⟨l, hl, -⟩ := h
  exact (List.getElem?_eq_some_iff.mp hl).1

theorem LineAt.unique (h : LineAt ls i s m) (h' : LineAt ls i s' m') : s = s' ∧ m = m' := by
  obtain ⟨l, hl, rfl, rfl⟩ := h
  obtain ⟨l', hl', rfl, rfl⟩ := h'
  obtain rfl : l = l' := Option.some.inj (hl.symm.trans hl')
  exact ⟨rfl, rfl⟩

/-- One more line leaves the lines before it as they are. -/
theorem lineAt_append_iff :
    LineAt (ls ++ [l]) i s m ↔
      LineAt ls i s m ∨ i = ls.length ∧ sectionAfter "" ls = s ∧ lineContent l = m := by
  unfold LineAt
  obtain hi | rfl | hi := Nat.lt_trichotomy i ls.length
  · rw [List.getElem?_append_left hi, List.take_append_of_le_length hi.le]
    simp [hi.ne]
  · simp
  · rw [List.getElem?_eq_none (by simp; omega), List.getElem?_eq_none hi.le]
    simp [hi.ne']

theorem assigns_append_iff :
    Assigns (ls ++ [l]) i k value ↔
      Assigns ls i k value ∨
        i = ls.length ∧ sectionAfter "" ls = k.section_ ∧
          IsAssignment (lineContent l) k.name value := by
  simp only [Assigns, lineAt_append_iff, or_and_right, exists_or]
  refine or_congr Iff.rfl ⟨?_, ?_⟩
  · rintro ⟨m, ⟨hi, hs, rfl⟩, h⟩
    exact ⟨hi, hs, h⟩
  · rintro ⟨hi, hs, h⟩
    exact ⟨_, ⟨hi, hs, rfl⟩, h⟩

/-- The last line stands in the section to which the lines before it lead. -/
theorem lineAt_last_iff :
    LineAt (ls ++ [l]) ls.length s m ↔ sectionAfter "" ls = s ∧ lineContent l = m := by
  rw [lineAt_append_iff]
  exact ⟨fun h => (h.resolve_left fun h => Nat.lt_irrefl _ h.lt).2, fun h => .inr ⟨rfl, h⟩⟩

theorem assigns_last_iff :
    Assigns (ls ++ [l]) ls.length k value ↔
      sectionAfter "" ls = k.section_ ∧ IsAssignment (lineContent l) k.name value := by
  simp only [Assigns, lineAt_last_iff]
  exact ⟨fun ⟨m, ⟨hs, hm⟩, h⟩ => ⟨hs, hm ▸ h⟩, fun ⟨hs, h⟩ => ⟨_, ⟨hs, rfl⟩, h⟩⟩

theorem Assigns.lt (h : Assigns ls i k value) : i < ls.length := by
  obtain ⟨m, hm, -⟩ := h
  exact hm.lt

/-- A line assigns one text to one key. -/
theorem Assigns.unique {k' : SettingKey} (h : Assigns ls i k value)
    (h' : Assigns ls i k' value') : k = k' ∧ value = value' := by
  obtain ⟨m, hm, hassign⟩ := h
  obtain ⟨m', hm', hassign'⟩ := h'
  obtain ⟨-, rfl⟩ := hm.unique hm'
  obtain ⟨hname, hvalue⟩ := hassign.unique hassign'
  refine ⟨?_, hvalue⟩
  revert hname
  cases k <;> cases k' <;> decide

theorem Reports.lt (h : Reports ls i e) : i < ls.length := by
  cases h with
  | malformed h => exact h.lt
  | invalidValue h => exact h.lt

theorem Reports.append (h : Reports ls i e) (l : List Char) : Reports (ls ++ [l]) i e := by
  cases h with
  | malformed h hne hheader hequals =>
      exact .malformed (lineAt_append_iff.mpr (.inl h)) hne hheader hequals
  | invalidValue h hinvalid => exact .invalidValue (assigns_append_iff.mpr (.inl h)) hinvalid

theorem Reports.of_append (h : Reports (ls ++ [l]) i e) (hi : i < ls.length) :
    Reports ls i e := by
  cases h with
  | malformed h hne hheader hequals =>
      exact .malformed ((lineAt_append_iff.mp h).resolve_right fun h => hi.ne h.1) hne hheader
        hequals
  | invalidValue h hinvalid =>
      exact .invalidValue ((assigns_append_iff.mp h).resolve_right fun h => hi.ne h.1) hinvalid

/-- One thing is wrong with a bad line. -/
theorem Reports.unique (h : Reports ls i e) (h' : Reports ls i e') : e = e' := by
  cases h with
  | malformed h hne hheader hequals =>
      cases h' with
      | malformed h' =>
          obtain ⟨-, rfl⟩ := h.unique h'
          rfl
      | invalidValue h' =>
          obtain ⟨m', hm', hassign⟩ := h'
          obtain ⟨-, rfl⟩ := h.unique hm'
          exact absurd hassign.mem hequals
  | invalidValue h =>
      cases h' with
      | malformed h' hne hheader hequals =>
          obtain ⟨m', hm', hassign⟩ := h
          obtain ⟨-, rfl⟩ := h'.unique hm'
          exact absurd hassign.mem hequals
      | invalidValue h' =>
          obtain ⟨rfl, rfl⟩ := h.unique h'
          rfl

/-- The last assignments determine the settings. -/
theorem Holds.unique (h : Holds ls c) (h' : Holds ls c') : c = c' := by
  refine LinkerConfig.ext_get fun k => ?_
  rcases h k with ⟨i, value, hi, hlast, hw⟩ | ⟨hnone, hdefault⟩ <;>
    rcases h' k with ⟨i', value', hi', hlast', hw'⟩ | ⟨hnone', hdefault'⟩
  · -- neither of the two last assignments comes after the other
    obtain hlt | rfl | hlt := Nat.lt_trichotomy i i'
    · exact absurd hi' (hlast i' hlt value')
    · obtain ⟨-, rfl⟩ := hi.unique hi'
      exact hw.unique hw' (by simp)
    · exact absurd hi (hlast' i hlt value)
  · exact absurd hi (hnone' i value)
  · exact absurd hi' (hnone i' value')
  · rw [hdefault, hdefault']

/-- **A text comes to one thing.** -/
theorem Reads.unique {r r' : Except ConfigError LinkerConfig} (h : Reads ls r) (h' : Reads ls r') :
    r = r' := by
  cases r with
  | ok c =>
      cases r' with
      | ok c' => rw [h.2.unique h'.2]
      | error e' =>
          obtain ⟨i, hi, -⟩ := h'
          exact absurd ⟨e', hi⟩ (h.1 i)
  | error e =>
      obtain ⟨i, hi, hfirst⟩ := h
      cases r' with
      | ok c' => exact absurd ⟨e, hi⟩ (h'.1 i)
      | error e' =>
          obtain ⟨i', hi', hfirst'⟩ := h'
          obtain hlt | rfl | hlt := Nat.lt_trichotomy i i'
          · exact absurd ⟨e, hi⟩ (hfirst' i hlt)
          · rw [hi.unique hi']
          · exact absurd ⟨e', hi'⟩ (hfirst i' hlt)

/-! ### One more line -/

/-- What is wrong with a line stays wrong, whatever comes after it. -/
theorem Reads.append_error (h : Reads ls (.error e)) (l : List Char) :
    Reads (ls ++ [l]) (.error e) := by
  obtain ⟨i, hi, hfirst⟩ := h
  refine ⟨i, hi.append l, fun j hj hbad => hfirst j hj ?_⟩
  obtain ⟨e', he'⟩ := hbad
  exact ⟨e', he'.of_append (hj.trans hi.lt)⟩

/-- Behind good lines, a bad line is the first one. -/
theorem Reads.append_report (h : Reads ls (.ok c)) (hl : Reports (ls ++ [l]) ls.length e) :
    Reads (ls ++ [l]) (.error e) := by
  refine ⟨ls.length, hl, fun j hj hbad => h.1 j ?_⟩
  obtain ⟨e', he'⟩ := hbad
  exact ⟨e', he'.of_append hj⟩

/-- Behind good lines, a line that is not bad leaves all lines good. -/
theorem not_isBad_append (h : ∀ i, ¬ IsBad ls i) (hl : ¬ IsBad (ls ++ [l]) ls.length) (i : Nat) :
    ¬ IsBad (ls ++ [l]) i := by
  rintro ⟨e, he⟩
  obtain hi | rfl | hi := Nat.lt_trichotomy i ls.length
  · exact h i ⟨e, he.of_append hi⟩
  · exact hl ⟨e, he⟩
  · have := he.lt
    simp only [List.length_append, List.length_singleton] at this
    omega

/-- A line that assigns to no known key of its section changes nothing. -/
theorem Reads.append_idle (h : Reads ls (.ok c))
    (hl : lineContent l = [] ∨ IsHeader (lineContent l) ∨ '=' ∈ lineContent l)
    (hnone : ∀ k value, ¬ Assigns (ls ++ [l]) ls.length k value) :
    Reads (ls ++ [l]) (.ok c) := by
  have hgood : ¬ IsBad (ls ++ [l]) ls.length := by
    rintro ⟨e, he⟩
    cases he with
    | malformed hm hne hheader hequals =>
        obtain ⟨-, rfl⟩ := lineAt_last_iff.mp hm
        rcases hl with hl | hl | hl
        · exact hne hl
        · exact hheader hl
        · exact hequals hl
    | invalidValue hassign => exact hnone _ _ hassign
  have hsame (i : Nat) (k : SettingKey) (value : String) :
      Assigns (ls ++ [l]) i k value ↔ Assigns ls i k value := by
    constructor
    · intro hi
      refine (assigns_append_iff.mp hi).resolve_right fun hlast => hnone k value ?_
      rwa [hlast.1] at hi
    · exact fun hi => assigns_append_iff.mpr (.inl hi)
  refine ⟨not_isBad_append h.1 hgood, fun k => ?_⟩
  simpa only [hsame] using h.2 k

/-- An assignment to a known key takes the place of earlier ones. -/
theorem Reads.append_setting (h : Reads ls (.ok c))
    (hl : Assigns (ls ++ [l]) ls.length v.key value) (hv : v.Written value) :
    Reads (ls ++ [l]) (.ok (c.set v)) := by
  have hgood : ¬ IsBad (ls ++ [l]) ls.length := by
    rintro ⟨e, he⟩
    cases he with
    | malformed hm hne hheader hequals =>
        obtain ⟨m', hm', hassign⟩ := hl
        obtain ⟨-, rfl⟩ := hm.unique hm'
        exact hequals hassign.mem
    | invalidValue hassign hinvalid =>
        obtain ⟨hkey, rfl⟩ := hl.unique hassign
        exact hinvalid v hkey hv
  have hother {k : SettingKey} (hk : v.key ≠ k) (i : Nat) (w : String) :
      Assigns (ls ++ [l]) i k w ↔ Assigns ls i k w := by
    constructor
    · intro hi
      refine (assigns_append_iff.mp hi).resolve_right fun hlast => hk ?_
      rw [hlast.1] at hi
      exact (hl.unique hi).1
    · exact fun hi => assigns_append_iff.mpr (.inl hi)
  refine ⟨not_isBad_append h.1 hgood, fun k => ?_⟩
  by_cases hk : v.key = k
  · subst hk
    refine .inl ⟨ls.length, value, hl, fun j hj w hw => ?_, ?_⟩
    · have := hw.lt
      simp only [List.length_append, List.length_singleton] at this
      omega
    · rwa [LinkerConfig.get_set, if_pos rfl]
  · simpa only [hother hk, LinkerConfig.get_set, if_neg hk] using h.2 k

end

end Config

/-! ### The reader -/

/-- Lines are read after the lines before them, in the section to which these lead. -/
theorem readLines_append (ls : List (List Char)) (rest : List ConfigLine) (n : Nat) (s : String)
    (c : LinkerConfig) :
    LinkerConfig.readLines (ls.map ConfigLine.read ++ rest) n s c =
      (LinkerConfig.readLines (ls.map ConfigLine.read) n s c).bind fun c' =>
        LinkerConfig.readLines rest (n + ls.length) (sectionAfter s ls) c' := by
  induction ls generalizing n s c with
  | nil => rfl
  | cons l ls ih =>
      have hnumber (n : Nat) : n + (l :: ls).length = n + 1 + ls.length := by
        rw [List.length_cons]
        omega
      rw [List.map_cons, List.cons_append, hnumber, sectionAfter_cons]
      have hsays := lineSays_read l
      generalize ConfigLine.read l = line at hsays ⊢
      cases hsays with
      | blank h =>
          rw [h, if_neg not_isHeader_nil]
          exact ih (n + 1) s c
      | header h =>
          rw [if_pos h]
          exact ih (n + 1) _ c
      | @assignment key value h =>
          rw [if_neg h.1]
          simp only [LinkerConfig.readLines]
          cases Setting.read? s key value with
          | none => exact ih (n + 1) s c
          | some v? =>
              cases v? with
              | none => rfl
              | some v => exact ih (n + 1) s (c.set v)
      | malformed => rfl

/-- **The reader finds the settings or the first bad line.** -/
theorem reads_readLines (ls : List (List Char)) :
    Config.Reads ls (LinkerConfig.readLines (ls.map ConfigLine.read) 1 "" {}) := by
  -- induction on the text from its end, so that every line decides after those before it
  induction ls using List.reverseRecOn with
  | nil =>
      refine ⟨?_, fun k => .inr ⟨?_, rfl⟩⟩
      · rintro i ⟨e, he⟩
        exact Nat.not_lt_zero i he.lt
      · intro i value h
        exact Nat.not_lt_zero i h.lt
  | append_singleton ls l ih =>
      rw [List.map_append, readLines_append]
      generalize LinkerConfig.readLines (ls.map ConfigLine.read) 1 "" {} = r at ih ⊢
      cases r with
      | error e => exact ih.append_error l
      | ok c =>
          rw [Except.bind, List.map_singleton]
          have hsays := lineSays_read l
          generalize ConfigLine.read l = line at hsays ⊢
          cases hsays with
          | blank h =>
              exact ih.append_idle (.inl h) fun k value hk =>
                (Config.assigns_last_iff.mp hk).2.ne_nil h
          | header h =>
              exact ih.append_idle (.inr (.inl h)) fun k value hk =>
                (Config.assigns_last_iff.mp hk).2.1 h
          | @assignment key value h =>
              by_cases hknown : ∃ k : SettingKey, k.section_ = sectionAfter "" ls ∧ k.name = key
              · obtain ⟨k, hsection, rfl⟩ := hknown
                have hlast := Config.assigns_last_iff.mpr ⟨hsection.symm, h⟩
                obtain ⟨v?, hread, hwritten⟩ := Setting.exists_read? k value
                rw [LinkerConfig.readLines, ← hsection, hread]
                cases v? with
                | some v =>
                    obtain ⟨rfl, hv⟩ := (hwritten v).mp rfl
                    exact ih.append_setting hlast hv
                | none =>
                    refine ih.append_report ?_
                    rw [Nat.add_comm]
                    exact .invalidValue hlast fun v hkey hv => nomatch (hwritten v).mpr ⟨hkey, hv⟩
              · rw [LinkerConfig.readLines,
                  Setting.read?_eq_none_iff.mpr fun k hk => hknown ⟨k, hk⟩]
                refine ih.append_idle (.inr (.inr h.mem)) fun k value' hk => hknown ⟨k, ?_⟩
                obtain ⟨hsection, hassign⟩ := Config.assigns_last_iff.mp hk
                exact ⟨hsection.symm, (hassign.unique h).1⟩
          | malformed hne hheader hequals =>
              refine ih.append_report ?_
              rw [Nat.add_comm]
              exact .malformed (Config.lineAt_last_iff.mpr ⟨rfl, rfl⟩) hne hheader hequals

/-! ### Idle lines -/

/-- The line says nothing in a section: it is blank but for a comment, or it assigns to a key that
the section does not have. -/
inductive IsIdle (section_ : String) (m : List Char) : Prop where
  | blank (h : m = [])
  | unknown {key value : String} (h : IsAssignment m key value)
      (hkey : ∀ k : SettingKey, ¬ (k.section_ = section_ ∧ k.name = key))

/-- The number of the line that an error reports. -/
def ConfigError.line : ConfigError → Nat
  | .invalidValue n _ _ | .malformed n _ => n

/-- The error with another number of the line. -/
def ConfigError.withLine (n : Nat) : ConfigError → ConfigError
  | .invalidValue _ key value => .invalidValue n key value
  | .malformed _ content => .malformed n content

/-- The error of a text into which `k` lines have been inserted behind the first `n`, if these lines
say nothing: the lines behind them have greater numbers, and all else is the same. -/
def ConfigError.afterInsertion (n k : Nat) (e : ConfigError) : ConfigError :=
  e.withLine (if e.line ≤ n then e.line else e.line + k)

theorem ConfigError.withLine_line (e : ConfigError) : e.withLine e.line = e := by
  cases e <;> rfl

section

variable {ls before after inserted : List (List Char)} {n : Nat} {s : String} {c : LinkerConfig}
  {e : ConfigError}

/-- **Idle lines are passed over**, and do not lead to another section. -/
theorem readLines_idle (h : ∀ l ∈ inserted, IsIdle s (lineContent l)) :
    LinkerConfig.readLines (inserted.map ConfigLine.read) n s c = .ok c ∧
      sectionAfter s inserted = s := by
  induction inserted generalizing n with
  | nil => exact ⟨rfl, rfl⟩
  | cons l ls ih =>
      rw [sectionAfter_cons, List.map_cons]
      have hrest := ih (n := n + 1) fun l' hl' => h l' (List.mem_cons_of_mem l hl')
      have hsays := lineSays_read l
      generalize ConfigLine.read l = line at hsays ⊢
      cases h l List.mem_cons_self with
      | blank hblank =>
          rw [hblank, if_neg not_isHeader_nil]
          cases hsays with
          | blank => exact hrest
          | header hheader => exact absurd (hblank ▸ hheader) not_isHeader_nil
          | assignment hassign => exact absurd hblank hassign.ne_nil
          | malformed hne => exact absurd hblank hne
      | unknown hassign hkey =>
          rw [if_neg hassign.1]
          cases hsays with
          | blank hblank => exact absurd hblank hassign.ne_nil
          | header hheader => exact absurd hheader hassign.1
          | assignment hassign' =>
              obtain ⟨rfl, rfl⟩ := hassign.unique hassign'
              rw [LinkerConfig.readLines, Setting.read?_eq_none_iff.mpr hkey]
              exact hrest
          | malformed _ _ hequals => exact absurd hassign.mem hequals

/-- Lines are read in the same way whatever number the first one has, but for the numbers in
errors. -/
theorem readLines_shift (ls : List ConfigLine) (n k : Nat) (s : String) (c : LinkerConfig) :
    LinkerConfig.readLines ls (n + k) s c =
      (LinkerConfig.readLines ls n s c).mapError fun e => e.withLine (e.line + k) := by
  induction ls generalizing n s c with
  | nil => rfl
  | cons line ls ih =>
      have hnext : n + k + 1 = n + 1 + k := by omega
      cases line with
      | blank =>
          simp only [LinkerConfig.readLines, hnext]
          exact ih (n + 1) s c
      | header s' =>
          simp only [LinkerConfig.readLines, hnext]
          exact ih (n + 1) s' c
      | malformed content => rfl
      | assignment key value =>
          simp only [LinkerConfig.readLines, hnext]
          cases Setting.read? s key value with
          | none => exact ih (n + 1) s c
          | some v? =>
              cases v? with
              | none => rfl
              | some v => exact ih (n + 1) s (c.set v)

/-- An error reports one of the lines that were read. -/
theorem line_of_readLines {ls : List ConfigLine} (h : LinkerConfig.readLines ls n s c = .error e) :
    n ≤ e.line ∧ e.line < n + ls.length := by
  induction ls generalizing n s c with
  | nil => cases h
  | cons line ls ih =>
      have hnext {s : String} {c : LinkerConfig}
          (h : LinkerConfig.readLines ls (n + 1) s c = .error e) :
          n ≤ e.line ∧ e.line < n + (line :: ls).length := by
        have := ih h
        rw [List.length_cons]
        omega
      have hhere : n ≤ n ∧ n < n + (line :: ls).length := by
        rw [List.length_cons]
        omega
      cases line with
      | blank => exact hnext h
      | header s' => exact hnext h
      | malformed content =>
          cases h
          exact hhere
      | assignment key value =>
          simp only [LinkerConfig.readLines] at h
          split at h
          · exact hnext h
          · exact hnext h
          · cases h
            exact hhere

/-- **Idle lines only count in the numbers of later lines.** -/
theorem readLines_inserted
    (hidle : ∀ l ∈ inserted, IsIdle (sectionAfter "" before) (lineContent l)) :
    LinkerConfig.readLines ((before ++ inserted ++ after).map ConfigLine.read) 1 "" {} =
      (LinkerConfig.readLines ((before ++ after).map ConfigLine.read) 1 "" {}).mapError
        (ConfigError.afterInsertion before.length inserted.length) := by
  rw [List.append_assoc, List.map_append, List.map_append, List.map_append, readLines_append,
    readLines_append]
  cases hbefore : LinkerConfig.readLines (before.map ConfigLine.read) 1 "" {} with
  | error e =>
      -- an error before the inserted lines keeps its number
      obtain ⟨-, hline⟩ := line_of_readLines hbefore
      rw [List.length_map] at hline
      rw [Except.bind, Except.bind, Except.mapError, ConfigError.afterInsertion,
        if_pos (by omega), ConfigError.withLine_line]
  | ok c =>
      obtain ⟨hread, hsection⟩ := readLines_idle (n := 1 + before.length) (c := c) hidle
      rw [Except.bind, Except.bind, readLines_append, hread, hsection, Except.bind, readLines_shift]
      cases hafter : LinkerConfig.readLines (after.map ConfigLine.read) (1 + before.length)
          (sectionAfter "" before) c with
      | ok c' => rfl
      | error e =>
          obtain ⟨hline, -⟩ := line_of_readLines hafter
          rw [Except.mapError, Except.mapError, ConfigError.afterInsertion, if_neg (by omega)]

end

namespace LinkerConfig

/-- The settings of a text, or what is wrong with its first bad line. -/
theorem parse_eq_iff {text : String} {r : Except ConfigError LinkerConfig} :
    parse text = r ↔ Config.Reads (linesOf text.toList) r :=
  ⟨fun h => h ▸ reads_readLines _, fun h => (reads_readLines _).unique h⟩

/-- The threshold is positive, by default and as it is written. -/
theorem threshold_of_holds {ls : List (List Char)} {c : LinkerConfig} (h : Config.Holds ls c) :
    1 ≤ c.threshold := by
  rcases h .threshold with ⟨i, value, -, -, hpos, -⟩ | ⟨-, hdefault⟩
  · exact hpos
  · rw [Setting.threshold.inj hdefault]
    decide

/-- **What the settings of a text are.**  A text has settings exactly if every line that has
something before its comment is a header or has an equals sign, and no assignment to a known key of
its section has a value that the key does not take.  Every setting is then what the last assignment
to its key says, or the default, and the threshold is at least one.  Otherwise the error is that of
the first bad line, with its number.  Lines that are blank but for comments, or that assign to keys
which their section does not have, may be inserted anywhere: nothing changes but the number of the
line in the error. -/
theorem parse_exact (text : String) :
    (∀ c, parse text = .ok c ↔
      (∀ i, ¬ Config.IsBad (linesOf text.toList) i) ∧ Config.Holds (linesOf text.toList) c) ∧
    (∀ c, parse text = .ok c → 1 ≤ c.threshold) ∧
    (∀ e, parse text = .error e ↔
      ∃ i, Config.Reports (linesOf text.toList) i e ∧
        ∀ j < i, ¬ Config.IsBad (linesOf text.toList) j) ∧
    ∀ (text' : String) (before inserted after : List (List Char)),
      linesOf text.toList = before ++ after →
      linesOf text'.toList = before ++ inserted ++ after →
      (∀ l ∈ inserted, IsIdle (sectionAfter "" before) (lineContent l)) →
        parse text' =
          (parse text).mapError (ConfigError.afterInsertion before.length inserted.length) := by
  refine ⟨fun c => parse_eq_iff, fun c h => threshold_of_holds (parse_eq_iff.mp h).2,
    fun e => parse_eq_iff, fun text' before inserted after h h' hidle => ?_⟩
  unfold parse
  rw [h, h']
  exact readLines_inserted hidle

/-- A comment only counts in the number of the line of a bad value. -/
example : parse "[linker]\n# no value\nsync_on_relink = maybe" =
    .error (.invalidValue 3 "sync_on_relink" "maybe") := by
  rfl

end LinkerConfig

end DynamicLinking
