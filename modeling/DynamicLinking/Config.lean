/-
The settings of a chain and of its call sites are written as lines `key = value` under the headers
of two sections.  A hash starts a comment, blanks at the ends of a line do not count, values may be
quoted, and unknown keys are passed over.

Main definitions:

* `LinkerConfig` — the settings, with their defaults;
* `ConfigLine`, `ConfigLine.read` — what one line says;
* `Setting`, `Setting.read?` — what a known key says;
* `LinkerConfig.parse` — the settings of a text, or the first line that is wrong.
-/

import DynamicLinking.Number.Numeral
import DynamicLinking.Text.Blank

set_option autoImplicit false

namespace DynamicLinking

/-- The settings of a chain and of its call sites. -/
structure LinkerConfig where
  /-- The number of relinks after which a call site stops caching. -/
  threshold : Nat := 8
  /-- Do call sites relink one call at a time? -/
  syncOnRelink : Bool := true
  /-- Do all call sites count their hits and misses? -/
  profilesSites : Bool := false
  /-- Are all call sites traced? -/
  tracesSites : Bool := false
  /-- May scripts reach restricted host classes? -/
  allowsReflection : Bool := true
  deriving DecidableEq, Repr

/-- What is wrong with a configuration text, with the number of the line. -/
inductive ConfigError where
  /-- The value of a known key is none that the key takes. -/
  | invalidValue (line : Nat) (key value : String)
  /-- A line is neither a header nor an assignment. -/
  | malformed (line : Nat) (content : String)
  deriving DecidableEq, Repr

/-- The report of an error. -/
def ConfigError.message : ConfigError → String
  | .invalidValue line key value =>
      "Invalid value for " ++ key ++ " on line " ++ toString line ++ ": " ++ value
  | .malformed line content => "Malformed line " ++ toString line ++ ": " ++ content

/-! ### Lines -/

/-- What one line says. -/
inductive ConfigLine where
  /-- Nothing. -/
  | blank
  /-- The header of a section. -/
  | header (name : String)
  /-- An assignment. -/
  | assignment (key value : String)
  /-- Something else. -/
  | malformed (content : String)
  deriving DecidableEq, Repr

/-- What the characters of a line say, the comment and the blanks at both ends being cut off. -/
def ConfigLine.ofTrimmed (cs : List Char) : ConfigLine :=
  if cs = [] then .blank
  else if cs.head? = some '[' ∧ cs.getLast? = some ']' then
    .header (String.ofList (Text.trimList cs.tail.dropLast))
  else if cs.contains '=' then
    let key := cs.takeWhile (· != '=')
    let value := (cs.dropWhile (· != '=')).tail
    .assignment (String.ofList (Text.trimList key))
      (String.ofList (Text.stripList (· == '"') (Text.trimList value)))
  else .malformed (String.ofList cs)

/-- What the characters of a line say. -/
def ConfigLine.read (cs : List Char) : ConfigLine :=
  .ofTrimmed (Text.trimList (cs.takeWhile (· != '#')))

/-- The lines of a text, without the characters that end them. -/
def linesOf : List Char → List (List Char)
  | [] => [[]]
  | c :: r =>
      if c = '\n' then [] :: linesOf r
      else
        match linesOf r with
        | l :: ls => (c :: l) :: ls
        | [] => [[c]]

/-! ### Settings -/

/-- A setting with a new value. -/
inductive Setting where
  | threshold (n : Nat)
  | syncOnRelink (b : Bool)
  | profilesSites (b : Bool)
  | tracesSites (b : Bool)
  | allowsReflection (b : Bool)
  deriving DecidableEq, Repr

/-- A switch, written as `true` or `false`. -/
def readSwitch? : String → Option Bool
  | "true" => some true
  | "false" => some false
  | _ => none

/-- A threshold: a positive integer of 64 bits. -/
def readThreshold? (value : String) : Option Nat :=
  match Numeral.unsigned 64 value.toList with
  | .ok n => if 0 < n then some n else none
  | .error _ => none

/-- What an assignment in a section says: nothing if the key is unknown, and otherwise a setting, or
`none` within if the key does not take the value. -/
def Setting.read? (section_ key value : String) : Option (Option Setting) :=
  match section_, key with
  | "linker", "unstable_relink_threshold" => some ((readThreshold? value).map .threshold)
  | "linker", "sync_on_relink" => some ((readSwitch? value).map .syncOnRelink)
  | "linker", "profile_callsites" => some ((readSwitch? value).map .profilesSites)
  | "linker", "trace_callsites" => some ((readSwitch? value).map .tracesSites)
  | "reflection", "allow" => some ((readSwitch? value).map .allowsReflection)
  | _, _ => none

/-- The settings with one of them replaced. -/
def LinkerConfig.set (c : LinkerConfig) : Setting → LinkerConfig
  | .threshold n => { c with threshold := n }
  | .syncOnRelink b => { c with syncOnRelink := b }
  | .profilesSites b => { c with profilesSites := b }
  | .tracesSites b => { c with tracesSites := b }
  | .allowsReflection b => { c with allowsReflection := b }

/-! ### Texts -/

/-- Reads lines from the given number on, in a section and over the settings made so far. -/
def LinkerConfig.readLines :
    List ConfigLine → (number : Nat) → (section_ : String) → LinkerConfig →
      Except ConfigError LinkerConfig
  | [], _, _, c => .ok c
  | .blank :: ls, n, s, c => readLines ls (n + 1) s c
  | .header s :: ls, n, _, c => readLines ls (n + 1) s c
  | .malformed content :: _, n, _, _ => .error (.malformed n content)
  | .assignment key value :: ls, n, s, c =>
      match Setting.read? s key value with
      | none => readLines ls (n + 1) s c
      | some (some v) => readLines ls (n + 1) s (c.set v)
      | some none => .error (.invalidValue n key value)

/-- The settings of a text: for each the last assignment in its section, or its default. -/
def LinkerConfig.parse (text : String) : Except ConfigError LinkerConfig :=
  LinkerConfig.readLines ((linesOf text.toList).map ConfigLine.read) 1 "" {}

end DynamicLinking
