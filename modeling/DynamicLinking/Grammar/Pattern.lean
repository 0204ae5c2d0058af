/-
Patterns in the style of parsing expression grammars: a choice is settled by its first alternative
that matches, a repetition takes as much as it can, and nothing is tried twice.  A match yields the
tree of the rules that took part in it; a failure is reported at the furthest place at which a rule
was tried in vain.

A rule can be *sealed*: it is one unit of the text, so the rules inside it leave no nodes and their
failures are not places of their own.

Main definitions:

* `Pattern` — the patterns, over the names `ρ` of the rules;
* `Node` — a node of the tree: a rule and the piece of text that it matched;
* `Pattern.run` — matching at a place of the text; `Pattern.result_seq` and the like tell what
  comes of it, the furthest place apart;
* `Pattern.parse` — matching a whole text.
-/

set_option autoImplicit false

namespace DynamicLinking.Grammar

/-- A pattern over rules named by `ρ`. -/
inductive Pattern (ρ : Type) where
  /-- The given characters. -/
  | word (cs : List Char)
  /-- One character of a class. -/
  | char (p : Char → Bool)
  | seq (a b : Pattern ρ)
  /-- The first pattern, or else the second. -/
  | choice (a b : Pattern ρ)
  /-- The pattern if it matches, or else nothing. -/
  | optional (a : Pattern ρ)
  /-- The pattern as many times as it matches. -/
  | many (a : Pattern ρ)
  /-- The end of the text, as a rule. -/
  | atEnd (name : ρ)
  /-- A rule, sealed or not. -/
  | rule (name : ρ) (isSealed : Bool) (body : Pattern ρ)

/-- A rule that took part in a match, the number of characters before its text, the text, and the
rules inside it. -/
inductive Node (ρ : Type) where
  | mk (rule : ρ) (start : Nat) (text : List Char) (children : List (Node ρ))

namespace Node

variable {ρ : Type}

/-- The rule of a node. -/
def rule : Node ρ → ρ
  | .mk r _ _ _ => r

/-- The number of characters before the text of a node. -/
def start : Node ρ → Nat
  | .mk _ s _ _ => s

/-- The text that a node matched. -/
def text : Node ρ → List Char
  | .mk _ _ t _ => t

/-- The nodes inside a node, in order. -/
def children : Node ρ → List (Node ρ)
  | .mk _ _ _ cs => cs

/-- The first child of a rule. -/
def child? [DecidableEq ρ] (n : Node ρ) (r : ρ) : Option (Node ρ) :=
  n.children.find? fun c => c.rule = r

end Node

/-- A place in a text: the number of characters before it, and those after it. -/
structure Cursor where
  /-- The number of characters before the place. -/
  index : Nat
  /-- The characters from the place on. -/
  rest : List Char

/-- The place after the next `n` characters. -/
def Cursor.advance (s : Cursor) (n : Nat) : Cursor :=
  ⟨s.index + n, s.rest.drop n⟩

/-- The outcome of an attempt: where a rule failed furthest, and the place and the nodes that a
match leads to. -/
structure Reply (ρ : Type) where
  /-- The number of characters before the furthest place at which a rule failed. -/
  furthest : Nat
  /-- The place behind the match and the nodes of the match. -/
  result : Option (Cursor × List (Node ρ))

namespace Reply

variable {ρ : Type}

/-- A match. -/
def matched (s : Cursor) (ns : List (Node ρ)) : Reply ρ :=
  ⟨0, some (s, ns)⟩

/-- A failure that is no place of its own. -/
def failed : Reply ρ :=
  ⟨0, none⟩

/-- The reply with another furthest place taken into account. -/
def noting (r : Reply ρ) (place : Nat) : Reply ρ :=
  { r with furthest := max r.furthest place }

/-- The reply with nodes put before its own. -/
def after (r : Reply ρ) (ns : List (Node ρ)) : Reply ρ :=
  { r with result := r.result.map fun m => (m.1, ns ++ m.2) }

end Reply

namespace Pattern

variable {ρ : Type}

/-- Repeats an attempt until it fails or takes no character, at most `n` times. -/
def iterate (attempt : Cursor → Reply ρ) : Nat → Cursor → Reply ρ
  | 0, s => Reply.matched s []
  | n + 1, s =>
      let r := attempt s
      match r.result with
      | none => (Reply.matched s []).noting r.furthest
      | some (s', ns) =>
          if s'.index = s.index then (Reply.matched s []).noting r.furthest
          else ((iterate attempt n s').noting r.furthest).after ns

/-- Matches a pattern at a place, inside a sealed rule or not. -/
def run : Pattern ρ → Bool → Cursor → Reply ρ
  | .word cs, _, s =>
      if cs.isPrefixOf s.rest then Reply.matched (s.advance cs.length) [] else Reply.failed
  | .char p, _, s =>
      match s.rest with
      | c :: _ => if p c then Reply.matched (s.advance 1) [] else Reply.failed
      | [] => Reply.failed
  | .seq a b, isSealed, s =>
      let r := run a isSealed s
      match r.result with
      | none => r
      | some (s', ns) => ((run b isSealed s').noting r.furthest).after ns
  | .choice a b, isSealed, s =>
      let r := run a isSealed s
      match r.result with
      | some _ => r
      | none => (run b isSealed s).noting r.furthest
  | .optional a, isSealed, s =>
      let r := run a isSealed s
      match r.result with
      | some _ => r
      | none => (Reply.matched s []).noting r.furthest
  | .many a, isSealed, s => iterate (run a isSealed) (s.rest.length + 1) s
  | .atEnd name, isSealed, s =>
      if s.rest.isEmpty then
        Reply.matched s (if isSealed then [] else [Node.mk name s.index [] []])
      else Reply.failed.noting (if isSealed then 0 else s.index)
  | .rule name seals body, isSealed, s =>
      let r := run body (isSealed || seals) s
      match r.result with
      | none => r.noting (if isSealed then 0 else s.index)
      | some (s', ns) =>
          if isSealed then r
          else
            { r with
              result := some (s', [Node.mk name s.index (s.rest.take (s'.index - s.index)) ns]) }

/-! The furthest place has no part in what is matched. -/

section Results

variable {a b : Pattern ρ} {isSealed : Bool} (s : Cursor)

theorem result_word (w : List Char) : ((word w).run isSealed s).result =
    if w <+: s.rest then some (s.advance w.length, ([] : List (Node ρ))) else none := by
  by_cases h : w <+: s.rest <;> simp [run, h, Reply.matched, Reply.failed]

theorem result_char (f : Char → Bool) : ((char f).run isSealed s).result =
    (s.rest.head?.filter f).map fun _ => (s.advance 1, ([] : List (Node ρ))) := by
  obtain ⟨i, cs⟩ := s
  cases cs with
  | nil => rfl
  | cons c cs =>
      cases hc : f c <;> simp [run, hc, Option.filter_some, Reply.matched, Reply.failed]

theorem result_seq : ((seq a b).run isSealed s).result =
    (a.run isSealed s).result.bind fun m =>
      (b.run isSealed m.1).result.map fun m' => (m'.1, m.2 ++ m'.2) := by
  cases h : (a.run isSealed s).result <;> simp [run, h, Reply.after, Reply.noting]

theorem result_choice : ((choice a b).run isSealed s).result =
    (a.run isSealed s).result.or (b.run isSealed s).result := by
  cases h : (a.run isSealed s).result <;> simp [run, h, Reply.noting]

theorem result_optional : ((optional a).run isSealed s).result =
    (a.run isSealed s).result.or (some (s, [])) := by
  cases h : (a.run isSealed s).result <;> simp [run, h, Reply.matched, Reply.noting]

theorem result_atEnd (name : ρ) : ((atEnd name).run isSealed s).result =
    if s.rest = [] then some (s, if isSealed then [] else [Node.mk name s.index [] []])
    else none := by
  obtain ⟨i, cs⟩ := s
  cases cs <;> rfl

theorem result_rule (name : ρ) (seals : Bool) : ((rule name seals a).run isSealed s).result =
    (a.run (isSealed || seals) s).result.map fun m =>
      (m.1, if isSealed then m.2
        else [Node.mk name s.index (s.rest.take (m.1.index - s.index)) m.2]) := by
  rw [run]
  cases h : (a.run (isSealed || seals) s).result with
  | none => simp [h, Reply.noting]
  | some m =>
      cases isSealed with
      | false => simp
      | true => exact h

end Results

/-- Matches a pattern at the start of a text: the nodes of the match, or the furthest place at
which a rule failed. -/
def parse (p : Pattern ρ) (cs : List Char) : Except Nat (List (Node ρ)) :=
  let r := run p false ⟨0, cs⟩
  match r.result with
  | some (_, ns) => .ok ns
  | none => .error r.furthest

/-- Several patterns one after another. -/
def sequence (ps : List (Pattern ρ)) : Pattern ρ :=
  match ps with
  | [] => .word []
  | [p] => p
  | p :: q :: r => .seq p (sequence (q :: r))

/-- The first of several patterns that matches. -/
def oneOf (p : Pattern ρ) (ps : List (Pattern ρ)) : Pattern ρ :=
  match ps with
  | [] => p
  | q :: r => .choice p (oneOf q r)

/-- A pattern at least once. -/
def repeated (p : Pattern ρ) : Pattern ρ :=
  .seq p (.many p)

end Pattern

end DynamicLinking.Grammar
