/-
What a function, a host method, a foreign object or a contributed linker runs is a list of
statements.  They refer to values, classes and call sites by name and are resolved when they run.

* `Expr` — what a statement computes with;
* `Statement`, `Body` — what is run; a body that answers nothing answers `undefined`.
-/

import DynamicLinking.Primitive
import DynamicLinking.ScriptError

set_option autoImplicit false

namespace DynamicLinking

/-- An expression of a body. -/
inductive Expr where
  | literal (p : Primitive)
  /-- The value stored under a name. -/
  | named (name : String)
  /-- An argument, `undefined` if absent. -/
  | argument (i : Nat)
  | receiver
  | argumentCount
  /-- A field or property of the receiver. -/
  | field (key : String)
  deriving DecidableEq, Repr

/-- A statement of a body. -/
inductive Statement where
  /-- Answers the receiver and the arguments as a text. -/
  | display
  /-- Answers the arguments as a text that tells their kinds. -/
  | inspect
  | answer (value : Expr)
  | raise (kind : ErrorKind) (text : String)
  /-- Writes a property or a field of an object and goes on. -/
  | assign (target : Expr) (key : String) (value : Expr)
  /-- Answers what a callable gives. -/
  | call (callee self : Expr) (args : List Expr)
  /-- Answers what a named call site gives. -/
  | invoke (site : String) (args : List Expr)
  /-- Answers a new object of a named host class. -/
  | instantiate (className : String) (fields : List (String × Expr))
  deriving DecidableEq, Repr

/-- The statements that user code runs, in order. -/
abbrev Body := List Statement

end DynamicLinking
