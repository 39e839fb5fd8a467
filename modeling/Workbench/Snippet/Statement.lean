import Workbench.Snippet.Expr

/-!
# Statements of the snippet language

A source is a list of statements separated by newlines or semicolons. Blank statements and those
that start with `#` are left out. Every text is some statement: what fits no other form is an
expression.
-/

namespace Workbench.Snippet

/-- One statement, with its expressions still as text. -/
inductive Statement where
  /-- Appends a value and a newline to the output. -/
  | print (expr : List Char)
  /-- Ends the run as failed. -/
  | fail (message : String)
  /-- Waits some milliseconds. -/
  | sleep (millis : Nat)
  /-- Waits until the run is stopped. -/
  | spin
  /-- Binds a name to a value. -/
  | assign (name : String) (expr : List Char)
  /-- Evaluates an expression. -/
  | expr (expr : List Char)
  deriving DecidableEq, Repr

namespace Statement

/-- A `fail` statement: the word, and a message behind a space. -/
def fail? (s : List Char) : Option Statement :=
  match Text.afterPrefix? "fail".toList s with
  | none => none
  | some rest =>
    if rest = [] ∨ rest.head? = some ' ' then
      some (.fail (if Text.trim rest = [] then "failed" else String.ofList (Text.trim rest)))
    else none

/-- A `sleep` statement: the word and a count of 64 bits. -/
def sleep? (s : List Char) : Option Statement :=
  match Text.afterPrefix? "sleep ".toList s with
  | none => none
  | some rest => (Text.natural? Text.bound64 (Text.trim rest)).map .sleep

/-- An assignment: a name before the first equals sign. -/
def assign? (s : List Char) : Option Statement :=
  match Text.splitFirst? (· = '=') s with
  | none => none
  | some (name, value) =>
    if isName (Text.trim name) then
      some (.assign (String.ofList (Text.trim name)) (Text.trim value))
    else none

/-- The statement that a trimmed text stands for. The forms are tried in order, so a malformed
`sleep` may still be an assignment or an expression. -/
def ofText (s : List Char) : Statement :=
  if s = "spin".toList then .spin
  else
    match Text.afterPrefix? "print ".toList s with
    | some rest => .print (Text.trim rest)
    | none => (fail? s <|> sleep? s <|> assign? s).getD (.expr s)

end Statement

/-- Whether a character ends a statement. -/
def isSeparator (c : Char) : Bool :=
  c = '\n' || c = ';'

/-- The texts of the statements of a source. -/
def statementTexts (source : List Char) : List (List Char) :=
  ((Text.pieces isSeparator source).map Text.trim).filter fun s => s ≠ [] ∧ s.head? ≠ some '#'

/-- The statements of a source. -/
def statements (source : String) : List Statement :=
  (statementTexts source.toList).map Statement.ofText

end Workbench.Snippet
