import Workbench.Regex.Basic
import Workbench.Shell.Effect

/-!
# Programs on records

A program on records is a program for `awk`. It has rules. A rule has a pattern and an action, and
the action is done for each record that the pattern holds for. A record has fields, and a program
has variables, which hold numbers or texts, and arrays of them with texts as keys.
-/

namespace Workbench.Shell.Records

/-- What can be done with two numbers. -/
inductive Arithmetic where
  | add
  | subtract
  | multiply
  | divide
  | remainder
  | power
  deriving DecidableEq, Repr

/-- How two values can be compared. -/
inductive Relation where
  | less
  | atMost
  | same
  | different
  | atLeast
  | greater
  deriving DecidableEq, Repr

/-- The functions that every program knows. -/
inductive Known where
  | length
  | substring
  | index
  | split
  | locate
  | replaceFirst
  | replaceAll
  | format
  | sine
  | cosine
  | arctangent
  | exponential
  | logarithm
  | root
  | whole
  | random
  | seed
  | lower
  | upper
  | obey
  | close
  | flush
  deriving DecidableEq, Repr

namespace Known

/-- The functions by their names, with the least and the greatest number of their arguments. -/
def all : List (String × Known × Nat × Nat) :=
  [("length", length, 0, 1), ("substr", substring, 2, 3), ("index", index, 2, 2),
    ("split", split, 2, 3), ("match", locate, 2, 2), ("sub", replaceFirst, 2, 3),
    ("gsub", replaceAll, 2, 3), ("sprintf", format, 1, 255), ("sin", sine, 1, 1),
    ("cos", cosine, 1, 1), ("atan2", arctangent, 2, 2), ("exp", exponential, 1, 1),
    ("log", logarithm, 1, 1), ("sqrt", root, 1, 1), ("int", whole, 1, 1), ("rand", random, 0, 0),
    ("srand", seed, 0, 1), ("tolower", lower, 1, 1), ("toupper", upper, 1, 1),
    ("system", obey, 1, 1), ("close", close, 1, 1), ("fflush", flush, 0, 1)]

end Known

/-- What a name stands for. -/
inductive Name where
  | shared (name : String)
  /-- An argument of the function that is being called. -/
  | parameter (index : Nat)
  deriving DecidableEq, Repr

mutual

/-- An expression. -/
inductive Expr where
  | number (x : Float)
  | text (bytes : Bytes)
  | regex (r : Regex)
  | name (n : Name)
  | field (index : Expr)
  | element (array : Name) (keys : List Expr)
  /-- An expression in parentheses. -/
  | grouped (e : Expr)
  /-- Several expressions in parentheses. -/
  | several (es : List Expr)
  /-- Gives a value to what can have one, perhaps from the value it has. -/
  | assign (op : Option Arithmetic) (target value : Expr)
  /-- Counts up or down, and gives the number from before or the one from after that. -/
  | count (givesNew : Bool) (step : Float) (target : Expr)
  | choice (condition yes no : Expr)
  | both (first second : Expr)
  | either (first second : Expr)
  | isKey (keys : List Expr) (array : Name)
  | matching (inverted : Bool) (subject pattern : Expr)
  | compare (relation : Relation) (left right : Expr)
  | join (left right : Expr)
  | arithmetic (op : Arithmetic) (left right : Expr)
  | negative (e : Expr)
  | numeric (e : Expr)
  | opposite (e : Expr)
  | call (function : Known) (args : List Expr)
  | callDefined (function : String) (args : List Expr)
  /-- Reads a record from somewhere. -/
  | read (source : Origin) (target : Option Expr)

/-- Where a record is read from. -/
inductive Origin where
  | input
  | file (name : Expr)
  | command (script : Expr)

end

/-- Where text is written. -/
inductive Outlet where
  | replacing
  | appending
  | command
  deriving DecidableEq, Repr

/-- A statement. -/
inductive Statement where
  | value (e : Expr)
  | print (args : List Expr) (target : Option (Outlet × Expr))
  | printFormat (args : List Expr) (target : Option (Outlet × Expr))
  | block (body : List Statement)
  | branch (condition : Expr) (yes no : Statement)
  /-- A loop with what is done after each turn. -/
  | loop (condition : Option Expr) (body after : Statement)
  /-- A loop that has one turn at least. -/
  | loopOnce (body : Statement) (condition : Expr)
  | each (key array : Name) (body : Statement)
  | leaveLoop
  | nextTurn
  | nextRecord
  | nextFile
  | exit (status : Option Expr)
  | answer (e : Option Expr)
  | delete (array : Name) (keys : Option (List Expr))

/-- When an action is done. -/
inductive Pattern where
  | first
  | always
  | on (condition : Expr)
  /-- From a record to another one. -/
  | between (start finish : Expr)
  | last

/-- A rule. -/
structure Rule where
  pattern : Pattern
  action : Statement

/-- A function that the program defines. -/
structure Definition where
  /-- How many parameters it has. -/
  arity : Nat
  body : Statement

/-- A program. -/
structure Program where
  rules : List Rule
  functions : List (String × Definition)

end Workbench.Shell.Records
