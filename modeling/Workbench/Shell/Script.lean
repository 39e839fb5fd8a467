/-!
# Shell scripts

A script for `sh` is a list of commands. A command is made of words, redirections and other
commands, and a word is a list of pieces, because what stands inside quotes, what is the value of a
parameter and what is the output of other commands must be told apart until the word is expanded.
Pieces hold commands and commands hold pieces, so the types are defined together.
-/

namespace Workbench.Shell

/-- How a redirection opens a file. -/
inductive Access where
  /-- `<`: to be read. -/
  | read
  /-- `>`: to be written from its start. -/
  | write
  /-- `>|`: to be written from its start, also if files that exist are to be kept. -/
  | rewrite
  /-- `>>`: to be written behind its end. -/
  | append
  /-- `<>`: to be read and written. -/
  | update
  deriving DecidableEq, Repr

mutual

/-- A part of a word. -/
inductive Piece where
  /-- Text that stands for itself. -/
  | literal (quoted : Bool) (text : List Char)
  /-- The value of a parameter, or what its use makes of it. -/
  | parameter (quoted : Bool) (name : String) (use : Use)
  /-- How many bytes the value of a parameter has. -/
  | lengthOf (quoted : Bool) (name : String)
  /-- What some commands put out. -/
  | output (quoted : Bool) (commands : List Command)
  /-- The value of an arithmetic expression. -/
  | arithmetic (quoted : Bool) (expression : List Piece)
  /-- A parameter in braces that means nothing. -/
  | meaningless

/-- What is done with the value of a parameter. `orEmpty` says whether an empty value counts as
missing. -/
inductive Use where
  /-- The value itself. -/
  | value
  /-- `-`: a word stands for a missing value. -/
  | fallback (orEmpty : Bool) (word : List Piece)
  /-- `=`: a missing value is set. -/
  | assign (orEmpty : Bool) (word : List Piece)
  /-- `?`: a missing value ends the shell. -/
  | demand (orEmpty : Bool) (word : List Piece)
  /-- `+`: a word stands for a value that is not missing. -/
  | alternative (orEmpty : Bool) (word : List Piece)
  /-- `#` and `%`: a part that matches a pattern is cut off, the longest or the shortest one. -/
  | cut (atEnd longest : Bool) (pattern : List Piece)

/-- Where a redirection leads. -/
inductive Target where
  | file (access : Access) (path : List Piece)
  /-- `<&` and `>&`: where another stream leads, or nowhere. -/
  | stream (number : List Piece)
  /-- `<<`: to a text in the script. -/
  | text (document : List Piece)

/-- A stream that leads somewhere else. -/
structure Redirection where
  /-- The number of the stream. -/
  stream : Nat
  target : Target

/-- A command before its expansion. -/
inductive Command where
  /-- Words that are expanded and obeyed. The line is the one that messages name. -/
  | simple (line : Nat) (assignments : List (String × List Piece)) (words : List (List Piece))
    (redirections : List Redirection)
  /-- Commands that run in a copy of the shell. -/
  | subshell (commands : List Command)
  /-- Commands whose streams are redirected together. -/
  | redirected (line : Nat) (command : Command) (redirections : List Redirection)
  | group (commands : List Command)
  | branch (condition yes no : List Command)
  /-- Commands that are repeated while a condition holds, or until it does. -/
  | loop (untilTrue : Bool) (condition body : List Command)
  /-- Commands that are repeated for each field of some words. -/
  | each (line : Nat) (name : String) (words : List (List Piece)) (body : List Command)
  /-- The commands of the first case with a pattern that a word matches. -/
  | choose (line : Nat) (word : List Piece) (cases : List (List (List Piece) × List Command))
  | define (name : String) (body : Command)
  /-- Commands of which each reads what the one before puts out. -/
  | pipeline (stages : List Command)
  /-- A command whose success is failure. -/
  | negation (command : Command)
  | both (first second : Command)
  | either (first second : Command)
  /-- A command that is not waited for. -/
  | background (command : Command)

end

/-- A word before its expansion. -/
abbrev Word : Type :=
  List Piece

/-- The text of a word without quotes and substitutions. -/
def plainText? : Word → Option (List Char)
  | [.literal false text] => some text
  | _ => none

end Workbench.Shell
