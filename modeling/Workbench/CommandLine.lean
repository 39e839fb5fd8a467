import Workbench.Text.Blank

/-!
# Command lines

A command line names a program and the arguments it is given. It is split at blanks and nothing
else: there is no quoting.
-/

namespace Workbench

/-- A program and its arguments. -/
structure CommandLine where
  program : String
  args : List String
  deriving DecidableEq, Repr, Inhabited

namespace CommandLine

/-- The error for a text without a word. -/
def emptyText : String :=
  "interpreter command line is empty"

/-- The error for a command line whose program is blank. -/
def blankProgramText : String :=
  "interpreter program is empty"

/-- The words of a text: the first one is the program. -/
def ofText (text : String) : Except String CommandLine :=
  match (Text.words text.toList).map String.ofList with
  | [] => .error emptyText
  | program :: args => .ok ⟨program, args⟩

/-- Why no context can be created for this command line, if so. -/
def refusal? (command : CommandLine) : Option String :=
  if Text.allBlank command.program then some blankProgramText else none

end CommandLine

end Workbench
