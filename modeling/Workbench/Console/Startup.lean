import Workbench.Console.Loop
import Workbench.ContextWork
import Workbench.Text.Quoted

/-!
# Starting a console

A console is started with settings taken from variables, and is fed the lines of its input. If the
settings are wrong, or the context they ask for is not to be had, nothing is started and the error
is shown.
-/

namespace Workbench.Console

/-- Everything that is needed to start a console. -/
structure Startup where
  settings : Settings
  choice : ContextChoice
  deriving DecidableEq, Repr

namespace Startup

/-- What some variables ask for. -/
def ofVariables (read : String → Option (List UInt8)) : Except String Startup :=
  match Settings.ofVariables read with
  | .error message => .error message
  | .ok settings =>
    match ContextChoice.ofSettings settings with
    | .error message => .error message
    | .ok choice => .ok ⟨settings, choice⟩

/-- How an error of starting is shown. -/
def failureLine (message : String) : String :=
  String.join ["Error: Custom \x7b kind: Other, error: ", Text.quoted message, " \x7d"]

/-- The contexts of a console: every attempt to create one fails if the first one does. -/
def supply (start : Startup) : Supply :=
  .ofErrors [] start.choice.refusal?

/-- The console that is started in a directory. -/
def console (start : Startup) (directory : String) : Console where
  runner := .new start.settings.session.policy start.supply true
  exportDir := directory

end Startup

/-! ### Lines of input -/

/-- The lines of some bytes that end in a newline, and what is behind the last newline. -/
def cutLines : List UInt8 → List (List UInt8) × List UInt8
  | [] => ([], [])
  | b :: rest =>
    if b = 10 then ([] :: (cutLines rest).1, (cutLines rest).2)
    else
      match (cutLines rest).1 with
      | [] => ([], b :: (cutLines rest).2)
      | line :: lines => ((b :: line) :: lines, (cutLines rest).2)

/-- A line without the carriage return it may end with. -/
def withoutReturn (line : List UInt8) : List UInt8 :=
  if line.getLast? = some 13 then line.dropLast else line

/-- The lines of some bytes as inputs, up to the first one that is no text. What is behind the last
newline is a line too, unless it is empty. -/
def inputLines (bytes : List UInt8) : List Input :=
  let (lines, rest) := cutLines bytes
  let all := lines.map withoutReturn ++ if rest = [] then [] else [rest]
  ((all.map Text.text?).takeWhile Option.isSome).reduceOption.map .line

/-- How a program ends and what it has shown. -/
structure Outcome where
  exitCode : Nat
  shown : List Chunk
  deriving DecidableEq, Repr

/-- A whole run of the program, with all its input there from the start. -/
def serve (now directory : String) (read : String → Option (List UInt8)) (input : List UInt8) :
    DiskTask Outcome :=
  match Startup.ofVariables read with
  | .error message => .done ⟨1, [.err (Startup.failureLine message)]⟩
  | .ok start =>
    (live now start.choice.execute start.settings.session.runTimeout (inputLines input)
      (start.console directory)).map fun loop => ⟨0, loop.shown⟩

end Workbench.Console
