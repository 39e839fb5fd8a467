import Workbench.CommandLine
import Workbench.Interpreter.Exchange
import Workbench.Interpreter.Programs
import Workbench.Wire.Printer

/-!
# Executing requests with an interpreter

The attempt that is made for a request follows from what the program does with the line it is given.
Time is cut into polls of equal length.
-/

namespace Workbench.Interpreter

open Context (Signals Ending)

/-- How many milliseconds a poll waits. -/
def pollInterval : Nat :=
  20

/-- The number of the turn in which a poll sees that a program has exited after some milliseconds.
-/
def exitTurn (time : Nat) : Nat :=
  (time + pollInterval - 1) / pollInterval - 1

/-- The number of turns it takes to come to the end of an exchange. With a program that goes on for
ever and nothing that stops it there is no end. -/
def turnCount (signals : Signals) (time : Option Nat) : Nat :=
  match signals.stopAt, time.map exitTurn with
  | none, none => 0
  | none, some last => last + 1
  | some stop, none => stop / pollInterval + 2
  | some stop, some last => min last (stop / pollInterval + 1) + 1

/-- The turns of an exchange with a program that exits after some milliseconds: as many as it takes.
-/
def turns (signals : Signals) (time : Option Nat) (status : ExitStatus) : List Turn :=
  (List.range (turnCount signals time)).map fun i => {
    stop := signals.stopped (i * pollInterval)
    poll := if some i = time.map exitTurn then .exited status else .running }

/-- What happens when an interpreter is given a request. -/
def attempt (command : CommandLine) (signals : Signals) (request : Request) : DiskTask Attempt :=
  if signals.destroyed then .done { destroyed := true }
  else if (command.program :: command.args).any (·.toList.contains '\x00') then
    .done { launchError := some nulInCommand }
  else do
    match ← Shell.findProgram id none command.program with
    | .error error => return { launchError := some error.message }
    | .ok _ =>
      let input := Text.bytesOf (String.ofList request.line)
      let done ← perform command.program (command.args.map Text.bytesOf) input
      let status := done.status.elim ExitStatus.signal ExitStatus.code
      return {
        turns := turns signals done.time status
        output := done.output
        errors := done.errors }

/-- Executes a request. -/
def execute (command : CommandLine) (signals : Signals) (request : Request) : DiskTask Ending := do
  return (exchange command.program (← attempt command signals request)).1

end Workbench.Interpreter
