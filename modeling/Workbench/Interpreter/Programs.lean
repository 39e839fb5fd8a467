import Workbench.Shell.Run

/-!
# Programs

What a program puts out and how it ends, when it is started as an interpreter and given its whole
input.

The program is one of the system's, such as a script for `sh`, and no part of the workbench. The
modules under `Shell` and `Regex` stand for these programs, so that whole sessions can be run; only
`perform` and `Interpreter.attempt` use them. No result about sessions, runners, messages or
exchanges rests on what they do: an exchange takes whatever happens as it comes
(`Interpreter.Attempt`).
-/

namespace Workbench.Interpreter

open Shell (Bytes)

/-- What a program did from its start to its end. -/
structure Performance where
  output : Bytes := []
  errors : Bytes := []
  /-- Its exit status; nothing if it was killed. -/
  status : Option Nat := some 0
  /-- The milliseconds it took; nothing if it goes on for ever. -/
  time : Option Nat := some 0
  deriving DecidableEq, Repr

/-- The error for a command line with a NUL character. -/
def nulInCommand : String :=
  "nul byte found in provided data"

/-- How deep the commands of scripts may nest. -/
def maxNesting : Nat :=
  1000

/-- The number of the process of a program. -/
def processNumber : Nat :=
  4711

/-- Lets a program run to its end. `called` is the text it was started by, which it uses in
messages. Its output and its errors are complete when all processes have left them. -/
def perform (called : String) (args : List Bytes) (input : Bytes) : DiskTask Performance := do
  let here ← DiskTask.ask .here .done
  let given (value : Bytes) : Shell.Variable := { value := some value, exported := true }
  let after ← Shell.launch (.ofDepth maxNesting) true called args {
    zero := called
    number := processNumber
    parent := processNumber - 1
    kin := [processNumber - 1]
    bound := .ofList [
      ("HOME", given (Text.bytesOf "/root")),
      ("PWD", given (Text.bytesOf (here.toOption.getD "/")))]
    channels := [.ofBytes input false, {}, {}] }
  let held := [1, 2].any fun number => after.channels[number]?.any (·.heldForever)
  return {
    output := after.channel 1
    errors := after.channel 2
    status := match after.leave with
      | some (.killed _) => none
      | _ => some after.finalStatus
    time := if held || after.leave = some Shell.Leave.never then none else some after.time }

end Workbench.Interpreter
