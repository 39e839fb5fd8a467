import Workbench.Context
import Workbench.Text.Blank
import Workbench.Wire.Reader

/-!
# The exchange with an interpreter

For each request an interpreter is started anew, is given the request on its input, and has to
answer with a response on its output before it exits. While it runs the exchange takes *turns*: it
looks whether it is asked to stop, and then polls the process. A process is left alone only once it
has been seen to exit, or has been killed and waited for.

`exchange` is a function of everything that can happen, an `Attempt`, and also lists what is done to
the process.
-/

namespace Workbench.Interpreter

open Context (Ending)

/-- How a process ended. -/
inductive ExitStatus where
  | code (n : Nat)
  /-- It was killed. -/
  | signal
  deriving DecidableEq, Repr

namespace ExitStatus

/-- Whether a process did what it was to do. -/
def isSuccess : ExitStatus → Bool
  | code n => n = 0
  | signal => false

/-- The wording of a status. -/
def describe : ExitStatus → String
  | code n => s!"exit code {n}"
  | signal => "signal"

end ExitStatus

/-- What a poll finds out about a process. -/
inductive Poll where
  | running
  | exited (status : ExitStatus)
  /-- The process could not be polled. -/
  | failed (message : String)
  deriving DecidableEq, Repr

/-- One turn. -/
structure Turn where
  /-- Whether the exchange is asked to stop. -/
  stop : Bool := false
  poll : Poll := .running
  deriving DecidableEq, Repr

/-- Everything that can happen in an exchange. -/
structure Attempt where
  /-- The context was destroyed before. -/
  destroyed : Bool := false
  /-- The error of starting the process, if it cannot be started. -/
  launchError : Option String := none
  turns : List Turn := []
  /-- What the process writes to its output. -/
  output : List UInt8 := []
  /-- What the process writes to its error stream. -/
  errors : List UInt8 := []
  deriving DecidableEq, Repr

/-- What is done to a process. -/
inductive Act where
  | launch
  /-- Ask whether the process has exited; if so it has been waited for. -/
  | poll
  | kill
  | wait
  deriving DecidableEq, Repr

/-- How the turns of an exchange end. -/
inductive Waited where
  | exited (status : ExitStatus)
  /-- The exchange was asked to stop. -/
  | stopped
  | failed (message : String)
  /-- The turns are over and the process still runs. -/
  | unfinished
  deriving DecidableEq, Repr

/-- Takes turns until one is the last, and lists what is done. A request to stop is heard before the
poll of the same turn. -/
def await : List Turn → Waited × List Act
  | [] => (.unfinished, [])
  | turn :: rest =>
    if turn.stop then (.stopped, [.kill, .wait])
    else
      match turn.poll with
      | .running => ((await rest).1, .poll :: (await rest).2)
      | .exited status => (.exited status, [.poll])
      | .failed message => (.failed message, [.poll, .kill, .wait])

/-- The error of a process that cannot be started. -/
def launchFailure (program error : String) : String :=
  s!"Failed to launch interpreter {program}: {error}"

/-- The error of a process that cannot be polled. -/
def waitFailure (error : String) : String :=
  s!"Failed waiting for interpreter: {error}"

/-- The error of a process that did not do what it was to do. -/
def exitFailure (status : ExitStatus) (errors : List UInt8) : String :=
  s!"Interpreter exited with {status.describe}: {Text.trimmed (Text.lossyText errors)}"

/-- How the error of a process that did not answer with a response starts. -/
def answerFailureStart : String :=
  "Interpreter returned an invalid response"

/-- The error of a process that did not answer with a response. -/
def answerFailure (output : List UInt8) (fault : Json.Fault) : String :=
  s!"{answerFailureStart}: {fault.describe output}"

/-- What the answer of a process that exited is worth. -/
def answer (status : ExitStatus) (output errors : List UInt8) : Ending :=
  if !status.isSuccess then .broke (exitFailure status errors)
  else
    match Response.ofSymbols (Text.symbols output) with
    | .ok response => .responded response
    | .error fault => .broke (answerFailure output fault)

/-- The exchange with the interpreter `program`, and what is done to its process. -/
def exchange (program : String) (attempt : Attempt) : Ending × List Act :=
  if attempt.destroyed then (.broke Context.destroyedText, [])
  else
    match attempt.launchError with
    | some error => (.broke (launchFailure program error), [])
    | none =>
      let (waited, acts) := await attempt.turns
      (match waited with
        | .exited status => answer status attempt.output attempt.errors
        | .stopped => .broke Context.cancelledText
        | .failed message => .broke (waitFailure message)
        | .unfinished => .never,
      .launch :: acts)

end Workbench.Interpreter
