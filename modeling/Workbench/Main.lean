import Std.Time.DateTime.Timestamp
import Workbench.Console.Startup
import Workbench.Text.Instant

/-!
# The program

Reads the settings from the variables of the process and lines from its input, and does the work on
files in its working directory. A run that comes to an end does so before the next line is read.
-/

namespace Workbench

/-- The number of an error that the system reported; it may have its sign changed. -/
def DiskError.systemNumber? : IO.Error → Option UInt32
  | .noFileOrDirectory _ number _ | .permissionDenied _ number _ | .inappropriateType _ number _
  | .invalidArgument _ number _ | .resourceExhausted _ number _ => some number
  | _ => none

/-- The error that the system reported. -/
def DiskError.ofSystem (error : IO.Error) : DiskError :=
  match (systemNumber? error).bind fun number => ofNumber? number.toInt32.toInt.natAbs with
  | some found => found
  | none => .other (toString error)

/-- What comes of an action on the files of the system. -/
def DiskError.attempt {α : Type} (act : IO α) : IO (Except DiskError α) := do
  try return .ok (← act) catch error => return .error (.ofSystem error)

/-- Answers a request from the files of the system. -/
def DiskRequest.perform : (request : DiskRequest) → IO request.Answer
  | .read path => DiskError.attempt do return (← IO.FS.readBinFile path).toList
  | .write path bytes => DiskError.attempt (IO.FS.writeBinFile path ⟨bytes.toArray⟩)
  | .list path => DiskError.attempt do
    let entries ← ((← IO.currentDir) / path).readDir
    return entries.toList.map (·.fileName)
  | .make path => DiskError.attempt (IO.FS.createDir path)
  | .remove whole path => DiskError.attempt do
    if !(← ((← IO.currentDir) / path).isDir) then IO.FS.removeFile path
    else if whole then IO.FS.removeDirAll path
    else IO.FS.removeDir path
  | .move old new => DiskError.attempt (IO.FS.rename old new)
  | .here => DiskError.attempt do return (← IO.currentDir).toString

/-- Does the work on the files of the system. -/
def DiskTask.perform {α : Type} : DiskTask α → IO α
  | .done result => pure result
  | .ask request next => do (next (← request.perform)).perform

namespace Console

/-- The time. -/
def clock : IO String := do
  let nanos := (← Std.Time.Timestamp.now).toNanosecondsSinceUnixEpoch.val.toNat
  return Text.instant (nanos / 1000000000) (nanos % 1000000000)

/-- Shows some pieces. -/
def showChunks (chunks : List Chunk) : IO Unit := do
  for chunk in chunks do
    match chunk.stream with
    | .out => IO.print chunk.text
    | .err => IO.eprint chunk.text
  (← IO.getStdout).flush

/-- Takes an input, waits for the run it may have started, and shows what there is to show. -/
def step (start : Startup) (loop : Loop) (input : Input) : IO Loop := do
  let loop ← (Loop.take (← clock) input { loop with shown := [] }).perform
  showChunks loop.shown
  let timeout := start.settings.session.runTimeout
  let loop ←
    (Loop.await (← clock) start.choice.execute timeout { loop with shown := [] }).perform
  showChunks loop.shown
  return loop

/-- The next line of the input. -/
def readInput : IO Input := do
  let line ← try (← IO.getStdin).getLine catch _ => pure ""
  return ((inputLines (Text.bytesOf line)).head?).getD .endOfInput

/-- Takes inputs until the console stops or its input ends. -/
partial def serveInput (start : Startup) (loop : Loop) : IO Unit := do
  let input ← readInput
  let loop ← step start loop input
  unless loop.stopped || input = .endOfInput do
    serveInput start loop

end Console

/-- The variables that are read. -/
def Settings.variableNames : List String :=
  [timeoutVariable, policyVariable, logFilterVariable, contextVariable, interpreterVariable]

end Workbench

open Workbench in
/-- Runs a console on the input of the process. -/
def main : IO UInt32 := do
  let values ← Settings.variableNames.mapM fun name => return (name, ← IO.getEnv name)
  let read name := ((values.lookup name).join).map Text.bytesOf
  match Console.Startup.ofVariables read with
  | .error message =>
    IO.eprintln (Console.Startup.failureLine message)
    return 1
  | .ok start =>
    let directory := (← IO.currentDir).toString
    Console.serveInput start { console := start.console directory }
    return 0
