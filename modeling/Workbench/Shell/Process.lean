import Workbench.Shell.Builtin
import Workbench.Shell.Reader

/-!
# Processes of a shell

A process of `sh` obeys a script line by line. It gets signals, starts processes that it does not
wait for, and comes to an end. A process that is not waited for is obeyed when time passes or
somebody waits for it, with the time that it started at, so all that happens at one time happens
before it.
-/

namespace Workbench.Shell

/-! ### Scripts -/

/-- A script that is obeyed, and whether its lines may be shown as they are read. -/
structure Reel where
  cursor : Cursor
  shown : Bool := false

/-- Shows the lines that were just read, if that is asked for. -/
def showLines (reel : Reel) (after : Cursor) (sh : Shell) : DiskTask Shell :=
  if !reel.shown || !sh.options.showsLines then .done sh
  else
    let before := reel.cursor.rest
    sh.write 2 (Text.bytesOf (String.ofList (before.take (before.length - after.rest.length))))

/-- Obeys the lines of a script from some place on, at most `bound` of them. A fault ends the shell
when the lines before it are done. -/
def runLines (inner : Inner) : (bound : Nat) → Reel → Shell → DiskTask Shell
  | 0, _, sh => .done sh
  | bound + 1, reel, sh =>
    let cursor := { reel.cursor with aliases := sh.aliases }
    match cursor.nextLine with
    | .error (line, fault) => { sh with line }.abandon s!"Syntax error: {fault.message}"
    | .ok none => showLines reel { cursor with rest := [] } sh
    | .ok (some (commands, cursor)) => do
      let sh ← showLines reel cursor sh
      let sh ← inner.run commands sh
      if sh.leave.isSome then return sh else runLines inner bound { reel with cursor } sh

/-- Obeys a script. -/
def runText (inner : Inner) (shown : Bool) (script : List Char) (sh : Shell) : DiskTask Shell :=
  runLines inner (script.length + 2) { cursor := { rest := script }, shown } { sh with status := 0 }

/-! ### Signals -/

/-- Obeys what is to be done about a signal. The status is that from before. -/
def runTrap (inner : Inner) (action : Bytes) (sh : Shell) : DiskTask Shell := do
  let script := (Text.lossyText action).toList
  let after ← runLines inner (script.length + 2) { cursor := { rest := script } } sh
  return if after.leave.isSome then after else { after with status := sh.status }

/-- Sends a signal to the shell: it does what was asked for, or what the signal does by itself. -/
def receive (inner : Inner) (signal : Nat) (sh : Shell) : DiskTask Shell :=
  match (sh.caught? signal).filter fun _ => signal ≠ 0 with
  | some action => if action = [] then .done sh else runTrap inner action sh
  | none => .done { sh with leave := sh.struck signal }

/-- Does what is to be done about the signals that have arrived, at most `bound` of them. -/
def heed (inner : Inner) : (bound : Nat) → Shell → DiskTask Shell
  | 0, sh => .done sh
  | bound + 1, sh =>
    let here (sent : Sent) : Bool := sent.target = sh.number && sent.time ≤ sh.time
    match sh.sent.find? here with
    | none => .done sh
    | some sent => do
      let sh ← receive inner sent.signal { sh with sent := sh.sent.erase sent }
      if sh.leave.isSome then return sh else heed inner bound sh

/-! ### Jobs -/

/-- The channels that the streams of a process lead to. -/
def Process.channelNumbers (process : Process) : List Nat :=
  process.streams.filterMap fun entry =>
    match entry.2 with
    | .channel number => some number
    | _ => none

/-- Starts a command that is not waited for. -/
def startJob (command : Command) (sh : Shell) : Shell :=
  let copy := (sh.connect 0 (some .nowhere)).copied
  let process := { copy.toProcess with author := copy.number }
  let job : Job := {
    number := process.number
    work := some (process, command)
    start := sh.time
    channels := process.channelNumbers }
  { sh with
    lastNumber := copy.lastNumber
    jobs := job :: sh.jobs
    background := some job.number
    status := 0 }

/-- Obeys what a job has to do, if it was not obeyed yet. -/
def obeyJob (inner : Inner) (sh : Shell) (job : Job) : DiskTask Shell :=
  match job.work with
  | none => .done sh
  | some (process, command) => do
    let copy : Shell := { process with
      channels := sh.channels
      time := job.start
      lastNumber := sh.lastNumber }
    let ended ← inner.close (← inner.run [command] copy)
    let done := { job with
      work := none
      doneAt := if ended.leave = some Leave.never then none else some ended.time
      status := ended.finalStatus }
    return { sh with
      channels := ended.channels.take sh.channels.length
      lastNumber := ended.lastNumber
      jobs := sh.jobs.map fun other => if other.number = job.number then done else other
      sent := sh.sent ++ ended.sent }

/-- Obeys what all jobs have to do, the first one first. -/
def settle (inner : Inner) (sh : Shell) : DiskTask Shell :=
  sh.jobs.reverse.foldlM (obeyJob inner) sh

/-- Lets some milliseconds pass, unless a signal ends the shell before. -/
def pass (inner : Inner) (time : Nat) (sh : Shell) : DiskTask Shell := do
  if time = 0 then return sh
  else
    let sh := (← settle inner sh).arrive (sh.time + time)
    return if sh.leave.isSome then sh else { sh with time := sh.time + time }

/-- The channels when a process with some jobs ends. The jobs that its channels are left to hold
these as long as they go on. -/
def heldChannels (sh : Shell) : List Channel :=
  sh.jobs.foldl (fun channels job =>
    job.channels.foldl (fun channels number =>
      channels.modify number fun channel =>
        match job.doneAt with
        | some time => { channel with heldUntil := max channel.heldUntil time }
        | none => { channel with heldForever := true }) channels) sh.channels

/-- Does what was asked for at the end, unless a signal is the end. -/
def finish (inner : Inner) (sh : Shell) : DiskTask Shell :=
  match sh.traps.lookup 0, sh.leave with
  | none, _ | _, some (.killed _) | _, some .never => .done sh
  | some action, _ => do
    let status := sh.finalStatus
    let before := { sh with leave := none, traps := sh.traps.filter (·.1 ≠ 0), status }
    let after ← runTrap inner action before
    return if after.leave.isSome then after else { after with leave := some (.exited status) }

/-- Brings a process to its end: it does what was asked for at the end, and what it does not wait
for goes on without it. -/
def closeProcess (inner : Inner) (sh : Shell) : DiskTask Shell := do
  let ended ← finish inner sh
  let settled ← settle inner ended
  return { settled with channels := heldChannels settled, time := ended.time, jobs := [] }

/-- Waits for the processes that are not waited for yet, or for some of them. A signal that
something is to be done about ends the waiting. -/
def wait (inner : Inner) : Builtin :=
  withOptions "wait" "" fun _ args sh =>
    match args.find? fun arg => (count? arg).isNone with
    | some arg => sh.failIn "wait" s!"Illegal number: {Text.lossyText arg}"
    | none => do
      let sh ← settle inner sh
      let numbers := args.filterMap count?
      let awaited := sh.jobs.filter fun job => args = [] || numbers.contains job.number
      let last := numbers.getLast?.bind fun number => sh.jobs.find? (·.number = number)
      let status := if args = [] then 0 else (last.map (·.status)).getD 127
      let until? : Option Nat :=
        if awaited.any (·.doneAt.isNone) then none
        else some ((awaited.filterMap (·.doneAt)).foldl max sh.time)
      let early := sh.sent.find? fun sent =>
        sent.target = sh.number && until?.all (sent.time < ·) && (sh.caught? sent.signal).isSome
      match early, until? with
      | some sent, _ => return { sh with status := 128 + sent.signal, time := sent.time }
      | none, none =>
        let sh := sh.arrive (sh.sent.foldl (fun time sent => max time sent.time) sh.time)
        return { sh with leave := sh.leave.orElse fun _ => some .never }
      | none, some time =>
        let sh := sh.arrive time
        if sh.leave.isSome then return sh
        else
          let notices := awaited.filterMap fun job =>
            if args ≠ [] ∧ 128 < job.status then Signal.notice? (job.status - 128) else none
          let sh ← sh.write 2 (Text.bytesOf (String.join (notices.map (· ++ "\n"))))
          return { sh with status, time }

/-- Sends signals as `kill` is asked to. -/
def kill (inner : Inner) (args : List Bytes) (sh : Shell) : DiskTask Shell :=
  match KillRequest.ofArgs (texts args) with
  | .refuse message => sh.failIn "kill" message
  | .list (some number) => do
    succeed (← sh.write 1 (Text.bytesOf (Signal.nameOf number ++ "\n")))
  | .list none => do
    let names := "0" :: Signal.all.map (·.name)
    succeed (← sh.write 1 (Text.bytesOf (String.join (names.map (· ++ "\n")))))
  | .send signal targets => sendAll signal targets { sh with status := 0 }
where
  /-- Sends a signal to processes in order. -/
  sendAll (signal : Nat) : List Nat → Shell → DiskTask Shell
    | [], sh => .done sh
    | target :: rest, sh => do
      let sent : Sent := ⟨sh.time, target, signal⟩
      if target = sh.number then
        let sh ← receive inner signal sh
        if sh.leave.isSome then return sh else sendAll signal rest sh
      else
        match sh.signalJob? sent with
        | some sh => sendAll signal rest sh
        | none =>
          if sh.kin.contains target then sendAll signal rest { sh with sent := sh.sent ++ [sent] }
          else sendAll signal rest (← sh.complainOf "kill" "No such process\n" 1)

end Workbench.Shell
