import Workbench.Keyed
import Workbench.Shell.Channel
import Workbench.Shell.Script
import Workbench.Shell.Signal
import Workbench.Text.Numeral

/-!
# Shells

A `Shell` stands for `sh`, and is what a script changes: the variables, the options and the streams
of its process, and what it shares with other processes, which is what has gone through the streams
and the time that has passed. Streams lead to channels, so a pipe is a channel that one command
writes to and the next one reads from. Files are read and written through a `DiskTask`.

The shell and the programs that it starts are programs of the system, and no part of the workbench:
they are there to be run as interpreters (`Interpreter.perform`), and no result about the workbench
is about what they do.

A copy of a shell runs commands on the same channels and leaves the shell itself as it was; `after`
takes over what the copy did to the world. A process that is not waited for is a `Job`, which is
obeyed only when time passes, and is then put in its place in time by the channels.
-/

namespace Workbench

open Shell

/-- Why a shell does not go on to the next command. -/
inductive Shell.Leave where
  | exited (status : Nat)
  | killed (signal : Nat)
  /-- A function returns. -/
  | returned
  /-- Some loops end. -/
  | broke (loops : Nat)
  /-- All loops but the last of some go on with their next turn. -/
  | continued (loops : Nat)
  /-- The shell goes on for ever without coming to the next command. -/
  | never
  deriving DecidableEq, Repr

/-- A variable. -/
structure Shell.Variable where
  value : Option Bytes := none
  /-- Whether programs get it. -/
  exported : Bool := false
  readOnly : Bool := false
  deriving DecidableEq, Repr

/-- Where a stream leads. -/
inductive Shell.Stream where
  | channel (number : Nat)
  | nowhere
  /-- To a directory, which can be opened but not read. -/
  | directory
  /-- To the end of a file. -/
  | file (path : String)
  deriving DecidableEq, Repr

/-- The options of a shell. -/
structure Shell.Options where
  /-- The letters of those that are set, in order. -/
  letters : List Char := []
  deriving DecidableEq, Repr

namespace Shell.Options

/-- The letters of all options, in the order in which they are shown. -/
def known : List Char :=
  "pubaCEVvxisnmIfe".toList

/-- Whether an option is set. -/
def has (letter : Char) (options : Options) : Bool :=
  options.letters.contains letter

/-- The options with one of them set or not. -/
def set (letter : Char) (on : Bool) (options : Options) : Options where
  letters := known.filter fun c => if c = letter then on else options.has c

/-- Whether a failure ends the shell. -/
def exitsOnFailure : Options → Bool :=
  has 'e'

/-- Whether a variable that is not set ends the shell. -/
def demandsValues : Options → Bool :=
  has 'u'

/-- Whether commands are shown. -/
def showsCommands : Options → Bool :=
  has 'x'

/-- Whether commands are read only and not obeyed. -/
def skipsCommands : Options → Bool :=
  has 'n'

/-- Whether names with a pattern stand for themselves. -/
def keepsPatterns : Options → Bool :=
  has 'f'

/-- Whether files that exist are not written anew. -/
def keepsFiles : Options → Bool :=
  has 'C'

/-- Whether lines are shown as they are read. -/
def showsLines : Options → Bool :=
  has 'v'

/-- Whether programs get all variables that are set. -/
def exportsAll : Options → Bool :=
  has 'a'

end Shell.Options

/-- What a process of a shell has for itself. A copy of it starts with the same. -/
structure Shell.Process where
  /-- The name it goes by in messages. -/
  zero : String
  /-- Its arguments. -/
  args : List Bytes := []
  /-- The number of the process. -/
  number : Nat
  /-- The number of the process that it is a copy of, if it is one; otherwise its own. -/
  leader : Nat := number
  /-- The number of the process that started the leader. -/
  parent : Nat := 0
  /-- The numbers of other processes that it may send signals to. -/
  kin : List Nat := []
  /-- The number of the process that is not waited for and that it belongs to, or zero. -/
  author : Nat := 0
  bound : Keyed Shell.Variable := []
  functions : Keyed Shell.Command := []
  /-- The texts that stand for other ones where a command starts. -/
  aliases : Keyed String := []
  options : Shell.Options := {}
  /-- The status of the last command. -/
  status : Nat := 0
  /-- The status of the last command whose output became a part of a word. -/
  captured : Nat := 0
  /-- The line of the command that is obeyed. -/
  line : Nat := 0
  /-- What a message is about besides the line, with a colon behind it; nothing for most. -/
  about : String := ""
  /-- Where the open streams lead. -/
  streams : List (Nat × Shell.Stream) :=
    [(0, .channel 0), (1, .channel 1), (2, .channel 2)]
  /-- The directory that relative paths start from; none where it started. -/
  directory : String := ""
  /-- What is done when a signal arrives, or at the end; nothing at all for an empty text. -/
  traps : List (Nat × Bytes) := []
  /-- Whether a failure is a condition, which does not end the shell. -/
  tested : Bool := false
  /-- What the variables of the function that runs were before it; nothing outside functions. -/
  locals : Option (List (String × Option Shell.Variable)) := none
  /-- How many loops are around the command. -/
  loops : Nat := 0
  /-- The number of the last process that is not waited for. -/
  background : Option Nat := none
  /-- The number of the argument that `getopts` reads next. -/
  optionIndex : Nat := 1
  /-- How many characters of the argument before it are read, if it is not done. -/
  optionPlace : Option Nat := none

/-- A process that is not waited for. -/
structure Shell.Job where
  number : Nat
  /-- What it has to do, and how it starts; nothing once it was obeyed. -/
  work : Option (Shell.Process × Shell.Command) := none
  start : Nat
  /-- When it is done; nothing if it goes on for ever. -/
  doneAt : Option Nat := some start
  status : Nat := 0
  /-- The channels that its streams lead to. -/
  channels : List Nat := []

/-- A signal on its way to a process. -/
structure Shell.Sent where
  time : Nat
  target : Nat
  signal : Nat
  deriving DecidableEq, Repr

/-- A shell that runs a script. -/
structure Shell extends Shell.Process where
  channels : List Shell.Channel
  /-- The milliseconds that have passed. -/
  time : Nat := 0
  /-- The number of the last process that was started. -/
  lastNumber : Nat := number
  /-- The processes that are not waited for, the last one first. -/
  jobs : List Shell.Job := []
  /-- The signals that have not arrived. -/
  sent : List Shell.Sent := []
  leave : Option Shell.Leave := none

namespace Shell

/-! ### Streams -/

/-- The bytes in a channel. -/
def channel (number : Nat) (sh : Shell) : Bytes :=
  (sh.channels[number]?.getD {}).bytes

/-- The shell with more bytes in a channel. -/
def pushChannel (number : Nat) (bytes : Bytes) (sh : Shell) : Shell :=
  let piece : Written := ⟨sh.time, sh.author, bytes⟩
  { sh with channels := sh.channels.modify number (Channel.push piece) }

/-- A new channel, and the shell with it. -/
def openChannel (bytes : Bytes) (ofFile : Bool) (sh : Shell) : Stream × Shell :=
  (.channel sh.channels.length, { sh with channels := sh.channels ++ [.ofBytes bytes ofFile] })

/-- The shell with a stream that leads somewhere, or nowhere at all. -/
def connect (number : Nat) (stream : Option Stream) (sh : Shell) : Shell :=
  let others := sh.streams.filter (·.1 ≠ number)
  { sh with streams := (stream.map (number, ·)).toList ++ others }

/-- Why the input cannot be read, if so. -/
def inputFault? (sh : Shell) : Option DiskError :=
  match sh.streams.lookup 0 with
  | none => some (.other "Bad file descriptor")
  | some .directory => some .isADirectory
  | some _ => none

/-- The channel that the input comes from. -/
def inputChannel? (sh : Shell) : Option (Nat × Channel) :=
  match sh.streams.lookup 0 with
  | some (.channel number) => (sh.channels[number]?).map (number, ·)
  | _ => none

/-- What can be read from the input. -/
def input (sh : Shell) : Bytes :=
  (sh.inputChannel?.map (·.2.bytes)).getD []

/-- The shell after all of the input was read but a rest. It has waited for what it read. -/
def leaveInput (rest : Bytes) (sh : Shell) : Shell :=
  match sh.inputChannel? with
  | none => sh
  | some (number, channel) =>
    let (time, channel) := channel.readTo rest
    { sh with channels := sh.channels.set number channel, time := max sh.time time }

/-- Appends to a file. -/
def appendFile (path : String) (text : Bytes) : DiskTask Unit :=
  .read path fun answer => .write path (answer.toOption.getD [] ++ text) fun _ => .done ()

/-- Puts bytes where a stream leads. -/
def write (number : Nat) (text : Bytes) (sh : Shell) : DiskTask Shell :=
  match sh.streams.lookup number with
  | some (.channel n) => .done (sh.pushChannel n text)
  | some (.file path) => if text = [] then .done sh else (appendFile path text).map fun _ => sh
  | some .nowhere | some .directory | none => .done sh

/-! ### Messages -/

/-- Says something about the line, and fails. -/
def complain (message : String) (status : Nat) (sh : Shell) : DiskTask Shell := do
  let sh ← sh.write 2 (Text.bytesOf s!"{sh.zero}: {sh.line}: {sh.about}{message}\n")
  return { sh with status }

/-- Says something about the line and a command, and fails. -/
def complainOf (command message : String) (status : Nat) (sh : Shell) : DiskTask Shell := do
  let after ← { sh with about := s!"{command}: " }.complain message status
  return { after with about := sh.about }

/-- Says something about the line, and ends the shell. -/
def abandon (message : String) (sh : Shell) : DiskTask Shell := do
  let sh ← sh.complain message 2
  return { sh with leave := some (.exited 2) }

/-- Says something about the line and a command, and ends the shell. -/
def abandonOf (command message : String) (sh : Shell) : DiskTask Shell := do
  let sh ← sh.complainOf command message 2
  return { sh with leave := some (.exited 2) }

/-! ### Parameters -/

/-- A number as text. -/
def decimal (n : Nat) : Bytes :=
  Text.bytesOf (String.ofList (Text.digits n))

/-- The value of a variable, if it has one. -/
def boundValue? (name : String) (sh : Shell) : Option Bytes :=
  (Keyed.get? name sh.bound).bind (·.value)

/-- The variable that says what separates fields. -/
def separatorsName : String :=
  "IFS"

/-- The bytes that separate fields. -/
def separators (sh : Shell) : Bytes :=
  (sh.boundValue? separatorsName).getD [32, 9, newline]

/-- The variable that says which argument `getopts` reads next. -/
def optionIndexName : String :=
  "OPTIND"

/-- The variables that a shell has from its start, besides those it is given. -/
def ownVariable? (name : String) (sh : Shell) : Option Bytes :=
  if name = "PPID" then some (decimal sh.parent)
  else if name = optionIndexName then some (decimal 1)
  else if name = "PS4" then some (Text.bytesOf "+ ")
  else none

/-- The arguments in one text, with the first separator between them. -/
def joinedArgs (sh : Shell) : Bytes :=
  (sh.separators.take 1).intercalate sh.args

/-- The value of a parameter, if it has one. -/
def value? (name : String) (sh : Shell) : Option Bytes :=
  match name with
  | "?" => some (decimal sh.status)
  | "$" => some (decimal sh.leader)
  | "#" => some (decimal sh.args.length)
  | "0" => some (Text.bytesOf sh.zero)
  | "-" => some (Text.bytesOf (String.ofList sh.options.letters))
  | "!" => sh.background.map decimal
  | "@" | "*" => if sh.args = [] then none else some sh.joinedArgs
  | _ =>
    match Text.magnitude? name.toList with
    | some 0 => some (Text.bytesOf sh.zero)
    | some (n + 1) => sh.args[n]?
    | none =>
      match Keyed.get? name sh.bound with
      | some entry => entry.value
      | none => sh.ownVariable? name

/-- The shell with another value of a variable. -/
def bindValue (name : String) (value : Bytes) (sh : Shell) : Shell :=
  let old := (Keyed.get? name sh.bound).getD {}
  let exported := old.exported || sh.options.exportsAll
  { sh with bound := sh.bound.insert name { old with value := some value, exported } }

/-- Sets a variable. One that may only be read ends the shell. -/
def assign (name : String) (value : Bytes) (sh : Shell) : DiskTask Shell :=
  if ((Keyed.get? name sh.bound).getD {}).readOnly then sh.abandon s!"{name}: is read only"
  else
    let sh := sh.bindValue name value
    .done (if name ≠ optionIndexName then sh
      else
        let index := (Text.magnitude? (Text.lossyText value).toList).getD 1
        { sh with optionIndex := max 1 index, optionPlace := none })

/-! ### Signals and copies -/

/-- The signals that nothing can be done about. -/
def uncaught : List Nat :=
  [9, 19]

/-- What the shell wants to be done when a signal arrives; nothing if the signal has its own effect.
-/
def caught? (signal : Nat) (sh : Shell) : Option Bytes :=
  if uncaught.contains signal then none else sh.traps.lookup signal

/-- How the shell goes on after a signal that it does not catch. -/
def struck (signal : Nat) (sh : Shell) : Option Leave :=
  match Signal.actionOf signal with
  | .ends => some (.killed signal)
  | .halts => some .never
  | .nothing => sh.leave

/-- Whether a job goes on at some time. -/
def Job.runsAt (time : Nat) (job : Job) : Bool :=
  job.work.isSome || job.doneAt.all (time < ·)

/-- A job after a signal. -/
def Job.struck (signal time : Nat) (job : Job) : Job :=
  match Signal.actionOf signal with
  | .ends => { job with work := none, doneAt := some time, status := 128 + signal }
  | .halts => { job with work := none, doneAt := none }
  | .nothing => job

/-- The shell after a signal that one of its jobs gets; nothing if there is no such job any more.
What a job would have written later is taken back. -/
def signalJob? (sent : Sent) (sh : Shell) : Option Shell :=
  let meant (job : Job) : Bool := job.number = sent.target && job.runsAt sent.time
  if !sh.jobs.any meant then none
  else
    some { sh with
      jobs := sh.jobs.map fun job => if meant job then job.struck sent.signal sent.time else job
      channels :=
        if Signal.actionOf sent.signal = .nothing then sh.channels
        else sh.channels.map (·.without sent.target sent.time) }

/-- The shell after a signal reached it or one of its jobs by some time. A signal for another
process is kept, and so is one that arrives later or that something is to be done about. -/
def reach (byTime : Nat) (sh : Shell) (sent : Sent) : Shell :=
  let kept : Shell := { sh with sent := sh.sent ++ [sent] }
  if byTime < sent.time then kept
  else if sent.target = sh.number then
    match sh.caught? sent.signal with
    | some action => if action = [] then sh else kept
    | none => { sh with leave := sh.struck sent.signal, time := max sh.time sent.time }
  else (sh.signalJob? sent).getD kept

/-- The shell after the signals on their way have arrived as far as they do by some time. -/
def arrive (byTime : Nat) (sh : Shell) : Shell :=
  sh.sent.foldl (reach byTime) { sh with sent := [] }

/-- The status that a shell ends with. A process that a signal killed has one above 128. -/
def finalStatus (sh : Shell) : Nat :=
  match sh.leave with
  | some (.exited n) => n
  | some (.killed signal) => 128 + signal
  | _ => sh.status

/-- The shell as it is copied to a process of its own. -/
def copied (sh : Shell) : Shell :=
  { sh with
    number := sh.lastNumber + 1
    lastNumber := sh.lastNumber + 1
    kin := sh.number :: sh.jobs.map (·.number) ++ sh.kin
    leave := none
    traps := sh.traps.filter (·.2 = [])
    jobs := []
    sent := [] }

/-- The shell after a copy of it came to its end. -/
def after (copy sh : Shell) : Shell :=
  let sh := { sh with
    channels := copy.channels.take sh.channels.length
    time := copy.time
    lastNumber := copy.lastNumber
    status := copy.finalStatus
    leave := if copy.leave = some Leave.never then some .never else sh.leave }
  { sh with sent := sh.sent ++ copy.sent }.arrive sh.time

end Shell

end Workbench
