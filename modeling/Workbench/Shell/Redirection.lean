import Workbench.Shell.Expansion
import Workbench.Shell.Installed
import Workbench.Text.Blank

/-!
# Redirections

A redirection of `sh` connects a stream to a file, to another stream or to a text. What cannot be
opened is complained about, and then nothing is connected.
-/

namespace Workbench.Shell

/-- Files that stand for streams: their start and the numbers. -/
def streamFiles : List (String × Nat) :=
  [("/dev/stdin", 0), ("/dev/stdout", 1), ("/dev/stderr", 2), ("/dev/fd/0", 0), ("/dev/fd/1", 1),
    ("/dev/fd/2", 2), ("/proc/self/fd/0", 0), ("/proc/self/fd/1", 1), ("/proc/self/fd/2", 2)]

/-- What is said of a file that cannot be opened to be read. -/
def readRefusal : DiskError → String
  | .notFound | .notADirectory => "No such file"
  | error => (error.system?.map (·.1)).getD error.message

/-- What is said of a file that cannot be opened to be written. -/
def writeRefusal : DiskError → String
  | .notFound | .notADirectory => "Directory nonexistent"
  | error => (error.system?.map (·.1)).getD error.message

/-- Connects a stream to a file that is read. -/
def openToRead (stream : Nat) (name : String) (sh : Shell) : DiskTask (Bool × Shell) :=
  .read (sh.path name) fun
    | .ok text =>
      let (channel, sh) := sh.openChannel text true
      .done (true, sh.connect stream (some channel))
    | .error .isADirectory => .done (true, sh.connect stream (some .directory))
    | .error error => do
      return (false, ← sh.complain s!"cannot open {name}: {readRefusal error}" 2)

/-- Connects a stream to a file that is written to, at its start or at its end. -/
def openToWrite (stream : Nat) (access : Access) (name : String) (sh : Shell) :
    DiskTask (Bool × Shell) :=
  let path := sh.path name
  let refuse (reason : String) : DiskTask (Bool × Shell) := do
    return (false, ← sh.complain s!"cannot create {name}: {reason}" 2)
  let start (text : Bytes) : DiskTask (Bool × Shell) :=
    .write path text fun
      | .ok () => .done (true, sh.connect stream (some (.file path)))
      | .error error => refuse (writeRefusal error)
  .read path fun
    | .ok text =>
      if access = .append then start text
      else if access = .write && sh.options.keepsFiles then refuse "File exists"
      else start []
    | .error _ => start []

/-- Connects a stream to where another one leads. -/
def openAgain (stream other : Nat) (sh : Shell) : DiskTask (Bool × Shell) :=
  match sh.streams.lookup other with
  | some target => .done (true, sh.connect stream (some target))
  | none => do return (false, ← sh.complain s!"{other}: Bad file descriptor" 2)

/-- Connects a stream to a file. -/
def openFile (stream : Nat) (access : Access) (name : String) (sh : Shell) :
    DiskTask (Bool × Shell) :=
  match streamFiles.lookup name, access with
  | some other, _ => openAgain stream other sh
  | none, access =>
    if name = emptyFile then .done (true, sh.connect stream (some .nowhere))
    else
      match access with
      | .read | .update => openToRead stream name sh
      | .write | .rewrite | .append => openToWrite stream access name sh

/-- Connects a stream to the one that a text names. -/
def openNamed (stream : Nat) (text : String) (sh : Shell) : DiskTask (Bool × Shell) :=
  if text = "-" then .done (true, sh.connect stream none)
  else
    match text.toList with
    | [d] =>
      match Text.digitValue? d with
      | some other => openAgain stream other sh
      | none => refuse
    | _ => refuse
where
  /-- Ends the shell, because the text is no number of a stream. -/
  refuse : DiskTask (Bool × Shell) := do
    return (false, ← sh.abandon "Syntax error: Bad fd number")

/-- Obeys a redirection, and says whether it could be obeyed. -/
def redirect (inner : Inner) (redirection : Redirection) (sh : Shell) :
    DiskTask (Bool × Shell) := do
  let stream := redirection.stream
  let (word, act) : Word × (Bytes → Shell → DiskTask (Bool × Shell)) :=
    match redirection.target with
    | .file access word => (word, fun text => openFile stream access (Text.lossyText text))
    | .stream word => (word, fun text => openNamed stream (Text.lossyText text))
    | .text word => (word, fun text sh =>
      let (channel, sh) := sh.openChannel text false
      .done (true, sh.connect stream (some channel)))
  let (text, sh) ← wholeText inner word sh
  if sh.leave.isSome then return (false, sh) else act text sh

/-- Obeys redirections in order, up to one that cannot be obeyed. -/
def redirectAll (inner : Inner) : List Redirection → Shell → DiskTask (Bool × Shell)
  | [], sh => .done (true, sh)
  | redirection :: rest, sh => do
    let (worked, sh) ← redirect inner redirection sh
    if worked then redirectAll inner rest sh else return (false, sh)

end Workbench.Shell
