import Workbench.Console.Command
import Workbench.Console.Render
import Workbench.Disk.Path
import Workbench.Disk.Text
import Workbench.Runner.Basic

/-!
# Consoles

A console puts a runner before a user. It takes one input after another and answers with what is to
be shown. It keeps count of the entries of the transcript that have been shown; the rest is shown
whenever the queue of events has been drained.
-/

namespace Workbench

/-- One input. -/
inductive Console.Input where
  | line (text : String)
  /-- Events are waiting. -/
  | wake
  /-- The user wants the run to stop. -/
  | interrupt
  /-- There are no more lines. -/
  | endOfInput
  deriving DecidableEq, Repr

/-- A console. -/
structure Console where
  runner : Runner
  /-- How many entries of the transcript have been shown. -/
  printed : Nat := 0
  /-- The file of the program. -/
  path : Option String := none
  /-- Where copies of the program are put. -/
  exportDir : String

/-- What a console does with an input. -/
structure Console.Reply where
  console : Console
  chunks : List Chunk := []
  /-- Whether the user is done. -/
  quits : Bool := false

namespace Console

/-- The session of a console. -/
def session (c : Console) : Session :=
  c.runner.session

/-- Drains the queue and shows the entries that were not shown yet. -/
def showNew (now : String) (c : Console) : Reply :=
  let runner := (c.runner.flush now).2
  let transcript := runner.session.transcript
  let shown := if transcript.length < c.printed then 0 else c.printed
  { console := { c with runner, printed := transcript.length }
    chunks := (transcript.since shown).map Chunk.ofEntry }

/-- The same reply with something shown before it. -/
def Reply.after (chunks : List Chunk) (reply : Reply) : Reply :=
  { reply with chunks := chunks ++ reply.chunks }

/-! ### Runs -/

/-- What is shown of the answer to a dispatch: rejections leave no trace in the transcript, so they
are shown here. -/
def rejection {α : Type} : Except SessionError α → List Chunk
  | .ok _ => []
  | .error error => if error.isRejection then [.err error.message] else []

/-- Shows how a dispatch went. -/
def report {α : Type} (now : String) (c : Console) (answer : Except SessionError α × Runner) :
    Reply :=
  ({ c with runner := answer.2 }.showNew now).after (rejection answer.1)

/-- Aborts the run in flight, or shows that there is none. -/
def abortRun (now : String) (idleText : String) (c : Console) : Reply :=
  let (stopped, runner) := c.runner.abort
  ({ c with runner }.showNew now).after (if stopped then [] else [.err idleText])

/-! ### The program -/

/-- The program with a line added: it starts on a line of its own. -/
def appended (text code : String) : String :=
  if text = "" ∨ text.toList.getLast? = some '\n' then text ++ code else text ++ "\n" ++ code

/-- The program as it is shown. -/
def programText (program : Program) : String :=
  let title := if program.title = "" then "untitled" else program.title
  let mark := if program.dirty then " (modified)" else ""
  s!"-- {title}{mark} --\n{program.text}"

/-- Replaces the session without a word. -/
def withSession (c : Console) (session : Session) : Console :=
  { c with runner := { c.runner with session } }

/-- Loads a program. -/
def openFile (path : String) (c : Console) : DiskTask Reply :=
  .readText path fun
    | .error error =>
      .done { console := c, chunks := [.err s!"Failed to open {path}: {error.message}"] }
    | .ok text =>
      let title := (Path.fileName? path).getD ""
      .done {
        console := { c with
          runner := c.runner.openProgram (.loaded path title text)
          path := some path
          printed := 0 }
        chunks := [.out s!"Opened {title}."] }

/-- Writes the program back to its file. -/
def save (c : Console) : DiskTask Reply :=
  match c.path with
  | none =>
    .done { console := c
            chunks := [.err "Nothing to save: the source was not opened from a file."] }
  | some path =>
    if !c.session.program.canSave then
      .done { console := c, chunks := [.out "No unsaved changes."] }
    else
      .writeText path c.session.program.text fun
        | .ok () =>
          .done { console := c.withSession c.session.markSaved, chunks := [.out s!"Saved {path}."] }
        | .error error =>
          .done { console := c, chunks := [.err s!"Failed to save {path}: {error.message}"] }

/-- Writes a copy of the program. -/
def saveCopy (c : Console) : DiskTask Reply :=
  let path := Path.join c.exportDir c.session.program.exportName
  .writeText path c.session.program.text fun
    | .ok () => .done { console := c, chunks := [.out s!"Exported to {path}."] }
    | .error error =>
      .done { console := c, chunks := [.err s!"Failed to export {path}: {error.message}"] }

/-! ### History -/

/-- A recalled line as it is shown. -/
def recalled : Option String → Chunk
  | none => .err "(no further history)"
  | some line => .out (if line = "" then "(draft)" else line)

/-! ### Inputs -/

/-- Obeys a command. -/
def obey (now : String) (command : Command) (c : Console) : DiskTask Reply :=
  match command with
  | .openFile path => c.openFile path
  | .append code =>
    let text := appended c.session.program.text code
    .done { console := c.withSession (c.session.setProgramText text).2 }
  | .showProgram => .done { console := c, chunks := [.out (programText c.session.program)] }
  | .newProgram => .done { console := c.withSession c.session.clearProgram }
  | .run => .done (c.report now c.runner.runProgram)
  | .save => c.save
  | .saveCopy => c.saveCopy
  | .abort => .done (c.abortRun now "No run in flight.")
  | .clear =>
    match c.runner.clear with
    | (.ok (), runner) => .done { console := { c with runner, printed := 0 } }
    | (.error error, runner) =>
      .done { console := { c with runner }, chunks := [.err error.message] }
  | .showHistory =>
    .done { console := c, chunks := [⟨.out, renderHistory c.session.history.lines⟩] }
  | .previous =>
    .done { console := c.withSession c.session.previous.2
            chunks := [recalled c.session.previous.1] }
  | .next =>
    .done { console := c.withSession c.session.next.2, chunks := [recalled c.session.next.1] }
  | .showBindings => .done { console := c, chunks := [⟨.out, c.session.bindings.render⟩] }
  | .help => .done { console := c, chunks := [.out Command.helpText] }
  | .quit => .done { console := c, quits := true }
  | .missingArgument word =>
    .done { console := c, chunks := [.err s!"{word} needs an argument. See :help."] }
  | .unknown word =>
    .done { console := c, chunks := [.err s!"Unknown command {word}. See :help."] }

/-- Takes a line: a command, nothing, or something to run. -/
def takeLine (now : String) (line : String) (c : Console) : DiskTask Reply :=
  match Command.ofLine? line with
  | some command => c.obey now command
  | none =>
    if Text.allBlank line then .done { console := c }
    else .done (c.report now (c.runner.runLine line))

/-- Takes an input. -/
def take (now : String) (input : Input) (c : Console) : DiskTask Reply :=
  match input with
  | .line text => c.takeLine now text
  | .wake => .done (c.showNew now)
  | .interrupt => .done (c.abortRun now "No run in flight. Use :quit to exit.")
  | .endOfInput => .done { console := c, quits := true }

end Console

end Workbench
