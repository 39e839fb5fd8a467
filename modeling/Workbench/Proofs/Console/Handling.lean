import Workbench.Console.Loop
import Workbench.Proofs.Runner.Moves

/-!
# The parts of handling an input

What a console does with an input has two parts. First it does what the input asks for, and shows
what there is to say about that. Then, after some inputs, it drains the queue and shows the entries
that were not shown yet. Other threads may add to the queue at any moment, so what they do has to be
put between the parts, and between the events that are drained.

`Console.begin` is the first part and `Begun.finish` the second one. Together they are
`Console.take`, the function that runs (`take_eq`). The first part leaves the queue alone: to the
runner it is one operation, or nothing (`operates_begin`).
-/

namespace Workbench

namespace DiskTask

variable {α β γ : Type}

theorem map_map (f : α → β) (g : β → γ) (task : DiskTask α) :
    (task.map f).map g = task.map fun a ↦ g (f a) := by
  induction task with
  | done => rfl
  | ask request next ih => exact congrArg (ask request) (funext ih)

theorem map_id (task : DiskTask α) : (task.map fun a ↦ a) = task := by
  induction task with
  | done => rfl
  | ask request next ih => exact congrArg (ask request) (funext ih)

/-- What a task ends with if its requests get these answers. -/
def result (answer : (request : DiskRequest) → request.Answer) : DiskTask α → α
  | done result => result
  | ask request next => (next (answer request)).result answer

@[simp]
theorem result_map (answer : (request : DiskRequest) → request.Answer) (f : α → β)
    (task : DiskTask α) : (task.map f).result answer = f (task.result answer) := by
  induction task with
  | done => rfl
  | ask request next ih => exact ih (answer request)

end DiskTask

namespace Console

variable {c : Console}

/-! ### Showing without draining -/

/-- Shows the entries that were not shown yet, and leaves the queue as it is. -/
def present (c : Console) : Reply where
  console := { c with printed := c.session.transcript.length }
  chunks := (c.session.transcript.since
    (if c.session.transcript.length < c.printed then 0 else c.printed)).map Chunk.ofEntry

theorem showNew_eq (now : String) (c : Console) :
    c.showNew now = { c with runner := (c.runner.flush now).2 }.present :=
  rfl

/-! ### The first part -/

/-- A console that has done what an input asks for. -/
structure Begun where
  reply : Reply
  /-- Whether it goes on to drain the queue and to show the entries that were not shown yet. -/
  drains : Bool := false

/-- Takes note of the answer to a dispatch. -/
def beginReport {α : Type} (c : Console) (answer : Except SessionError α × Runner) : Begun where
  reply := { console := { c with runner := answer.2 }, chunks := rejection answer.1 }
  drains := true

/-- Aborts the run in flight, or shows that there is none. -/
def beginAbort (idleText : String) (c : Console) : Begun where
  reply :=
    { console := { c with runner := c.runner.abort.2 }
      chunks := if c.runner.abort.1 then [] else [.err idleText] }
  drains := true

/-- Begins to obey a command. Only two commands drain the queue. -/
def beginCommand (now : String) (command : Command) (c : Console) : DiskTask Begun :=
  match command with
  | .run => .done (c.beginReport c.runner.runProgram)
  | .abort => .done (c.beginAbort "No run in flight.")
  | command => (c.obey now command).map fun reply ↦ { reply }

/-- Begins to handle a line. -/
def beginLine (now : String) (line : String) (c : Console) : DiskTask Begun :=
  match Command.ofLine? line with
  | some command => c.beginCommand now command
  | none =>
    if Text.allBlank line then .done { reply := { console := c } }
    else .done (c.beginReport (c.runner.runLine line))

/-- Begins to handle an input. -/
def begin (now : String) (input : Input) (c : Console) : DiskTask Begun :=
  match input with
  | .line text => c.beginLine now text
  | .wake => .done { reply := { console := c }, drains := true }
  | .interrupt => .done (c.beginAbort "No run in flight. Use :quit to exit.")
  | .endOfInput => .done { reply := { console := c, quits := true } }

/-! ### Both parts -/

/-- The rest of what is done with an input. -/
def Begun.finish (now : String) (begun : Begun) : Reply :=
  if begun.drains then (begun.reply.console.showNew now).after begun.reply.chunks
  else begun.reply

theorem obey_eq (now : String) (command : Command) (c : Console) :
    c.obey now command = (c.beginCommand now command).map (Begun.finish now) := by
  unfold beginCommand
  split
  · rfl
  · rfl
  · rw [DiskTask.map_map]
    exact (DiskTask.map_id _).symm

theorem takeLine_eq (now line : String) (c : Console) :
    c.takeLine now line = (c.beginLine now line).map (Begun.finish now) := by
  rw [takeLine, beginLine]
  cases Command.ofLine? line with
  | some command => exact c.obey_eq now command
  | none =>
    dsimp only
    split
    · rfl
    · rfl

/-- The two parts make up what is done with an input. -/
theorem take_eq (now : String) (input : Input) (c : Console) :
    c.take now input = (c.begin now input).map (Begun.finish now) := by
  cases input with
  | line text => exact c.takeLine_eq now text
  | wake => rfl
  | interrupt => rfl
  | endOfInput => rfl

/-- Two replies one after another are one. -/
theorem Loop.note_note (loop : Loop) (reply reply' : Reply) :
    (loop.note reply).note reply' = loop.note (reply'.after reply.chunks) := by
  rw [Reply.after, note, note, note, List.append_assoc]

/-! ### What the first part does to the runner -/

/-- A reply for which the runner was left alone, or asked for one operation. -/
def Reply.Operates (c : Console) (reply : Reply) : Prop :=
  reply.console.runner = c.runner ∨ ∃ call, reply.console.runner = c.runner.perform call

section Operates

variable (answer : (request : DiskRequest) → request.Answer) (now : String) (c : Console)

theorem operates_openFile (path : String) : ((c.openFile path).result answer).Operates c := by
  rw [openFile, DiskTask.readText, DiskTask.read, DiskTask.result]
  split
  · exact .inl rfl
  · exact .inr ⟨.openProgram _, rfl⟩

theorem operates_save : (c.save.result answer).Operates c := by
  rw [save]
  split
  · exact .inl rfl
  · split
    · exact .inl rfl
    · rw [DiskTask.writeText, DiskTask.write, DiskTask.result]
      split
      · exact .inr ⟨.markSaved, rfl⟩
      · exact .inl rfl

theorem operates_saveCopy : (c.saveCopy.result answer).Operates c := by
  rw [saveCopy, DiskTask.writeText, DiskTask.write, DiskTask.result]
  split
  · exact .inl rfl
  · exact .inl rfl

theorem operates_clear : ((c.obey now .clear).result answer).Operates c := by
  refine .inr ⟨.clear, ?_⟩
  rw [obey, Runner.perform]
  split
  · rename_i heq
    rw [heq]
    rfl
  · rename_i heq
    rw [heq]
    rfl

theorem operates_beginCommand (command : Command) :
    ((c.beginCommand now command).result answer).reply.Operates c := by
  unfold beginCommand
  split
  · exact .inr ⟨.runProgram, rfl⟩
  · exact .inr ⟨.abort, rfl⟩
  · rename_i hrun habort
    rw [DiskTask.result_map]
    cases command with
    | run => exact absurd rfl hrun
    | abort => exact absurd rfl habort
    | openFile path => exact operates_openFile answer c path
    | save => exact operates_save answer c
    | saveCopy => exact operates_saveCopy answer c
    | clear => exact operates_clear answer now c
    | append code => exact .inr ⟨.setProgramText _, rfl⟩
    | newProgram => exact .inr ⟨.clearProgram, rfl⟩
    | previous => exact .inr ⟨.previous, rfl⟩
    | next => exact .inr ⟨.next, rfl⟩
    | showProgram | showHistory | showBindings | help | quit | missingArgument | unknown =>
      exact .inl rfl

theorem operates_beginLine (line : String) :
    ((c.beginLine now line).result answer).reply.Operates c := by
  rw [beginLine]
  split
  · exact operates_beginCommand answer now c _
  · split
    · exact .inl rfl
    · exact .inr ⟨.runLine line, rfl⟩

/-- To the runner, the first part of handling an input is one operation, or nothing. -/
theorem operates_begin (input : Input) : ((c.begin now input).result answer).reply.Operates c := by
  cases input with
  | line text => exact operates_beginLine answer now c text
  | interrupt => exact .inr ⟨.abort, rfl⟩
  | wake => exact .inl rfl
  | endOfInput => exact .inl rfl

end Operates

end Console

end Workbench
