import Workbench.Runner.Slots

/-!
# Runners

A runner puts a session together with the slots its runs use and a queue of events. What happens
inside a run touches neither the session nor the slots: it only adds an event to the queue, and the
events take effect when the queue is drained. An event about a run that is not in the active slot
has none.

Whoever adds an event to an empty queue has to *wake* the owner of the runner, so that the queue is
drained; `enqueue` and `wake` are separate, because other things can happen in between.
-/

namespace Workbench

/-- A session that runs things. -/
structure Runner where
  session : Session
  slots : Slots
  /-- Events that have not taken effect. -/
  queue : List RunEvent := []
  /-- Whether someone wants to be woken. -/
  hasWaker : Bool := true
  /-- How often the owner was woken. -/
  wakes : Nat := 0

namespace Runner

/-- A runner that has done nothing yet. -/
def new (policy : CommitPolicy) (supply : Supply) (hasWaker : Bool := true) : Runner where
  session := { policy }
  slots := { supply }
  hasWaker

/-! ### Events -/

/-- Adds an event to the queue; says whether the owner has to be woken. -/
def enqueue (event : RunEvent) (r : Runner) : Bool × Runner :=
  (r.queue.isEmpty, { r with queue := r.queue ++ [event] })

/-- Wakes the owner, if someone wants to be woken. -/
def wake (r : Runner) : Runner :=
  if r.hasWaker then { r with wakes := r.wakes + 1 } else r

/-- Adds an event to the queue and wakes the owner if the queue was empty. -/
def post (event : RunEvent) (r : Runner) : Runner :=
  match r.enqueue event with
  | (true, r) => r.wake
  | (false, r) => r

/-- Takes the first event off the queue. -/
def pop (r : Runner) : Option RunEvent × Runner :=
  match r.queue with
  | [] => (none, r)
  | event :: rest => (some event, { r with queue := rest })

/-! ### Asking the session -/

/-- The runner after its session and its slots did something together. -/
def withSession {α : Type} (act : Session → Slots → α × Session × Slots) (r : Runner) :
    α × Runner :=
  match act r.session r.slots with
  | (answer, session, slots) => (answer, { r with session, slots })

/-- Runs a source. -/
def dispatch (mode : RunMode) (source : String) (r : Runner) : Except SessionError Nat × Runner :=
  r.withSession (Session.dispatch Slots.host mode source)

/-- Submits a line and runs it. -/
def runLine (line : String) (r : Runner) : Except SessionError Nat × Runner :=
  r.withSession (Session.runLine Slots.host line)

/-- Runs the program. -/
def runProgram (r : Runner) : Except SessionError Nat × Runner :=
  r.withSession (Session.runProgram Slots.host)

/-- Aborts the run in flight; says whether there was one. -/
def abort (r : Runner) : Bool × Runner :=
  r.withSession (Session.abort Slots.host)

/-- Takes another program. -/
def openProgram (program : Program) (r : Runner) : Runner :=
  match r.session.openProgram Slots.host program r.slots with
  | (session, slots) => { r with session, slots }

/-- Aborts the run in flight and destroys all contexts. Later runs use new ones. -/
def shutdown (r : Runner) : Runner :=
  let r := r.abort.2
  { r with slots := r.slots.shutdown }

/-- Lets go of the runner: its contexts are destroyed, its session is left as it is. -/
def drop (r : Runner) : Runner :=
  { r with slots := r.slots.shutdown }

/-- What only the session has to know: the slots stay as they are. -/
def onSession {α : Type} (act : Session → α × Session) (r : Runner) : α × Runner :=
  match act r.session with
  | (answer, session) => (answer, { r with session })

/-- Drops the transcript and the bindings, unless a run is in flight. -/
def clear (r : Runner) : Except SessionError Unit × Runner :=
  r.onSession Session.clear

/-! ### Draining the queue -/

/-- Lets an event take effect, at the time `now`. -/
def apply (now : String) (event : RunEvent) (r : Runner) : Runner :=
  if r.slots.isActive event.ticket then
    match event with
    | .completed ticket response =>
      match r.session.complete now ticket.generation response with
      | (.applied, session) => { r with session, slots := r.slots.finish ticket true }
      | (.stale, session) => { r with session }
    | .failed ticket message =>
      match r.session.fail ticket.generation message with
      | (.applied, session) => { r with session, slots := r.slots.finish ticket false }
      | (.stale, session) => { r with session }
    | .timedOut _ => r.abort.2
  else r

/-- Lets all queued events take effect in order; says how many there were. -/
def flush (now : String) (r : Runner) : Nat × Runner :=
  (r.queue.length, r.queue.foldl (fun r event => r.apply now event) { r with queue := [] })

/-! ### Inside the runs -/

/-- The number of the run in flight; runs are counted from zero in the order they start. -/
def current? (r : Runner) : Option Nat :=
  r.slots.active.bind fun active => r.slots.workers.findIdx? (·.ticket = active.ticket)

/-- Reports an event as the end of the run with the given number. -/
def report (run : Nat) (event : RunEvent) (r : Runner) : Runner :=
  { r with
    slots.workers := r.slots.workers.modify run fun w => { w with reported := true } }.post event

end Runner

end Workbench
