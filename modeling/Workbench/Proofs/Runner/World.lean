import Mathlib.Logic.Function.Basic
import Workbench.Proofs.Runner.Coherent

/-!
# A runner and the threads around it

Several threads share a runner. Its users call operations. Every run that was started has a worker,
which executes it in its context, keeps what the execution returned, and then reports that; and it
may have a watchdog, which waits until the time of the run is up and then, unless the run was told
to stop, raises an alarm. Any number of threads drain the queue: each takes an event off and lets it
take effect, and then looks for the next.

A `World` is a moment between two steps of these threads, and an `Act` is one step: what a thread
does while it holds a lock, or what it finds out by itself. An operation holds the locks of session
and slots from beginning to end. Taking an event off the queue and letting it take effect are two
acts, and so are the return of an execution and its report, and the last look of a watchdog and its
alarm; anything may happen in between. A quick worker may report before the operation that started
its run has come to its end; the operation does not look at the queue, and no event takes effect
before it ends, so the order of the two makes no difference.

`World.act` is total: a thread that is not in a position to act leaves the world as it is. So every
list of acts is a schedule, and what holds after every list of acts holds under every interleaving.
`World.Acted` lists what an act can change, with the position that it needs.

Generations and sequence numbers are natural numbers: what is shown here is shown of a runner whose
counters do not overflow.

A run without a time limit, or one whose watchdog could not be set up, is a run whose watchdog never
acts. When a time is up is not modelled: it may be at any moment.
-/

namespace Workbench

/-- How the execution of a run ended inside its context. -/
inductive Outcome where
  | responded (response : Response)
  | broke (message : String)
  | panicked
  deriving DecidableEq

namespace Outcome

/-- What a worker reports about an execution that ended so. -/
def event (ticket : Ticket) : Outcome → RunEvent
  | responded response => .completed ticket response
  | broke message => .failed ticket message
  | panicked => .panicked ticket

@[simp]
theorem ticket_event (ticket : Ticket) (outcome : Outcome) :
    (outcome.event ticket).ticket = ticket := by
  cases outcome <;> rfl

theorem event_ne_timedOut (ticket ticket' : Ticket) (outcome : Outcome) :
    outcome.event ticket ≠ .timedOut ticket' := by
  cases outcome <;> simp [event, RunEvent.panicked]

end Outcome

/-- How far the watchdog of a run is. -/
inductive Watch where
  /-- It waits for the time of its run to be up. -/
  | waiting
  /-- It found the time up and its run not told to stop, and is about to raise the alarm. -/
  | late
  /-- It has raised the alarm. -/
  | alarmed
  /-- It found its run told to stop, and left. -/
  | off
  deriving DecidableEq, Repr

/-- A runner and how far the threads around it are. Runs are counted from zero in the order they
start. -/
structure World where
  runner : Runner
  /-- What the execution of a run returned, once it has. -/
  outcome? : Nat → Option Outcome := fun _ ↦ none
  /-- The watchdog of a run. -/
  watch : Nat → Watch := fun _ ↦ .waiting
  /-- The event that a draining thread took off the queue and has not let take effect yet. -/
  held : Nat → Option RunEvent := fun _ ↦ none

/-- One step of one thread. -/
inductive Act where
  /-- A user calls an operation. -/
  | call (call : Call)
  /-- The execution of a run returns to its worker. -/
  | returns (run : Nat) (outcome : Outcome)
  /-- The worker of a run reports how it ended. -/
  | reports (run : Nat)
  /-- The watchdog of a run looks whether the run was told to stop, with its time up or not. -/
  | looks (run : Nat) (late : Bool)
  /-- The watchdog of a run raises the alarm. -/
  | alarms (run : Nat)
  /-- A draining thread takes the first event off the queue. -/
  | takes (thread : Nat)
  /-- A draining thread lets the event that it took take effect. -/
  | applies (thread : Nat) (now : String)

namespace World

/-- A new runner, and no threads around it. -/
def new (policy : CommitPolicy) (supply : Supply) (hasWaker : Bool) : World where
  runner := .new policy supply hasWaker

/-- The world after one act. -/
def act (w : World) : Act → World
  | .call call => { w with runner := w.runner.perform call }
  | .returns run outcome =>
    match w.runner.slots.workers[run]?, w.outcome? run with
    | some _, none => { w with outcome? := Function.update w.outcome? run (some outcome) }
    | _, _ => w
  | .reports run =>
    match w.runner.slots.workers[run]?, w.outcome? run with
    | some worker, some outcome =>
      if worker.reported then w
      else { w with runner := w.runner.report run (outcome.event worker.ticket) }
    | _, _ => w
  | .looks run late =>
    match w.runner.slots.workers[run]?, w.watch run with
    | some worker, .waiting =>
      if worker.cancelled then { w with watch := Function.update w.watch run .off }
      else if late then { w with watch := Function.update w.watch run .late }
      else w
    | _, _ => w
  | .alarms run =>
    match w.runner.slots.workers[run]?, w.watch run with
    | some worker, .late =>
      { w with
        runner := w.runner.post (.timedOut worker.ticket)
        watch := Function.update w.watch run .alarmed }
    | _, _ => w
  | .takes thread =>
    match w.held thread with
    | none =>
      { w with runner := w.runner.pop.2, held := Function.update w.held thread w.runner.pop.1 }
    | some _ => w
  | .applies thread now =>
    match w.held thread with
    | none => w
    | some event =>
      { w with runner := w.runner.apply now event, held := Function.update w.held thread none }

/-- The world after a schedule. -/
def after (w : World) (acts : List Act) : World :=
  acts.foldl act w

variable {w : World}

@[simp]
theorem after_nil (w : World) : w.after [] = w :=
  rfl

@[simp]
theorem after_cons (w : World) (a : Act) (acts : List Act) :
    w.after (a :: acts) = (w.act a).after acts :=
  rfl

theorem after_append (w : World) (acts acts' : List Act) :
    w.after (acts ++ acts') = (w.after acts).after acts' :=
  List.foldl_append

/-! ### Acts of single threads -/

section Acts

variable {run thread : Nat} {event : RunEvent}

theorem act_looks_of_ne (late : Bool) (hwatch : w.watch run ≠ .waiting) :
    w.act (.looks run late) = w := by
  rw [act]
  split
  · rename_i hwaiting
    exact absurd hwaiting hwatch
  · rfl

theorem act_alarms_of_ne (hwatch : w.watch run ≠ .late) : w.act (.alarms run) = w := by
  rw [act]
  split
  · rename_i hlate
    exact absurd hlate hwatch
  · rfl

theorem act_takes {rest : List RunEvent} (free : w.held thread = none)
    (queue : w.runner.queue = event :: rest) :
    w.act (.takes thread) =
      { w with
        runner := { w.runner with queue := rest }
        held := Function.update w.held thread (some event) } := by
  rw [act, free, Runner.pop, queue]

theorem act_takes_of_nil (free : w.held thread = none) (queue : w.runner.queue = []) :
    w.act (.takes thread) = w := by
  have hpop : w.runner.pop = (none, w.runner) := by rw [Runner.pop, queue]
  have hheld : Function.update w.held thread none = w.held := by
    rw [← free, Function.update_eq_self]
  rw [act, free, hpop, hheld]

theorem act_takes_of_held (holds : w.held thread = some event) : w.act (.takes thread) = w := by
  rw [act, holds]

theorem act_applies (now : String) (holds : w.held thread = some event) :
    w.act (.applies thread now) =
      { w with
        runner := w.runner.apply now event
        held := Function.update w.held thread none } := by
  rw [act, holds]

theorem act_applies_of_free (now : String) (free : w.held thread = none) :
    w.act (.applies thread now) = w := by
  rw [act, free]

end Acts

/-! ### What an act can change -/

/-- The changes that an act can make, each with what it needs. -/
inductive Acted (w : World) : Act → World → Prop where
  | rests (a : Act) : Acted w a w
  | calls (call : Call) : Acted w (.call call) { w with runner := w.runner.perform call }
  | returns {run : Nat} {outcome : Outcome} {worker : Worker}
      (started : w.runner.slots.workers[run]? = some worker) (before : w.outcome? run = none) :
      Acted w (.returns run outcome)
        { w with outcome? := Function.update w.outcome? run (some outcome) }
  | reports {run : Nat} {outcome : Outcome} {worker : Worker}
      (started : w.runner.slots.workers[run]? = some worker)
      (returned : w.outcome? run = some outcome) (before : worker.reported = false) :
      Acted w (.reports run)
        { w with runner := w.runner.report run (outcome.event worker.ticket) }
  | looks {run : Nat} {late : Bool} {worker : Worker} {watch : Watch}
      (started : w.runner.slots.workers[run]? = some worker) (before : w.watch run = .waiting)
      (found : watch = .late ∨ watch = .off) :
      Acted w (.looks run late) { w with watch := Function.update w.watch run watch }
  | alarms {run : Nat} {worker : Worker}
      (started : w.runner.slots.workers[run]? = some worker) (before : w.watch run = .late) :
      Acted w (.alarms run)
        { w with
          runner := w.runner.post (.timedOut worker.ticket)
          watch := Function.update w.watch run .alarmed }
  | takes {thread : Nat} {event : RunEvent} {rest : List RunEvent}
      (free : w.held thread = none) (queue : w.runner.queue = event :: rest) :
      Acted w (.takes thread)
        { w with
          runner := { w.runner with queue := rest }
          held := Function.update w.held thread (some event) }
  | applies {thread : Nat} {now : String} {event : RunEvent}
      (holds : w.held thread = some event) :
      Acted w (.applies thread now)
        { w with runner := w.runner.apply now event, held := Function.update w.held thread none }

theorem acted (w : World) (a : Act) : Acted w a (w.act a) := by
  cases a with
  | call call => exact .calls call
  | returns run outcome =>
    rw [act]
    split
    · exact .returns ‹_› ‹_›
    · exact .rests _
  | reports run =>
    rw [act]
    split
    · rename_i worker outcome hstarted hreturned
      split
      · exact .rests _
      · rename_i hreported
        exact .reports hstarted hreturned (by simpa using hreported)
    · exact .rests _
  | looks run late =>
    rw [act]
    split
    · rename_i worker hstarted hwaiting
      split
      · exact .looks hstarted hwaiting (.inr rfl)
      · split
        · exact .looks hstarted hwaiting (.inl rfl)
        · exact .rests _
    · exact .rests _
  | alarms run =>
    rw [act]
    split
    · exact .alarms ‹_› ‹_›
    · exact .rests _
  | takes thread =>
    cases hheld : w.held thread with
    | some event =>
      rw [act_takes_of_held hheld]
      exact .rests _
    | none =>
      cases hqueue : w.runner.queue with
      | nil =>
        rw [act_takes_of_nil hheld hqueue]
        exact .rests _
      | cons event rest =>
        rw [act_takes hheld hqueue]
        exact .takes hheld hqueue
  | applies thread now =>
    cases hheld : w.held thread with
    | none =>
      rw [act_applies_of_free now hheld]
      exact .rests _
    | some event =>
      rw [act_applies now hheld]
      exact .applies hheld

end World

/-! ### Adding events to the queue -/

namespace Runner

variable (r : Runner) (run : Nat) (event : RunEvent)

theorem post_eq : ∃ wakes, r.post event = { r with queue := r.queue ++ [event], wakes } := by
  rw [post, enqueue]
  split
  · rename_i heq
    obtain ⟨-, rfl⟩ := Prod.mk.inj heq
    rw [wake]
    split
    · exact ⟨_, rfl⟩
    · exact ⟨_, rfl⟩
  · rename_i heq
    obtain ⟨-, rfl⟩ := Prod.mk.inj heq
    exact ⟨_, rfl⟩

@[simp]
theorem session_post : (r.post event).session = r.session := by
  obtain ⟨wakes, heq⟩ := r.post_eq event
  rw [heq]

@[simp]
theorem slots_post : (r.post event).slots = r.slots := by
  obtain ⟨wakes, heq⟩ := r.post_eq event
  rw [heq]

@[simp]
theorem queue_post : (r.post event).queue = r.queue ++ [event] := by
  obtain ⟨wakes, heq⟩ := r.post_eq event
  rw [heq]

@[simp]
theorem session_report : (r.report run event).session = r.session :=
  session_post _ _

@[simp]
theorem queue_report : (r.report run event).queue = r.queue ++ [event] :=
  queue_post _ _

@[simp]
theorem slots_report : (r.report run event).slots = r.slots.report run :=
  slots_post _ _

variable {r run event}

/-- A report leaves session and slots in agreement. -/
theorem Coherent.report (h : r.Coherent) : (r.report run event).Coherent where
  slots := by
    rw [slots_report]
    exact h.slots.report run
  generation_eq := by
    rw [session_report, slots_report]
    exact h.generation_eq
  current hflight := by
    rw [session_report] at hflight ⊢
    exact h.current hflight
  request_eq hflight := by
    rw [session_report] at hflight
    obtain ⟨w, hw, hrequest⟩ := h.request_eq hflight
    rw [slots_report, Slots.getLast?_workers_report, hw]
    refine ⟨_, rfl, ?_⟩
    split <;> exact hrequest

end Runner

end Workbench
