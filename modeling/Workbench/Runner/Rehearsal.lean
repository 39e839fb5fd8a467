import Workbench.Runner.Basic
import Workbench.Snippet.Run

/-!
# Rehearsals

In a rehearsal every run is held until it is let go, so that the order of events is in the hands of
the one who rehearses. How a run ends is scripted; without a script it executes its source as a
snippet.

A run that is told to stop while it is held ends at once, unless its script is *stubborn*. `settle`
lets the runs end that have a reason to; it belongs after everything that may have stopped one.
-/

namespace Workbench

/-- How a run ends. -/
inductive Part where
  /-- By executing its source; the time it takes is not counted. -/
  | snippet
  | respond (response : Response)
  | fail (message : String)
  | panic
  deriving DecidableEq

/-- The script of a run. -/
structure Script where
  part : Part := .snippet
  /-- Whether the run stays held when it is told to stop. -/
  stubborn : Bool := false
  deriving DecidableEq

/-- What a rehearsal knows beside its runner. Runs are counted from zero in the order they start. -/
structure Rehearsal where
  /-- The scripts of the first runs. -/
  scripts : List Script := []
  /-- The runs that were let go. -/
  released : List Nat := []
  /-- The runs whose time is up. -/
  expired : List Nat := []
  deriving DecidableEq

namespace Rehearsal

/-- The script of a run. -/
def scriptOf (stage : Rehearsal) (run : Nat) : Script :=
  stage.scripts[run]?.getD {}

/-- What a run reports when it ends; nothing if it does not end. -/
def ending? (part : Part) (w : Worker) : Option RunEvent :=
  match part with
  | .respond response => some (.completed w.ticket response)
  | .fail message => some (.failed w.ticket message)
  | .panic => some (.panicked w.ticket)
  | .snippet =>
    match Snippet.execute { destroyed := w.cancelled } w.request with
    | .responded response => some (.completed w.ticket { response with seconds := 0 })
    | .broke message => some (.failed w.ticket message)
    | .never => none

/-- Lets a run end, if it has not ended and does end. -/
def finish (stage : Rehearsal) (run : Nat) (r : Runner) : Runner :=
  match r.slots.workers[run]? with
  | none => r
  | some w =>
    if w.reported then r
    else (ending? (stage.scriptOf run).part w).elim r fun event => r.report run event

/-- Whether a run that was told to stop is free to end. -/
def isLoose (stage : Rehearsal) (run : Nat) (w : Worker) : Bool :=
  w.cancelled && (!(stage.scriptOf run).stubborn || stage.released.contains run)

/-- Lets all runs end that were told to stop and are free to. -/
def settle (stage : Rehearsal) (r : Runner) : Runner :=
  (List.range r.slots.workers.length).foldl
    (fun r run =>
      if (r.slots.workers[run]?).any (stage.isLoose run) then stage.finish run r else r) r

/-- Lets a run go. Says whether there was such a run to let go. -/
def release (run : Nat) (stage : Rehearsal) (r : Runner) : Bool × Rehearsal × Runner :=
  if run < r.slots.workers.length ∧ run ∉ stage.released then
    let stage := { stage with released := stage.released ++ [run] }
    (true, stage, stage.finish run r)
  else (false, stage, r)

/-- Lets the run in flight go. Says whether there was one. -/
def releaseCurrent (stage : Rehearsal) (r : Runner) : Bool × Rehearsal × Runner :=
  match r.current? with
  | none => (false, stage, r)
  | some run => (true, (stage.release run r).2)

/-- The time of the run in flight is up. Says whether there was one. -/
def expire (stage : Rehearsal) (r : Runner) : Bool × Rehearsal × Runner :=
  match r.slots.active, r.current? with
  | some active, some run =>
    if run ∈ stage.expired then (true, stage, r)
    else (true, { stage with expired := stage.expired ++ [run] }, r.post (.timedOut active.ticket))
  | _, _ => (false, stage, r)

/-- Drains the queue until no run is in flight because its time was up, and once more after the run
that was given up has ended. Says how many events there were. -/
def awaitTimeout (now : String) (stage : Rehearsal) (r : Runner) : Nat × Rehearsal × Runner :=
  let (first, r) := r.flush now
  let (_, stage, r) := stage.expire r
  let (second, r) := r.flush now
  let (third, r) := (stage.settle r).flush now
  (first + second + third, stage, r)

end Rehearsal

end Workbench
