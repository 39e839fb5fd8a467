import Workbench.Context
import Workbench.Disk.Task
import Workbench.Runner.Basic

/-!
# Runs that are left alone

`conclude` says what becomes of a run in flight when nothing else happens: it ends as its context
says, or its time is up before that, or it goes on for ever.
-/

namespace Workbench.Runner

open Context (Signals Ending)

/-- What a context does with a request; it may use files. -/
abbrev Execution : Type :=
  Signals → Request → DiskTask Ending

/-- What is reported about a run that ended, or that was asked to stop because its time was up;
nothing if it goes on for ever. -/
def conclusion? (timeout : Option Nat) (ticket : Ticket) : Ending → Option RunEvent
  | .responded response => some (.completed ticket response)
  | .broke message =>
    if timeout.isSome ∧ message = Context.cancelledText then some (.timedOut ticket)
    else some (.failed ticket message)
  | .never => none

/-- Waits for the end of the run in flight, if there is one and it has an end. -/
def conclude (execution : Execution) (timeout : Option Nat) (r : Runner) : DiskTask Runner :=
  match r.current? with
  | none => .done r
  | some run =>
    match r.slots.workers[run]? with
    | none => .done r
    | some w =>
      (execution { stopAt := timeout } w.request).map fun ending =>
        match conclusion? timeout w.ticket ending with
        | none => r
        | some (.timedOut ticket) => r.post (.timedOut ticket)
        | some event => r.report run event

end Workbench.Runner
