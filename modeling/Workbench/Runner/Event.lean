import Workbench.Wire.Message

/-!
# Events of runs

A run is identified by its *ticket*. The generation alone would not do: it changes only when a run
is given up or the session is reset, so consecutive runs share it; the sequence number differs for
every two runs.
-/

namespace Workbench

/-- The identity of a run. -/
structure Ticket where
  generation : Nat
  seq : Nat
  deriving DecidableEq, Repr

/-- What is reported about a run. -/
inductive RunEvent where
  /-- It ended with a response. -/
  | completed (ticket : Ticket) (response : Response)
  /-- Its context broke. -/
  | failed (ticket : Ticket) (message : String)
  /-- It took too long. -/
  | timedOut (ticket : Ticket)
  deriving DecidableEq

namespace RunEvent

/-- The report about a run whose context gave up in the middle. -/
def panicked (ticket : Ticket) : RunEvent :=
  failed ticket "Execution context panicked"

/-- The run that an event is about. -/
def ticket : RunEvent → Ticket
  | completed ticket _ => ticket
  | failed ticket _ => ticket
  | timedOut ticket => ticket

end RunEvent

end Workbench
