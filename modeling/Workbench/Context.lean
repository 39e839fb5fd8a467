import Workbench.Wire.Message

/-!
# Execution contexts

A context runs one request at a time and may be told to stop or be destroyed while it does. What is
common to all contexts stands here: the signals a run is exposed to and the ways it can end. Time is
counted in milliseconds from the start of the run.
-/

namespace Workbench.Context

/-- What happens to a context around one run. -/
structure Signals where
  /-- The context was destroyed before the run. -/
  destroyed : Bool := false
  /-- From this moment on the run is asked to stop. -/
  stopAt : Option Nat := none
  deriving DecidableEq, Repr

namespace Signals

/-- Whether the run is asked to stop at this moment. -/
def stopped (signals : Signals) (moment : Nat) : Bool :=
  match signals.stopAt with
  | none => false
  | some stop => stop ≤ moment

/-- The signals of a run that is asked to stop at the earlier of two moments, if at all. -/
def stopping (destroyed : Bool) (first second : Option Nat) : Signals :=
  { destroyed
    stopAt := match first, second with
      | some a, some b => some (min a b)
      | some a, none => some a
      | none, b => b }

end Signals

/-- How a run ends inside its context. -/
inductive Ending where
  /-- With a response, of success or of failure. -/
  | responded (response : Response)
  /-- With an error of the context itself. -/
  | broke (message : String)
  /-- Not at all. -/
  | never
  deriving DecidableEq

/-- The error of a context that is used after it was destroyed. -/
def destroyedText : String :=
  "execution context destroyed"

/-- The error of a run that stopped because it was asked to. -/
def cancelledText : String :=
  "execution cancelled"

end Workbench.Context
