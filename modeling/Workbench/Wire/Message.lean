import Workbench.Bindings

/-!
# Requests and responses

The two messages between a session and a context: what is to be run, and what came of it.
-/

namespace Workbench

/-- A piece of source to run. -/
structure Request where
  /-- The epoch of the session that asks. -/
  generation : Nat
  /-- Whether the source is the whole program rather than one line. -/
  wholeProgram : Bool
  source : String
  /-- What the source finds bound. -/
  bindings : Bindings
  deriving DecidableEq

/-- What came of a run. -/
structure Response where
  ok : Bool
  output : String
  seconds : Float
  /-- What is bound after the run. -/
  bindings : Bindings
  lastValue : Option String
  deriving DecidableEq

namespace Response

/-- The response of a run that succeeded. -/
def success (output : String) (seconds : Float) (bindings : Bindings) (lastValue : Option String) :
    Response :=
  ⟨true, output, seconds, bindings, lastValue⟩

/-- The response of a run that failed; it never has a last value. -/
def failure (output : String) (seconds : Float) (bindings : Bindings) : Response :=
  ⟨false, output, seconds, bindings, none⟩

end Response

end Workbench
