import Workbench.Context
import Workbench.Snippet.Statement

/-!
# Running a snippet

Statements run in order, each on what the ones before it left: the bindings, the output and the last
value. A statement that fails ends the run with its message at the end of the output; the bindings
made so far are kept and the last value is dropped. Only `sleep` and `spin` look at the signals, and
they look before they wait, so a run without them never notices that it was asked to stop.
-/

namespace Workbench.Snippet

open Context (Signals Ending)

/-- What a run has done so far. -/
structure Progress where
  bindings : Bindings
  output : String := ""
  lastValue : Option String := none
  /-- The milliseconds spent waiting. -/
  clock : Nat := 0
  deriving DecidableEq

/-- What came of one statement. -/
inductive Step where
  /-- The run goes on. -/
  | next (progress : Progress)
  /-- The run fails with a message. -/
  | failed (message : String)
  /-- The run notices that it was asked to stop. -/
  | stopped
  /-- The statement never ends. -/
  | endless
  deriving DecidableEq

/-- What becomes of a run whose next thing is to use the value of an expression. -/
def Step.ofValue (value : Except EvalError Json) (use : Json → Progress) : Step :=
  match value with
  | .ok x => .next (use x)
  | .error e => .failed e.message

/-- Runs one statement. -/
def Statement.run (signals : Signals) (p : Progress) : Statement → Step
  | .print text =>
    .ofValue (eval p.bindings text) fun x => { p with output := p.output ++ render x ++ "\n" }
  | .fail message => .failed message
  | .sleep millis =>
    if signals.stopped (p.clock + millis) then .stopped
    else .next { p with clock := p.clock + millis }
  | .spin => if signals.stopAt.isSome then .stopped else .endless
  | .assign name text =>
    .ofValue (eval p.bindings text) fun x =>
      { p with bindings := p.bindings.insert name x, lastValue := some (render x) }
  | .expr text =>
    .ofValue (eval p.bindings text) fun x => { p with lastValue := some (render x) }

/-- How a run of statements ends. -/
inductive Outcome where
  /-- It ran to its end. -/
  | finished (progress : Progress)
  /-- A statement failed, with what had been done before it. -/
  | failed (progress : Progress) (message : String)
  /-- It stopped because it was asked to. -/
  | stopped
  /-- It never ends. -/
  | endless
  deriving DecidableEq

/-- Runs statements in order. -/
def runAll (signals : Signals) : List Statement → Progress → Outcome
  | [], p => .finished p
  | s :: rest, p =>
    match s.run signals p with
    | .next p => runAll signals rest p
    | .failed message => .failed p message
    | .stopped => .stopped
    | .endless => .endless

/-- Milliseconds in seconds. -/
def seconds (millis : Nat) : Float :=
  Float.ofNat millis / 1000

/-- The ending of a run in its context. -/
def Outcome.ending : Outcome → Ending
  | finished p => .responded (.success p.output (seconds p.clock) p.bindings p.lastValue)
  | failed p message => .responded (.failure (p.output ++ message) (seconds p.clock) p.bindings)
  | stopped => .broke Context.cancelledText
  | endless => .never

/-- Executes a request in a context of this language. -/
def execute (signals : Signals) (request : Request) : Ending :=
  if signals.destroyed then .broke Context.destroyedText
  else (runAll signals (statements request.source) { bindings := request.bindings }).ending

end Workbench.Snippet
