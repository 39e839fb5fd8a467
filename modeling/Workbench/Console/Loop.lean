import Workbench.Console.Basic
import Workbench.Runner.Conclude

/-!
# The life of a console

A console takes inputs in order until the user is done, or there are no more lines and no run is in
flight. Then the entries that were not shown yet are shown, unless the user asked to leave, and the
runner is shut down.
-/

namespace Workbench.Console

/-- A console that takes inputs. -/
structure Loop where
  console : Console
  /-- Whether there are no more lines. -/
  closed : Bool := false
  /-- Whether no more inputs are taken. -/
  stopped : Bool := false
  /-- What has been shown so far. -/
  shown : List Chunk := []

namespace Loop

/-- The loop after a reply. -/
def note (loop : Loop) (reply : Reply) : Loop :=
  { loop with
    console := reply.console
    stopped := reply.quits
    shown := loop.shown ++ reply.chunks }

/-- Stops if there are no more lines and no run is in flight. -/
def settle (now : String) (loop : Loop) : Loop :=
  if !loop.stopped && loop.closed && !loop.console.session.isRunning then
    { loop.note (loop.console.showNew now) with stopped := true }
  else loop

/-- Takes an input, unless the loop has stopped. -/
def take (now : String) (input : Input) (loop : Loop) : DiskTask Loop :=
  if loop.stopped then .done loop
  else if input = .endOfInput then .done ({ loop with closed := true }.settle now)
  else (loop.console.take now input).map fun reply => (loop.note reply).settle now

/-- Takes some inputs. -/
def takeAll (now : String) : List Input → Loop → DiskTask Loop
  | [], loop => .done loop
  | input :: rest, loop => (loop.take now input).bind (takeAll now rest)

/-- Waits for the end of the run in flight and takes note of it, unless the loop has stopped. -/
def await (now : String) (execution : Runner.Execution) (timeout : Option Nat) (loop : Loop) :
    DiskTask Loop :=
  if loop.stopped then .done loop
  else
    (loop.console.runner.conclude execution timeout).bind fun runner =>
      { loop with console := { loop.console with runner } }.take now .wake

/-- Shuts the runner down. -/
def close (loop : Loop) : Loop :=
  { loop with console := { loop.console with runner := loop.console.runner.shutdown } }

end Loop

/-- A whole life: all inputs are there from the start, and nothing else happens until the last one
was taken. -/
def live (now : String) (execution : Runner.Execution) (timeout : Option Nat) (inputs : List Input)
    (c : Console) : DiskTask Loop :=
  ((Loop.takeAll now (inputs ++ [.endOfInput]) { console := c }).bind
    (Loop.await now execution timeout)).map Loop.close

end Workbench.Console
