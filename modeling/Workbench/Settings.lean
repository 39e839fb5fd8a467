import Workbench.CommitPolicy
import Workbench.Text.Numeral
import Workbench.Text.Utf8

/-!
# Settings

The settings are taken from five variables. A variable that is not set, is no text, or is blank
counts as absent. Only the commit policy can be wrong; a timeout that is no positive number of 64
bits means that there is none.
-/

namespace Workbench

/-- The behaviour of a session that is not part of its state. -/
structure SessionSettings where
  /-- After so many milliseconds a run is aborted. -/
  runTimeout : Option Nat := none
  policy : CommitPolicy := .always
  deriving DecidableEq, Repr, Inhabited

/-- Everything that can be set. -/
structure Settings where
  session : SessionSettings := {}
  /-- Which diagnostics are wanted. -/
  logFilter : Option String := none
  /-- Which kind of context is used. -/
  context : Option String := none
  /-- The command line of the interpreter. -/
  interpreter : Option String := none
  deriving DecidableEq, Repr, Inhabited

namespace Settings

/-! ### Names of the variables -/

/-- Holds the timeout. -/
def timeoutVariable : String :=
  "REPL_RUN_TIMEOUT_MS"

/-- Holds the commit policy. -/
def policyVariable : String :=
  "REPL_ENV_COMMIT"

/-- Holds the filter for diagnostics. -/
def logFilterVariable : String :=
  "REPL_LOG"

/-- Holds the kind of context. -/
def contextVariable : String :=
  "REPL_CONTEXT"

/-- Holds the command line of the interpreter. -/
def interpreterVariable : String :=
  "REPL_INTERPRETER"

/-! ### Reading -/

/-- The value of a variable without the blanks around it; nothing if it is no text or blank. -/
def valueOf? (bytes : Option (List UInt8)) : Option String := do
  let text ← Text.text? (← bytes)
  if Text.allBlank text then none else some (Text.trimmed text)

/-- A timeout in milliseconds. -/
def timeout? (text : String) : Option Nat := do
  let millis ← Text.natural? Text.bound64 text.toList
  if 0 < millis then some millis else none

/-- The settings that some variables make. -/
def ofVariables (read : String → Option (List UInt8)) : Except String Settings :=
  let value? name := valueOf? (read name)
  match (value? policyVariable).elim (.ok .always) CommitPolicy.ofText with
  | .error message => .error message
  | .ok policy => .ok {
      session := { runTimeout := (value? timeoutVariable).bind timeout?, policy }
      logFilter := value? logFilterVariable
      context := value? contextVariable
      interpreter := value? interpreterVariable }

end Settings

end Workbench
