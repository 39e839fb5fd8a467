import Workbench.CommandLine
import Workbench.Settings

/-!
# The choice of a context

Two kinds of context can be chosen by name: the built-in snippet language, which is the default, and
an external interpreter, which needs a command line.
-/

namespace Workbench

/-- A kind of context that was chosen. -/
inductive ContextChoice where
  /-- The built-in snippet language. -/
  | snippets
  /-- An interpreter that is started for each run. -/
  | interpreter (command : CommandLine)
  deriving DecidableEq, Repr

namespace ContextChoice

/-- The name of the snippet language. -/
def snippetsName : String :=
  "mock"

/-- The name of external interpreters. -/
def interpreterName : String :=
  "process"

/-- The error for an interpreter without a command line. -/
def interpreterMissing : String :=
  let name := Settings.interpreterVariable
  s!"The '{interpreterName}' context needs {name} to name an interpreter command"

/-- The error for a name of no context. -/
def unsupported (name : String) : String :=
  s!"Unsupported execution context '{name}'. Available contexts: {snippetsName}, {interpreterName}"

/-- The context of a name. -/
def named (name : String) (interpreter : Option String) : Except String ContextChoice :=
  if name = snippetsName then .ok snippets
  else if name = interpreterName then
    match interpreter with
    | none => .error interpreterMissing
    | some text => (CommandLine.ofText text).map ContextChoice.interpreter
  else .error (unsupported name)

/-- The context that some settings ask for. -/
def ofSettings (settings : Settings) : Except String ContextChoice :=
  named (settings.context.getD snippetsName) settings.interpreter

/-- Why no context of this kind can be created, if so. -/
def refusal? : ContextChoice → Option String
  | snippets => none
  | interpreter command => command.refusal?

end ContextChoice

end Workbench
