import Workbench.ContextChoice
import Workbench.Interpreter.Execute
import Workbench.Snippet.Run

/-!
# What a chosen context does with a request
-/

namespace Workbench.ContextChoice

/-- Executes a request in a context of the chosen kind. -/
def execute (choice : ContextChoice) (signals : Context.Signals) (request : Request) :
    DiskTask Context.Ending :=
  match choice with
  | snippets => .done (Snippet.execute signals request)
  | interpreter command => Interpreter.execute command signals request

end Workbench.ContextChoice
