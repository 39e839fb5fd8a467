import Workbench.Disk.Tree
import Workbench.Main
import Workbench.Proofs.Console.Appending
import Workbench.Proofs.Console.Leaving
import Workbench.Proofs.Console.Saving
import Workbench.Proofs.Decimal.Finite
import Workbench.Proofs.Interpreter.Courses
import Workbench.Proofs.Json.Numbers
import Workbench.Proofs.Json.RoundTrip
import Workbench.Proofs.Json.Valid
import Workbench.Proofs.Runner.Agreement
import Workbench.Proofs.Runner.Contexts
import Workbench.Proofs.Runner.Delivery
import Workbench.Proofs.Runner.Reuse
import Workbench.Proofs.Runner.Settlement
import Workbench.Proofs.Session.Bindings
import Workbench.Proofs.Session.Blocks
import Workbench.Proofs.Session.Cycles
import Workbench.Proofs.Session.Failures
import Workbench.Proofs.Session.Forgetting
import Workbench.Proofs.Session.Generations
import Workbench.Proofs.Session.Lines
import Workbench.Proofs.Session.Recall
import Workbench.Proofs.Snippet.Cancelling
import Workbench.Proofs.Snippet.Comments
import Workbench.Proofs.Snippet.Names
import Workbench.Proofs.Snippet.Sums
import Workbench.Proofs.Text.Encoding
import Workbench.Proofs.Wire.Fields
import Workbench.Proofs.Wire.Framing
import Workbench.Proofs.Wire.Lines
import Workbench.Proofs.Wire.RoundTrip
import Workbench.Runner.Rehearsal
import Workbench.Session.Recorded
import Workbench.Snippet.Factory
