import Workbench.Json.Printer
import Workbench.Wire.Message

/-!
# Messages as text

Each message is written as one JSON object with its fields in a fixed order. A request goes out as a
line of its own, so its reader needs no framing besides the newline.
-/

namespace Workbench

open Json (printBool printString printDouble record)

/-- Bindings as a JSON object. -/
def Bindings.print (b : Bindings) : List Char :=
  Json.print (.object b.entries)

namespace Request

/-- A request as a JSON object. -/
def print (r : Request) : List Char :=
  record [
    ("generation", Text.digits r.generation),
    ("is_main_run", printBool r.wholeProgram),
    ("source_text", printString r.source),
    ("environment_in", r.bindings.print)]

/-- A request as the line that is sent to an interpreter. -/
def line (r : Request) : List Char :=
  r.print ++ ['\n']

end Request

/-- A response as a JSON object. -/
def Response.print (r : Response) : List Char :=
  record [
    ("ok", printBool r.ok),
    ("output_text", printString r.output),
    ("elapsed_seconds", printDouble r.seconds),
    ("environment_out", r.bindings.print),
    ("last_value", match r.lastValue with
      | none => "null".toList
      | some text => printString text)]

end Workbench
