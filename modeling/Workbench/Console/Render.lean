import Workbench.Bindings
import Workbench.Text.Numeral
import Workbench.Transcript

/-!
# What is shown

Everything that is shown goes to one of two streams, in pieces. Errors of runs go to the error
stream, all other entries of a transcript to the output.
-/

namespace Workbench

/-- Where something is shown. -/
inductive Stream where
  | out
  | err
  deriving DecidableEq, Repr

/-- A piece of text for one of the streams. -/
structure Chunk where
  stream : Stream
  text : String
  deriving DecidableEq, Repr

namespace Chunk

/-- A line for the output. -/
def out (line : String) : Chunk :=
  ⟨.out, line ++ "\n"⟩

/-- A line for the error stream. -/
def err (line : String) : Chunk :=
  ⟨.err, line ++ "\n"⟩

/-- All that some pieces put on one stream. -/
def textOn (stream : Stream) (chunks : List Chunk) : String :=
  String.join ((chunks.filter (·.stream = stream)).map (·.text))

/-- An entry of a transcript. It gets a newline if it does not end in one. -/
def ofEntry (entry : Entry) : Chunk where
  stream := if entry.isError then .err else .out
  text :=
    if entry.display.toList.getLast? = some '\n' then entry.display else entry.display ++ "\n"

end Chunk

/-- Bindings, one a line. -/
def Bindings.render (b : Bindings) : String :=
  if b.isEmpty then "(no bindings)\n"
  else String.join (b.entries.map fun (name, value) => s!"{name} = {value.text}\n")

/-- A number that takes at least four places. -/
def lineNumber (n : Nat) : String :=
  let digits := Text.digits n
  String.ofList (List.replicate (4 - digits.length) ' ' ++ digits)

/-- Submitted lines with their numbers, counted from `n`. -/
def numbered : (n : Nat) → List String → List String
  | _, [] => []
  | n, line :: rest => s!"{lineNumber n}  {line}\n" :: numbered (n + 1) rest

/-- The submitted lines, numbered from one. -/
def renderHistory (lines : List String) : String :=
  if lines = [] then "(history is empty)\n" else String.join (numbered 1 lines)

end Workbench
