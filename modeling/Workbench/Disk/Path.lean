import Workbench.Text.Blank

/-!
# Paths

A path is a text whose components are the pieces between its slashes. Empty components and `.` stand
for the place reached so far.
-/

namespace Workbench.Path

/-- The components of a path, empty ones included. -/
def components (path : String) : List String :=
  (Text.pieces (· = '/') path.toList).map String.ofList

/-- The name of the file that a path leads to; nothing if it ends in `..` or has no name at all. -/
def fileName? (path : String) : Option String :=
  match ((components path).filter fun name => name ≠ "" ∧ name ≠ ".").getLast? with
  | none => none
  | some name => if name = ".." then none else some name

/-- The path of a name inside a directory. An absolute name stands alone. -/
def join (directory name : String) : String :=
  if directory = "" ∨ name.startsWith "/" then name
  else if directory.endsWith "/" then directory ++ name
  else directory ++ "/" ++ name

end Workbench.Path
