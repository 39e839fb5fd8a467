import Workbench.Shell.Installed
import Workbench.Shell.Records.Call
import Workbench.Shell.Utility.Bytes
import Workbench.Shell.Utility.Columns
import Workbench.Shell.Utility.Counts
import Workbench.Shell.Utility.EditScript
import Workbench.Shell.Utility.Formula
import Workbench.Shell.Utility.Order
import Workbench.Shell.Utility.Output
import Workbench.Shell.Utility.Portion
import Workbench.Shell.Utility.Search

/-!
# Finding programs

A program of the system is named by itself or by its path. Its name alone is looked up in the
directories for programs, or in those of a list that takes their place. What is no program can be
read at most, so it is refused; the search says in which way a name that leads to no program fails.
-/

namespace Workbench.Shell

/-- The utilities, by their names. -/
def utility? : String → Option Utility
  | "true" => some (constant 0)
  | "false" => some (constant 1)
  | "echo" => some echo
  | "printf" => some printf
  | "expr" => some Formula.expr
  | "seq" => some seq
  | "factor" => some factor
  | "basename" => some basename
  | "dirname" => some dirname
  | "test" => some test
  | "[" => some brackets
  | "sleep" => some sleep
  | "cat" => some cat
  | "head" => some head
  | "tail" => some tail
  | "wc" => some wc
  | "tr" => some tr
  | "cut" => some cut
  | "sort" => some sort
  | "uniq" => some uniq
  | "tac" => some tac
  | "tee" => some tee
  | "nl" => some nl
  | "paste" => some paste
  | "fold" => some fold
  | "expand" => some expand
  | "comm" => some comm
  | "grep" => some (Search.grep false false)
  | "egrep" => some (Search.grep true false)
  | "fgrep" => some (Search.grep false true)
  | "sed" => some Edit.sed
  | "awk" | "mawk" => some Records.awk
  | _ => none

/-- The greatest number of bytes in the name of a program. -/
def maxProgramName : Nat :=
  255

/-- A program that was found, by its name, and the path it was found at. -/
structure FoundProgram where
  name : String
  path : String
  deriving DecidableEq, Repr

/-- The program that a path leads to, or why there is none. -/
def programAtPath (path : String) : DiskTask (Except DiskError FoundProgram) := do
  match programAt? path with
  | some name => return .ok { name, path }
  | none =>
    let throughProgram := match nameInDirectory? path with
      | some rest =>
        rest.toList.contains '/' && isProgram (String.ofList (rest.toList.takeWhile (· ≠ '/')))
      | none => false
    let throughDevice := devices.any fun file => (file ++ "/").toList.isPrefixOf path.toList
    if throughProgram || throughDevice then return .error .notADirectory
    else
      match ← fileKind path with
      | .ok _ => return .error .permissionDenied
      | .error error => return .error error

/-- The first of some directories that has a program of a name, when relative paths start where
`path` says. A file that is no program is remembered, in case nothing better is found. -/
def searchDirectories (path : String → String) (name : String) (worst : DiskError) :
    List String → DiskTask (Except DiskError FoundProgram)
  | [] => .done (.error worst)
  | directory :: rest => do
    let place := Path.join (if directory = "" then "." else directory) name
    match ← programAtPath (path place) with
    | .ok found => return .ok found
    | .error .permissionDenied =>
      searchDirectories path name .permissionDenied rest
    | .error _ => searchDirectories path name worst rest

/-- The program that is found under a text, or why there is none. The list of directories is the one
in a text with colons in it, if there is such a text. -/
def findProgram (path : String → String) (directories : Option String) (text : String) :
    DiskTask (Except DiskError FoundProgram) :=
  if text.toList.contains '/' then programAtPath (path text)
  else if text = "." ∨ text = ".." then .done (.error .permissionDenied)
  else if maxProgramName < text.utf8ByteSize then .done (.error .nameTooLong)
  else
    match directories with
    | none =>
      .done (if isProgram text then .ok { name := text, path := "/usr/bin/" ++ text }
        else .error .notFound)
    | some list =>
      let names := (Text.pieces (· = ':') list.toList).map String.ofList
      searchDirectories path text .notFound names

end Workbench.Shell
