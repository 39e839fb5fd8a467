import Workbench.Shell.Basic
import Workbench.Shell.Installed
import Workbench.Shell.Pattern

/-!
# Names that a pattern stands for

In a script for `sh` a field with a pattern in it stands for the names of the files that it matches,
component by component. Names that start with a period are matched only by patterns that do so, and
a field that matches nothing stands for itself.
-/

namespace Workbench.Shell

/-- The path of a file, from where the shell started. -/
def path (name : String) (sh : Shell) : String :=
  if sh.directory = "" ∨ name = "" then name else Path.join sh.directory name

/-- Bytes before they are read as a pattern. -/
abbrev Field : Type :=
  List Glob.Mark

namespace Field

/-- The bytes of a field. -/
def bytes (field : Field) : Bytes :=
  field.map (·.byte)

/-- Whether a field is more than the bytes it is made of. -/
def isPattern (field : Field) : Bool :=
  (Pattern.ofMarks field).any fun
    | .byte _ => false
    | _ => true

/-- The components of a field. -/
def components : Field → List Field
  | [] => [[]]
  | mark :: rest =>
    if mark.byte = 47 then [] :: components rest
    else (components rest).modifyHead (mark :: ·)

/-- The bytes that a field stands for if it is no pattern. -/
def plain (field : Field) : Bytes :=
  (Pattern.ofMarks field).filterMap fun
    | .byte b => some b
    | _ => none

end Field

/-- The names in a directory that a component of a field matches. -/
def matchedNames (field : Field) (directory : String) : DiskTask (List Bytes) :=
  .list directory fun
    | .error _ => .done []
    | .ok names =>
      let dotted := (Field.plain (field.take 1)).head? = some 46
      let all := if dotted then "." :: ".." :: names else names.filter (!·.startsWith ".")
      .done ((all.map Text.bytesOf).filter (Glob.matchesAll (Pattern.ofMarks field)))

/-- The names that the components of a field match behind a path. -/
def expandComponents (sh : Shell) (before : Bytes) : List Field → DiskTask (List Bytes)
  | [] => .done []
  | field :: rest =>
    let behind := if rest.isEmpty then [] else [(47 : UInt8)]
    if !field.isPattern then
      let whole := before ++ field.plain ++ behind
      if !rest.isEmpty then expandComponents sh whole rest
      else do
        return if (← fileKind (sh.path (Text.lossyText whole))).isOk then [whole] else []
    else do
      let directory := if before = [] then "." else Text.lossyText before
      let names ← matchedNames field (sh.path directory)
      let wholes := names.map fun name => before ++ name ++ behind
      if rest.isEmpty then return wholes
      else
        let found ← wholes.mapM fun whole => expandComponents sh whole rest
        return found.flatten

/-- The texts that a field stands for. -/
def expandNames (field : Field) (sh : Shell) : DiskTask (List Bytes) :=
  if sh.options.keepsPatterns || !field.isPattern then .done [field.bytes]
  else do
    let found ← expandComponents sh [] field.components
    return if found.isEmpty then [field.bytes] else found.mergeSort bytesBefore

end Workbench.Shell
