import Workbench.Text.Blank

/-!
# The program of a session

The text that whole-program runs execute, with where it came from and whether it differs from what
is stored there.
-/

namespace Workbench

/-- A program text. -/
structure Program where
  /-- What the program is stored under; nothing for one that was never loaded. -/
  fileId : Option String := none
  title : String := ""
  text : String := ""
  /-- Whether there are edits that are not saved. -/
  dirty : Bool := false
  deriving DecidableEq, Repr, Inhabited

namespace Program

/-- An empty program that is stored nowhere. -/
def scratch : Program :=
  {}

/-- A program as it was loaded. -/
def loaded (fileId title text : String) : Program :=
  { fileId := some fileId, title, text }

/-- Replaces the text. The program becomes dirty if the text is another one. -/
def setText (p : Program) (text : String) : Program :=
  if text = p.text then p else { p with text, dirty := true }

/-- Empties the text; the program is dirty afterwards, even if it was empty. -/
def clear (p : Program) : Program :=
  { p with text := "", dirty := true }

/-- Notes that the text is stored as it is. -/
def markSaved (p : Program) : Program :=
  { p with dirty := false }

/-- Only a program that was loaded and has edits can be saved. -/
def canSave (p : Program) : Bool :=
  p.fileId.isSome && p.dirty

/-- The name of the file that a program is exported to: its title up to the first full stop. -/
def exportName (p : Program) : String :=
  let stem := Text.trim (p.title.toList.takeWhile (· ≠ '.'))
  if stem = [] then "untitled.txt" else String.ofList stem ++ ".txt"

end Program

end Workbench
