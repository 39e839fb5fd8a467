import Workbench.Json.Printer

/-!
# The transcript of a session

A transcript is a list of entries that only grows, or is dropped as a whole. An entry is shown as
one text; only the text of a failed run counts as an error.
-/

namespace Workbench

/-- One entry of a transcript. -/
inductive Entry where
  /-- A line that was submitted. -/
  | echo (line : String)
  /-- Output, or the text of an error if not `ok`. -/
  | output (ok : Bool) (body : String)
  /-- An announcement. -/
  | banner (message : String)
  /-- How long a program ran, and when it ended. -/
  | timing (seconds : Float) (timestamp : String)
  deriving DecidableEq

namespace Entry

/-- Seconds are shown with as few digits as identify them, never with an exponent, and a whole
number of them without a point; of two equally near decimals the greater one is shown. -/
def secondsLayout : Decimal.Layout where
  positional _ := true
  wholeMark := []
  tie := .up
  notANumber := "NaN".toList
  infinity := "inf".toList

/-- A duration as it is shown. -/
def showSeconds (seconds : Float) : String :=
  String.ofList (secondsLayout.write seconds)

/-- An entry as it is shown. -/
def display : Entry → String
  | echo line => s!"> {line}"
  | output _ body => body
  | banner message => message
  | timing seconds timestamp => s!"Runtime: {showSeconds seconds} s, at {timestamp}."

/-- Whether an entry is styled as an error. -/
def isError : Entry → Bool
  | output ok _ => !ok
  | _ => false

/-- An entry as a JSON object, its kind first. -/
def print : Entry → List Char
  | echo line => Json.record [("kind", Json.printString "echo"), ("text", Json.printString line)]
  | output ok body => Json.record [("kind", Json.printString "text"), ("ok", Json.printBool ok),
      ("body", Json.printString body)]
  | banner message => Json.record [("kind", Json.printString "banner"),
      ("message", Json.printString message)]
  | timing seconds timestamp => Json.record [("kind", Json.printString "timing"),
      ("seconds", Json.printDouble seconds), ("timestamp", Json.printString timestamp)]

/-! ### Announcements -/

/-- A run has started. -/
def running : Entry :=
  banner "Running…"

/-- A run was abandoned. -/
def aborted : Entry :=
  banner "Program aborted."

/-- A program ended well. -/
def succeeded : Entry :=
  banner "Program terminated successfully."

/-- A program ended badly. -/
def failed : Entry :=
  banner "Program error."

end Entry

/-- Entries in the order they were made. -/
abbrev Transcript : Type :=
  List Entry

namespace Transcript

/-- The entries from a place on; none if the place is past the end. -/
def since (t : Transcript) (place : Nat) : List Entry :=
  t.drop place

/-- A transcript as a JSON array. -/
def print (t : Transcript) : List Char :=
  '[' :: (Json.commaSeparated (t.map Entry.print) ++ [']'])

end Transcript

end Workbench
