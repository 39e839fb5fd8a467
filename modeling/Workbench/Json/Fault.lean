import Workbench.Json.Printer
import Workbench.Text.Quoted
import Workbench.Text.Utf8

/-!
# Faults of JSON text

A text is read from left to right, and the first thing that is wrong with it is its fault: a cause
and a place. Causes come in three kinds. A text may break the grammar or a limit, it may end too
early, or it may be JSON of another shape than the one asked for.

The place is kept as the number of bytes that are left behind it, which is what a reader knows; with
the whole text at hand, `place` turns it into a line and a column.
-/

namespace Workbench.Json

open Text (Symbol)

/-- What is left to read. -/
abbrev Input : Type :=
  List Symbol

/-- A value as it is named in the wording of a fault. -/
inductive Found where
  | null
  | bool (b : Bool)
  | number (n : Number)
  | string (s : String)
  | array
  | object
  deriving DecidableEq

/-- The name of a value. -/
def Found.describe : Found → String
  | null => "null"
  | bool b => String.join ["boolean \x60", String.ofList (printBool b), "\x60"]
  | number (.whole n) => String.join ["integer \x60", String.ofList (Text.integerDigits n), "\x60"]
  | number (.double x) =>
    String.join ["floating point \x60", String.ofList (printDouble x), "\x60"]
  | string s => "string " ++ Text.quoted s
  | array => "sequence"
  | object => "map"

/-- What is wrong with a text. -/
inductive Cause where
  /-- The text ends inside an array. -/
  | arrayEnds
  /-- The text ends inside an object. -/
  | objectEnds
  /-- The text ends inside a string. -/
  | stringEnds
  /-- The text ends where a value is to start, or inside a word or a number. -/
  | valueEnds
  /-- No colon follows a key. -/
  | colonExpected
  /-- Neither a comma nor the end of the array follows an item. -/
  | itemEndExpected
  /-- Neither a comma nor the end of the object follows a member. -/
  | memberEndExpected
  /-- A word other than the three literals. -/
  | wordExpected
  | valueExpected
  | keyExpected
  | trailingComma
  /-- Something follows what is complete. -/
  | trailingText
  | badEscape
  | badNumber
  /-- A number beyond the greatest double. -/
  | numberTooLarge
  /-- A string whose bytes are no text. -/
  | notText
  /-- A control character stands bare in a string. -/
  | controlCharacter
  /-- Half of a surrogate pair without its other half. -/
  | loneSurrogate
  /-- No escape follows the first half of a surrogate pair. -/
  | halfPair
  /-- Too many containers are open. -/
  | tooDeep
  /-- A value of another type than the one expected. -/
  | wrongType (found : Found) (expected : String)
  /-- A value out of the range that is expected. -/
  | wrongValue (found : Found) (expected : String)
  | missingField (name : String)
  | duplicateField (name : String)
  /-- An array of fields that ends before a field that must be there. -/
  | tooShort (length : Nat) (expected : String)
  deriving DecidableEq

/-- The kinds of causes. -/
inductive Kind where
  /-- The text breaks the grammar, or a number or nesting exceeds its limit. -/
  | malformed
  /-- The text ends too early. -/
  | truncated
  /-- The text is JSON of another shape than the one asked for. -/
  | mismatch
  deriving DecidableEq, Repr

namespace Cause

/-- The kind of a cause. -/
def kind : Cause → Kind
  | arrayEnds | objectEnds | stringEnds | valueEnds => .truncated
  | wrongType .. | wrongValue .. | missingField _ | duplicateField _ | tooShort .. => .mismatch
  | _ => .malformed

/-- The wording of a cause. -/
def message : Cause → String
  | arrayEnds => "EOF while parsing a list"
  | objectEnds => "EOF while parsing an object"
  | stringEnds => "EOF while parsing a string"
  | valueEnds => "EOF while parsing a value"
  | colonExpected => "expected \x60:\x60"
  | itemEndExpected => "expected \x60,\x60 or \x60]\x60"
  | memberEndExpected => "expected \x60,\x60 or \x60\x7d\x60"
  | wordExpected => "expected ident"
  | valueExpected => "expected value"
  | keyExpected => "key must be a string"
  | trailingComma => "trailing comma"
  | trailingText => "trailing characters"
  | badEscape => "invalid escape"
  | badNumber => "invalid number"
  | numberTooLarge => "number out of range"
  | notText => "invalid unicode code point"
  | controlCharacter => "control character (\\u0000-\\u001F) found while parsing a string"
  | loneSurrogate => "lone leading surrogate in hex escape"
  | halfPair => "unexpected end of hex escape"
  | tooDeep => "recursion limit exceeded"
  | wrongType found expected => s!"invalid type: {found.describe}, expected {expected}"
  | wrongValue found expected => s!"invalid value: {found.describe}, expected {expected}"
  | missingField name => String.join ["missing field \x60", name, "\x60"]
  | duplicateField name => String.join ["duplicate field \x60", name, "\x60"]
  | tooShort length expected => s!"invalid length {length}, expected {expected}"

end Cause

/-- What is wrong with a text, and where. -/
structure Fault where
  cause : Cause
  /-- How many bytes of the text are left behind the place. -/
  left : Nat
  deriving DecidableEq

namespace Fault

/-- A fault in front of what is left to read. -/
def here (cause : Cause) (s : Input) : Fault :=
  ⟨cause, Symbol.widthOf s⟩

/-- A fault behind the next byte of what is left to read. -/
def behindNext (cause : Cause) (s : Input) : Fault :=
  ⟨cause, Symbol.widthOf s - 1⟩

/-- The kind of a fault. -/
def kind (fault : Fault) : Kind :=
  fault.cause.kind

/-- The number of the line a fault of a text is on, and how many bytes of the line are before it. -/
def place (text : List UInt8) (fault : Fault) : Nat × Nat :=
  let before := (text.take (text.length - fault.left)).reverse
  (before.count 10 + 1, (before.takeWhile (· ≠ 10)).length)

/-- The wording of a fault of a text. -/
def describe (text : List UInt8) (fault : Fault) : String :=
  let (line, column) := fault.place text
  s!"{fault.cause.message} at line {line} column {column}"

end Fault

end Workbench.Json
