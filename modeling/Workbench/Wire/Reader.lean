import Workbench.Json.Reader
import Workbench.Wire.Message

/-!
# Reading messages

A message is an object with known fields, in any order, among members with other names, which are
passed over; or an array of the fields in their order. A field that occurs twice is a mismatch,
found at its key; a field that is missing is one too, found at the end of the object or array. What
is read so far is a *draft*, in which each field is present or not, and `finish` turns a draft into
a message, or gives the name of a field that must be there and is not.

The first fault met from left to right is the one reported, so a value of the wrong kind is still
read to its end if it is a literal, a number or a string, and its own faults come first.
-/

namespace Workbench.Wire

open Json (Fault Cause Found Input Number skipSpace readLiteral readNumber readString readMembers
  readColon valueMember readValue skipValue startsNumber maxDepth afterComma atEnd)

/-! ### Values of one kind -/

/-- The value that a text starts with, as far as it is read when another one was `expected`: an
array or an object is not entered. -/
def readFound (s : Input) : Except Fault (Found × Input) :=
  match skipSpace s with
  | [] => .error (.here .valueEnds [])
  | .stray n :: rest => .error (.behindNext .valueExpected (.stray n :: rest))
  | .char c :: rest =>
    if c = 'n' then (readLiteral ['u', 'l', 'l'] rest).map fun rest => (.null, rest)
    else if c = 't' then (readLiteral ['r', 'u', 'e'] rest).map fun rest => (.bool true, rest)
    else if c = 'f' then (readLiteral ['a', 'l', 's', 'e'] rest).map fun rest => (.bool false, rest)
    else if startsNumber c then
      (readNumber (.char c :: rest)).map fun (n, rest) => (.number n, rest)
    else if c = '"' then (readString (.char c :: rest)).map fun (text, rest) => (.string text, rest)
    else if c = '[' then .ok (.array, .char c :: rest)
    else if c = '{' then .ok (.object, .char c :: rest)
    else .error (.behindNext .valueExpected (.char c :: rest))

/-- The fault of a text that starts with a value of a type nobody asked for. -/
def otherType (expected : String) (s : Input) : Fault :=
  match readFound s with
  | .error fault => fault
  | .ok (found, rest) => .here (.wrongType found expected) rest

/-- A truth value. -/
def readBool (s : Input) : Except Fault (Bool × Input) :=
  match skipSpace s with
  | .char 't' :: rest => (readLiteral ['r', 'u', 'e'] rest).map fun rest => (true, rest)
  | .char 'f' :: rest => (readLiteral ['a', 'l', 's', 'e'] rest).map fun rest => (false, rest)
  | s => .error (otherType "a boolean" s)

/-- A text. -/
def readText (s : Input) : Except Fault (String × Input) :=
  match skipSpace s with
  | .char '"' :: rest => readString (.char '"' :: rest)
  | s => .error (otherType "a string" s)

/-- A text or `null`. -/
def readTextOrNull (s : Input) : Except Fault (Option String × Input) :=
  match skipSpace s with
  | .char 'n' :: rest => (readLiteral ['u', 'l', 'l'] rest).map fun rest => (none, rest)
  | s => (readText s).map fun (text, rest) => (some text, rest)

/-- A number of either kind that `convert` accepts. -/
def readConverted {α : Type} (expected : String) (convert : Number → Except Cause α) (s : Input) :
    Except Fault (α × Input) :=
  match skipSpace s with
  | .char c :: rest =>
    if startsNumber c then
      match readNumber (.char c :: rest) with
      | .error fault => .error fault
      | .ok (n, rest) =>
        match convert n with
        | .ok x => .ok (x, rest)
        | .error cause => .error (.here cause rest)
    else .error (otherType expected (.char c :: rest))
  | s => .error (otherType expected s)

/-- A natural number; a double is none, even if its value is whole. -/
def readNatural : Input → Except Fault (Nat × Input) :=
  readConverted "u64" fun
    | .whole n => if 0 ≤ n then .ok n.toNat else .error (.wrongValue (.number (.whole n)) "u64")
    | .double x => .error (.wrongType (.number (.double x)) "u64")

/-- A double; a whole number is taken for the double next to it. -/
def readSeconds : Input → Except Fault (Float × Input) :=
  readConverted "f64" fun
    | .whole n => .ok (Float.ofInt n)
    | .double x => .ok x

/-- Bindings: an object whose values open at most `room` containers at once. -/
def readBindings (room : Nat) (s : Input) : Except Fault (Bindings × Input) :=
  match skipSpace s with
  | .char '{' :: rest => readMembers (valueMember (readValue room) Bindings.insert) ∅ rest
  | s => .error (otherType "a map" s)

/-! ### Records -/

/-- A field of a message whose drafts are of type `δ`. -/
structure RecordField (δ : Type) where
  name : String
  /-- Whether a draft has the field already. -/
  isGiven : δ → Bool
  /-- Reads the field's value into a draft. -/
  read : δ → Input → Except Fault (δ × Input)

/-- A kind of message. -/
structure Record (δ α : Type) where
  /-- Its name in the wording of faults. -/
  name : String
  fields : List (RecordField δ)
  /-- A draft with no field. -/
  empty : δ
  /-- The message that a draft stands for, or the name of the first field that is missing. -/
  finish : δ → Except String α

/-- What is left behind an object that is given up: its closing brace is taken if it is next. -/
def afterBrace (s : Input) : Input :=
  match skipSpace s with
  | .char '}' :: rest => rest
  | s => s

/-- A member of an object that holds a message. -/
def fieldMember {δ : Type} (fields : List (RecordField δ)) (draft : δ) (key : String) (s : Input) :
    Except Fault (δ × Input) :=
  match fields.find? fun f => f.name = key with
  | none =>
    match readColon s with
    | .error fault => .error fault
    | .ok rest => (skipValue rest).map fun rest => (draft, rest)
  | some f =>
    if f.isGiven draft then .error (.here (.duplicateField key) (afterBrace s))
    else
      match readColon s with
      | .error fault => .error fault
      | .ok rest => f.read draft rest

/-- The items of an array that holds a message, behind the item before them. The array may stop at
any field; it may not go on behind the last one. -/
def moreFields {δ : Type} : List (RecordField δ) → δ → Input → Except Fault (δ × Input)
  | fields, draft, s =>
    match skipSpace s, fields with
    | [], _ => .error (.here .arrayEnds [])
    | .char ']' :: rest, _ => .ok (draft, rest)
    | .char ',' :: rest, f :: fields =>
      match afterComma ']' rest with
      | .error fault => .error fault
      | .ok rest =>
        match f.read draft rest with
        | .error fault => .error fault
        | .ok (draft, rest) => moreFields fields draft rest
    | .char ',' :: rest, [] =>
      match afterComma ']' rest with
      | .error fault => .error fault
      | .ok rest => .error (.behindNext .trailingText rest)
    | s, _ :: _ => .error (.behindNext .itemEndExpected s)
    | s, [] => .error (.behindNext .trailingText s)

/-- The items of an array that holds a message, behind its opening bracket. -/
def readFields {δ : Type} (fields : List (RecordField δ)) (draft : δ) (s : Input) :
    Except Fault (δ × Input) :=
  match skipSpace s, fields with
  | [], _ => .error (.here .arrayEnds [])
  | .char ']' :: rest, _ => .ok (draft, rest)
  | s, f :: fields =>
    match f.read draft s with
    | .error fault => .error fault
    | .ok (draft, rest) => moreFields fields draft rest
  | s, [] => .error (.behindNext .trailingText s)

namespace Record

variable {δ α : Type}

/-- What is wrong with an array that ends before a field that must be there. -/
def tooShort (record : Record δ α) (field : String) : Cause :=
  .tooShort (record.fields.findIdx fun f => f.name = field)
    s!"struct {record.name} with {record.fields.length} elements"

/-- The message that a draft stands for. `missing` says what is wrong if a field is not there. -/
def close (record : Record δ α) (missing : String → Cause) :
    Except Fault (δ × Input) → Except Fault (α × Input)
  | .error fault => .error fault
  | .ok (draft, rest) =>
    match record.finish draft with
    | .ok message => .ok (message, rest)
    | .error field => .error (.here (missing field) rest)

/-- A message at the start of a text. -/
def readStart (record : Record δ α) (s : Input) : Except Fault (α × Input) :=
  match skipSpace s with
  | .char '{' :: rest =>
    record.close .missingField (readMembers (fieldMember record.fields) record.empty rest)
  | .char '[' :: rest =>
    record.close record.tooShort (readFields record.fields record.empty rest)
  | s => .error (otherType s!"struct {record.name}" s)

/-- The message that a whole text stands for. -/
def ofSymbols (record : Record δ α) (s : Input) : Except Fault α :=
  match record.readStart s with
  | .error fault => .error fault
  | .ok (message, rest) => atEnd message rest

end Record

/-- The value of a field that must be there. -/
def needed {α : Type} (field : String) (value : Option α) : Except String α :=
  value.elim (.error field) .ok

/-- The containers that the values of bindings may open: a message and its bindings are two. -/
def valueRoom : Nat :=
  maxDepth - 2

end Wire

open Wire

/-! ### Requests -/

/-- A request of which some fields are read. -/
structure Request.Draft where
  generation : Option Nat := none
  wholeProgram : Option Bool := none
  source : Option String := none
  bindings : Option Bindings := none

/-- Requests need all their fields. -/
def Request.record : Record Request.Draft Request where
  name := "ExecRequest"
  empty := {}
  fields := [
    { name := "generation"
      isGiven := fun d => d.generation.isSome
      read := fun d s => (readNatural s).map fun (x, s) => ({ d with generation := some x }, s) },
    { name := "is_main_run"
      isGiven := fun d => d.wholeProgram.isSome
      read := fun d s => (readBool s).map fun (x, s) => ({ d with wholeProgram := some x }, s) },
    { name := "source_text"
      isGiven := fun d => d.source.isSome
      read := fun d s => (readText s).map fun (x, s) => ({ d with source := some x }, s) },
    { name := "environment_in"
      isGiven := fun d => d.bindings.isSome
      read := fun d s =>
        (readBindings valueRoom s).map fun (x, s) => ({ d with bindings := some x }, s) }]
  finish d := do
    return {
      generation := ← needed "generation" d.generation
      wholeProgram := ← needed "is_main_run" d.wholeProgram
      source := ← needed "source_text" d.source
      bindings := ← needed "environment_in" d.bindings }

/-- The request that a text stands for. -/
def Request.ofSymbols (s : Json.Input) : Except Json.Fault Request :=
  Request.record.ofSymbols s

/-! ### Responses -/

/-- A response of which some fields are read. -/
structure Response.Draft where
  ok : Option Bool := none
  output : Option String := none
  seconds : Option Float := none
  bindings : Option Bindings := none
  lastValue : Option (Option String) := none

/-- Responses need only to say whether they are of success; other fields have defaults. -/
def Response.record : Record Response.Draft Response where
  name := "ExecResponse"
  empty := {}
  fields := [
    { name := "ok"
      isGiven := fun d => d.ok.isSome
      read := fun d s => (readBool s).map fun (x, s) => ({ d with ok := some x }, s) },
    { name := "output_text"
      isGiven := fun d => d.output.isSome
      read := fun d s => (readText s).map fun (x, s) => ({ d with output := some x }, s) },
    { name := "elapsed_seconds"
      isGiven := fun d => d.seconds.isSome
      read := fun d s => (readSeconds s).map fun (x, s) => ({ d with seconds := some x }, s) },
    { name := "environment_out"
      isGiven := fun d => d.bindings.isSome
      read := fun d s =>
        (readBindings valueRoom s).map fun (x, s) => ({ d with bindings := some x }, s) },
    { name := "last_value"
      isGiven := fun d => d.lastValue.isSome
      read := fun d s =>
        (readTextOrNull s).map fun (x, s) => ({ d with lastValue := some x }, s) }]
  finish d := do
    return {
      ok := ← needed "ok" d.ok
      output := d.output.getD ""
      seconds := d.seconds.getD 0
      bindings := d.bindings.getD ∅
      lastValue := d.lastValue.getD none }

/-- The response that a text stands for. -/
def Response.ofSymbols (s : Json.Input) : Except Json.Fault Response :=
  Response.record.ofSymbols s

end Workbench
