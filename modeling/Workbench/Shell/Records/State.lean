import Workbench.Keyed
import Workbench.Shell.Records.Fields
import Workbench.Shell.Utility.Basic

/-!
# The state of a program on records

A program that `awk` runs has variables, arrays, a record with its fields, and files that it reads
and writes. What it does is a step from state to state that can end early. An argument of a function
that has no value yet is lent: if it is used as an array, so is what it was given for.
-/

namespace Workbench.Shell.Records

/-- Why a statement does not go on to the next one. -/
inductive Leave where
  | leaveLoop
  | nextTurn
  | nextRecord
  | nextFile
  | exit
  /-- A function has its value. -/
  | answer (value : Cell)
  | fault (message : Bytes)
  /-- The program does not come to its end. -/
  | never

/-- What a name leads to, whatever function is called. -/
inductive Home where
  | shared (name : String)
  /-- An argument of a call that is going on. -/
  | slot (call index : Nat)
  deriving DecidableEq, Repr

/-- What an argument of a function is. -/
inductive Slot where
  | value (cell : Cell)
  | array (number : Nat)
  /-- Nothing yet; it was given for a name. -/
  | lent (home : Home)

/-- A file that is written, or a command that gets what is written. -/
structure Writer where
  name : Bytes
  outlet : Outlet
  contents : Bytes

/-- The state of a program that runs. -/
structure State where
  call : Call
  globals : List (String × Cell) := []
  tables : Array Table := #[]
  /-- The numbers of the arrays by their names. -/
  arrays : List (String × Nat) := []
  /-- The calls that are going on, the last one at the end. -/
  calls : Array (Array Slot) := #[]
  record : Bytes := []
  fields : Array Cell := #[]
  separator : Separator := .blanks
  recordEnd : RecordEnd := .byte 10
  conversion : Bytes := Text.bytesOf "%.6g"
  outputFormat : Bytes := Text.bytesOf "%.6g"
  /-- The rules whose ranges have begun. -/
  ranges : List Nat := []
  /-- What is left of the input. -/
  inputLeft : Bytes := []
  /-- What is left of the file that is read; the input has nothing here. -/
  reading : Option (Option Bytes) := none
  /-- The number of the next operand. -/
  operand : Nat := 1
  /-- Whether a file was read. -/
  hasRead : Bool := false
  /-- Other files and commands that are read, with what is left of them and the status that they
  end with. -/
  readers : List (Bytes × Bytes × Nat) := []
  writers : List Writer := []
  /-- What was put out, the last piece first. -/
  written : List (Nat × Bytes) := []
  /-- What waits to be put out, the last piece first. -/
  waiting : List Bytes := []
  status : Nat := 0
  time : Nat := 0
  /-- The seed of random numbers, and the state that they are made from. -/
  seed : Cell := .number 0
  randomState : Nat := 1

/-- What a program does. -/
abbrev Doing (α : Type) : Type :=
  ExceptT Leave (StateT State DiskTask) α

/-- Work on files as a part of a program. -/
def work {α : Type} (task : DiskTask α) : Doing α :=
  ExceptT.lift (StateT.lift task)

/-- Fails while the program runs, with what is said before the place. -/
def failWith {α : Type} (message : Bytes) : Doing α := do
  let s ← get
  let text (name : String) : Bytes := ((s.globals.lookup name).getD .unset).toText s.conversion
  let place := Text.bytesOf "\n\tFILENAME=\"" ++ text "FILENAME" ++ Text.bytesOf "\" FNR=" ++
    textOf s.conversion (numberAt (text "FNR")) ++ Text.bytesOf " NR=" ++
    textOf s.conversion (numberAt (text "NR"))
  throw (.fault (Text.bytesOf "run time error: " ++ message ++ place))

/-! ### Values -/

/-- A value as a text. -/
def textFor (cell : Cell) : Doing Bytes := do
  return cell.toText (← get).conversion

/-- The regular expression that a value stands for. -/
def regexFor (cell : Cell) : Doing Regex := do
  let text ← textFor cell
  match regexOf text with
  | .ok r => return r
  | .error why =>
    failWith (Text.bytesOf s!"regular expression compile failed ({why})\n" ++ text)

/-! ### Records -/

/-- The state with another record, whose fields are found in it. -/
def State.withRecord (record : Bytes) (s : State) : State :=
  let fields := match s.separator, s.recordEnd with
    | .byte b, .emptyLines => (partsBetween newline record).flatMap (Separator.split · (.byte b))
    | .regex r, .emptyLines => (partsBetween newline record).flatMap (Separator.split · (.regex r))
    | separator, _ => separator.split record
  { s with record, fields := (fields.map Cell.ofInput).toArray }

/-- The state with other fields, which make up the record. -/
def State.withFields (fields : Array Cell) (s : State) : State :=
  let gap := ((s.globals.lookup "OFS").getD .unset).toText s.conversion
  let texts := fields.toList.map (·.toText s.conversion)
  { s with fields, record := gap.intercalate texts }

/-- A field, or the record for the number zero. -/
def State.field (index : Nat) (s : State) : Cell :=
  if index = 0 then Cell.ofInput s.record else s.fields[index - 1]?.getD .unset

/-- The state with another value in a field. -/
def State.withField (index : Nat) (value : Cell) (s : State) : State :=
  if index = 0 then s.withRecord (value.toText s.conversion)
  else
    let missing := List.replicate (index - s.fields.size) Cell.unset
    let fields := s.fields ++ missing.toArray
    s.withFields (fields.setIfInBounds (index - 1) value)

/-! ### Variables -/

/-- The greatest number of a field. -/
def maxField : Nat :=
  32767

/-- The value of a variable. -/
def State.shared (name : String) (s : State) : Cell :=
  if name = "NF" then .number (Float.ofNat s.fields.size)
  else (s.globals.lookup name).getD .unset

/-- The state with another value of a variable without any other effects. -/
def State.bind (name : String) (value : Cell) (s : State) : State :=
  { s with globals := Keyed.insert name value s.globals }

/-- Gives a value to a variable. Some variables say how the program works. -/
def setShared (name : String) (value : Cell) : Doing Unit := do
  let text ← textFor value
  match name with
  | "NF" =>
    let size := min maxField (truncatedWithin 0 maxField value.toNumber).toNat
    modify fun s =>
      let missing := List.replicate (size - s.fields.size) Cell.unset
      s.withFields ((s.fields ++ missing.toArray).extract 0 size)
  | "FS" =>
    match Separator.ofText text with
    | .ok separator => modify fun s => { s with separator }.bind name value
    | .error why => failWith (Text.bytesOf s!"regular expression compile failed ({why})\n" ++ text)
  | "RS" =>
    match RecordEnd.ofText text with
    | .ok recordEnd => modify fun s => { s with recordEnd }.bind name value
    | .error why => failWith (Text.bytesOf s!"regular expression compile failed ({why})\n" ++ text)
  | "CONVFMT" => modify fun s => { s with conversion := text }.bind name value
  | "OFMT" => modify fun s => { s with outputFormat := text }.bind name value
  | _ => modify (·.bind name value)

/-! ### Names -/

/-- What a name leads to. -/
def homeOf : Name → Doing Home
  | .shared name => return .shared name
  | .parameter index => return .slot ((← get).calls.size - 1) index

/-- The argument of a call. -/
def State.slot (call index : Nat) (s : State) : Slot :=
  ((s.calls[call]?).bind (·[index]?)).getD (.value .unset)

/-- The state with another argument of a call. -/
def State.withSlot (call index : Nat) (slot : Slot) (s : State) : State :=
  { s with calls := s.calls.modify call (·.setIfInBounds index slot) }

/-- The value that a name leads to. -/
def load : Home → Doing Cell
  | .shared name => return (← get).shared name
  | .slot call index =>
    return match (← get).slot call index with
      | .value cell => cell
      | _ => .unset

/-- Gives a value to what a name leads to. -/
def store (value : Cell) : Home → Doing Unit
  | .shared name => setShared name value
  | .slot call index => modify (·.withSlot call index (.value value))

/-- The number of a new array. -/
def newArray : Doing Nat := do
  let number := (← get).tables.size
  modify fun s => { s with tables := s.tables.push [] }
  return number

/-- The number of the array that a name leads to, at most `bound` calls away. It is made if there is
none. -/
def arrayAt : (bound : Nat) → Home → Doing Nat
  | _, .shared name => do
    match (← get).arrays.lookup name with
    | some number => return number
    | none =>
      let number ← newArray
      modify fun s => { s with arrays := (name, number) :: s.arrays }
      return number
  | bound, .slot call index => do
    match (← get).slot call index, bound with
    | .array number, _ => return number
    | .lent home, bound + 1 =>
      let number ← arrayAt bound home
      modify (·.withSlot call index (.array number))
      return number
    | _, _ =>
      let number ← newArray
      modify (·.withSlot call index (.array number))
      return number

/-- The number of the array of a name. -/
def arrayOf (name : Name) : Doing Nat := do
  let home ← homeOf name
  arrayAt ((← get).calls.size + 1) home

/-- The number of the array that a name leads to already. -/
def arrayIn? (home : Home) : Doing (Option Nat) := do
  let s ← get
  return match home with
    | .shared name => s.arrays.lookup name
    | .slot call index =>
      match s.slot call index with
      | .array number => some number
      | _ => none

/-- What an argument is that is given for a name alone. -/
def slotOf (name : Name) : Doing Slot := do
  let home ← homeOf name
  match ← arrayIn? home with
  | some number => return .array number
  | none =>
    match ← load home with
    | .unset => return .lent home
    | cell => return .value cell

/-- The entries of an array. -/
def tableAt (number : Nat) : Doing Table := do
  return (← get).tables[number]?.getD []

/-- Changes the entries of an array. -/
def changeTable (number : Nat) (change : Table → Table) : Doing Unit :=
  modify fun s => { s with tables := s.tables.modify number change }

/-! ### Places -/

/-- What can have a value given to it. -/
inductive Place where
  | home (home : Home)
  | field (index : Nat)
  | entry (array : Nat) (key : Key)

/-- The value at a place. What an array has no entry for, it has then. -/
def Place.load : Place → Doing Cell
  | home h => Records.load h
  | field index => return (← get).field index
  | entry array key => do
    let cell := ((← tableAt array).get? key).getD .unset
    changeTable array (·.set key cell)
    return cell

/-- Gives a value to a place. -/
def Place.store (value : Cell) : Place → Doing Unit
  | home h => Records.store value h
  | field index => modify (·.withField index value)
  | entry array key => changeTable array (·.set key value)

/-! ### Output -/

/-- Puts out what waits. -/
def flush : Doing Unit :=
  modify fun s =>
    let text := s.waiting.reverse.flatten
    { s with waiting := [], written := if text = [] then s.written else (1, text) :: s.written }

/-- Does what a command did as far as it can be seen. -/
def note (effect : Effect) : Doing Unit :=
  modify fun s => { s with
    written := effect.written.reverse ++ s.written
    time := s.time + effect.time }

/-- Obeys a command with some input. -/
def obey (script input : Bytes) : Doing Effect := do
  let effect ← work ((← get).call.obey script input)
  if effect.endless then
    note effect
    throw .never
  else return effect

/-- Stores what was written to a file, or obeys the command that it was written for, and gives the
status of that. -/
def Writer.finish (writer : Writer) : Doing Nat := do
  match writer.outlet with
  | .command =>
    let effect ← obey writer.name writer.contents
    note effect
    return effect.status
  | _ =>
    let path := (← get).call.path (Text.lossyText writer.name)
    let _ ← work (DiskTask.write path writer.contents .done)
    return 0

/-- What a file holds at first that is to be written; nothing if it cannot be written. -/
def startOf (name : Bytes) (outlet : Outlet) : Doing Bytes := do
  let path := (← get).call.path (Text.lossyText name)
  let before ← match outlet with
    | .appending => do
      match ← work (DiskTask.read path .done) with
      | .ok text => pure text
      | .error _ => pure []
    | _ => pure []
  match ← work (DiskTask.write path before .done) with
  | .ok () => return before
  | .error error =>
    let why := Text.bytesOf s!"\" for output ({Call.reason error})"
    throw (.fault (Text.bytesOf "cannot open \"" ++ name ++ why))

/-- Writes a text to a file or for a command. -/
def writeTo (name : Bytes) (outlet : Outlet) (text : Bytes) : Doing Unit := do
  let isFile := outlet ≠ .command
  if isFile && (name = [45] || name = Text.bytesOf "/dev/stdout") then
    modify fun s => { s with waiting := text :: s.waiting }
  else if isFile && name = Text.bytesOf "/dev/stderr" then
    modify fun s => { s with written := (2, text) :: s.written }
  else if isFile && name = Text.bytesOf "/dev/null" then return
  else
    let same (writer : Writer) : Bool :=
      writer.name = name && (writer.outlet = .command) = (outlet = .command)
    if !(← get).writers.any same then
      let contents ← if isFile then startOf name outlet else do
        flush
        pure []
      modify fun s => { s with writers := s.writers ++ [{ name, outlet, contents }] }
    modify fun s => { s with
      writers := s.writers.map fun writer =>
        if same writer then { writer with contents := writer.contents ++ text } else writer }

/-- Closes what is read or written under a name, and gives the status of that if there is such. -/
def close (name : Bytes) : Doing (Option Nat) := do
  let s ← get
  let closed := s.writers.filter (·.name = name)
  set { s with
    writers := s.writers.filter (·.name ≠ name)
    readers := s.readers.filter (·.1 ≠ name) }
  let statuses ← closed.mapM Writer.finish
  return match s.readers.lookup name, statuses.getLast? with
    | _, some status => some status
    | some (_, status), none => some status
    | none, none => none

/-! ### Input -/

/-- The name in an operand that gives a value to a variable, and the value. -/
def assignmentIn? (text : Bytes) : Option (String × Bytes) :=
  let name := text.takeWhile (isNameByte false)
  match name, text.drop name.length with
  | b :: _, 61 :: value =>
    if isNameByte true b then some (Text.lossyText name, value) else none
  | _, _ => none

/-- Gives a value to a variable as an operand says. -/
def assignFrom (name : String) (value : Bytes) : Doing Unit :=
  setShared name (Cell.ofInput (unescaped value.length value))

/-- Starts to read a file. -/
def openFile (name : Bytes) : Doing Unit := do
  let s ← get
  let contents : Option Bytes ←
    if Call.isInput name then do
      match s.call.inputFault with
      | none => pure none
      | some _ => pure (some [])
    else do
      match ← work (s.call.readFile [] name) with
      | .ok text => pure (some text)
      | .error .isADirectory =>
        throw (.fault (Text.bytesOf s!"read error ({Call.reason .isADirectory})"))
      | .error error =>
        throw (.fault (Text.bytesOf "cannot open \"" ++ name ++
          Text.bytesOf s!"\" ({Call.reason error})"))
  modify fun s =>
    let opened := { s with reading := some contents, hasRead := true }
    (opened.bind "FILENAME" (.text name)).bind "FNR" (.number 0)

/-- Starts to read the file of the next operand, if there is one; at most `bound` operands are
looked at. -/
def openNext : (bound : Nat) → Doing Bool
  | 0 => return false
  | bound + 1 => do
    let s ← get
    let count := (truncatedWithin 0 Text.bound63 (s.shared "ARGC").toNumber).toNat
    if count ≤ s.operand then
      if s.hasRead then return false
      else
        openFile [45]
        return true
    else
      let operands ← tableAt ((s.arrays.lookup "ARGV").getD 0)
      let arg := (operands.get? { text := Text.bytesOf (toString s.operand) }).getD .unset
      let name := arg.toText s.conversion
      modify fun s => { s with operand := s.operand + 1 }
      if name = [] then openNext bound
      else
        match assignmentIn? name with
        | some (variableName, value) =>
          assignFrom variableName value
          openNext bound
        | none =>
          openFile name
          return true

/-- The next record of the input, if there is one; at most `bound` files are looked at. -/
def nextRecord : (bound : Nat) → Doing (Option Bytes)
  | 0 => return none
  | bound + 1 => do
    let s ← get
    match s.reading with
    | none => if ← openNext (s.call.args.length + 100) then nextRecord bound else return none
    | some source =>
      match s.recordEnd.next? (source.getD s.inputLeft) with
      | none =>
        set { s with reading := none, inputLeft := if source.isNone then [] else s.inputLeft }
        nextRecord bound
      | some (record, rest) =>
        set (match source with
          | none => { s with inputLeft := rest }
          | some _ => { s with reading := some (some rest) })
        return some record

/-- Counts a record of the input. -/
def countRecord : Doing Unit :=
  modify fun s =>
    let more (name : String) (s : State) : State :=
      s.bind name (.number ((s.shared name).toNumber + 1))
    more "FNR" (more "NR" s)

/-- The next record of a text that is read under a name, if there is one. -/
def nextOf (name : Bytes) : Doing (Option Bytes) := do
  let s ← get
  match s.readers.lookup name with
  | none => return none
  | some (text, status) =>
    match s.recordEnd.next? text with
    | none => return none
    | some (record, rest) =>
      let others := s.readers.filter (·.1 ≠ name)
      set { s with readers := (name, rest, status) :: others }
      return some record

/-- Starts to read a file under its name, if that is not done yet; nothing if it cannot be read. -/
def openReader (name : Bytes) : Doing (Option Unit) := do
  let s ← get
  if (s.readers.lookup name).isSome then return some ()
  else
    match ← work (s.call.readFile s.inputLeft name) with
    | .error _ => return none
    | .ok text =>
      modify fun s => { s with readers := (name, text, 0) :: s.readers }
      if Call.isInput name then modify fun s => { s with inputLeft := [] }
      return some ()

/-- Obeys a command whose output is read under its text, if that is not done yet. -/
def openCommand (script : Bytes) : Doing Unit := do
  let s ← get
  if (s.readers.lookup script).isNone then
    flush
    let effect ← obey script s.inputLeft
    let output := (effect.written.filter (·.1 = 1)).flatMap (·.2)
    note { effect with written := effect.written.filter (·.1 ≠ 1) }
    modify fun s => { s with
      inputLeft := effect.rest
      readers := (script, output, effect.status) :: s.readers }

end Workbench.Shell.Records
