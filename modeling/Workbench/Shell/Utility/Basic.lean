import Workbench.Shell.Quoted

/-!
# Calls of utilities

A utility is a small program of the system that scripts are made of, such as `cut` or `sort`. It is
called with arguments and with its whole input. The options among the arguments are told from the
operands here, and the files that the operands name are read.
-/

namespace Workbench.Shell

/-- A call of a utility. -/
structure Call where
  /-- What the utility is called in its messages. -/
  called : String
  args : List Bytes
  input : Bytes
  /-- Why the input cannot be read, if so. -/
  inputFault : Option DiskError := none
  /-- Whether what was read too far of the input can be given back. -/
  inputIsFile : Bool := false
  /-- The variables that it gets. -/
  environment : List (String × Bytes) := []
  /-- The path of a file by its name. -/
  path : String → String := id
  /-- What a shell does that obeys a script with some input. -/
  obey : (script input : Bytes) → DiskTask Effect := fun _ _ => .done { status := 127 }

/-- A small program. -/
abbrev Utility : Type :=
  Call → DiskTask Effect

namespace Call

/-- Fails with a message. -/
def fail (message : String) (status : Nat) (call : Call) : Effect where
  written := [(2, Text.bytesOf s!"{call.called}: {message}\n")]
  status
  rest := call.input

/-- Fails with a message and a hint where more is said. -/
def failWithHint (message : String) (status : Nat) (call : Call) : Effect :=
  call.fail s!"{message}\nTry '{call.called} --help' for more information." status

/-! ### Options -/

/-- The arguments of a call, sorted. -/
structure Sorted where
  /-- The options by their letters, with their values. -/
  options : List (Char × Bytes) := []
  operands : List Bytes := []
  deriving DecidableEq, Repr

namespace Sorted

/-- Whether there is an option. -/
def has (letter : Char) (s : Sorted) : Bool :=
  s.options.any (·.1 = letter)

/-- The last value of an option. -/
def value? (letter : Char) (s : Sorted) : Option Bytes :=
  (s.options.reverse.lookup letter)

end Sorted

/-- The letters of one argument: the options it holds, and the letter that waits for its value. -/
def letters (flags valued : List Char) : Bytes → Except String (List (Char × Bytes) × Option Char)
  | [] => .ok ([], none)
  | b :: rest =>
    let c := Char.ofNat b.toNat
    if valued.contains c then
      .ok (if rest = [] then ([], some c) else ([(c, rest)], none))
    else if flags.contains c then
      (letters flags valued rest).map fun (found, waiting) => ((c, []) :: found, waiting)
    else .error s!"invalid option -- '{Text.lossyText [b]}'"

/-- Whether an option has a value. -/
inductive Valued where
  | never
  | always
  /-- It may have one. -/
  | freely
  deriving DecidableEq, Repr

/-- An option with a long name. -/
structure LongOption where
  name : String
  /-- The letter that it is known by. -/
  letter : Char
  valued : Valued := .never
  deriving DecidableEq, Repr

/-- A long option among those that are known, by its name or the start of it, with the value that
follows an equals sign. It may have its value in the next argument. -/
def longOption (known : List LongOption) (text : String) :
    Except String (LongOption × Option Bytes) :=
  let name := String.ofList (text.toList.takeWhile (· ≠ '='))
  let value := if name = text then none
    else some (Text.bytesOf (String.ofList (text.toList.drop (name.length + 1))))
  let exact : List LongOption := known.filter (·.name = name)
  let meant : List LongOption :=
    if exact.isEmpty then known.filter (·.name.startsWith name) else exact
  match meant with
  | [] => .error s!"unrecognized option '--{text}'"
  | first :: others =>
    if others.any fun option : LongOption => option.letter ≠ first.letter then
      let names := String.join (meant.map fun option : LongOption => s!" '--{option.name}'")
      .error s!"option '--{text}' is ambiguous; possibilities:{names}"
    else if first.valued = Valued.never && value.isSome then
      .error s!"option '--{first.name}' doesn't allow an argument"
    else .ok (first, value)

/-- Sorts arguments into options and operands. Two dashes end the options, and so does an operand
unless options are `mixed` with operands. -/
def sort (flags valued : List Char) (long : List LongOption) (mixed : Bool) :
    List Bytes → Except String Sorted
  | [] => .ok {}
  | arg :: rest =>
    match arg with
    | [45, 45] => .ok { operands := rest }
    | 45 :: 45 :: name => do
      let (option, value) ← longOption long (Text.lossyText name)
      match option.valued, value, rest with
      | .always, none, value :: rest =>
        let sorted ← sort flags valued long mixed rest
        return { sorted with options := (option.letter, value) :: sorted.options }
      | .always, none, [] => .error s!"option '--{option.name}' requires an argument"
      | _, value, rest =>
        let sorted ← sort flags valued long mixed rest
        return { sorted with options := (option.letter, value.getD []) :: sorted.options }
    | 45 :: b :: s => do
      let (found, waiting) ← letters flags valued (b :: s)
      match waiting, rest with
      | none, rest =>
        let sorted ← sort flags valued long mixed rest
        return { sorted with options := found ++ sorted.options }
      | some c, value :: rest =>
        let sorted ← sort flags valued long mixed rest
        return { sorted with options := found ++ (c, value) :: sorted.options }
      | some c, [] => .error s!"option requires an argument -- '{c}'"
    | _ =>
      if !mixed then .ok { operands := arg :: rest }
      else do
        let sorted ← sort flags valued long mixed rest
        return { sorted with operands := arg :: sorted.operands }

/-- Does work on sorted arguments, or fails if they cannot be sorted. -/
def withOptions (flags valued : String) (call : Call) (work : Sorted → DiskTask Effect)
    (status : Nat := 1) (mixed : Bool := true) (long : List LongOption := []) : DiskTask Effect :=
  match sort flags.toList valued.toList long mixed call.args with
  | .ok sorted => work sorted
  | .error message => .done (call.failWithHint message status)

/-! ### Files -/

/-- The reason for an error, as the system words it. -/
def reason (error : DiskError) : String :=
  (error.system?.map (·.1)).getD error.message

/-- What is said of a file that cannot be read, and the status that stands for it. -/
structure Refusal where
  wording : (name : String) → DiskError → String := fun name error =>
    s!"{Quoted.nameIfTelling name}: {reason error}"
  status : Nat := 1

/-- Whether a name stands for the input. -/
def isInput (name : Bytes) : Bool :=
  name = [45] || name = Text.bytesOf "/dev/stdin"

/-- Reads the file of a name, or the input if it stands for that. -/
def readFile (input name : Bytes) (call : Call) : DiskTask (Except DiskError Bytes) :=
  if isInput name then .done (call.inputFault.elim (.ok input) .error)
  else if name = Text.bytesOf "/dev/null" then .done (.ok [])
  else .read (call.path (Text.lossyText name)) .done

/-- The files of some names with what is in them, and the input that is left. Without names there is
the input alone. -/
def sources (call : Call) : List Bytes →
    DiskTask (List (Bytes × Except DiskError Bytes) × Bytes)
  | [] => .done ([([45], call.inputFault.elim (.ok call.input) .error)], [])
  | names => go call.input names
where
  /-- The files of some names, when some input is left. -/
  go (input : Bytes) : List Bytes → DiskTask (List (Bytes × Except DiskError Bytes) × Bytes)
    | [] => .done ([], input)
    | name :: rest => do
      let found ← call.readFile input name
      let (others, left) ← go (if isInput name then [] else input) rest
      return ((name, found) :: others, left)

/-- Writes what each of some files gives, one after the other, and complains about those that cannot
be read. -/
def onEach (names : List Bytes) (give : Bytes → Bytes → List (Nat × Bytes)) (call : Call)
    (refusal : Refusal := {}) : DiskTask Effect := do
  let (found, rest) ← call.sources names
  let pieces := found.map fun (name, contents) =>
    match contents with
    | .ok text => (give name text, 0)
    | .error error =>
      let message := refusal.wording (Text.lossyText name) error
      ([(2, Text.bytesOf s!"{call.called}: {message}\n")], refusal.status)
  return {
    written := pieces.flatMap (·.1)
    status := pieces.foldl (fun status piece => max status piece.2) 0
    rest }

/-- Writes what all of some files give together. -/
def onAll (names : List Bytes) (give : Bytes → Bytes) (call : Call) (refusal : Refusal := {}) :
    DiskTask Effect := do
  let effect ← call.onEach names (fun _ text => [(1, text)]) refusal
  let text := (effect.written.filter (·.1 = 1)).flatMap (·.2)
  return { effect with written := effect.written.filter (·.1 = 2) ++ [(1, give text)] }

end Call

end Workbench.Shell
