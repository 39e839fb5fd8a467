import Workbench.Shell.Records.Run

/-!
# Calling programs on records

`awk` is called with a program on records, which is the first operand, or it is in files that
options name. The operands behind it are files and values of variables.
-/

namespace Workbench.Shell.Records

/-- What the arguments of a call ask for. -/
structure Wanted where
  /-- The files that the program is in. -/
  files : List Bytes := []
  separator : Option Bytes := none
  assignments : List (String × Bytes) := []
  operands : List Bytes := []

/-- What the arguments of a call ask for, or what is wrong with them; options may have their values
behind them. -/
def Wanted.ofArgs : List Bytes → Except Bytes Wanted
  | [] => .ok {}
  | [45, 45] :: rest => .ok { operands := rest }
  | (45 :: letter :: value) :: rest =>
    match value, rest with
    | [], next :: rest => (ofArgs rest).bind (add letter next)
    | [], [] =>
      if "Ffv".toList.contains (Char.ofNat letter.toNat) then
        .error (Text.bytesOf "option -" ++ [letter] ++ Text.bytesOf " lacks argument")
      else .error (Text.bytesOf "not an option: -" ++ [letter])
    | value, rest => (ofArgs rest).bind (add letter value)
  | operands => .ok { operands }
where
  /-- Adds an option in front of others. -/
  add (letter : UInt8) (value : Bytes) (wanted : Wanted) : Except Bytes Wanted :=
    match Char.ofNat letter.toNat with
    | 'f' => .ok { wanted with files := value :: wanted.files }
    | 'F' => .ok { wanted with separator := some (wanted.separator.getD value) }
    | 'v' =>
      match assignmentIn? value with
      | some assignment => .ok { wanted with assignments := assignment :: wanted.assignments }
      | none => .error (Text.bytesOf "improper assignment: -v " ++ value)
    | 'W' => .ok wanted
    | _ => .error (Text.bytesOf "not an option: -" ++ [letter] ++ value)

/-- The texts of the files that a program is in, or why one of them cannot be read. -/
def sourceOf (call : Call) : List Bytes → DiskTask (Except Bytes Bytes)
  | [] => .done (.ok [])
  | name :: rest => do
    match ← call.readFile call.input name with
    | .error error =>
      return .error (Text.bytesOf "cannot open \"" ++ name ++
        Text.bytesOf s!"\" ({Call.reason error})")
    | .ok text => return (← sourceOf call rest).map (text ++ newline :: ·)

/-- The state before a program runs. -/
def State.initial (call : Call) (called : Bytes) (operands : List Bytes) : State :=
  let sixDigits : Cell := .text (Text.bytesOf "%.6g")
  let numbered : Table := (called :: operands).zipIdx.map fun (arg, i) =>
    ({ text := Text.bytesOf (toString i), whole := some i }, Cell.ofInput arg)
  let environment : Table := call.environment.map fun (name, value) =>
    ({ text := Text.bytesOf name }, Cell.ofInput value)
  let globals : List (String × Cell) :=
    [("ARGC", .number (Float.ofNat (operands.length + 1))), ("CONVFMT", sixDigits),
      ("FILENAME", .unset), ("FNR", .number 0), ("FS", .text [32]), ("NR", .number 0),
      ("OFMT", sixDigits), ("OFS", .text [32]), ("ORS", .text [newline]),
      ("RLENGTH", .number (-1)), ("RS", .text [newline]), ("RSTART", .number 0),
      ("SUBSEP", .text [28])]
  { call
    globals
    tables := #[numbered, environment]
    arrays := [("ARGV", 0), ("ENVIRON", 1)]
    inputLeft := call.input }

/-- How many bytes of the input are read at once. -/
def inputBlock : Nat :=
  262144

/-- What a program did, given how it ended. -/
def effectOf (called : String) (ended : Except Leave Unit) (s : State) : Effect :=
  let complaint := match ended with
    | .error (.fault message) =>
      [(2, Text.bytesOf s!"{called}: " ++ message ++ [newline])]
    | _ => []
  let used := s.call.input.length - s.inputLeft.length
  let blocks := (used + inputBlock - 1) / inputBlock
  { written := complaint ++ s.written.reverse
    status := if complaint = [] then s.status else 2
    rest := s.call.input.drop (blocks * inputBlock)
    time := s.time
    endless := match ended with
      | .error .never => true
      | _ => false }

/-- Runs a program on its operands. -/
def runOn (program : Program) (called : String) (wanted : Wanted) (operands : List Bytes)
    (call : Call) : DiskTask Effect := do
  let whole : Doing Unit := do
    if let some separator := wanted.separator then
      setShared "FS" (.text (unescaped separator.length separator))
    wanted.assignments.forM fun (name, value) => assignFrom name value
    runRules program
  let start := State.initial call (Text.bytesOf called) operands
  let (ended, s) ← whole.run.run start
  let (closed, s) ← finish.run.run s
  let ended : Except Leave Unit := match ended with
    | .ok () | .error .exit => closed
    | ended => ended
  return effectOf called ended s

/-- What is said when there is no program. -/
def usage : List String :=
  [ "Usage: mawk [Options] [Program] [file ...]",
    "",
    "Program:",
    "    The -f option value is the name of a file containing program text.",
    "    If no -f option is given, a \"--\" ends option processing; the following",
    "    parameters are the program text.",
    "",
    "Options:",
    "    -f program-file  Program  text is read from file instead of from the",
    "                     command-line.  Multiple -f options are accepted.",
    "    -F value         sets the field separator, FS, to value.",
    "    -v var=value     assigns value to program variable var.",
    "    --               unambiguous end of options.",
    "",
    "    Implementation-specific options are prefixed with \"-W\".  They can be",
    "    abbreviated:",
    "",
    "    -W version       show version information and exit.",
    "    -W compat        pre-POSIX 2001.",
    "    -W dump          show assembler-like listing of program and exit.",
    "    -W help          show this message and exit.",
    "    -W interactive   set unbuffered output, line-buffered input.",
    "    -W exec file     use file as program as well as last option.",
    "    -W posix         stricter POSIX checking.",
    "    -W random=number set initial random seed.",
    "    -W sprintf=number adjust size of sprintf buffer.",
    "    -W usage         show this message and exit."]

/-- Runs a program on records. -/
def awk : Utility := fun call => do
  let called := String.ofList ((call.called.toList.reverse.takeWhile (· ≠ '/')).reverse)
  let fail (message : Bytes) : Effect :=
    { written := [(2, Text.bytesOf s!"{called}: " ++ message ++ [newline])]
      status := 2
      rest := call.input }
  match Wanted.ofArgs call.args with
  | .error message => return fail message
  | .ok { files := [], operands := [], .. } =>
    let written := [(2, unlines (usage.map Text.bytesOf))]
    return { written, rest := call.input }
  | .ok wanted =>
    let source ← match wanted.files, wanted.operands with
      | [], [] => pure (.ok [])
      | [], text :: _ => pure (.ok text)
      | files, _ => sourceOf call files
    let operands := if wanted.files.isEmpty then wanted.operands.tail else wanted.operands
    match source with
    | .error message => return fail message
    | .ok text =>
      match Program.ofText text with
      | .error fault =>
        let file := match wanted.files.getLast? with
          | some name => name ++ Text.bytesOf ": "
          | none => []
        return fail (file ++ fault.message)
      | .ok program => runOn program called wanted operands call

end Workbench.Shell.Records
