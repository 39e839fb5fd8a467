import Workbench.Shell.Lookup
import Workbench.Shell.Process

/-!
# Starting programs

A program is a shell with a script of its own, a utility, or a program that starts another one:
`env`, `nice`, `nohup`, `timeout` or `xargs`. It gets the variables that are marked for programs,
and the streams as they are.
-/

namespace Workbench.Shell

/-! ### Shells -/

/-- Where a shell finds its script. -/
inductive Source where
  | text (script : List Char)
  /-- A file to be read. -/
  | file (path : String)
  /-- Its input. -/
  | input
  | refused (message : String)
  deriving DecidableEq, Repr

/-- What a shell is started with. -/
structure Start where
  source : Source
  zero : String
  args : List Bytes := []
  options : Options := {}
  deriving DecidableEq, Repr

namespace Start

/-- The start of a shell whose options are read. -/
def ofOperands (called : String) (options : Options) (letters : List Char) (args : List Bytes) :
    Start :=
  if letters.contains 'c' then
    match args with
    | [] => { source := .refused "-c requires an argument", zero := called }
    | script :: rest => {
        source := .text (Text.lossyText script).toList
        zero := (rest.head?.map Text.lossyText).getD called
        args := rest.tail
        options }
  else if letters.contains 's' then { source := .input, zero := called, args, options }
  else
    match args with
    | [] => { source := .input, zero := called, options := options.set 's' true }
    | file :: args =>
      let path := Text.lossyText file
      { source := .file path, zero := path, args, options }

/-- What the arguments of a shell ask for, of which at most `bound` are options; `letters` are those
that were read before. -/
def ofArgs (called : String) : (bound : Nat) → (options : Options) → (letters : List Char) →
    List Bytes → Start
  | 0, options, letters, args => ofOperands called options letters args
  | _, options, letters, [] => ofOperands called options letters []
  | bound + 1, options, letters, arg :: rest =>
    match (Text.lossyText arg).toList with
    | ['-'] | ['-', '-'] => ofOperands called options letters rest
    | sign :: c :: more =>
      if sign ≠ '-' ∧ sign ≠ '+' then ofOperands called options letters (arg :: rest)
      else
        match options.setAll ['c', 'l'] sign (c :: more) rest with
        | .ok (options, rest) => ofArgs called bound options (letters ++ c :: more) rest
        | .error message => { source := .refused message, zero := called }
    | _ => ofOperands called options letters (arg :: rest)

end Start

/-- Lets a new shell run its script from the start to its end. -/
def runStart (inner : Inner) (start : Start) (sh : Shell) : DiskTask Shell := do
  let called := sh.zero
  let sh := { sh with zero := start.zero, args := start.args, options := start.options }
  inner.close (← match start.source with
    | .text script => runText inner false script sh
    | .input => runText inner true (Text.lossyText sh.input).toList (sh.leaveInput [])
    | .refused message => sh.abandon message
    | .file path =>
      .read (sh.path path) fun
        | .ok text => runText inner true (Text.lossyText text).toList sh
        | .error .isADirectory => .done sh
        | .error _ => { sh with zero := called }.abandon s!"cannot open {path}: No such file")

/-- Starts another shell and waits for its end. If it takes the place of this one, it has the same
process. -/
def runShell (inner : Inner) (replacing : Bool) (called : String) (args : List Bytes) (sh : Shell) :
    DiskTask Shell := do
  let number := if replacing then sh.number else sh.lastNumber + 1
  let other ← runStart inner (.ofArgs called args.length {} [] args) {
    zero := called
    number
    parent := if replacing then sh.parent else sh.number
    kin := if replacing then sh.kin else sh.number :: sh.jobs.map (·.number) ++ sh.kin
    author := sh.author
    bound := sh.bound.filter (·.2.exported)
    streams := sh.streams
    channels := sh.channels
    directory := sh.directory
    time := sh.time
    lastNumber := max number sh.lastNumber }
  let after : Shell := { sh with
    channels := other.channels.take sh.channels.length
    time := other.time
    lastNumber := other.lastNumber
    sent := sh.sent ++ other.sent
    status := other.finalStatus }
  let after := after.arrive after.time
  match other.leave with
  | some .never => return { after with leave := after.leave.orElse fun _ => some .never }
  | some (.killed signal) =>
    if replacing then return { after with leave := some (.killed signal) }
    else
      let notice := (Signal.notice? signal).elim "" (· ++ "\n")
      after.write 2 (Text.bytesOf notice)
  | _ => return after

/-! ### Utilities -/

/-- The variables that programs get. -/
def exported (sh : Shell) : List (String × Bytes) :=
  sh.bound.filterMap fun (name, entry) =>
    if entry.exported then entry.value.map (name, ·) else none

/-- The shell after a program has done its work. A program whose output leads nowhere at all says
`broken` instead. -/
def note (inner : Inner) (broken : String) (effect : Effect) (sh : Shell) : DiskTask Shell := do
  let fails := (sh.streams.lookup 1).isNone && effect.written.any fun piece =>
    piece.1 = 1 && piece.2 ≠ []
  let written :=
    if fails then effect.written.filter (·.1 ≠ 1) ++ [(2, Text.bytesOf (broken ++ "\n"))]
    else effect.written
  let input := sh.input
  let sh := if effect.rest.length = input.length ∧ input ≠ [] then sh else sh.leaveInput effect.rest
  let sh ← written.foldlM (fun sh piece => sh.write piece.1 piece.2) sh
  let sh ← pass inner effect.time sh
  return { sh with
    status := if fails then 1 else effect.status
    leave := if effect.endless && sh.leave.isNone then some .never else sh.leave }

/-- What another shell does that obeys a script with some input. -/
def effectOfScript (inner : Inner) (sh : Shell) (script input : Bytes) : DiskTask Effect := do
  let copy : Shell := { sh with
    channels := [.ofBytes input false, {}, {}]
    streams := [(0, .channel 0), (1, .channel 1), (2, .channel 2)]
    jobs := [] }
  let after ← runShell inner false "sh" [Text.bytesOf "-c", script] copy
  return {
    written := [(1, after.channel 1), (2, after.channel 2)]
    status := after.status
    rest := after.channel 0
    time := after.time - sh.time
    endless := after.leave = some Leave.never }

/-- Calls a utility with the input of the shell. -/
def runUtility (inner : Inner) (utility : Utility) (called broken : String) (args : List Bytes)
    (sh : Shell) : DiskTask Shell := do
  let call : Call := {
    called, args
    input := sh.input
    inputFault := sh.inputFault?
    inputIsFile := sh.inputChannel?.any (·.2.ofFile)
    environment := sh.exported
    path := sh.path
    obey := sh.effectOfScript inner }
  sh.note inner broken (← utility call)

/-- What a program says if it cannot write its output. -/
def brokenOutput (name called : String) : String :=
  let act := if name = "cat" then "standard output" else "write error"
  s!"{called}: {act}: Bad file descriptor"

/-! ### Programs that start others -/

/-- What is said of a program that cannot be started, and the status that stands for it. -/
def refusal : DiskError → String × Nat
  | .notFound | .notADirectory => ("not found", 127)
  | .permissionDenied => ("Permission denied", 126)
  | .nameTooLong => ("File name too long", 127)
  | error => (error.message, 127)

/-- Starts a program for another one, which says why if there is no such program. -/
def startFor (inner : Inner) (replacing : Bool) (user : String) (program : Bytes)
    (args : List Bytes) (sh : Shell) : DiskTask Shell := do
  let name := Text.lossyText program
  match ← inner.start replacing name args sh with
  | .ok sh => return sh
  | .error error =>
    let act := if user = "env" then "" else "failed to run command "
    let shown := if user = "xargs" then Quoted.nameIfTelling name else act ++ Quoted.text program
    let sh ← sh.write 2 (Text.bytesOf s!"{user}: {shown}: {Call.reason error}\n")
    return { sh with status := (refusal error).2 }

/-- The long options of `env`. -/
def envOptions : List Call.LongOption :=
  [⟨"ignore-environment", 'i', .never⟩, ⟨"null", '0', .never⟩, ⟨"unset", 'u', .always⟩,
    ⟨"chdir", 'C', .always⟩]

/-- Says what is wrong with the arguments of a program that starts others, and fails. -/
def misused (called message : String) (status : Nat) (sh : Shell) : DiskTask Shell := do
  let hint := s!"Try '{called} --help' for more information."
  let sh ← sh.write 2 (Text.bytesOf s!"{called}: {message}\n{hint}\n")
  return { sh with status }

/-- Sets variables for another program, or shows the variables. -/
def runEnv (inner : Inner) (replacing : Bool) (called : String) (args : List Bytes) (sh : Shell) :
    DiskTask Shell :=
  match Call.sort ['i', '0'] ['u', 'C'] envOptions false args with
  | .error message => sh.misused called message 125
  | .ok sorted => do
    let bare := sorted.operands.head? = some [45]
    let operands := if bare then sorted.operands.tail else sorted.operands
    let before := if bare || sorted.has 'i' then [] else sh.bound.filter (·.2.exported)
    let kept := before.filter fun entry =>
      !sorted.options.contains ('u', Text.bytesOf entry.1)
    let assignments := operands.takeWhile (·.contains 61)
    let bound := assignments.foldl (fun bound arg =>
      let (name, value) := assignmentOf arg
      Keyed.insert name { value, exported := true } bound) kept
    let directory := (sorted.value? 'C').elim sh.directory fun name => sh.path (Text.lossyText name)
    let inside := { sh with bound, directory }
    match operands.drop assignments.length with
    | [] =>
      let ending := if sorted.has '0' then 0 else newline
      let lines := inside.exported.flatMap fun (name, value) =>
        Text.bytesOf s!"{name}=" ++ value ++ [ending]
      let after ← inside.write 1 lines
      return { after with bound := sh.bound, directory := sh.directory, status := 0 }
    | program :: args => do
      let after ← startFor inner replacing called program args inside
      return { after with bound := sh.bound, directory := sh.directory }

/-- The arguments behind the options of a program whose options all have values or none; nothing if
there is an option that is not known. -/
def behindOptions (flags valued : List Char) : List Bytes → List (Char × Bytes) × List Bytes
  | [] => ([], [])
  | [45, 45] :: rest => ([], rest)
  | (45 :: b :: s) :: rest =>
    let letter := Char.ofNat b.toNat
    if valued.contains letter then
      if s ≠ [] then
        let (found, rest) := behindOptions flags valued rest
        ((letter, s) :: found, rest)
      else
        match rest with
        | value :: rest =>
          let (found, rest) := behindOptions flags valued rest
          ((letter, value) :: found, rest)
        | [] => ([], [])
    else if flags.contains letter then
      let (found, rest) := behindOptions flags valued rest
      ((letter, []) :: found, rest)
    else ([], (45 :: b :: s) :: rest)
  | args => ([], args)

/-- Lets another program run for a limited time. -/
def runTimeout (inner : Inner) (called : String) (args : List Bytes) (sh : Shell) :
    DiskTask Shell := do
  let (options, rest) := behindOptions "v".toList "ks".toList args
  match rest with
  | [] | [_] => sh.misused called "missing operand" 125
  | limit :: program :: args =>
    match duration? limit with
    | none => sh.misused called s!"invalid time interval {Quoted.text limit}" 125
    | some limit => do
      let author := sh.lastNumber + 1
      let inside := { sh with author, lastNumber := author }
      let after ← startFor inner false called program args inside
      let stops := after.leave = some Leave.never || sh.time + limit < after.time
      let after := { after with author := sh.author }
      if limit = 0 || !stops then return after
      else
        let signal := ((options.lookup 's').bind fun name =>
          Signal.number? (Text.lossyText name)).getD 15
        let time := sh.time + limit
        return { after with
          channels := after.channels.map (·.without author time)
          time
          leave := sh.leave
          status := if signal = 9 then 137 else 124 }

/-- The items of a text, where quotes and backslashes take the meaning of blanks. An item that is
open has a closing quote missing. -/
def quotedItems (current : Option Bytes) (quote : Option UInt8) : Bytes → Except UInt8 (List Bytes)
  | [] =>
    match quote with
    | some q => .error q
    | none => .ok current.toList
  | b :: s =>
    match quote with
    | some q =>
      if b = q then quotedItems (some (current.getD [])) none s
      else if b = newline then .error q
      else quotedItems (some (current.getD [] ++ [b])) quote s
    | none =>
      if b = 32 ∨ b = 9 ∨ b = newline then do
        let rest ← quotedItems none none s
        return current.toList ++ rest
      else if b = 39 ∨ b = 34 then quotedItems (some (current.getD [])) (some b) s
      else if b = backslash then
        match s with
        | [] => .ok current.toList
        | c :: s => quotedItems (some (current.getD [] ++ [c])) none s
      else quotedItems (some (current.getD [] ++ [b])) none s

/-- A text with another one in all places of a third one. -/
def replaceAll (old new : Bytes) : (bound : Nat) → Bytes → Bytes
  | 0, s => s
  | _, [] => []
  | bound + 1, b :: s =>
    if old ≠ [] && old.isPrefixOf (b :: s) then
      new ++ replaceAll old new bound ((b :: s).drop old.length)
    else b :: replaceAll old new bound s

/-- Items in groups of some size. -/
def inBatches (size : Nat) : (bound : Nat) → List Bytes → List (List Bytes)
  | 0, _ => []
  | _, [] => []
  | bound + 1, items => items.take (max 1 size) :: inBatches size bound (items.drop (max 1 size))

/-- Starts a program again and again with the items of the input. -/
def runXargs (inner : Inner) (called : String) (args : List Bytes) (sh : Shell) :
    DiskTask Shell := do
  let (options, command) := behindOptions "0rtx".toList "nIdLPs".toList args
  let number (letter : Char) : Option Nat :=
    (options.lookup letter).bind fun text => Text.magnitude? (Text.lossyText text).toList
  let place := options.lookup 'I'
  let separator : Option UInt8 :=
    if (options.lookup '0').isSome then some 0
    else (options.lookup 'd').map fun text =>
      let (text, _) := ({ stops := false } : Escapes).replace text
      text.headD newline
  let input := sh.input
  let sh := sh.leaveInput []
  let items : Except UInt8 (List Bytes) :=
    match separator with
    | some b =>
      let parts := partsBetween b input
      .ok (if parts.getLast? = some [] then parts.dropLast else parts)
    | none =>
      if place.isSome then
        let lines := (linesOf input).map (·.dropWhile isFieldBlank)
        .ok (lines.filter (· ≠ []))
      else quotedItems none none input
  match items with
  | .error quote =>
    let kind := if quote = 34 then "double" else "single"
    let hint := "by default quotes are special to xargs unless you use the -0 option"
    let sh ← sh.write 2 (Text.bytesOf s!"{called}: unmatched {kind} quote; {hint}\n")
    return { sh with status := 1 }
  | .ok items =>
    let command := if command = [] then [Text.bytesOf "echo"] else command
    let calls : List (List Bytes) :=
      match place, number 'n', number 'L' with
      | some mark, _, _ => items.map fun item =>
        command.map fun word => replaceAll mark item word.length word
      | none, some n, _ => (inBatches n items.length items).map (command ++ ·)
      | none, none, some n =>
        let lines := (linesOf input).filterMap fun line => (quotedItems none none line).toOption
        let groups := lines.filter (· ≠ [])
        (batches n groups.length groups).map (command ++ ·)
      | none, none, none => [command ++ items]
    let calls := if items = [] then
        if (options.lookup 'r').isSome || place.isSome then [] else [command]
      else calls
    let after ← runCalls (options.lookup 't').isSome calls { sh with status := 0 }
    return after
where
  /-- The words of some lines, in groups of lines. -/
  batches (size : Nat) : (bound : Nat) → List (List Bytes) → List (List Bytes)
    | 0, _ => []
    | _, [] => []
    | bound + 1, lines =>
      (lines.take (max 1 size)).flatten :: batches size bound (lines.drop (max 1 size))
  /-- Makes the calls in order and gives the status that stands for all of them. -/
  runCalls (shows : Bool) : List (List Bytes) → Shell → DiskTask Shell
    | [], sh => .done sh
    | [] :: rest, sh => runCalls shows rest sh
    | (program :: args) :: rest, sh => do
      let sh ← if shows then sh.write 2 (spaced (program :: args) ++ [newline]) else pure sh
      let before := sh.status
      let after ← startFor inner false called program args (sh.connect 0 (some .nowhere))
      let after := { after with streams := sh.streams }
      if after.leave.isSome ∨ after.status = 126 ∨ after.status = 127 then return after
      else if after.status = 255 then
        let name := Text.lossyText program
        let after ← after.write 2
          (Text.bytesOf s!"{called}: {name}: exited with status 255; aborting\n")
        return { after with status := 124 }
      else
        let status := if 128 < after.status then 125 else if after.status ≠ 0 then 123 else before
        runCalls shows rest { after with status := status }

/-- Starts another program with an option or two of no effect in front of it. -/
def runQuietly (inner : Inner) (replacing : Bool) (called : String) (args : List Bytes)
    (sh : Shell) : DiskTask Shell :=
  match (behindOptions [] ['n'] args).2 with
  | [] => do
    if called = "nice" then
      let sh ← sh.write 1 (Text.bytesOf "0\n")
      return { sh with status := 0 }
    else sh.misused called "missing operand" 125
  | program :: args => startFor inner replacing called program args sh

/-! ### Programs by name -/

/-- Runs a program that was found under the text `called`. -/
def runProgram (inner : Inner) (replacing : Bool) (name called : String) (args : List Bytes)
    (sh : Shell) : DiskTask Shell :=
  if shellNames.contains name then runShell inner replacing called args sh
  else
    match name with
    | "env" => runEnv inner replacing called args sh
    | "timeout" => runTimeout inner called args sh
    | "xargs" => runXargs inner called args sh
    | "nice" | "nohup" => runQuietly inner replacing called args sh
    | _ =>
      match utility? name with
      | some utility => runUtility inner utility called (brokenOutput name called) args sh
      | none => .done sh

/-- The list of directories that programs are found in, if the shell was given one. -/
def programList? (sh : Shell) : Option String :=
  (sh.boundValue? "PATH").map Text.lossyText

/-- Finds a program and runs it to its end, or says why there is none. -/
def startProgram (inner : Inner) (replacing : Bool) (called : String) (args : List Bytes)
    (sh : Shell) : DiskTask (Except DiskError Shell) := do
  match ← findProgram sh.path sh.programList? called with
  | .error error => return .error error
  | .ok found => return .ok (← runProgram inner replacing found.name called args sh)

/-- The shell after it could not start a program. -/
def refuse (called : String) (error : DiskError) (sh : Shell) : DiskTask Shell :=
  if called = "" then sh.complain ": Permission denied" 127
  else sh.complain s!"{called}: {(refusal error).1}" (refusal error).2

/-- Finds a program and runs it to its end. -/
def launch (inner : Inner) (replacing : Bool) (called : String) (args : List Bytes) (sh : Shell) :
    DiskTask Shell := do
  match ← startProgram inner replacing called args sh with
  | .ok sh => return sh
  | .error error => sh.refuse called error

end Workbench.Shell
