import Workbench.Shell.Launch

/-!
# Running shell scripts

The commands of a script for `sh` change a shell one after the other until it leaves. What a command
does with the commands inside it goes through an `Inner`, which is the same a level deeper;
`Inner.ofDepth` ties the knot with a bound on the levels, and loops have a bound on their turns. A
shell that exhausts a bound is one that never comes to its end.
-/

namespace Workbench.Shell

/-! ### Obeying words -/

/-- Calls a function: it has arguments, local variables and loops of its own. -/
def callFunction (inner : Inner) (body : Command) (args : List Bytes) (sh : Shell) :
    DiskTask Shell := do
  let after ← inner.run [body] { sh with
    args
    locals := some []
    loops := 0
    optionIndex := 1
    optionPlace := none }
  let bound := (after.locals.getD []).foldl (fun bound (name, old) =>
    match old with
    | some entry => Keyed.insert name entry bound
    | none => without name bound) after.bound
  return { after with
    bound
    args := sh.args
    locals := sh.locals
    loops := sh.loops
    optionIndex := sh.optionIndex
    optionPlace := sh.optionPlace
    leave := if after.leave = some .returned then none else after.leave }

/-- Obeys the script in a file. -/
def runFile (inner : Inner) (name : String) (sh : Shell) : DiskTask Shell :=
  let run (text : Bytes) : DiskTask Shell := do
    let script := (Text.lossyText text).toList
    let after ← runText inner true script { sh with about := s!"{name}: " }
    return { after with
      about := sh.about
      leave := if after.leave = some .returned then none else after.leave }
  if name = emptyFile then run []
  else if !name.toList.contains '/' then sh.abandonOf "." s!"{name}: not found"
  else
    .read (sh.path name) fun
      | .ok text => run text
      | .error error => sh.abandonOf "." s!"cannot open {name}: {readRefusal error}"

/-- Whether a name is that of a command of the shell. -/
def isBuiltin (name : String) : Bool :=
  specialCommands.contains name || ["kill", "wait", "command", "type"].contains name ||
    (builtin? name).isSome || (builtinUtility? name).isSome

/-- Says what kind of command each of some names is. -/
def describe (brief : Bool) : List String → Shell → DiskTask Shell
  | [], sh => .done sh
  | name :: rest, sh => do
    let program := (← findProgram sh.path sh.programList? name).toOption.map (·.path)
    let found : Option (String × String) :=
      if Token.keywords.contains name then some (name, "is a shell keyword")
      else if let some text := Keyed.get? name sh.aliases then
        let value := Text.lossyText (quotedText (Text.bytesOf text))
        some (s!"alias {name}={value}", s!"is an alias for {text}")
      else if specialCommands.contains name then some (name, "is a special shell builtin")
      else if (Keyed.get? name sh.functions).isSome then some (name, "is a shell function")
      else if isBuiltin name then some (name, "is a shell builtin")
      else program.map fun path => (path, s!"is {path}")
    match found with
    | some (short, long) =>
      let line := if brief then short else s!"{name} {long}"
      describe brief rest (← sh.write 1 (Text.bytesOf (line ++ "\n")))
    | none =>
      let sh ← if brief then pure sh else sh.write 1 (Text.bytesOf s!"{name}: not found\n")
      describe brief rest { sh with status := 127 }

/-- Obeys a command of the shell that obeys other commands; nothing if there is no such command. -/
def commandOfCommands? (inner : Inner) (name : String) (args : List Bytes) :
    Option (Shell → DiskTask Shell) :=
  match name with
  | "eval" => some fun sh => do
    let script := (Text.lossyText (spaced args)).toList
    let after ← runText inner false script { sh with about := "eval: " }
    return { after with about := sh.about }
  | "." => some fun sh =>
    match args with
    | [] => succeed sh
    | file :: _ => runFile inner (Text.lossyText file) sh
  | "exec" => some fun sh =>
    match args with
    | [] => succeed sh
    | program :: args => do
      let sh ← launch inner true (Text.lossyText program) args { sh with about := "exec: " }
      return { sh with traps := [], leave := sh.leave.orElse fun _ => some (.exited sh.status) }
  | "kill" => some (kill inner args)
  | "wait" => some (wait inner args)
  | "type" => some fun sh => describe false (texts args) { sh with status := 0 }
  | _ => none

/-- Obeys a name and its arguments, as a command of the shell or as a program. -/
def obeyPlain (inner : Inner) (name : String) (args : List Bytes) (sh : Shell) : DiskTask Shell :=
  match commandOfCommands? inner name args, builtin? name, builtinUtility? name with
  | some act, _, _ => act sh
  | none, some builtin, _ => builtin args sh
  | none, none, some utility =>
    let called := s!"{sh.zero}: {sh.line}: {name}"
    runUtility inner utility called s!"{called}: {name}: I/O error" args sh
  | none, none, none => launch inner false name args sh

/-- Obeys a name and its arguments. Functions come before all commands but some of the shell. -/
def obey (inner : Inner) (name : String) (args : List Bytes) (sh : Shell) : DiskTask Shell :=
  match Keyed.get? name sh.functions with
  | some body => callFunction inner body args sh
  | none =>
    if name ≠ "command" then obeyPlain inner name args sh
    else
      withOptions "command" "pvV" (fun letters args sh =>
        match letters.filter (· ≠ 'p'), args with
        | [], [] => succeed sh
        | [], first :: args => obeyPlain inner (Text.lossyText first) args sh
        | shown, names =>
          describe (shown.getLast? = some 'v') (texts names) { sh with status := 0 }) "" args sh

/-! ### Simple commands -/

/-- The commands whose arguments may be assignments, which are not split into fields. -/
def declaringCommands : List String :=
  ["export", "readonly", "local"]

/-- The fields of the words of a command. -/
def commandFields (inner : Inner) : List Word → Shell → DiskTask (List Bytes × Shell)
  | [], sh => .done ([], sh)
  | first :: rest, sh => do
    let (found, sh) ← fields inner first sh
    if sh.leave.isSome then return (found, sh)
    else
      let declares := found.any fun name => declaringCommands.contains (Text.lossyText name)
      let (others, sh) ←
        if declares then declared rest sh else allFields inner rest sh
      return (found ++ others, sh)
where
  /-- The fields of words of which assignments are one field each. -/
  declared : List Word → Shell → DiskTask (List Bytes × Shell)
    | [], sh => .done ([], sh)
    | word :: rest, sh => do
      let (found, sh) ←
        if (assignment? word).isSome then do
          let (text, sh) ← wholeText inner word sh
          pure ([text], sh)
        else fields inner word sh
      if sh.leave.isSome then return (found, sh)
      else
        let (others, sh) ← declared rest sh
        return (found ++ others, sh)

/-- Expands the values of assignments and sets the variables, and marks them if they are for a
program. The texts of the assignments are given back. -/
def assignWords (inner : Inner) (exported : Bool) : List (String × Word) → Shell →
    DiskTask (List Bytes × Shell)
  | [], sh => .done ([], sh)
  | (name, word) :: rest, sh => do
    let (value, sh) ← valueText inner word sh
    if sh.leave.isSome then return ([], sh)
    else
      let sh ← sh.assign name value
      if sh.leave.isSome then return ([], sh)
      else
        let entry := (Keyed.get? name sh.bound).getD {}
        let sh := bind name { entry with exported := entry.exported || exported } sh
        let (others, sh) ← assignWords inner exported rest sh
        return ((Text.bytesOf name ++ 61 :: value) :: others, sh)

/-- Shows a command before it is obeyed, if that is asked for. -/
def trace (inner : Inner) (streams : List (Nat × Stream)) (words : List Bytes) (sh : Shell) :
    DiskTask Shell :=
  if !sh.options.showsCommands then .done sh
  else do
    let mark := (sh.value? "PS4").getD []
    let quiet := { sh with options := sh.options.set 'x' false }
    let (mark, after) ← match documentWord? (Text.lossyText mark).toList with
      | some word => wholeText inner word quiet
      | none => pure (mark, sh)
    let after ← { after with streams }.write 2 (mark ++ spaced words ++ [newline])
    return { after with streams := sh.streams, options := sh.options }

/-- Obeys fields with their assignments, whose variables have their old values afterwards unless the
command is one of those that come first. -/
def obeyFields (inner : Inner) (streams : List (Nat × Stream)) (assignments : List (String × Word))
    (fields : List Bytes) (sh : Shell) : DiskTask Shell := do
  let name := Text.lossyText (fields.headD [])
  let lasting := fields = [] || specialCommands.contains name
  let (texts, after) ← assignWords inner (!lasting) assignments sh
  if after.leave.isSome then return after
  else
    let after ← trace inner streams (texts ++ fields) after
    if fields = [] then return { after with status := after.captured }
    else
      let after ← obey inner name fields.tail after
      return if lasting then after else { after with
        bound := assignments.foldl (fun bound (name, _) =>
          match Keyed.get? name sh.bound with
          | some entry => Keyed.insert name entry bound
          | none => without name bound) after.bound }

/-- Obeys a simple command: its words are expanded, its redirections are obeyed, and then what is
left is done. The redirections of `exec` without a program last. -/
def runSimple (inner : Inner) (line : Nat) (assignments : List (String × Word)) (words : List Word)
    (redirections : List Redirection) (sh : Shell) : DiskTask Shell := do
  let streams := sh.streams
  let (fields, sh) ← commandFields inner words { sh with line, captured := 0 }
  if sh.leave.isSome then return sh
  else
    let name := Text.lossyText (fields.headD [])
    let (worked, sh) ← redirectAll inner redirections sh
    if sh.leave.isSome then return { sh with streams }
    else if !worked then
      let fatal := fields ≠ [] ∧ specialCommands.contains name
      return { sh with streams, leave := if fatal then some (.exited 2) else none }
    else
      let after ← obeyFields inner streams assignments fields sh
      return if fields = [Text.bytesOf "exec"] then after else { after with streams }

/-! ### Commands of commands -/

/-- The shell with a failure ended by it, if that is asked for and the failure is no condition. -/
def checked (sh : Shell) : Shell :=
  if sh.options.exitsOnFailure && sh.status ≠ 0 && !sh.tested && sh.leave.isNone then
    { sh with leave := some (.exited sh.status) }
  else sh

/-- Does something whose failure is a condition. -/
def asCondition (act : Shell → DiskTask Shell) (sh : Shell) : DiskTask Shell := do
  return { ← act { sh with tested := true } with tested := sh.tested }

/-- Goes on only if the shell does not leave. -/
def andThen (act : Shell → DiskTask Shell) (sh : Shell) : DiskTask Shell :=
  if sh.leave.isSome then .done sh else act sh

/-- The greatest number of turns of a loop. -/
def maxTurns : Nat :=
  100000

/-- The shell behind the body of a loop, and whether another turn may follow. -/
def afterTurn (sh : Shell) : Bool × Shell :=
  match sh.leave with
  | none => (true, sh)
  | some (.broke n) => (false, { sh with leave := if n ≤ 1 then none else some (.broke (n - 1)) })
  | some (.continued n) =>
    if n ≤ 1 then (true, { sh with leave := none })
    else (false, { sh with leave := some (.continued (n - 1)) })
  | some _ => (false, sh)

/-- Repeats the turns of a loop; `status` is that of the last body. -/
def repeatTurns (inner : Inner) (untilTrue : Bool) (condition body : List Command) :
    (bound : Nat) → (status : Nat) → Shell → DiskTask Shell
  | 0, _, sh => .done { sh with leave := some .never }
  | bound + 1, status, sh => do
    let (again, sh) := afterTurn (← asCondition (inner.run condition) sh)
    if !again then return sh
    else if (sh.status = 0) = untilTrue then return { sh with status }
    else
      let (again, sh) := afterTurn (← inner.run body sh)
      if again then repeatTurns inner untilTrue condition body bound sh.status sh else return sh

/-- Obeys commands once for each value of a variable. -/
def repeatFor (inner : Inner) (name : String) (body : List Command) :
    List Bytes → Shell → DiskTask Shell
  | [], sh => .done sh
  | value :: rest, sh => do
    let sh ← sh.assign name value
    if sh.leave.isSome then return sh
    else
      let (again, sh) := afterTurn (← inner.run body sh)
      if again then repeatFor inner name body rest sh else return sh

/-- Whether a text matches one of some words. -/
def matchesAny (inner : Inner) (text : Bytes) : List Word → Shell → DiskTask (Bool × Shell)
  | [], sh => .done (false, sh)
  | word :: rest, sh => do
    let (pattern, sh) ← wordPattern inner word sh
    if sh.leave.isSome then return (false, sh)
    else if Glob.matchesAll pattern text then return (true, sh)
    else matchesAny inner text rest sh

/-- Obeys the commands of the first case that a text matches. -/
def runCases (inner : Inner) (text : Bytes) : List (List Word × List Command) → Shell →
    DiskTask Shell
  | [], sh => succeed sh
  | (patterns, body) :: rest, sh => do
    let (found, sh) ← matchesAny inner text patterns sh
    if sh.leave.isSome then return sh
    else if found then if body.isEmpty then succeed sh else inner.run body sh
    else runCases inner text rest sh

/-- Obeys the commands of a pipeline, each in a copy of the shell. All of them start at the same
time and with the same status, and the last one to end is waited for. A command that would go on for
ever ends when the one behind it does not read all that it puts out; `endless` says whether the one
in front would. -/
def runStages (inner : Inner) (start status : Nat) (endless : Bool) : (source : Option Nat) →
    List Command → Shell → DiskTask Shell
  | _, [], sh => .done sh
  | source, stage :: rest, sh => do
    let pipe := sh.channels.length
    let opened := if rest.isEmpty then sh else (sh.openChannel [] false).2
    let inside (copy : Shell) : Shell :=
      let copy := source.elim copy fun source => copy.connect 0 (some (.channel source))
      if rest.isEmpty then copy else copy.connect 1 (some (.channel pipe))
    let run (copy : Shell) : DiskTask Shell :=
      inner.run [stage] (inside { copy with time := start, status })
    let after ← inSubshell inner run opened
    let after := { after with time := max sh.time after.time }
    let starves := endless && source.any fun source => after.channel source = []
    let flows := after.leave = some Leave.never && !rest.isEmpty && after.channel pipe ≠ []
    if starves then return { after with leave := some .never }
    else if after.leave.isSome && !flows then return after
    else runStages inner start status flows (some pipe) rest { after with leave := none }

/-- Obeys a command. -/
def runCommand (inner : Inner) (command : Command) (sh : Shell) : DiskTask Shell :=
  match command with
  | .simple line assignments words redirections => do
    return checked (← runSimple inner line assignments words redirections sh)
  | .subshell commands => do
    return checked (← inSubshell inner (inner.run commands) sh)
  | .redirected line command redirections => do
    let (worked, opened) ← redirectAll inner redirections { sh with line }
    if opened.leave.isSome ∨ !worked then return { opened with streams := sh.streams }
    else return { ← inner.run [command] opened with streams := sh.streams }
  | .group commands => inner.run commands sh
  | .branch condition yes no => do
    let sh ← asCondition (inner.run condition) sh
    andThen (fun sh =>
      if sh.status = 0 then inner.run yes sh
      else if no.isEmpty then succeed sh
      else inner.run no sh) sh
  | .loop untilTrue condition body => do
    let after ← repeatTurns inner untilTrue condition body maxTurns 0
      { sh with loops := sh.loops + 1 }
    return { after with loops := sh.loops }
  | .each line name words body => do
    let (values, opened) ← allFields inner words { sh with line }
    andThen (fun opened => do
      let after ← repeatFor inner name body values
        { opened with loops := sh.loops + 1, status := 0 }
      return { after with loops := sh.loops }) opened
  | .choose line word cases => do
    let (text, opened) ← wholeText inner word { sh with line }
    andThen (runCases inner text cases) opened
  | .define name body => succeed { sh with functions := Keyed.insert name body sh.functions }
  | .pipeline stages => do
    let after ← runStages inner sh.time sh.status false none stages sh
    return checked { after with channels := after.channels.take sh.channels.length }
  | .negation command => do
    let sh ← asCondition (inner.run [command]) sh
    andThen (fun sh => .done { sh with status := if sh.status = 0 then 1 else 0 }) sh
  | .both first second => do
    let sh ← asCondition (inner.run [first]) sh
    andThen (fun sh => if sh.status = 0 then inner.run [second] sh else .done sh) sh
  | .either first second => do
    let sh ← asCondition (inner.run [first]) sh
    andThen (fun sh => if sh.status = 0 then .done sh else inner.run [second] sh) sh
  | .background command => .done (startJob command sh)

/-- Obeys commands in order, as far as the shell does not leave. -/
def runCommands (inner : Inner) : List Command → Shell → DiskTask Shell
  | [], sh => .done sh
  | command :: rest, sh => do
    let after ← if sh.options.skipsCommands then pure sh else runCommand inner command sh
    let after ← andThen (fun sh => heed inner sh.sent.length sh) after
    andThen (runCommands inner rest) after

/-! ### Levels -/

/-- What can be done with a shell when commands nest at most `depth` deep. -/
def Inner.ofDepth : (depth : Nat) → Inner
  | 0 => {
      run := fun _ sh => .done { sh with leave := some .never }
      expand := fun _ sh => .done ([], { sh with leave := some .never })
      close := .done
      start := fun _ _ _ sh => .done (.ok { sh with leave := some .never }) }
  | depth + 1 => {
      run := runCommands (ofDepth depth)
      expand := expandPieces (ofDepth depth)
      close := closeProcess (ofDepth depth)
      start := startProgram (ofDepth depth) }

end Workbench.Shell
