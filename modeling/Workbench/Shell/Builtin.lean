import Workbench.Shell.Redirection
import Workbench.Shell.Signal
import Workbench.Shell.Token
import Workbench.Shell.Utility.Output

/-!
# Commands of the shell itself

The commands of `sh` that change the shell: its variables, options, arguments, traps and directory,
and where it goes on. Those that obey other commands are not among them. A fault in one of the
commands that come first of all ends the shell, a fault in another one is only its failure.
-/

namespace Workbench.Shell

/-- A command of the shell, as a function of its arguments. -/
abbrev Builtin : Type :=
  List Bytes → Shell → DiskTask Shell

/-- Fails with a message about a command: at the end of the shell, if the command is one of those
that come first. -/
def failIn (command message : String) (sh : Shell) : DiskTask Shell :=
  if specialCommands.contains command then sh.abandonOf command message
  else sh.complainOf command message 2

/-- The shell after a command that has succeeded. -/
def succeed (sh : Shell) : DiskTask Shell :=
  .done { sh with status := 0 }

/-- The arguments as texts. -/
def texts (args : List Bytes) : List String :=
  args.map Text.lossyText

/-- The options in one argument, by their letters, and whether the last one waits for its value in
the next argument. -/
def letterOptions (flags valued : List Char) : List Char → Except String (List Char × Bool)
  | [] => .ok ([], false)
  | c :: rest =>
    if valued.contains c then .ok ([c], rest = [])
    else if flags.contains c then
      (letterOptions flags valued rest).map fun (found, waits) => (c :: found, waits)
    else .error s!"Illegal option -{String.singleton c}"

/-- The options in front of arguments and the arguments behind them. Two dashes end the options. -/
def leadingOptions (flags valued : List Char) :
    List Bytes → Except String (List Char × List Bytes)
  | [] => .ok ([], [])
  | arg :: rest =>
    match (Text.lossyText arg).toList with
    | ['-', '-'] => .ok ([], rest)
    | '-' :: c :: cs => do
      let (found, waits) ← letterOptions flags valued (c :: cs)
      match waits, rest with
      | false, rest =>
        let (others, operands) ← leadingOptions flags valued rest
        return (found ++ others, operands)
      | true, _ :: rest =>
        let (others, operands) ← leadingOptions flags valued rest
        return (found ++ others, operands)
      | true, [] =>
        let waiting := String.ofList (found.getLast?).toList
        throw s!"No arg for -{waiting} option"
    | _ => .ok ([], arg :: rest)

/-- Does something with the options and the other arguments of a command, or fails if there is an
option that it does not have. -/
def withOptions (command flags : String) (act : List Char → Builtin) (valued : String := "") :
    Builtin := fun args sh =>
  match leadingOptions flags.toList valued.toList args with
  | .ok (letters, operands) => act letters operands sh
  | .error message => sh.failIn command message

/-- Whether a text is the name of a variable. -/
def isVariableName (text : String) : Bool :=
  isName text.toList

/-- The part of a text that counts as a name: what is in front of an equals sign. -/
def nameIn (text : String) : String :=
  String.ofList (text.toList.takeWhile (· ≠ '='))

/-! ### Leaving -/

/-- The greatest number that can be an argument of `exit`. -/
def maxStatus : Nat :=
  2147483647

/-- The number that an argument stands for; it may have blanks around it and a plus sign in front.
-/
def count? (arg : Bytes) : Option Nat :=
  match Text.integer? (Text.trim (Text.lossyText arg).toList) with
  | some (.ofNat n) => if n ≤ maxStatus then some n else none
  | _ => none

/-- Does something with the number that is the first argument, or with another one if there is none.
-/
def withCount (command : String) (least default : Nat) (args : List Bytes)
    (act : Nat → Shell → DiskTask Shell) (sh : Shell) : DiskTask Shell :=
  match args with
  | [] => act default sh
  | arg :: _ =>
    match (count? arg).filter (least ≤ ·) with
    | some n => act n sh
    | none => sh.failIn command s!"Illegal number: {Text.lossyText arg}"

/-- Leaves the shell. -/
def exit : Builtin := fun args sh =>
  sh.withCount "exit" 0 sh.status args fun n sh =>
    .done { sh with leave := some (.exited (n % 256)) }

/-- Leaves the function, or the script outside of functions. -/
def leaveFunction : Builtin := fun args sh =>
  sh.withCount "return" 0 sh.status args fun n sh =>
    .done { sh with leave := some .returned, status := n % 256 }

/-- Leaves loops, or goes on with the next turn of one. -/
def leaveLoops (command : String) (leave : Nat → Leave) : Builtin := fun args sh =>
  sh.withCount command 1 1 args fun n sh =>
    let n := min n sh.loops
    .done { sh with status := 0, leave := if n = 0 then none else some (leave n) }

/-! ### Arguments and options -/

/-- A text in quotes, as a script would have it. -/
def quotedText (text : Bytes) : Bytes :=
  39 :: (text.flatMap fun b => if b = 39 then Text.bytesOf "'\"'\"'" else [b]) ++ [39]

/-- Drops some arguments of the shell. -/
def shift : Builtin := fun args sh =>
  sh.withCount "shift" 0 1 args fun n sh =>
    if sh.args.length < n then sh.failIn "shift" "can't shift that many"
    else succeed { sh with args := sh.args.drop n }

/-- The long names of options, with their letters if they have some. -/
def optionNames : List (String × Option Char) :=
  [("errexit", some 'e'), ("noglob", some 'f'), ("ignoreeof", some 'I'), ("interactive", some 'i'),
    ("monitor", some 'm'), ("noexec", some 'n'), ("stdin", some 's'), ("xtrace", some 'x'),
    ("verbose", some 'v'), ("vi", some 'V'), ("emacs", some 'E'), ("noclobber", some 'C'),
    ("allexport", some 'a'), ("notify", some 'b'), ("nounset", some 'u'),
    ("privileged", some 'p'), ("nolog", none), ("debug", none)]

/-- Sets options, or takes them back, by the letters of an argument behind its sign. The letter `o`
stands for a long name among the arguments that follow, of which the others are given back. Letters
in `extra` are let through. -/
def Options.setAll (extra : List Char) (sign : Char) :
    List Char → List Bytes → Options → Except String (Options × List Bytes)
  | [], args, options => .ok (options, args)
  | 'o' :: letters, [], options => setAll extra sign letters [] options
  | 'o' :: letters, name :: args, options =>
    let name := Text.lossyText name
    match optionNames.lookup name with
    | some letter =>
      let options := letter.elim options fun letter => options.set letter (sign = '-')
      setAll extra sign letters args options
    | none => .error s!"Illegal option -o {name}"
  | letter :: letters, args, options =>
    if extra.contains letter then setAll extra sign letters args options
    else if Options.known.contains letter then
      setAll extra sign letters args (options.set letter (sign = '-'))
    else .error s!"Illegal option -{String.singleton letter}"

/-- Shows the variables. -/
def showAll (sh : Shell) : DiskTask Shell := do
  let lines := sh.bound.filterMap fun (name, entry) =>
    entry.value.map fun value => Text.bytesOf s!"{name}=" ++ quotedText value ++ [newline]
  succeed (← sh.write 1 lines.flatten)

/-- Obeys the arguments of `set` in order, at most `bound` of them, up to one that is no option. -/
def setFrom : (bound : Nat) → (args : List Bytes) → Shell → DiskTask Shell
  | 0, _, sh | _, [], sh => succeed sh
  | bound + 1, arg :: rest, sh =>
    match (Text.lossyText arg).toList with
    | ['-', '-'] => succeed { sh with args := rest }
    | ['-'] => succeed (if rest = [] then sh else { sh with args := rest })
    | sign :: letters =>
      if sign = '-' ∨ sign = '+' then
        match sh.options.setAll [] sign letters rest with
        | .ok (options, rest) => setFrom bound rest { sh with options }
        | .error message => sh.failIn "set" message
      else succeed { sh with args := arg :: rest }
    | [] => succeed { sh with args := arg :: rest }

/-- Shows the options, as a table or as the commands that would set them. -/
def showOptions (asCommands : Bool) (sh : Shell) : DiskTask Shell := do
  let lines := optionNames.map fun (name, letter) =>
    let on := letter.any sh.options.has
    if asCommands then String.join ["set ", if on then "-" else "+", "o ", name, "\n"]
    else
      let padding := String.ofList (List.replicate (16 - name.length) ' ')
      String.join [name, padding, if on then "on" else "off", "\n"]
  let title := if asCommands then "" else "Current option settings\n"
  succeed (← sh.write 1 (Text.bytesOf (String.join (title :: lines))))

/-- Sets options and arguments. Without arguments it shows the variables. -/
def set : Builtin := fun args sh =>
  match texts args with
  | [] => sh.showAll
  | ["-o"] => sh.showOptions false
  | ["+o"] => sh.showOptions true
  | _ => setFrom args.length args sh

/-! ### Variables -/

/-- Whether a variable may only be read. -/
def isReadOnly (name : String) (sh : Shell) : Bool :=
  (Keyed.get? name sh.bound).any (·.readOnly)

/-- The name and the value of an argument that may be an assignment. -/
def assignmentOf (arg : Bytes) : String × Option Bytes :=
  let name := arg.takeWhile (· ≠ 61)
  (Text.lossyText name, if name = arg then none else some (arg.drop (name.length + 1)))

/-- Changes the variables that arguments name, and sets those that are given a value. -/
def declare (command : String) (change : String → Variable → Shell → Shell) : Builtin
  | [], sh => succeed sh
  | arg :: rest, sh => do
    let (name, value) := assignmentOf arg
    if !isVariableName name then sh.failIn command s!"{name}: bad variable name"
    else
      let sh := change name ((Keyed.get? name sh.bound).getD {}) sh
      let sh ← match value with
        | some value =>
          if isReadOnly name sh then sh.failIn command s!"{name}: is read only"
          else sh.assign name value
        | none => pure sh
      if sh.leave.isSome then return sh else declare command change rest sh

/-- Shows the variables that satisfy a condition, as the commands that would set them. -/
def showVariables (command : String) (shown : Variable → Bool) (sh : Shell) : DiskTask Shell := do
  let lines := (sh.bound.filter fun entry => shown entry.2).map fun (name, entry) =>
    Text.bytesOf s!"{command} {name}" ++
      (entry.value.elim [] fun value => 61 :: quotedText value) ++ [newline]
  succeed (← sh.write 1 lines.flatten)

/-- The shell with other properties of a variable. -/
def bind (name : String) (entry : Variable) (sh : Shell) : Shell :=
  { sh with bound := sh.bound.insert name entry }

/-- Marks variables for programs. -/
def exportAll : Builtin :=
  withOptions "export" "p" fun letters args sh =>
    if args = [] ∨ letters ≠ [] then sh.showVariables "export" (·.exported)
    else declare "export" (fun name entry => bind name { entry with exported := true }) args sh

/-- Marks variables that may not be changed. The value that is given with the mark is still set. -/
def readonly : Builtin :=
  withOptions "readonly" "p" fun letters args sh => do
    if args = [] ∨ letters ≠ [] then sh.showVariables "readonly" (·.readOnly)
    else
      let sh ← declare "readonly" (fun _ _ sh => sh) args sh
      if sh.leave.isSome then return sh
      else
        let names := args.map fun arg => arg.takeWhile (· ≠ 61)
        declare "readonly" (fun name entry => bind name { entry with readOnly := true }) names sh

/-- Makes variables local to the function that runs. -/
def declareLocal : Builtin := fun args sh =>
  match sh.locals with
  | none => sh.failIn "local" "not in a function"
  | some _ =>
    declare "local" (fun name _ sh =>
      { sh with locals := sh.locals.map ((name, Keyed.get? name sh.bound) :: ·) }) args sh

/-- The list without an entry. -/
def without {α : Type} (name : String) (entries : Keyed α) : Keyed α :=
  entries.filter (·.1 ≠ name)

/-- Takes variables or functions away. -/
def unset : Builtin :=
  withOptions "unset" "vf" fun letters args sh =>
    if letters.getLast? = some 'f' then
      succeed ((texts args).foldl (fun sh name =>
        { sh with functions := without name sh.functions }) sh)
    else go ((texts args).map nameIn) sh
where
  /-- Takes variables away in order. -/
  go : List String → Shell → DiskTask Shell
    | [], sh => succeed sh
    | name :: rest, sh =>
      if !isVariableName name then sh.failIn "unset" s!"{name}: bad variable name"
      else if isReadOnly name sh then sh.failIn "unset" s!"{name}: is read only"
      else go rest { sh with bound := without name sh.bound }

/-! ### Reading a line -/

/-- A byte of a line; one behind a backslash has no meaning. -/
abbrev LineByte : Type :=
  UInt8 × Bool

/-- The first line of a text, the rest, and whether the line has an end. Unless the line is raw, a
backslash takes the meaning of the byte behind it, and joins lines. -/
def takeLine (raw : Bool) : Bytes → List LineByte × Bytes × Bool
  | [] => ([], [], false)
  | [b] => if b = newline then ([], [], true)
    else (if b = backslash ∧ !raw then [] else [(b, false)], [], false)
  | b :: c :: s =>
    if b = newline then ([], c :: s, true)
    else if b = backslash ∧ !raw then
      let found := takeLine raw s
      (if c = newline then found.1 else (c, true) :: found.1, found.2)
    else
      let found := takeLine raw (c :: s)
      ((b, false) :: found.1, found.2)

/-- Whether a byte of a line separates fields. -/
def LineByte.separates (separators : Bytes) (b : LineByte) : Bool :=
  !b.2 && separators.contains b.1

/-- Whether a byte of a line is white space that separates fields. -/
def LineByte.isBlank (separators : Bytes) (b : LineByte) : Bool :=
  LineByte.separates separators b && isWhite b.1

/-- The first field of a line and what is behind its end. -/
def splitField (separators : Bytes) (line : List LineByte) : List LineByte × List LineByte :=
  let field := line.takeWhile fun b => !LineByte.separates separators b
  let rest := (line.drop field.length).dropWhile (LineByte.isBlank separators)
  let rest := match rest with
    | b :: behind =>
      if LineByte.separates separators b then behind.dropWhile (LineByte.isBlank separators)
      else rest
    | [] => []
  (field, rest)

/-- The values that a line gives to some variables, the last of which takes all that is left. -/
def lineFields (separators : Bytes) : (names : Nat) → List LineByte → List Bytes
  | 0, _ => []
  | 1, line =>
    let (field, rest) := splitField separators line
    let text := if rest = [] then field
      else (line.reverse.dropWhile (LineByte.isBlank separators)).reverse
    [text.map (·.1)]
  | names + 1, line =>
    let (field, rest) := splitField separators line
    field.map (·.1) :: lineFields separators names rest

/-- Sets variables in order. -/
def assignAll : List (String × Bytes) → Shell → DiskTask Shell
  | [], sh => .done sh
  | (name, value) :: rest, sh => do
    let sh ← sh.assign name value
    if sh.leave.isSome then return sh else assignAll rest sh

/-- Reads a line into variables. -/
def readLine : Builtin :=
  withOptions "read" "r" (fun letters args sh =>
    match (texts args).map nameIn with
    | [] => sh.failIn "read" "arg count"
    | names =>
      match names.find? (!isVariableName ·), names.find? (isReadOnly · sh) with
      | some name, _ => sh.failIn "read" s!"{name}: bad variable name"
      | none, some name => sh.failIn "read" s!"{name}: is read only"
      | none, none => do
        let (line, rest, ended) := takeLine (letters.contains 'r') (sh.input.filter (· ≠ 0))
        let line := line.dropWhile (LineByte.isBlank sh.separators)
        let values := lineFields sh.separators names.length line
        let sh ← assignAll (names.zip values) (sh.leaveInput rest)
        return { sh with status := if ended then 0 else 1 }) "p"

/-! ### Directories -/

/-- An absolute path without the components that stand for others. -/
def plainPath (path : String) : String :=
  let names := (Path.components path).foldl (fun names name =>
    if name = "" ∨ name = "." then names
    else if name = ".." then names.dropLast
    else names ++ [name]) []
  "/" ++ "/".intercalate names

/-- The absolute path of the directory the shell is in. -/
def whereabouts (sh : Shell) : DiskTask String :=
  if sh.directory ≠ "" then .done sh.directory
  else .ask .here fun answer => .done (answer.toOption.getD "/")

/-- Goes to another directory: to one by its name, to the home of the user, or back to the one
before. -/
def changeDirectory : Builtin :=
  withOptions "cd" "LP" fun _ args sh => do
    let textOf (name : String) : String := ((sh.value? name).map Text.lossyText).getD ""
    let named := ((texts args).head?).getD (textOf "HOME")
    let returns := named = "-"
    let name := if returns then textOf "OLDPWD" else named
    let before ← sh.whereabouts
    let goal := if name = "" then before else plainPath (Path.join before name)
    match ← fileKind (if name = "" then before else sh.path name) with
    | .ok .directory =>
      let sh := { sh with directory := goal }
      let sh := sh.bindValue "OLDPWD" (Text.bytesOf before) |>.bindValue "PWD" (Text.bytesOf goal)
      succeed (← if returns then sh.write 1 (Text.bytesOf (goal ++ "\n")) else pure sh)
    | _ => sh.failIn "cd" s!"can't cd to {name}"

/-- Shows the directory. -/
def showDirectory : Builtin :=
  withOptions "pwd" "LP" fun _ _ sh => do
    succeed (← sh.write 1 (Text.bytesOf ((← sh.whereabouts) ++ "\n")))

/-! ### Options of scripts -/

/-- Whether a letter is one of those that some text lists as options, and whether a value follows
it. -/
def listedOption? (letter : Char) : List Char → Option Bool
  | [] => none
  | [c] => if c = letter then some false else none
  | c :: next :: rest =>
    if c = letter then some (next = ':')
    else if next = ':' then listedOption? letter rest
    else listedOption? letter (next :: rest)

/-- What `getopts` found: an option or none, its value, and a message. -/
structure FoundOption where
  letter : Char
  value : Option Bytes
  message : String := ""
  /-- The number of the argument that is next. -/
  index : Nat
  /-- How many characters of the argument before it are read, if it is not done. -/
  place : Option Nat := none
  deriving DecidableEq, Repr

/-- The option that comes next among some arguments; nothing if there is none. -/
def nextOption (listed : List Char) (args : List Bytes) (index : Nat) (place : Option Nat) :
    Except Nat FoundOption :=
  let opened : List Char := match place with
    | some n => if index ≤ 1 then [] else
      ((args[index - 2]?.map fun arg => (Text.lossyText arg).toList).getD []).drop n
    | none => []
  let start : Except Nat (List Char × Nat × Nat) :=
    if opened ≠ [] then .ok (opened, index, place.getD 0)
    else
      match (args[index - 1]?.map fun arg => (Text.lossyText arg).toList) with
      | some ['-', '-'] => .error (index + 1)
      | some ('-' :: c :: rest) => .ok (c :: rest, index + 1, 1)
      | _ => .error index
  match start with
  | .error index => .error index
  | .ok ([], index, _) => .error index
  | .ok (letter :: rest, index, read) =>
    let quiet := listed.head? = some ':'
    let shown := Text.bytesOf (String.singleton letter)
    let place := if rest = [] then none else some (read + 1)
    match listedOption? letter (if quiet then listed.tail else listed) with
    | none =>
      .ok {
        letter := '?'
        value := if quiet then some shown else none
        message := if quiet then "" else s!"Illegal option -{String.singleton letter}\n"
        index, place }
    | some false => .ok { letter, value := some [], index, place }
    | some true =>
      match rest, args[index - 1]? with
      | [], none =>
        .ok {
          letter := if quiet then ':' else '?'
          value := if quiet then some shown else none
          message := if quiet then "" else s!"No arg for -{String.singleton letter} option\n"
          index }
      | [], some value => .ok { letter, value := some value, index := index + 1 }
      | rest, _ => .ok { letter, value := some (Text.bytesOf (String.ofList rest)), index }

/-- Reads the next option among the arguments of the shell or some others into a variable. -/
def readOption : Builtin :=
  withOptions "getopts" "" fun _ args sh =>
    match args with
    | listed :: name :: others => do
      let args := if others = [] then sh.args else others
      let (index, place) :=
        if args.length + 1 < sh.optionIndex then (1, none) else (sh.optionIndex, sh.optionPlace)
      let found := nextOption (Text.lossyText listed).toList args index place
      let (letter, index, place) := match found with
        | .ok option => (option.letter, option.index, option.place)
        | .error index => ('?', index, none)
      let sh ← match found with
        | .ok option => do
          let sh ← sh.write 2 (Text.bytesOf option.message)
          pure (match option.value with
            | some value => sh.bindValue "OPTARG" value
            | none => { sh with bound := without "OPTARG" sh.bound })
        | .error _ => pure sh
      let sh := sh.bindValue optionIndexName (decimal index)
      let sh ← sh.assign (Text.lossyText name) (Text.bytesOf (String.singleton letter))
      return { sh with
        optionIndex := index
        optionPlace := place
        status := if found.isOk then 0 else 1 }
    | _ => sh.failIn "getopts" "Usage: getopts optstring var [arg...]"

/-! ### Texts that stand for others -/

/-- Sets texts that stand for others where a command starts, or shows them. -/
def setAliases : Builtin := fun args sh =>
  let shown (entry : String × String) : Bytes :=
    Text.bytesOf s!"{entry.1}=" ++ quotedText (Text.bytesOf entry.2) ++ [newline]
  if args = [] then do succeed (← sh.write 1 (sh.aliases.flatMap shown))
  else go shown args { sh with status := 0 }
where
  /-- Obeys the arguments in order. -/
  go (shown : String × String → Bytes) : List Bytes → Shell → DiskTask Shell
    | [], sh => .done sh
    | arg :: rest, sh =>
      match assignmentOf arg with
      | (name, some text) =>
        go shown rest { sh with aliases := Keyed.insert name (Text.lossyText text) sh.aliases }
      | (name, none) =>
        match Keyed.get? name sh.aliases with
        | some text => do go shown rest (← sh.write 1 (shown (name, text)))
        | none => do
          let sh ← sh.write 2 (Text.bytesOf s!"alias: {name} not found\n")
          go shown rest { sh with status := 1 }

/-- Takes texts away that stand for others. -/
def dropAliases : Builtin :=
  withOptions "unalias" "a" fun letters args sh =>
    if letters ≠ [] then succeed { sh with aliases := [] }
    else go (texts args) { sh with status := 0 }
where
  /-- Obeys the arguments in order. -/
  go : List String → Shell → DiskTask Shell
    | [], sh => .done sh
    | name :: rest, sh =>
      if (Keyed.get? name sh.aliases).isSome then
        go rest { sh with aliases := without name sh.aliases }
      else do
        let sh ← sh.write 2 (Text.bytesOf s!"unalias: {name} not found\n")
        go rest { sh with status := 1 }

/-! ### Signals -/

/-- Sets what is done when signals arrive. Without an action, or with a dash in its place, signals
have their own effect again. -/
def trap : Builtin :=
  withOptions "trap" "" fun _ args sh =>
    match args with
    | [] => do
      let lines := (List.range (Signal.last + 1)).filterMap fun number =>
        (sh.traps.lookup number).map fun action =>
          Text.bytesOf "trap -- " ++ quotedText action ++
            Text.bytesOf s!" {Signal.nameOf number}\n"
      succeed (← sh.write 1 lines.flatten)
    | [name] => go none [Text.lossyText name] sh
    | action :: names => go (if action = [45] then none else some action) (texts names) sh
where
  /-- Sets one action for signals in order. -/
  go (action : Option Bytes) : List String → Shell → DiskTask Shell
    | [], sh => succeed sh
    | name :: rest, sh =>
      match Signal.number? name with
      | some number =>
        let others := sh.traps.filter (·.1 ≠ number)
        go action rest { sh with traps := (action.map (number, ·)).toList ++ others }
      | none => do
        let sh ← sh.write 2 (Text.bytesOf s!"trap: {name}: bad trap\n")
        return { sh with status := 1 }

/-- What `kill` is asked to do. -/
inductive KillRequest where
  | send (signal : Nat) (targets : List Nat)
  /-- To show the names of signals, of one or of all. -/
  | list (number : Option Nat)
  | refuse (message : String)
  deriving DecidableEq, Repr

namespace KillRequest

/-- What is said of arguments that make no sense. -/
def usage : String :=
  "Usage: kill [-s sigspec | -signum | -sigspec] [pid | job]... or\nkill -l [exitstatus]"

/-- The request to send a signal to the processes that some texts are the numbers of. -/
def ofTargets (signal : Nat) (targets : List String) : KillRequest :=
  if targets = [] then refuse usage
  else
    match targets.find? fun text => (count? (Text.bytesOf text)).isNone with
    | some text => refuse s!"Illegal number: {text}"
    | none => send signal (targets.filterMap fun text => count? (Text.bytesOf text))

/-- The request that some arguments stand for. -/
def ofArgs : List String → KillRequest
  | ["-l"] => list none
  | "-l" :: text :: _ =>
    match count? (Text.bytesOf text) with
    | some n =>
      let number := if 128 < n then n - 128 else n
      if 0 < number ∧ number ≤ Signal.last then list (some number)
      else refuse s!"invalid signal number or exit status: {text}"
    | none => refuse s!"Illegal number: {text}"
  | ["-s"] => refuse "No arg for -s option"
  | "-s" :: name :: targets =>
    match Signal.number? name with
    | some signal => ofTargets signal targets
    | none => refuse s!"invalid signal number or name: {name}"
  | "--" :: targets => ofTargets 15 targets
  | first :: rest =>
    match first.toList with
    | '-' :: c :: letters =>
      match Signal.number? (String.ofList (c :: letters)) with
      | some signal => ofTargets signal rest
      | none => refuse (String.ofList ("Illegal option -".toList ++ [c]))
    | _ => ofTargets 15 (first :: rest)
  | [] => refuse usage

end KillRequest

/-! ### By name -/

/-- The commands that change the shell, by their names. -/
def builtin? : String → Option Builtin
  | "exit" => some exit
  | "return" => some leaveFunction
  | "break" => some (leaveLoops "break" .broke)
  | "continue" => some (leaveLoops "continue" .continued)
  | "shift" => some shift
  | "set" => some set
  | "export" => some exportAll
  | "readonly" => some readonly
  | "local" => some declareLocal
  | "unset" => some unset
  | "read" => some readLine
  | "cd" => some changeDirectory
  | "pwd" => some showDirectory
  | "trap" => some trap
  | "getopts" => some readOption
  | "alias" => some setAliases
  | "unalias" => some dropAliases
  | "umask" => some fun args sh => do
    let text := match texts args with
      | [] => "0022\n"
      | ["-S"] => "u=rwx,g=rx,o=rx\n"
      | _ => ""
    succeed (← sh.write 1 (Text.bytesOf text))
  | "times" => some fun _ sh => do
    succeed (← sh.write 1 (Text.bytesOf "0m0.000000s 0m0.000000s\n0m0.000000s 0m0.000000s\n"))
  | "hash" => some (withOptions "hash" "rv" fun _ _ sh => succeed sh)
  | "ulimit" => some fun args sh => do
    succeed (← if args = [] then sh.write 1 (Text.bytesOf "unlimited\n") else pure sh)
  | _ => none

/-- The commands of the shell that are like programs, by their names. -/
def builtinUtility? : String → Option Utility
  | ":" | "true" => some (constant 0)
  | "false" => some (constant 1)
  | "echo" => some builtinEcho
  | "printf" => some builtinPrintf
  | "test" => some builtinTest
  | "[" => some builtinBrackets
  | _ => none

end Workbench.Shell
