import Workbench.Regex.Basic
import Workbench.Shell.Utility.Copies
import Workbench.Text.Numeral

/-!
# Editing lines

`sed` runs a script of commands on each line of a text. The line is kept in a space of its own,
where commands change it; another space holds text from line to line. Commands can be limited to
some lines by addresses, and can jump to labels. A run is a sequence of steps on a state, so what a
script does is a function of its commands and of the lines.
-/

namespace Workbench.Shell.Edit

/-! ### Scripts -/

/-- A condition on a line. -/
inductive Address where
  | line (n : Nat)
  /-- A line, and every so many lines behind it. -/
  | every (first step : Nat)
  | last
  | matching (r : Regex)
  deriving DecidableEq, Repr

/-- The end of a range of lines. -/
inductive Ending where
  | through (address : Address)
  /-- So many lines behind its start. -/
  | behind (lines : Nat)
  /-- The next line behind it whose number is a multiple. -/
  | multiple (n : Nat)
  deriving DecidableEq, Repr

/-- The lines that a command is for. -/
structure Selection where
  first : Option Address := none
  last : Option Ending := none
  /-- Whether all other lines are meant. -/
  inverted : Bool := false
  deriving DecidableEq, Repr

/-- How letters of a replacement are changed. -/
inductive LetterCase where
  | upper
  | lower
  | plain
  /-- The next letter alone. -/
  | nextUpper
  | nextLower
  deriving DecidableEq, Repr

/-- A part of a replacement. -/
inductive Part where
  | text (bytes : Bytes)
  /-- What a group matched, or the whole match for the number zero. -/
  | group (number : Nat)
  | letters (change : LetterCase)
  deriving DecidableEq, Repr

/-- The replacement of matches. -/
structure Substitution where
  regex : Regex
  parts : List Part
  /-- Whether all matches from the `nth` one on are replaced. -/
  all : Bool := false
  nth : Nat := 1
  prints : Bool := false
  file : Option Bytes := none
  deriving DecidableEq, Repr

/-- When a jump is made. -/
inductive JumpRule where
  | always
  | ifReplaced
  | unlessReplaced
  deriving DecidableEq, Repr

/-- Where text is put. -/
inductive TextPlace where
  | before
  | after
  | instead
  deriving DecidableEq, Repr

/-- A command. -/
inductive Command where
  | openBlock
  | closeBlock
  | label (name : String)
  /-- To the label of a name, or to the end of the script. -/
  | jump (rule : JumpRule) (label : String)
  | put (place : TextPlace) (text : Bytes)
  | delete
  /-- Takes the first line of several away. -/
  | deleteFirst
  | print
  | printFirst
  /-- Goes on with the next line. -/
  | next
  /-- Puts the next line behind this one. -/
  | join
  | hold (adding : Bool)
  | get (adding : Bool)
  | exchange
  | printNumber
  | printName
  /-- Prints the line with all its characters visible. -/
  | display (width : Option Nat)
  | quit (prints : Bool) (status : Nat)
  | readFile (name : Bytes)
  | readLine (name : Bytes)
  | writeFile (firstOnly : Bool) (name : Bytes)
  | substitute (s : Substitution)
  | replaceBytes (table : List (UInt8 × UInt8))
  | clear
  | nothing
  deriving DecidableEq, Repr

/-- A script and how it is run. -/
structure Script where
  commands : Array (Selection × Command)
  /-- Whether lines are printed only if a command says so. -/
  quiet : Bool := false
  /-- What lines end with. -/
  ending : UInt8 := 10
  /-- Whether each file is a text of its own. -/
  separate : Bool := false
  /-- Whether what is printed for a file takes its place. -/
  inPlace : Bool := false
  /-- How wide lines are that are displayed. -/
  width : Nat := 70
  /-- The files that commands read. -/
  files : List (Bytes × Bytes) := []

/-! ### States -/

/-- A line of some file. -/
structure Line where
  text : Bytes
  /-- Whether it has an end. -/
  ended : Bool
  file : Bytes
  isFirst : Bool
  isLast : Bool
  deriving DecidableEq, Repr

/-- A space for text. -/
structure Space where
  text : Bytes := []
  /-- Whether the text is printed with an end. -/
  ended : Bool := true
  deriving DecidableEq, Repr

/-- A space with the text of another one on a line behind its own. -/
def Space.append (space other : Space) : Space where
  text := space.text ++ newline :: other.text
  ended := space.ended || other.ended

/-- Text that is printed when the next line is read. -/
inductive Later where
  | text (bytes : Bytes)
  | line (bytes : Bytes)
  deriving DecidableEq, Repr

/-- What is done next. -/
inductive Phase where
  | reading
  | command (index : Nat)
  | finished
  deriving DecidableEq, Repr

/-- A run of a script. -/
structure State where
  lines : List Line
  /-- The line that is being worked on. -/
  current : Line := ⟨[], true, [], false, false⟩
  number : Nat := 0
  pattern : Space := {}
  hold : Space := {}
  phase : Phase := .reading
  /-- The ranges that have begun, by the numbers of their commands, with the numbers of the lines
  that they end at, if these are known. -/
  ranges : List (Nat × Option Nat) := []
  replaced : Bool := false
  later : List Later := []
  /-- What was printed, the last piece first, each with the name of its file; the output has no
  name. -/
  printed : List (Bytes × Bytes) := []
  /-- The files in which the last line has no end yet. -/
  unended : List Bytes := []
  /-- How many lines were read of files that commands read. -/
  linesRead : List (Bytes × Nat) := []
  status : Nat := 0

namespace State

/-- Prints to a file. A line without an end there gets one first. -/
def printTo (script : Script) (file text : Bytes) (ended : Bool) (s : State) : State :=
  let gap := if s.unended.contains file then [script.ending] else []
  { s with
    printed := (file, gap ++ text ++ if ended then [script.ending] else []) :: s.printed
    unended := if ended then s.unended.erase file else file :: s.unended.erase file }

/-- The file that is printed to. -/
def output (script : Script) (s : State) : Bytes :=
  if script.inPlace then s.current.file else []

/-- Prints a line. -/
def printLine (script : Script) (text : Bytes) (ended : Bool) (s : State) : State :=
  s.printTo script (s.output script) text ended

/-- Prints text as it is. -/
def printText (script : Script) (text : Bytes) (s : State) : State :=
  let file := s.output script
  let gap := if s.unended.contains file then [script.ending] else []
  { s with printed := (file, gap ++ text) :: s.printed, unended := s.unended.erase file }

/-- Prints the line that is worked on. -/
def printPattern (script : Script) (s : State) : State :=
  s.printLine script s.pattern.text s.pattern.ended

/-- Prints what was to be printed later. -/
def flush (script : Script) (s : State) : State :=
  s.later.foldl (fun s later =>
    match later with
    | .text bytes => s.printText script bytes
    | .line bytes => s.printLine script bytes true) { s with later := [] }

/-- Whether the line is the last one. -/
def atLast (script : Script) (s : State) : Bool :=
  if script.separate then s.current.isLast else s.lines.isEmpty

/-- The state after the next line was read, if there is one; it stands behind some text. -/
def read? (script : Script) (front : Bytes) (s : State) : Option State :=
  match s.lines with
  | [] => none
  | line :: rest =>
    let s := s.flush script
    some { s with
      lines := rest
      current := line
      number := if script.separate && line.isFirst then 1 else s.number + 1
      pattern := ⟨front ++ line.text, line.ended⟩
      replaced := false }

/-- The end of the work on a line. -/
def endCycle (script : Script) (s : State) : State :=
  let s := if script.quiet then s else s.printPattern script
  { s.flush script with phase := .reading }

end State

/-! ### Selecting -/

/-- Whether an address means the line. -/
def Address.holds (script : Script) (s : State) : Address → Bool
  | line n => s.number = n
  | every first step =>
    if step = 0 then s.number = first else first ≤ s.number && (s.number - first) % step = 0
  | last => s.atLast script
  | matching r => r.occursIn s.pattern.text

/-- Whether a range that starts at the line goes on behind it, and up to which line if that is
known. -/
def Ending.start (number : Nat) : Ending → Option (Option Nat)
  | through (.line n) => if n ≤ number then none else some (some n)
  | through _ => some none
  | behind lines => if lines = 0 then none else some (some (number + lines))
  | multiple n => if n = 0 then none else some (some (number + n - number % n))

namespace Selection

/-- Whether a range that has begun means the line, and whether it goes on behind it. -/
def continues (script : Script) (s : State) (limit : Option Nat) (selection : Selection) :
    Bool × Bool :=
  match limit, selection.last with
  | some n, _ => (s.number ≤ n, s.number < n)
  | none, some (.through address) => (true, !address.holds script s)
  | none, _ => (true, false)

/-- Whether a command with a number is for the line, and the state with its range. -/
def holds (script : Script) (index : Nat) (s : State) (selection : Selection) : Bool × State :=
  let ended : State := { s with ranges := s.ranges.filter (·.1 ≠ index) }
  let starts : Bool × State :=
    match selection.first, selection.last with
    | none, _ => (true, s)
    | some address, none => (address.holds script s, s)
    | some address, some ending =>
      if !address.holds script s then (false, ended)
      else
        match ending.start s.number with
        | none => (true, ended)
        | some limit => (true, { ended with ranges := (index, limit) :: ended.ranges })
  let (found, s) :=
    match s.ranges.lookup index with
    | none => starts
    | some limit =>
      match selection.continues script s limit with
      | (true, true) => (true, s)
      | (true, false) => (true, ended)
      | (false, _) => (selection.first.any (·.holds script s), ended)
  (found != selection.inverted, s)

end Selection

/-! ### Replacing -/

/-- A letter in a case. -/
def changeLetter (change : LetterCase) (b : UInt8) : UInt8 :=
  match change with
  | .upper | .nextUpper => if 97 ≤ b ∧ b ≤ 122 then b - 32 else b
  | .lower | .nextLower => if 65 ≤ b ∧ b ≤ 90 then b + 32 else b
  | .plain => b

/-- The text that takes the place of a match, when letters are changed in a way, and the next one in
another way perhaps. -/
def replacement (found : Regex.Match) : (change : LetterCase) → (next : Option LetterCase) →
    List Part → Bytes
  | _, _, [] => []
  | change, next, part :: rest =>
    let put (bytes : Bytes) : Bytes :=
      match bytes, next with
      | [], _ => replacement found change next rest
      | b :: s, some first =>
        changeLetter first b :: s.map (changeLetter change) ++ replacement found change none rest
      | s, none => s.map (changeLetter change) ++ replacement found change none rest
    match part with
    | .text bytes => put bytes
    | .group 0 => put found.text
    | .group n => put (found.finish.group n)
    | .letters .nextUpper => replacement found change (some .nextUpper) rest
    | .letters .nextLower => replacement found change (some .nextLower) rest
    | .letters change => replacement found change none rest

namespace Substitution

/-- The text from a place on with its matches replaced, and whether one was replaced; `count` is the
number of matches before, and a match may not be empty where the last one ended. -/
def replaceFrom (sub : Substitution) : (bound count : Nat) → (lastEnd : Option Nat) → Spot →
    Bytes × Bool
  | 0, _, _, p => (p.rest, false)
  | bound + 1, count, lastEnd, p =>
    match sub.regex.search? p with
    | none => (p.rest, false)
    | some found =>
      let before := p.upTo found.start
      let isEmpty := found.start.index = found.finish.index
      let goOn (count : Nat) : Bytes × Bool :=
        if isEmpty then
          match found.finish.next? with
          | none => ([], false)
          | some (b, q) =>
            let (rest, any) := replaceFrom sub bound count none q
            (b :: rest, any)
        else replaceFrom sub bound count (some found.finish.index) found.finish
      if isEmpty && lastEnd = some found.start.index then
        let (rest, any) := goOn count
        (before ++ rest, any)
      else if count + 1 < sub.nth then
        let (rest, any) := goOn (count + 1)
        (before ++ found.text ++ rest, any)
      else
        let new := replacement found .plain none sub.parts
        if sub.all then (before ++ new ++ (goOn (count + 1)).1, true)
        else (before ++ new ++ found.finish.rest, true)

/-- A text with its matches replaced, and whether there were any. -/
def apply (sub : Substitution) (text : Bytes) : Bytes × Bool :=
  sub.replaceFrom (text.length + 2) 0 none { rest := text }

end Substitution

/-! ### Displaying -/

/-- The visible characters of a byte. -/
def spelling (b : UInt8) : Bytes :=
  let letters : List (UInt8 × Char) :=
    [(92, '\\'), (7, 'a'), (8, 'b'), (12, 'f'), (10, 'n'), (13, 'r'), (9, 't'), (11, 'v')]
  match letters.lookup b with
  | some c => [92, c.toNat.toUInt8]
  | none =>
    if 32 ≤ b ∧ b ≤ 126 then [b]
    else [92, 48 + b / 64, 48 + b / 8 % 8, 48 + b % 8]

/-- Spellings in lines of a width, of which all but the last one end with a backslash; some have
been put on a line. -/
def wrapped (width : Nat) : (line : Bytes) → List Bytes → Bytes
  | line, [] => line ++ [36, newline]
  | line, s :: rest =>
    if 1 < width && width - 1 < line.length + s.length then
      line ++ 92 :: newline :: wrapped width s rest
    else wrapped width (line ++ s) rest

/-! ### Steps -/

/-- The text up to its first newline, and the text behind it if there is one. -/
def firstLine (s : Bytes) : Bytes × Option Bytes :=
  let first := s.takeWhile (· ≠ newline)
  (first, if first.length < s.length then some (s.drop (first.length + 1)) else none)

/-- The number of the command behind the end of a block, `depth` blocks deep, when a command has a
number. -/
def behindBlock : (depth index : Nat) → List (Selection × Command) → Nat
  | _, index, [] => index
  | depth, index, (_, command) :: rest =>
    match command with
    | .openBlock => behindBlock (depth + 1) (index + 1) rest
    | .closeBlock => if depth ≤ 1 then index + 1 else behindBlock (depth - 1) (index + 1) rest
    | _ => behindBlock depth (index + 1) rest

/-- The number of the command that a label stands at; the end of the script without one. -/
def Script.target (script : Script) (label : String) : Nat :=
  (script.commands.toList.findIdx? fun entry => entry.2 = Command.label label).getD
    script.commands.size

/-- The state after a command with a number. -/
def perform (script : Script) (index : Nat) (selection : Selection) (command : Command)
    (s : State) : State :=
  let go (s : State) : State := { s with phase := .command (index + 1) }
  let text := s.pattern.text
  let withText (text : Bytes) : State := go { s with pattern := { s.pattern with text } }
  match command with
  | .openBlock | .closeBlock | .label _ | .nothing => go s
  | .jump rule label =>
    let jumps := match rule with
      | .always => true
      | .ifReplaced => s.replaced
      | .unlessReplaced => !s.replaced
    let s := if rule = JumpRule.always then s else { s with replaced := false }
    if jumps then
      let index := if label = "" then script.commands.size else script.target label
      { s with phase := .command index }
    else go s
  | .put .before added => go (s.printText script added)
  | .put .after added => go { s with later := s.later ++ [.text added] }
  | .put .instead added =>
    let shows := selection.inverted || (s.ranges.lookup index).isNone
    let s := if shows then s.printText script added else s
    { s.flush script with phase := .reading }
  | .delete => { s.flush script with phase := .reading }
  | .deleteFirst =>
    match firstLine text with
    | (_, none) => { s.flush script with phase := .reading }
    | (_, some rest) =>
      { s.flush script with phase := .command 0, pattern := { s.pattern with text := rest } }
  | .print => go (s.printPattern script)
  | .printFirst =>
    let (first, rest) := firstLine text
    go (s.printLine script first (rest.isSome || s.pattern.ended))
  | .next =>
    if s.lines.isEmpty then s.endCycle script
    else
      let s := if script.quiet then s else s.printPattern script
      go ((s.read? script []).getD s)
  | .join =>
    match s.read? script (text ++ [script.ending]) with
    | some s => go s
    | none => s.endCycle script
  | .hold adding =>
    if adding then go { s with hold := s.hold.append s.pattern }
    else go { s with hold := s.pattern }
  | .get adding =>
    if adding then go { s with pattern := s.pattern.append s.hold }
    else go { s with pattern := s.hold }
  | .exchange => go { s with pattern := s.hold, hold := s.pattern }
  | .printNumber => go (s.printText script (Text.bytesOf s!"{s.number}\n"))
  | .printName =>
    let name := if s.current.file = [] then [45] else s.current.file
    go (s.printText script (name ++ [newline]))
  | .display width =>
    go (s.printText script (wrapped (width.getD script.width) [] (text.map spelling)))
  | .quit prints status =>
    let s := { s with status }
    if prints then { s.endCycle script with phase := .finished } else { s with phase := .finished }
  | .readFile name =>
    match script.files.lookup name with
    | some text => go { s with later := s.later ++ [.text text] }
    | none => go s
  | .readLine name =>
    let n := (s.linesRead.lookup name).getD 0
    match (linesOf ((script.files.lookup name).getD []))[n]? with
    | some line =>
      go { s with
        later := s.later ++ [.line line]
        linesRead := (name, n + 1) :: s.linesRead }
    | none => go s
  | .writeFile firstOnly name =>
    let (first, rest) := firstLine text
    go (if firstOnly then s.printTo script name first (rest.isSome || s.pattern.ended)
      else s.printTo script name text s.pattern.ended)
  | .substitute sub =>
    let (new, any) := sub.apply text
    if !any then go s
    else
      let s := { s with pattern := { s.pattern with text := new }, replaced := true }
      let s := if sub.prints then s.printPattern script else s
      go (sub.file.elim s fun name => s.printTo script name new s.pattern.ended)
  | .replaceBytes table => withText (text.map fun b => (table.lookup b).getD b)
  | .clear => withText []

/-- The state after one step. -/
def step (script : Script) (s : State) : State :=
  match s.phase with
  | .finished => s
  | .reading =>
    match s.read? script [] with
    | none => { s with phase := .finished }
    | some s => { s with phase := .command 0 }
  | .command index =>
    match script.commands[index]? with
    | none => s.endCycle script
    | some (selection, command) =>
      let (found, s) := selection.holds script index s
      if found then perform script index selection command s
      else if command = .openBlock then
        let behind := script.commands.toList.drop (index + 1)
        { s with phase := .command (behindBlock 1 (index + 1) behind) }
      else { s with phase := .command (index + 1) }

/-- The state after at most `bound` steps. -/
def run (script : Script) : (bound : Nat) → State → State
  | 0, s => s
  | bound + 1, s => if s.phase = .finished then s else run script bound (step script s)

/-- The greatest number of steps of a run. -/
def maxSteps : Nat :=
  1000000

end Workbench.Shell.Edit
