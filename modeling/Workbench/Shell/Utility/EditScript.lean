import Workbench.Regex.Reader
import Workbench.Shell.Escape
import Workbench.Shell.Utility.Edit

/-!
# Reading scripts for editing

A script for `sed` is a sequence of commands, each with its addresses in front, between newlines and
semicolons. What is wrong with a script is told with the place at which it was noticed: how many
characters were left to read. The texts of several options are one script, in which each place
belongs to one of them.
-/

namespace Workbench.Shell.Edit

/-- What is wrong with a script. -/
structure ScriptFault where
  /-- How many characters were left when the fault was noticed; nothing if it has no place. -/
  left : Option Nat
  message : String
  /-- Whether the fault has a place at the very start. -/
  atStart : Bool := false
  deriving DecidableEq, Repr

/-- What comes of reading a part of a script. -/
abbrev Reads (α : Type) : Type :=
  Except ScriptFault (α × List Char)

/-- A fault in front of some text. -/
def faultAt (rest : List Char) (message : String) : ScriptFault :=
  { left := some rest.length, message }

/-- How a script is read. -/
structure ScriptStyle where
  extended : Bool := false
  deriving DecidableEq, Repr

/-! ### Parts of commands -/

/-- The text without the blanks in front. -/
def behindBlanks (s : List Char) : List Char :=
  s.dropWhile fun c => c = ' ' || c = '\t'

/-- Whether a character stands between commands. -/
def isBetween (c : Char) : Bool :=
  c = ';' || c = ' ' || ('\t' ≤ c && c ≤ '\r')

/-- The number at the start of a text, and the text behind it. -/
def numberAt (s : List Char) : Nat × List Char :=
  let digits := s.takeWhile Char.isDigit
  ((Text.magnitude? digits).getD 0, s.drop digits.length)

/-- Where a text stands in a regular expression: outside brackets, at the start of brackets, inside
them, or inside marks within them that end with a character. -/
inductive BracketPlace where
  | outside
  | start
  | inside
  | marked (mark : Char)
  deriving DecidableEq, Repr

/-- The place behind a character, in front of some text. -/
def BracketPlace.behind (c : Char) (rest : List Char) : BracketPlace → BracketPlace
  | outside => if c = '[' then .start else .outside
  | start => if c = '^' && rest.head? ≠ some ']' then .start else within
  | inside => if c = ']' then .outside else within
  | marked mark => if c = mark ∧ rest.head? = some ']' then .start else .marked mark
where
  /-- The place behind a character that does not end brackets. -/
  within : BracketPlace :=
    match c, rest.head? with
    | '[', some ':' => .marked ':'
    | '[', some '=' => .marked '='
    | '[', some '.' => .marked '.'
    | _, _ => .inside

/-- The text up to a delimiter, and the text behind that. The delimiter stands for itself behind a
backslash, and so does a newline; in a regular expression an `n` there is a newline, and brackets
hide delimiters. Without the delimiter, the text that was not read is given back. -/
def delimited (delimiter : Char) (regex : Bool) : (place : BracketPlace) → List Char →
    Except (List Char) (List Char × List Char)
  | _, [] | _, ['\\'] => .error []
  | _, '\n' :: s => .error ('\n' :: s)
  | place, '\\' :: c :: s =>
    let kept :=
      if c = 'n' && regex then ['\n']
      else if c = '\n' then ['\n']
      else if c = delimiter && (regex || c ≠ '&') then [c]
      else ['\\', c]
    (delimited delimiter regex (if place = .start then .inside else place) s).map
      fun (text, rest) => (kept ++ text, rest)
  | place, c :: s =>
    if c = delimiter && place = .outside then .ok ([], s)
    else
      (delimited delimiter regex (if regex then place.behind c s else place) s).map
        fun (text, rest) => (c :: text, rest)

/-- The value of at most `most` digits of a base at the start of a text, and the text behind. -/
def codeAt (base most : Nat) (s : List Char) : Option (Char × List Char) :=
  let value? (c : Char) : Option Nat := (hexadecimalValue? c.toNat.toUInt8).filter (· < base)
  let digits := (s.take most).takeWhile fun c => (value? c).isSome
  if digits = [] then none
  else
    let n := (digits.filterMap value?).foldl (fun n d => n * base + d) 0
    some (Char.ofNat (n % 256), s.drop digits.length)

/-- The character that an escape stands for, and the text behind it. -/
def escapeAt : List Char → Option (Char × List Char)
  | 'a' :: s => some (Char.ofNat 7, s)
  | 'f' :: s => some (Char.ofNat 12, s)
  | 'n' :: s => some ('\n', s)
  | 'r' :: s => some ('\r', s)
  | 't' :: s => some ('\t', s)
  | 'v' :: s => some (Char.ofNat 11, s)
  | 'c' :: c :: s =>
    let n := c.toUpper.toNat
    some (Char.ofNat (if 64 ≤ n then n - 64 else n + 64), s)
  | 'd' :: s => codeAt 10 3 s
  | 'o' :: s => codeAt 8 3 s
  | 'x' :: s => codeAt 16 2 s
  | _ => none

/-- A text with escapes replaced, of which at most `bound` are read. Characters that would have a
meaning are behind a backslash. -/
def unescaped (special : List Char) : (bound : Nat) → List Char → List Char
  | 0, s => s
  | _, [] => []
  | bound + 1, '\\' :: s =>
    match escapeAt s, s with
    | some (c, rest), _ =>
      (if special.contains c then ['\\', c] else [c]) ++ unescaped special bound rest
    | none, c :: rest => '\\' :: c :: unescaped special bound rest
    | none, [] => ['\\']
  | bound + 1, c :: s => c :: unescaped special bound s

/-- The bytes of characters that each stand for one. -/
def bytesOfChars (s : List Char) : Bytes :=
  s.map fun c => c.toNat.toUInt8

/-- The parts of a replacement, of which at most `bound` are read. -/
def partsOf : (bound : Nat) → List Char → List Part
  | 0, _ | _, [] => []
  | bound + 1, '\\' :: c :: s =>
    let part :=
      if c.isDigit then Part.group (c.toNat - '0'.toNat)
      else
        match c with
        | 'U' => .letters .upper
        | 'L' => .letters .lower
        | 'E' => .letters .plain
        | 'u' => .letters .nextUpper
        | 'l' => .letters .nextLower
        | _ => .text (bytesOfChars [c])
    part :: partsOf bound s
  | bound + 1, '&' :: s => .group 0 :: partsOf bound s
  | bound + 1, c :: s => .text (bytesOfChars [c]) :: partsOf bound s

/-- The pairs of bytes that two lists stand for side by side, if they are equally long. -/
def tableOf (old new : List Char) : Option (List (UInt8 × UInt8)) :=
  let plain (s : List Char) : List Char := go s.length s
  let old := plain old
  let new := plain new
  if old.length = new.length then some (List.zip (bytesOfChars old) (bytesOfChars new)) else none
where
  /-- A list with escapes replaced, of which at most `bound` are read. -/
  go : (bound : Nat) → List Char → List Char
    | 0, s => s
    | _, [] => []
    | bound + 1, '\\' :: '\\' :: s => '\\' :: go bound s
    | bound + 1, '\\' :: s =>
      match escapeAt s with
      | some (c, rest) => c :: go bound rest
      | none => '\\' :: go bound s
    | bound + 1, c :: s => c :: go bound s

/-- The text of a command up to a newline that has no backslash in front, and the text behind it. -/
def textAt : List Char → List Char × List Char
  | [] | ['\\'] => (['\n'], [])
  | '\n' :: s => (['\n'], s)
  | '\\' :: c :: s =>
    let c := (Regex.control? c).filter (fun _ => c ≠ 'b') |>.getD c
    (textAt s).map (c :: ·) id
  | c :: s => (textAt s).map (c :: ·) id

/-- The text behind a command, which ends at a newline, a semicolon or in front of a brace. -/
def endOfCommand (s : List Char) : Reads Unit :=
  match behindBlanks s with
  | [] => .ok ((), [])
  | c :: rest =>
    if c = '\x7d' ∨ c = '#' then .ok ((), c :: rest)
    else if c = '\n' ∨ c = ';' then .ok ((), rest)
    else .error (faultAt rest "extra characters after command")

/-- A name up to the end of the line. -/
def fileNameAt (s : List Char) : Reads Bytes :=
  let body := behindBlanks s
  let name := body.takeWhile (· ≠ '\n')
  let rest := body.drop name.length
  if name = [] then .error (faultAt rest "missing filename in r/R/w/W commands")
  else .ok (bytesOfChars name, rest)

/-- A label up to a blank or a semicolon. -/
def labelAt (s : List Char) : String × List Char :=
  let body := behindBlanks s
  let name := body.takeWhile fun c => !isBetween c
  (String.ofList name, body.drop name.length)

/-! ### Scripts -/

/-- A script that is being read. -/
structure Compiling where
  /-- The commands, the last one first. -/
  commands : List (Selection × Command) := []
  /-- How many blocks are open. -/
  depth : Nat := 0
  /-- The regular expression that stands before, with the number of its groups. -/
  lastRegex : Option (Regex × Nat) := none

/-- The regular expression that a text stands for. An empty text stands for the one before. -/
def regexOf (style : ScriptStyle) (folds byLine : Bool) (text rest : List Char) (c : Compiling) :
    Except ScriptFault ((Regex × Nat) × Compiling) :=
  if text = [] then
    match c.lastRegex with
    | some found => .ok (found, c)
    | none => .error { left := none, message := "no previous regular expression", atStart := true }
  else
    let special := "$*.[\\]^".toList ++ if style.extended then "+?(){}|".toList else []
    let text := unescaped special text.length text
    let regexStyle : RegexStyle := { extended := style.extended, strict := true, folds, byLine }
    match Regex.ofText regexStyle (bytesOfChars text) with
    | .ok found => .ok (found, { c with lastRegex := some found })
    | .error .bareClass =>
      .error { left := none, message := RegexFault.bareClass.message }
    | .error fault => .error (faultAt rest fault.message)

/-- The letters behind a regular expression: whether letters are of both cases, and whether it is
matched by lines. -/
def regexFlags : (bound : Nat) → (folds byLine : Bool) → List Char → Bool × Bool × List Char
  | 0, folds, byLine, s => (folds, byLine, s)
  | bound + 1, folds, byLine, s =>
    match behindBlanks s with
    | 'I' :: rest => regexFlags bound true byLine rest
    | 'M' :: rest => regexFlags bound folds true rest
    | rest => (folds, byLine, rest)

/-- The address that a text starts with, if there is one. -/
def addressAt (style : ScriptStyle) (s : List Char) (c : Compiling) :
    Except ScriptFault (Option Address × List Char × Compiling) :=
  let matching (delimiter : Char) (rest : List Char) :
      Except ScriptFault (Option Address × List Char × Compiling) :=
    match delimited delimiter true .outside rest with
    | .error left => .error (faultAt left "unterminated address regex")
    | .ok (text, rest) => do
      let (folds, byLine, rest) := regexFlags rest.length false false rest
      let ((r, _), c) ← regexOf style folds byLine text rest c
      return (some (.matching r), rest, c)
  match s with
  | '/' :: rest => matching '/' rest
  | '\\' :: delimiter :: rest => matching delimiter rest
  | '$' :: rest => .ok (some .last, rest, c)
  | d :: rest =>
    if !d.isDigit then .ok (none, s, c)
    else
      let (n, rest) := numberAt (d :: rest)
      match behindBlanks rest with
      | '~' :: rest =>
        let (step, rest) := numberAt (behindBlanks rest)
        .ok (some (.every n step), rest, c)
      | rest => .ok (some (.line n), rest, c)
  | [] => .ok (none, s, c)

/-- The end of a range that a text starts with, if there is one. -/
def endingAt (style : ScriptStyle) (s : List Char) (c : Compiling) :
    Except ScriptFault (Option Ending × List Char × Compiling) := do
  match s with
  | '+' :: rest =>
    let (n, rest) := numberAt (behindBlanks rest)
    return (some (.behind n), rest, c)
  | '~' :: rest =>
    let (n, rest) := numberAt (behindBlanks rest)
    return (some (.multiple n), rest, c)
  | _ =>
    let (address, rest, c) ← addressAt style s c
    return (address.map .through, rest, c)

/-- The addresses that a text starts with. -/
def selectionAt (style : ScriptStyle) (s : List Char) (c : Compiling) :
    Except ScriptFault (Selection × List Char × Compiling) := do
  let (first, s, c) ← addressAt style s c
  let (selection, s, c) ← match first with
    | none => pure (({} : Selection), s, c)
    | some _ =>
      match behindBlanks s with
      | ',' :: rest =>
        let (last, s, c) ← endingAt style (behindBlanks rest) c
        if last.isNone then
          throw (faultAt ((behindBlanks rest).drop 1) "unexpected \x60,'")
        pure ({ first, last }, behindBlanks s, c)
      | rest => pure ({ first }, rest, c)
  let isRange := match selection.last with
    | some (.through (.matching _)) => true
    | _ => false
  if selection.first = some (.line 0) && !isRange then
    throw (faultAt (s.drop 1) "invalid usage of line address 0")
  match s with
  | '!' :: rest =>
    let rest := behindBlanks rest
    if rest.head? = some '!' then throw (faultAt rest.tail "multiple \x60!'s")
    return ({ selection with inverted := true }, rest, c)
  | _ => return (selection, s, c)

/-- The options of a replacement. -/
structure SubstitutionFlags where
  all : Bool := false
  nth : Option Nat := none
  prints : Bool := false
  folds : Bool := false
  byLine : Bool := false
  file : Option Bytes := none
  deriving DecidableEq, Repr

/-- The options of a replacement that a text starts with, at most `bound` of them. -/
def substitutionFlags : (bound : Nat) → SubstitutionFlags → List Char → Reads SubstitutionFlags
  | 0, flags, s => .ok (flags, s)
  | _, flags, [] => .ok (flags, [])
  | bound + 1, flags, c :: s =>
    let again (what : String) : Reads SubstitutionFlags :=
      .error (faultAt s s!"multiple {what} to \x60s' command")
    if c.isDigit then
      let (n, rest) := numberAt (c :: s)
      if flags.nth.isSome then again "number options"
      else if n = 0 then
        .error (faultAt rest "number option to \x60s' command may not be zero")
      else substitutionFlags bound { flags with nth := some n } rest
    else
      match c with
      | 'i' | 'I' => substitutionFlags bound { flags with folds := true } s
      | 'm' | 'M' => substitutionFlags bound { flags with byLine := true } s
      | 'p' =>
        if flags.prints then again "\x60p' options"
        else substitutionFlags bound { flags with prints := true } s
      | 'g' =>
        if flags.all then again "\x60g' options"
        else substitutionFlags bound { flags with all := true } s
      | 'w' => (fileNameAt s).map fun (name, rest) => ({ flags with file := some name }, rest)
      | ' ' | '\t' => substitutionFlags bound flags s
      | '\n' | ';' => .ok (flags, s)
      | '#' | '\x7d' => .ok (flags, c :: s)
      | _ => .error (faultAt s "unknown option to \x60s'")

/-- The replacement that a text starts with behind its letter. -/
def substitutionAt (style : ScriptStyle) (s : List Char) (c : Compiling) :
    Except ScriptFault (Command × List Char × Compiling) := do
  let unterminated := "unterminated \x60s' command"
  match s with
  | [] => throw (faultAt [] unterminated)
  | delimiter :: s =>
    match delimited delimiter true .outside s with
    | .error left => throw (faultAt left unterminated)
    | .ok (pattern, s) =>
      match delimited delimiter false .outside s with
      | .error left => throw (faultAt left unterminated)
      | .ok (new, s) =>
        let (flags, rest) ← substitutionFlags s.length {} s
        let ((regex, groups), c) ← regexOf style flags.folds flags.byLine pattern rest c
        let parts := partsOf new.length (unescaped ['&', '\\'] new.length new)
        let greatest := parts.foldl (fun (n : Nat) part =>
          match part with
          | .group m => max n m
          | _ => n) 0
        if groups < greatest then
          throw (faultAt rest s!"invalid reference \\{greatest} on \x60s' command's RHS")
        let sub : Substitution := {
          regex, parts
          all := flags.all
          nth := flags.nth.getD 1
          prints := flags.prints
          file := flags.file }
        return (.substitute sub, rest, c)

/-- The text that a command puts, behind its letter. -/
def putTextAt (s : List Char) : Reads Bytes :=
  match behindBlanks s with
  | [] => .error (faultAt [] "expected \\ after \x60a', \x60c' or \x60i'")
  | '\\' :: rest =>
    match behindBlanks rest with
    | [] => .ok ([], [])
    | '\n' :: [] => .ok ([], [])
    | '\n' :: body =>
      let (text, rest) := textAt body
      .ok (bytesOfChars text, rest)
    | _ =>
      let (text, rest) := textAt rest
      .ok (bytesOfChars text, rest)
  | body =>
    let (text, rest) := textAt body
    .ok (bytesOfChars text, rest)

/-- The command that a text starts with, when its addresses are read. -/
def commandAt (style : ScriptStyle) (selection : Selection) (s : List Char) (c : Compiling) :
    Except ScriptFault (Command × List Char × Compiling) := do
  let addressed := selection.first.isSome
  match s with
  | [] => throw (faultAt [] "missing command")
  | letter :: s =>
    let plain (command : Command) : Except ScriptFault (Command × List Char × Compiling) := do
      let ((), rest) ← endOfCommand s
      return (command, rest, c)
    let withNumber (standard : Option Nat) (make : Option Nat → Command) :
        Except ScriptFault (Command × List Char × Compiling) := do
      let body := behindBlanks s
      let (n, rest) := numberAt body
      let given := if rest.length < body.length then some n else standard
      let ((), rest) ← endOfCommand rest
      return (make given, rest, c)
    let named (make : Bytes → Command) : Except ScriptFault (Command × List Char × Compiling) := do
      let (name, rest) ← fileNameAt s
      return (make name, rest, c)
    let jump (rule : JumpRule) : Except ScriptFault (Command × List Char × Compiling) :=
      let (name, rest) := labelAt s
      .ok (.jump rule name, rest, c)
    match letter with
    | '\x7b' => return (.openBlock, s, { c with depth := c.depth + 1 })
    | '\x7d' =>
      if c.depth = 0 then throw (faultAt s "unexpected \x60\x7d'")
      if addressed then throw (faultAt s "\x7d doesn't want any addresses")
      let ((), rest) ← endOfCommand s
      return (.closeBlock, rest, { c with depth := c.depth - 1 })
    | ':' =>
      if addressed then throw (faultAt s ": doesn't want any addresses")
      let (name, rest) := labelAt s
      if name = "" then throw (faultAt rest "\":\" lacks a label")
      return (.label name, rest, c)
    | 'b' => jump .always
    | 't' => jump .ifReplaced
    | 'T' => jump .unlessReplaced
    | 'a' => (putTextAt s).map fun (text, rest) => (.put .after text, rest, c)
    | 'i' => (putTextAt s).map fun (text, rest) => (.put .before text, rest, c)
    | 'c' => (putTextAt s).map fun (text, rest) => (.put .instead text, rest, c)
    | 'd' => plain .delete
    | 'D' => plain .deleteFirst
    | 'p' => plain .print
    | 'P' => plain .printFirst
    | 'n' => plain .next
    | 'N' => plain .join
    | 'h' => plain (.hold false)
    | 'H' => plain (.hold true)
    | 'g' => plain (.get false)
    | 'G' => plain (.get true)
    | 'x' => plain .exchange
    | '=' => plain .printNumber
    | 'F' => plain .printName
    | 'z' => plain .clear
    | 'l' => withNumber none .display
    | 'q' | 'Q' =>
      if selection.last.isSome then throw (faultAt s "command only uses one address")
      withNumber none fun status => .quit (letter = 'q') (status.getD 0)
    | 'r' => named .readFile
    | 'R' => named .readLine
    | 'w' => named (.writeFile false)
    | 'W' => named (.writeFile true)
    | 's' => substitutionAt style s c
    | 'v' => return (.nothing, s.dropWhile fun c => c ≠ '\n' && c ≠ ';', c)
    | 'y' =>
      let unterminated := "unterminated \x60y' command"
      let delimiter := s.headD '\n'
      match delimited delimiter false .outside s.tail with
      | .error left => throw (faultAt left unterminated)
      | .ok (old, s) =>
        match delimited delimiter false .outside s with
        | .error left => throw (faultAt left unterminated)
        | .ok (new, s) =>
          match tableOf old new with
          | none => throw (faultAt s "strings for \x60y' command are different lengths")
          | some table =>
            let ((), rest) ← endOfCommand s
            return (.replaceBytes table, rest, c)
    | _ =>
      if letter = '\n' ∨ letter = ';' then throw (faultAt s "missing command")
      throw (faultAt s s!"unknown command: \x60{letter}'")

/-- The commands of a script, of which at most `bound` are read. -/
def compile (style : ScriptStyle) : (bound : Nat) → List Char → Compiling →
    Except ScriptFault Compiling
  | 0, _, c => .ok c
  | bound + 1, s, c => do
    match s.dropWhile isBetween with
    | [] => return c
    | s =>
      let (selection, s, c) ← selectionAt style s c
      match s with
      | '#' :: rest =>
        if selection.first.isSome then
          throw (faultAt rest "comments don't accept any addresses")
        compile style bound (rest.dropWhile (· ≠ '\n')) c
      | _ =>
        let (command, rest, c) ← commandAt style selection s c
        compile style bound rest { c with commands := (selection, command) :: c.commands }

/-- The commands of a script. -/
def commandsOf (style : ScriptStyle) (text : List Char) :
    Except ScriptFault (List (Selection × Command)) := do
  let c ← compile style (text.length + 1) text {}
  if 0 < c.depth then throw { left := none, message := "unmatched \x60\x7b'", atStart := true }
  let commands := c.commands.reverse
  let labels := commands.filterMap fun entry =>
    match entry.2 with
    | .label name => some name
    | _ => none
  let missing := commands.findSome? fun entry =>
    match entry.2 with
    | .jump _ name => if name = "" || labels.contains name then none else some name
    | _ => none
  match missing with
  | some name => throw { left := none, message := s!"can't find label for jump to \x60{name}'" }
  | none => return commands

/-! ### Calling -/

/-- A text that a script is made of, from an argument or from a file. -/
structure Piece where
  text : Bytes
  file : Option Bytes
  deriving DecidableEq, Repr

/-- The place of a fault in the pieces of a script, when a number of characters was read, with how
many pieces from arguments came before. -/
def placeIn : (read expressions : Nat) → List Piece → String
  | _, expressions, [] => s!"-e expression #{expressions}, char 0"
  | read, expressions, piece :: rest =>
    let size := piece.text.length
    if size < read ∧ rest ≠ [] then
      placeIn (read - size - 1) (expressions + if piece.file.isNone then 1 else 0) rest
    else
      match piece.file with
      | none => s!"-e expression #{expressions + 1}, char {min read size}"
      | some name =>
        let lines := (piece.text.take (read - 1)).count newline + 1
        s!"file {Text.lossyText name} line {lines}"

/-- What is said of a fault. -/
def ScriptFault.report (fault : ScriptFault) (pieces : List Piece) (length : Nat) : String :=
  match fault.left with
  | some left => s!"{placeIn (length - left) 0 pieces}: {fault.message}"
  | none =>
    if fault.atStart then s!"-e expression #1, char 0: {fault.message}" else fault.message

/-- The options with long names. -/
def options : List Call.LongOption :=
  [⟨"quiet", 'n', .never⟩, ⟨"silent", 'n', .never⟩, ⟨"expression", 'e', .always⟩,
    ⟨"file", 'f', .always⟩, ⟨"regexp-extended", 'E', .never⟩, ⟨"in-place", 'i', .freely⟩,
    ⟨"separate", 's', .never⟩, ⟨"null-data", 'z', .never⟩, ⟨"unbuffered", 'u', .never⟩,
    ⟨"line-length", 'l', .always⟩, ⟨"posix", 'p', .never⟩]

/-- The pieces of a script that options give. -/
def piecesOf (call : Call) :
    List (Char × Bytes) → DiskTask (Except (Bytes × DiskError) (List Piece))
  | [] => .done (.ok [])
  | ('e', text) :: rest => do
    return (← piecesOf call rest).map (⟨text, none⟩ :: ·)
  | ('f', name) :: rest => do
    match ← call.readFile call.input name with
    | .error error => return .error (name, error)
    | .ok text =>
      let text := if text.getLast? = some newline then text.dropLast else text
      return (← piecesOf call rest).map (⟨text, some name⟩ :: ·)
  | _ :: rest => piecesOf call rest

/-- The lines of a file. -/
def fileLines (ending : UInt8) (name text : Bytes) : List Line :=
  let parts := partsEndingIn ending text
  let complete := text.getLast? = some ending
  parts.zipIdx.map fun (text, i) => {
    text
    ended := complete || i + 1 < parts.length
    file := if name = [45] then [] else name
    isFirst := i = 0
    isLast := i + 1 = parts.length }

/-- The files of some names that can be read. -/
def readable (call : Call) : List Bytes → DiskTask (List (Bytes × Bytes))
  | [] => .done []
  | name :: rest => do
    let found ← call.readFile call.input name
    let others ← readable call rest
    return found.toOption.elim others fun text => (name, text) :: others

/-- What a script printed to each file other than the streams. -/
def filesWritten (commands : List (Selection × Command)) (s : State) : List (Bytes × Bytes) :=
  let named := commands.filterMap fun entry =>
    match entry.2 with
    | .writeFile _ name => some name
    | .substitute sub => sub.file
    | _ => none
  let printed := s.printed.reverse
  let names := (named ++ printed.map (·.1)).eraseDups.filter fun name =>
    name ≠ [] && name ≠ Text.bytesOf "/dev/stdout" && name ≠ Text.bytesOf "/dev/stderr"
  names.map fun name => (name, (printed.filter (·.1 = name)).flatMap (·.2))

/-- Makes files hold what was printed to them. -/
def store (call : Call) : List (Bytes × Bytes) → DiskTask (List String)
  | [] => .done []
  | (name, text) :: rest => do
    let written ← DiskTask.write (call.path (Text.lossyText name)) text .done
    let others ← store call rest
    match written with
    | .ok () => return others
    | .error error =>
      return s!"couldn't open file {Text.lossyText name}: {Call.reason error}" :: others

/-- Runs a script on files. -/
def runOn (script : Script) (commands : List (Selection × Command)) (operands : List Bytes)
    (call : Call) : DiskTask Effect := do
  let (found, rest) ← call.sources operands
  let isDirectory (entry : Bytes × Except DiskError Bytes) : Bool :=
    match entry.2 with
    | .error error => error = .isADirectory && !script.inPlace
    | .ok _ => false
  let start := found.takeWhile fun entry => !isDirectory entry
  let found := start ++ (found.drop start.length).take 1
  let read := commands.filterMap fun entry =>
    match entry.2 with
    | .readFile name | .readLine name => some name
    | _ => none
  let files ← readable call read.eraseDups
  let script := { script with files }
  let lines := found.flatMap fun (name, contents) =>
    contents.toOption.elim [] (fileLines script.ending name)
  let complaint (message : String) : Nat × Bytes :=
    (2, Text.bytesOf s!"{call.called}: {message}\n")
  let failed := found.filterMap fun (name, contents) =>
    let shown := Text.lossyText name
    match contents with
    | .ok _ => none
    | .error .isADirectory =>
      some (if script.inPlace then
          (4, complaint s!"couldn't edit {shown}: not a regular file")
        else (4, complaint s!"read error on {shown}: {Call.reason .isADirectory}"))
    | .error error => some (2, complaint s!"can't read {shown}: {Call.reason error}")
  let ranges := commands.zipIdx.filterMap fun ((selection, _), i) =>
    if selection.first = some (.line 0) then some (i, none) else none
  let last := run script maxSteps { lines, ranges }
  let complaints ← store call (filesWritten commands last)
  let streams := last.printed.reverse.filterMap fun (name, text) =>
    if name = [] ∨ name = Text.bytesOf "/dev/stdout" then some (1, text)
    else if name = Text.bytesOf "/dev/stderr" then some (2, text)
    else none
  let worst := failed.foldl (fun status entry => max status entry.1) last.status
  return {
    written := failed.map (·.2) ++ streams ++ complaints.map complaint
    status := if complaints = [] then worst else 4
    rest
    endless := last.phase ≠ .finished }

/-- Edits its input or the files of some names as a script says. -/
def sed : Utility := fun call =>
  let args := call.args.map fun
    | 45 :: 105 :: suffix => Text.bytesOf "--in-place=" ++ suffix
    | arg => arg
  let usage := "Usage: sed [OPTION]... \x7bscript-only-if-no-other-script\x7d [input-file]..."
  let fail (message : String) (status : Nat) : Effect :=
    { written := [(2, Text.bytesOf (message ++ "\n"))], status, rest := call.input }
  match Call.sort "nErszu".toList "efl".toList options true args with
  | .error message => .done (fail s!"{call.called}: {message}\n{usage}\n" 1)
  | .ok sorted => do
    let given := sorted.options.filter fun entry => entry.1 = 'e' || entry.1 = 'f'
    let pieces ← if given ≠ [] then piecesOf call given
      else pure (.ok ((sorted.operands.take 1).map (⟨·, none⟩)))
    match pieces with
    | .error (name, error) =>
      let shown := Text.lossyText name
      return call.fail s!"couldn't open file {shown}: {Call.reason error}" 4
    | .ok [] => return fail (usage ++ "\n") 1
    | .ok pieces =>
      let operands := if given ≠ [] then sorted.operands else sorted.operands.drop 1
      let text := ([newline] : Bytes).intercalate (pieces.map (·.text))
      let chars := text.map fun b => Char.ofNat b.toNat
      let style : ScriptStyle := { extended := sorted.has 'E' || sorted.has 'r' }
      let inPlace := sorted.has 'i'
      match commandsOf style chars with
      | .error fault =>
        let status := if fault.left.isNone && !fault.atStart then 4 else 1
        return call.fail (fault.report pieces text.length) status
      | .ok commands =>
        if inPlace && operands = [] then return call.fail "no input files" 4
        let silenced := chars.take 2 = ['#', 'n'] && (chars.drop 2).head?.all (· = '\n')
        let width := ((sorted.value? 'l').bind fun text =>
          Text.magnitude? (Text.lossyText text).toList).getD 70
        let script : Script := {
          commands := commands.toArray
          quiet := sorted.has 'n' || silenced
          ending := if sorted.has 'z' then 0 else newline
          separate := sorted.has 's' || inPlace
          inPlace
          width }
        runOn script commands operands call

end Workbench.Shell.Edit
