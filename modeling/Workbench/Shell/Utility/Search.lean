import Workbench.Regex.Reader
import Workbench.Shell.Utility.Basic
import Workbench.Text.Numeral

/-!
# Searching lines

The program `grep`, which prints the lines in which one of some patterns occurs, or what its options
ask for: how many there are, the names of the files that have one, the matched parts alone, or lines
around them.
-/

namespace Workbench.Shell.Search

/-- How lines are searched. -/
structure Query where
  patterns : List Regex
  /-- Whether matches have no part of a word next to them. -/
  words : Bool := false
  /-- Whether matches are whole lines. -/
  lines : Bool := false
  /-- Whether lines without a match are meant. -/
  inverted : Bool := false
  deriving DecidableEq, Repr

namespace Query

/-- Whether a match may stand between two places. -/
def fits (query : Query) (p q : Spot) : Bool :=
  (!query.words || !p.isBehindWord && !q.isBeforeWord) &&
    (!query.lines || p.before.isNone && q.rest.isEmpty)

/-- The first match from a place on. -/
def first? (query : Query) (p : Spot) : Option Regex.Match :=
  Regex.searchFrom query.fits query.patterns p.index p.before p.rest

/-- Whether a line is meant. -/
def selects (query : Query) (line : Bytes) : Bool :=
  (query.first? { rest := line }).isSome != query.inverted

/-- The matches from a place on that are not empty, each with its place, at most `bound` of them. -/
def matchesFrom (query : Query) : (bound : Nat) → Spot → List (Nat × Bytes)
  | 0, _ => []
  | bound + 1, p =>
    match query.first? p with
    | none => []
    | some found =>
      if found.start.index < found.finish.index then
        (found.start.index, found.text) :: matchesFrom query bound found.finish
      else
        match found.finish.next? with
        | some (_, q) => matchesFrom query bound q
        | none => []

end Query

/-- What is printed. -/
structure Report where
  /-- Whether each line has the name of its file in front. -/
  names : Bool := false
  numbers : Bool := false
  /-- Whether each line has its place in the file in front. -/
  offsets : Bool := false
  /-- Whether only the matches are printed. -/
  matchesOnly : Bool := false
  counts : Bool := false
  /-- Whether only the names of files are printed: those with a line, or those without. -/
  files : Option Bool := none
  quiet : Bool := false
  /-- How many lines are printed at most. -/
  most : Option Nat := none
  after : Nat := 0
  before : Nat := 0
  /-- Whether every file is a text. -/
  textual : Bool := false
  /-- What lines end with. -/
  ending : UInt8 := 10
  /-- What names end with, if it is not a colon. -/
  zeroNames : Bool := false
  deriving DecidableEq, Repr

/-- A line of a file. -/
structure Numbered where
  number : Nat
  offset : Nat
  line : Bytes
  deriving DecidableEq, Repr

/-- Lines with their numbers and offsets. -/
def numbered : (number offset : Nat) → List Bytes → List Numbered
  | _, _, [] => []
  | number, offset, line :: rest =>
    ⟨number, offset, line⟩ :: numbered (number + 1) (offset + line.length + 1) rest

/-- Lines up to the one with which the greatest number of selected lines is reached, each with
whether it is selected, and the lines behind. -/
def judged (selects : Bytes → Bool) : (most : Option Nat) → List Numbered →
    List (Numbered × Bool) × List Numbered
  | some 0, lines => ([], lines)
  | _, [] => ([], [])
  | most, line :: rest =>
    let selected := selects line.line
    let (judgedRest, behind) := judged selects (if selected then most.map (· - 1) else most) rest
    ((line, selected) :: judgedRest, behind)

namespace Report

/-- What stands in front of a line, with a mark behind each part. -/
def heading (report : Report) (name : String) (mark : Char) (number offset : Nat) : Bytes :=
  let marked (s : String) : Bytes := Text.bytesOf (s.push mark)
  (if !report.names then []
    else if report.zeroNames then Text.bytesOf name ++ [0] else marked name) ++
  (if report.numbers then marked s!"{number}" else []) ++
  (if report.offsets then marked s!"{offset}" else [])

/-- The lines of one file with the lines around them; `gap` says whether lines were printed before
that are not next to these. -/
def withContext (report : Report) (name : String) :
    (recent : List Numbered) → (due : Nat) → (printed gap : Bool) →
    List (Numbered × Bool) → Bytes
  | _, _, _, _, [] => []
  | recent, due, printed, gap, (line, selected) :: rest =>
    let shown (mark : Char) (l : Numbered) : Bytes :=
      report.heading name mark l.number l.offset ++ l.line ++ [report.ending]
    if selected then
      let kept := recent.take report.before
      let separated := printed && (gap || kept.length < recent.length)
      let apart := if separated && 0 < report.before + report.after then [45, 45, 10] else []
      apart ++ kept.reverse.flatMap (shown '-') ++ shown ':' line ++
        withContext report name [] report.after true false rest
    else if 0 < due then
      shown '-' line ++ withContext report name [] (due - 1) true false rest
    else withContext report name (line :: recent) 0 printed (gap || false) rest

/-- What is printed for a file, whether a line of it is selected, and whether it is no text. -/
def ofFile (report : Report) (query : Query) (name : String) (earlier : Bool) (text : Bytes) :
    Bytes × Bool :=
  let lines := numbered 1 0 (partsEndingIn report.ending text)
  let (found, behind) := judged query.selects report.most lines
  let selected := found.filter (·.2)
  let hit := !selected.isEmpty
  let binary := !report.textual && report.ending = 10 && text.contains 0
  let named := Text.bytesOf name ++ [if report.zeroNames then 0 else 10]
  let output :=
    if report.quiet then []
    else
      match report.files with
      | some wanted => if hit = wanted then named else []
      | none =>
        if report.counts then
          report.heading name ':' 0 0 ++ Text.bytesOf s!"{selected.length}\n"
        else if binary then
          if hit then Text.bytesOf s!"{name}: binary file matches\n" else []
        else if report.matchesOnly then
          if query.inverted then []
          else
            selected.flatMap fun (line, _) =>
              (query.matchesFrom (line.line.length + 1) { rest := line.line }).flatMap
                fun (place, part) =>
                  report.heading name ':' line.number (line.offset + place) ++ part ++
                    [report.ending]
        else
          let trailing := (behind.takeWhile fun line => !query.selects line.line).take report.after
          report.withContext name [] 0 earlier earlier (found ++ trailing.map (·, false))
  (output, hit)

end Report

/-! ### Calling -/

/-- The options with long names. -/
def options : List Call.LongOption :=
  [⟨"extended-regexp", 'E', .never⟩, ⟨"fixed-strings", 'F', .never⟩,
    ⟨"basic-regexp", 'G', .never⟩, ⟨"perl-regexp", 'P', .never⟩, ⟨"ignore-case", 'i', .never⟩,
    ⟨"no-ignore-case", 'k', .never⟩, ⟨"invert-match", 'v', .never⟩,
    ⟨"word-regexp", 'w', .never⟩, ⟨"line-regexp", 'x', .never⟩, ⟨"count", 'c', .never⟩,
    ⟨"files-with-matches", 'l', .never⟩, ⟨"files-without-match", 'L', .never⟩,
    ⟨"line-number", 'n', .never⟩, ⟨"with-filename", 'H', .never⟩, ⟨"no-filename", 'h', .never⟩,
    ⟨"only-matching", 'o', .never⟩, ⟨"quiet", 'q', .never⟩, ⟨"silent", 'q', .never⟩,
    ⟨"no-messages", 's', .never⟩, ⟨"byte-offset", 'b', .never⟩, ⟨"null-data", 'z', .never⟩,
    ⟨"null", 'Z', .never⟩, ⟨"text", 'a', .never⟩, ⟨"max-count", 'm', .always⟩,
    ⟨"after-context", 'A', .always⟩, ⟨"before-context", 'B', .always⟩,
    ⟨"context", 'C', .always⟩, ⟨"regexp", 'e', .always⟩, ⟨"file", 'f', .always⟩,
    ⟨"color", '$', .freely⟩, ⟨"colour", '$', .freely⟩, ⟨"line-buffered", '$', .never⟩,
    ⟨"label", '%', .always⟩, ⟨"recursive", 'r', .never⟩]

/-- The arguments, with the letter of the context in front of a number alone. -/
def withContextLetter (args : List Bytes) : List Bytes :=
  args.map fun
    | 45 :: digits =>
      if digits ≠ [] ∧ digits.all (fun b => 48 ≤ b && b ≤ 57) then 45 :: 67 :: digits
      else 45 :: digits
    | arg => arg

/-- The expressions of some patterns, one on each line. -/
def readPatterns (sorted : Call.Sorted) (extended : Bool) (patterns : List Bytes) :
    Except RegexFault (List Regex) :=
  let letters := sorted.options.map (·.1)
  let folds := match letters.reverse.find? fun c => c = 'i' || c = 'y' || c = 'k' with
    | some 'k' | none => false
    | some _ => true
  let kind := (letters.reverse.find? fun c => "EFGP".toList.contains c).getD
    (if extended then 'E' else 'G')
  (patterns.flatMap (partsBetween newline)).mapM fun pattern =>
    if kind = 'F' then
      let style : RegexStyle := { folds }
      .ok (pattern.foldr (fun b r => .sequence (Regex.ofSet style (.single b)) r) .empty)
    else
      let style : RegexStyle := { extended := kind = 'E' || kind = 'P', folds }
      (Regex.ofText style pattern).map (·.1)

/-- A number that an option has. -/
def number? (letter : Char) (sorted : Call.Sorted) : Option Nat :=
  (sorted.value? letter).bind fun text => Text.magnitude? (Text.lossyText text).toList

/-- The report that options ask for when some files are searched. -/
def reportOf (sorted : Call.Sorted) (several : Bool) : Report :=
  let last (letters : String) : Option Char :=
    (sorted.options.map (·.1)).reverse.find? letters.toList.contains
  { names := match last "Hh" with
      | some 'H' => true
      | some _ => false
      | none => several
    numbers := sorted.has 'n'
    offsets := sorted.has 'b'
    matchesOnly := sorted.has 'o'
    counts := sorted.has 'c'
    files := (last "lL").map (· = 'l')
    quiet := sorted.has 'q'
    most := if sorted.has 'l' || sorted.has 'L' || sorted.has 'q' then some (min 1
        ((number? 'm' sorted).getD 1)) else number? 'm' sorted
    after := ((number? 'A' sorted).orElse fun _ => number? 'C' sorted).getD 0
    before := ((number? 'B' sorted).orElse fun _ => number? 'C' sorted).getD 0
    textual := sorted.has 'a'
    ending := if sorted.has 'z' then 0 else newline
    zeroNames := sorted.has 'Z' }

/-- Prints what a report says of each of some files. -/
def search (sorted : Call.Sorted) (query : Query) (operands : List Bytes) (call : Call) :
    DiskTask Effect := do
  let report := reportOf sorted (1 < operands.length)
  let (found, rest) ← call.sources operands
  let label := Text.lossyText ((sorted.value? '%').getD (Text.bytesOf "(standard input)"))
  let pieces := found.foldl (fun (pieces : List (Nat × Bytes × Nat)) (name, contents) =>
    let stops := report.quiet && pieces.any fun piece => piece.2.2 = 0
    if stops then pieces
    else
      match contents with
      | .ok text =>
        let shown := if name = [45] then label else Text.lossyText name
        let earlier := pieces.any fun piece => piece.1 = 1 && piece.2.1 ≠ []
        let (output, selected) := report.ofFile query shown earlier text
        let meets := match report.files with
          | some false => !selected
          | _ => selected
        pieces ++ [(1, output, if meets then 0 else 1)]
      | .error error =>
        let message := s!"{call.called}: {Text.lossyText name}: {Call.reason error}\n"
        pieces ++ [(2, if sorted.has 's' then [] else Text.bytesOf message, 2)]) []
  let statuses := pieces.map (·.2.2)
  let status :=
    if statuses.contains 2 && !(report.quiet && statuses.contains 0) then 2
    else if statuses.contains 0 then 0 else 1
  return {
    written := pieces.map fun piece => (piece.1, piece.2.1)
    status
    rest }

/-- The patterns that options give, from arguments and from files. -/
def givenPatterns (call : Call) : List (Char × Bytes) →
    DiskTask (Except (Bytes × DiskError) (List Bytes))
  | [] => .done (.ok [])
  | ('e', pattern) :: rest => do
    return (← givenPatterns call rest).map (pattern :: ·)
  | ('f', name) :: rest => do
    match ← call.readFile call.input name with
    | .error error => return .error (name, error)
    | .ok text => return (← givenPatterns call rest).map (linesOf text ++ ·)
  | _ :: rest => givenPatterns call rest

/-- Prints the lines in which a pattern occurs; the pattern is an extended one, or no expression but
a text, if the program has the name for that. -/
def grep (extended fixed : Bool) : Utility := fun call =>
  let args := withContextLetter call.args
  Call.withOptions "EFGPiyvwxclLnHhoqsbzZaUIrRTu" "efmABCdD" { call with args } (fun sorted => do
    let given := sorted.options.filter fun entry => entry.1 = 'e' || entry.1 = 'f'
    let sorted :=
      if fixed then { sorted with options := ('F', []) :: sorted.options } else sorted
    let usage := "Usage: grep [OPTION]... PATTERNS [FILE]..."
    let hint := s!"Try '{call.called} --help' for more information."
    match ← givenPatterns call given, given, sorted.operands with
    | .error (name, error), _, _ =>
      return call.fail s!"{Text.lossyText name}: {Call.reason error}" 2
    | _, [], [] =>
      return { written := [(2, Text.bytesOf s!"{usage}\n{hint}\n")], status := 2,
               rest := call.input }
    | .ok _, [], pattern :: operands => run call sorted [pattern] operands
    | .ok patterns, _, operands => run call sorted patterns operands) 2 true options
where
  /-- Does the work when the patterns are known. -/
  run (call : Call) (sorted : Call.Sorted) (patterns operands : List Bytes) : DiskTask Effect :=
    match readPatterns sorted extended patterns with
    | .error fault => .done (call.fail fault.message 2)
    | .ok expressions =>
      let query : Query := {
        patterns := expressions
        words := sorted.has 'w'
        lines := sorted.has 'x'
        inverted := sorted.has 'v' }
      search sorted query operands call

end Workbench.Shell.Search
