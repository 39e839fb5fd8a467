import Workbench.Shell.Escape
import Workbench.Shell.Utility.Basic
import Workbench.Text.Blank
import Workbench.Text.Numeral

/-!
# Columns of lines

Programs that look at the places within lines (`cut`, `paste`, `fold`, `expand`): they print some
bytes or fields of each line, set the lines of several texts side by side, break lines that are too
wide, or put blanks for tabs.
-/

namespace Workbench.Shell

/-! ### Parts of lines -/

/-- Why a list of ranges is refused. -/
inductive RangeFault where
  | notNumber (text : List Char)
  | tooGreat (text : List Char)
  | zero
  | decreasing
  | noEnds
  | noRange
  deriving DecidableEq, Repr

/-- The wording of a fault in a list of fields or of bytes. -/
def RangeFault.message (fields : Bool) (fault : RangeFault) : String :=
  let quoted (text : List Char) : String := Quoted.ofString (String.ofList text)
  match fault with
  | notNumber text =>
    let kind := if fields then "field value" else "byte/character position"
    s!"invalid {kind} {quoted text}"
  | tooGreat text =>
    let kind := if fields then "field number" else "byte/character offset"
    s!"{kind} {quoted text} is too large"
  | zero => if fields then "fields are numbered from 1"
    else "byte/character positions are numbered from 1"
  | decreasing => "invalid decreasing range"
  | noEnds => "invalid range with no endpoint: -"
  | noRange => if fields then "invalid field range" else "invalid byte or character range"

/-- Numbers from one on: from a first one to a last one, or without end. -/
structure Range where
  first : Nat
  last : Option Nat
  deriving DecidableEq, Repr

namespace Range

/-- The range that a piece of a list such as `1,3-5,7-` stands for. -/
def ofPiece (piece : List Char) : Except RangeFault Range :=
  let number (text : List Char) : Except RangeFault Nat :=
    match if text = [] then some 0 else Text.magnitude? text with
    | some 0 => .error .zero
    | some n => if Text.bound64 ≤ n + 1 then .error (.tooGreat text) else .ok n
    | none => .error (.notNumber piece)
  match Text.splitFirst? (· = '-') piece with
  | none => do
    let n ← number piece
    return ⟨n, some n⟩
  | some ([], []) => .error .noEnds
  | some (first, last) => do
    let first ← if first = [] then pure 1 else number first
    if last = [] then return ⟨first, none⟩
    else if last.contains '-' then throw .noRange
    else
      let last ← match if Text.magnitude? last = some 0 then none else some last with
        | none => throw .decreasing
        | some last => number last
      if last < first then throw .decreasing else return ⟨first, some last⟩

/-- Ranges in order, of which those that have numbers in common are one. -/
def merged : List Range → List Range
  | a :: b :: rest =>
    if a.last.all (b.first ≤ ·) then
      let last := a.last.bind fun last => b.last.map (max last)
      merged (⟨a.first, last⟩ :: rest)
    else a :: merged (b :: rest)
  | ranges => ranges
termination_by ranges => ranges.length

/-- The ranges of the numbers that ranges in order do not have, from some number on. -/
def others : (next : Nat) → List Range → List Range
  | next, [] => [⟨next, none⟩]
  | next, range :: rest =>
    let before := if next < range.first then [⟨next, some (range.first - 1)⟩] else []
    before ++ range.last.elim [] fun last => others (last + 1) rest

/-- The ranges of a list, in order. -/
def ofText (text : List Char) : Except RangeFault (List Range) := do
  let ranges ← (Text.pieces (fun c => c = ',' || c = ' ' || c = '\t') text).mapM ofPiece
  return merged (ranges.mergeSort fun a b => a.first ≤ b.first)

/-- The parts of a list that ranges mean; its first item has number one. -/
def parts {α : Type} (ranges : List Range) (xs : List α) : List (List α) :=
  let found := ranges.map fun range =>
    let behind := xs.drop (range.first - 1)
    range.last.elim behind fun last => behind.take (last + 1 - range.first)
  found.filter fun part => !part.isEmpty

end Range

/-- The options with long names. -/
def cutOptions : List Call.LongOption :=
  [⟨"bytes", 'b', .always⟩, ⟨"characters", 'c', .always⟩, ⟨"fields", 'f', .always⟩,
    ⟨"delimiter", 'd', .always⟩, ⟨"only-delimited", 's', .never⟩,
    ⟨"zero-terminated", 'z', .never⟩, ⟨"complement", 'C', .never⟩,
    ⟨"output-delimiter", 'o', .always⟩]

/-- Prints some bytes or fields of each line. -/
def cut : Utility := fun call =>
  call.withOptions "snz" "bcfd" (fun sorted =>
    let refuse (message : String) : DiskTask Effect := .done (call.failWithHint message 1)
    let fields := sorted.has 'f'
    let lists := sorted.options.filter fun entry => "bcf".toList.contains entry.1
    let separator := (sorted.value? 'd').getD [9]
    let delimited := sorted.has 'd'
    match lists with
    | _ :: _ :: _ => refuse "only one list may be specified"
    | [] =>
      if 1 < separator.length then refuse "the delimiter must be a single character"
      else refuse "you must specify a list of bytes, characters, or fields"
    | [(_, list)] =>
      let suppresses := "suppressing non-delimited lines makes sense\n\tonly"
      if 1 < separator.length then refuse "the delimiter must be a single character"
      else if !fields && delimited then
        refuse "an input delimiter may be specified only when operating on fields"
      else if !fields && sorted.has 's' then refuse s!"{suppresses} when operating on fields"
      else
        match Range.ofText (Text.lossyText list).toList with
        | .error fault => refuse (fault.message fields)
        | .ok given =>
          let ranges := if sorted.has 'C' then Range.others 1 given else given
          let separator := separator.headD 0
          let between := (sorted.value? 'o').getD (if fields then [separator] else [])
          let ending := if sorted.has 'z' then 0 else newline
          let ofLine (line : Bytes) : Option Bytes :=
            if !fields then some (between.intercalate (Range.parts ranges line))
            else if line.contains separator then
              let chosen := (Range.parts ranges (partsBetween separator line)).flatten
              some (between.intercalate chosen)
            else if sorted.has 's' then none else some line
          call.onAll sorted.operands fun text =>
            ((partsEndingIn ending text).filterMap ofLine).flatMap (· ++ [ending])) 1 true
            cutOptions

/-! ### Lines side by side -/

/-- The separators of a list, of which one may be empty; nothing if the list ends within an
escape. -/
def separators? : Bytes → Option (List Bytes)
  | [] => some []
  | [92] => none
  | 92 :: b :: rest =>
    let found := if b = 48 then [] else [if b = 97 ∨ b = 101 then b else (letterEscape? b).getD b]
    (separators? rest).map (found :: ·)
  | b :: rest => (separators? rest).map ([b] :: ·)

/-- Items with separators between them, taken by turns. -/
def joinedByTurns (separators : List Bytes) : (turn : Nat) → List Bytes → Bytes
  | _, [] => []
  | _, [item] => item
  | turn, item :: rest =>
    let separator := (separators[turn % separators.length]?).getD []
    item ++ separator ++ joinedByTurns separators (turn + 1) rest

/-- Every `size`-th item from the first one on. -/
def everyNth (size : Nat) (items : List Bytes) : List Bytes :=
  (items.zipIdx.filter fun entry => entry.2 % size = 0).map (·.1)

/-- Sets the lines of texts side by side. -/
def paste : Utility := fun call =>
  call.withOptions "sz" "d" (fun sorted =>
    let given := (sorted.value? 'd').getD [9]
    match separators? given with
    | none =>
      let shown := Text.lossyText given
      .done (call.fail s!"delimiter list ends with an unescaped backslash: {shown}" 1)
    | some separators => do
      let ending := if sorted.has 'z' then 0 else newline
      let separators := if separators = [] then [[]] else separators
      let names := if sorted.operands = [] then [[45]] else sorted.operands
      let (found, rest) ← call.sources names
      let failed := found.filterMap fun (name, contents) =>
        match contents with
        | .ok _ => none
        | .error error =>
          let shown := Quoted.nameIfTelling (Text.lossyText name)
          some (Text.bytesOf s!"{call.called}: {shown}: {Call.reason error}\n")
      let texts := found.map fun entry =>
        entry.2.toOption.map fun text => partsEndingIn ending text
      if sorted.has 's' then
        let lines := (texts.filterMap id).map fun lines =>
          joinedByTurns separators 0 lines ++ [ending]
        return {
          written := failed.map ((2, ·)) ++ [(1, lines.flatten)]
          status := if failed = [] then 0 else 1
          rest }
      else if failed ≠ [] then
        return { written := (failed.take 1).map ((2, ·)), status := 1, rest := call.input }
      else
        let readers := (names.filter Call.isInput).length
        let dealt := partsEndingIn ending call.input
        let columns := (names.zip (texts.filterMap id)).zipIdx.map fun ((name, lines), i) =>
          if Call.isInput name then
            let turn := ((names.take i).filter Call.isInput).length
            everyNth readers (dealt.drop turn)
          else lines
        let height := (columns.map List.length).foldl max 0
        let rows := (List.range height).map fun i =>
          joinedByTurns separators 0 (columns.map fun column => column[i]?.getD []) ++ [ending]
        return { written := [(1, rows.flatten)], rest }) 1 true
    [⟨"serial", 's', .never⟩, ⟨"delimiters", 'd', .always⟩, ⟨"zero-terminated", 'z', .never⟩]

/-! ### Widths -/

/-- The column behind a byte. -/
def columnBehind (column : Nat) (b : UInt8) : Nat :=
  if b = 9 then column + 8 - column % 8
  else if b = 8 then column - 1
  else if b = 13 then 0
  else column + 1

/-- How lines are broken. -/
structure Folding where
  width : Nat
  /-- Whether bytes are counted, and not columns. -/
  bytes : Bool
  /-- Whether lines are broken behind blanks if they can be. -/
  atBlanks : Bool
  deriving DecidableEq, Repr

namespace Folding

/-- Whether a byte is blank. -/
def isBlank (b : UInt8) : Bool :=
  b = 32 || b = 9

/-- The width of a text. -/
def widthOf (style : Folding) (s : Bytes) : Nat :=
  if style.bytes then s.length else s.foldl columnBehind 0

/-- The lines that are full when a byte follows a line, and the line that is not; at most `bound`
lines are broken. -/
def push (style : Folding) (b : UInt8) : (bound : Nat) → (line : Bytes) → List Bytes × Bytes
  | 0, line => ([], line ++ [b])
  | bound + 1, line =>
    if style.widthOf (line ++ [b]) ≤ style.width then ([], line ++ [b])
    else
      let tail := (line.reverse.takeWhile fun b => !isBlank b).reverse
      if style.atBlanks && tail.length < line.length then
        let (full, open') := push style b bound tail
        (line.take (line.length - tail.length) :: full, open')
      else if line = [] then ([], [b])
      else
        let (full, open') := push style b bound []
        (line :: full, open')

/-- A text with the lines broken that are too wide, when a line has begun. -/
def write (style : Folding) : (line : Bytes) → Bytes → Bytes
  | line, [] => line
  | line, b :: s =>
    if b = newline then line ++ newline :: write style [] s
    else
      let (full, line) := style.push b 3 line
      unlines full ++ write style line s

end Folding

/-- Breaks lines that are too wide. -/
def fold : Utility := fun call =>
  let args := call.args.map fun
    | 45 :: digits =>
      if digits ≠ [] ∧ digits.all (fun b => 48 ≤ b && b ≤ 57) then 45 :: 119 :: digits
      else 45 :: digits
    | arg => arg
  Call.withOptions "bs" "w" { call with args } (fun sorted =>
    let given := (sorted.value? 'w').getD (Text.bytesOf "80")
    let shown := Quoted.text given
    match Text.natural? Text.bound63 (Text.lossyText given).toList with
    | none => .done (call.fail s!"invalid number of columns: {shown}" 1)
    | some 0 =>
      let reason := "Numerical result out of range"
      .done (call.fail s!"invalid number of columns: {shown}: {reason}" 1)
    | some width =>
      let style : Folding := { width, bytes := sorted.has 'b', atBlanks := sorted.has 's' }
      call.onEach sorted.operands fun _ text => [(1, style.write [] text)]) 1 true
    [⟨"bytes", 'b', .never⟩, ⟨"spaces", 's', .never⟩, ⟨"width", 'w', .always⟩]

/-- The places of tabs: multiples of a number, or those of a list. -/
inductive TabStops where
  | every (n : Nat)
  | listed (stops : List Nat)
  deriving DecidableEq, Repr

namespace TabStops

/-- The place that a tab at a column leads to. -/
def next (stops : TabStops) (column : Nat) : Nat :=
  match stops with
  | every n => column + n - column % n
  | listed stops => (stops.find? (column < ·)).getD (column + 1)

/-- The places that a text stands for, or what is wrong with it. -/
def ofText (text : List Char) : Except String TabStops :=
  let isApart (c : Char) : Bool := c = ',' || c = ' '
  let pieces := (Text.pieces isApart text).filter (· ≠ [])
  match text.dropWhile fun c => c.isDigit || isApart c with
  | c :: rest =>
    let shown := Quoted.ofString (String.ofList (c :: rest))
    .error s!"tab size contains invalid character(s): {shown}"
  | [] =>
    match pieces.filterMap Text.magnitude? with
    | [] => .ok (.every 8)
    | [0] => .error "tab size cannot be 0"
    | [n] => .ok (.every n)
    | stops =>
      if stops.contains 0 then .error "tab size cannot be 0"
      else if (stops.zip stops.tail).all fun pair => pair.1 < pair.2 then .ok (.listed stops)
      else .error "tab sizes must be ascending"

/-- A text with blanks for tabs, when a column has been reached; `initial` says whether tabs behind
other text are kept, and `inside` whether there was other text. -/
def expand (stops : TabStops) (initial : Bool) : (column : Nat) → (inside : Bool) → Bytes → Bytes
  | _, _, [] => []
  | column, inside, b :: s =>
    if b = newline then b :: expand stops initial 0 false s
    else if b = 9 && !(initial && inside) then
      let next := stops.next column
      List.replicate (next - column) 32 ++ expand stops initial next inside s
    else
      let next := if b = 8 then column - 1 else if b = 9 then stops.next column else column + 1
      b :: expand stops initial next (inside || !Folding.isBlank b) s

end TabStops

/-- Puts blanks for tabs. -/
def expand : Utility := fun call =>
  let args := call.args.map fun
    | 45 :: digits =>
      if digits ≠ [] ∧ digits.all (fun b => b = 44 || (48 ≤ b && b ≤ 57)) then 45 :: 116 :: digits
      else 45 :: digits
    | arg => arg
  Call.withOptions "i" "t" { call with args } (fun sorted =>
    match TabStops.ofText (Text.lossyText ((sorted.value? 't').getD [])).toList with
    | .error message => .done (call.fail message 1)
    | .ok stops =>
      call.onEach sorted.operands fun _ text =>
        [(1, stops.expand (sorted.has 'i') 0 false text)]) 1 true
    [⟨"initial", 'i', .never⟩, ⟨"tabs", 't', .always⟩]

end Workbench.Shell
