import Workbench.Regex.Reader
import Workbench.Shell.Utility.Basic
import Workbench.Text.Numeral

/-!
# Utilities that copy

Programs that print all of what they read (`cat`, `nl`, `tac`, `tee`): as it is, with numbers or
marks, from its end to its start, or into files as well.
-/

namespace Workbench.Shell

/-- A number with blanks in front, at least `width` characters in all. -/
def column (width n : Nat) : String :=
  let digits := Text.digits n
  String.ofList (List.replicate (width - digits.length) ' ' ++ digits)

/-! ### Copies of texts -/

/-- What is shown of lines besides their text. -/
structure Display where
  /-- Whether lines have numbers. -/
  numbers : Bool := false
  /-- Whether empty lines have none. -/
  onlyFull : Bool := false
  /-- Whether one empty line stands for several. -/
  squeezes : Bool := false
  /-- Whether the ends of lines are marked. -/
  ends : Bool := false
  tabs : Bool := false
  /-- Whether control characters and bytes that are no characters have a spelling. -/
  controls : Bool := false
  deriving DecidableEq, Repr

namespace Display

/-- What options ask for. -/
def ofOptions (sorted : Call.Sorted) : Display :=
  let any (letters : String) : Bool := letters.toList.any sorted.has
  { numbers := any "nb", onlyFull := any "b", squeezes := any "s"
    ends := any "EeA", tabs := any "TtA", controls := any "vetA" }

/-- A byte in visible characters: a caret stands for a control character, and `M-` for 128 more. -/
def spelling (b : UInt8) : Bytes :=
  let (start, low) := if 128 ≤ b then ([77, 45], b - 128) else ([], b)
  start ++ (if low < 32 then [94, low + 64] else if low = 127 then [94, 63] else [low])

/-- A line without its end as it is shown. -/
def line (d : Display) (s : Bytes) : Bytes :=
  s.flatMap fun b =>
    if b = 9 then if d.tabs then spelling b else [b]
    else if d.controls then spelling b
    else [b]

/-- The end of a line as it is shown. A carriage return in front of a marked end is spelled. -/
def ending (d : Display) (s : Bytes) : Bytes :=
  let shown := d.line s
  if !d.ends then shown ++ [newline]
  else if shown.getLast? = some 13 then shown.dropLast ++ spelling 13 ++ [36, newline]
  else shown ++ [36, newline]

/-- Lines of which empty ones that follow each other are one. -/
def squeezed : List Bytes → List Bytes
  | [] :: [] :: rest => squeezed ([] :: rest)
  | line :: rest => line :: squeezed rest
  | [] => []

/-- The numbers in front of lines, from `n` on. -/
def labels (d : Display) : (n : Nat) → List Bytes → List Bytes
  | _, [] => []
  | n, line :: rest =>
    if d.numbers && !(d.onlyFull && line.isEmpty) then
      Text.bytesOf (column 6 n ++ "\t") :: labels d (n + 1) rest
    else [] :: labels d n rest

/-- A text as it is shown. What is behind the last newline has no end. -/
def text (d : Display) (s : Bytes) : Bytes :=
  let parts := partsBetween newline s
  let full := if d.squeezes then squeezed parts.dropLast else parts.dropLast
  let last := (parts.getLast?.filter (· ≠ [])).toList
  let shown := full.map d.ending ++ last.map d.line
  (List.zipWith (· ++ ·) (d.labels 1 (full ++ last)) shown).flatten

/-- The options with long names. -/
def options : List Call.LongOption :=
  [⟨"show-all", 'A', .never⟩, ⟨"number-nonblank", 'b', .never⟩, ⟨"show-ends", 'E', .never⟩,
    ⟨"number", 'n', .never⟩, ⟨"squeeze-blank", 's', .never⟩, ⟨"show-tabs", 'T', .never⟩,
    ⟨"show-nonprinting", 'v', .never⟩]

end Display

/-- Prints its input or the files named by its arguments, one after the other. -/
def cat : Utility := fun call =>
  call.withOptions "uAbeEnstTv" "" (fun sorted =>
    let display := Display.ofOptions sorted
    if display = {} then call.onEach sorted.operands fun _ text => [(1, text)]
    else call.onAll sorted.operands display.text) 1 true Display.options

/-! ### Numbers in front of lines -/

/-- Which lines have numbers. -/
inductive Numbering where
  | all
  | full
  | none
  | matching (r : Regex)
  deriving DecidableEq, Repr

/-- A part of a page. -/
inductive PagePart where
  | header
  | body
  | footer
  deriving DecidableEq, Repr

namespace Numbering

/-- The numbering that a text asks for. -/
def ofText? : Bytes → Option Numbering
  | [97] => some .all
  | [116] => some .full
  | [110] => some .none
  | 112 :: pattern => (Regex.ofText {} pattern).toOption.map fun found => .matching found.1
  | _ => Option.none

/-- Whether a line has a number. -/
def holds (line : Bytes) : Numbering → Bool
  | all => true
  | full => !line.isEmpty
  | none => false
  | matching r => r.occursIn line

end Numbering

/-- How lines are numbered. -/
structure NumberedLines where
  header : Numbering := .none
  body : Numbering := .full
  footer : Numbering := .none
  start : Int := 1
  step : Int := 1
  width : Nat := 6
  separator : Bytes := [9]
  /-- Whether numbers go on from page to page. -/
  keeps : Bool := false
  /-- Whether blanks stand behind a number. -/
  left : Bool := false
  /-- Whether zeros stand in front of a number. -/
  zeros : Bool := false
  deriving DecidableEq, Repr

namespace NumberedLines

/-- The part of a page that starts with a line. -/
def part? (line : Bytes) : Option PagePart :=
  [([92, 58, 92, 58, 92, 58], PagePart.header), ([92, 58, 92, 58], PagePart.body),
    ([92, 58], PagePart.footer)].lookup line

/-- A number in its field. -/
def field (style : NumberedLines) (n : Int) : Bytes :=
  let digits := Text.integerDigits n
  let padding (c : Char) : List Char := List.replicate (style.width - digits.length) c
  Text.bytesOf (String.ofList (
    if style.left then digits ++ padding ' '
    else if style.zeros then
      if n < 0 then '-' :: padding '0' ++ digits.tail else padding '0' ++ digits
    else padding ' ' ++ digits))

/-- The lines of a text with their numbers, from the number `n` on. -/
def write (style : NumberedLines) : (part : PagePart) → (n : Int) → List Bytes → Bytes
  | _, _, [] => []
  | part, n, line :: rest =>
    match part? line with
    | some next =>
      let n := if style.keeps || next ≠ PagePart.header then n else style.start
      newline :: write style next n rest
    | none =>
      let numbering := match part with
        | .header => style.header
        | .body => style.body
        | .footer => style.footer
      if numbering.holds line then
        style.field n ++ style.separator ++ line ++
          newline :: write style part (n + style.step) rest
      else
        List.replicate (style.width + style.separator.length) 32 ++ line ++
          newline :: write style part n rest

end NumberedLines

/-- The options with long names. -/
def nlOptions : List Call.LongOption :=
  [⟨"body-numbering", 'b', .always⟩, ⟨"header-numbering", 'h', .always⟩,
    ⟨"footer-numbering", 'f', .always⟩, ⟨"line-increment", 'i', .always⟩,
    ⟨"starting-line-number", 'v', .always⟩, ⟨"number-width", 'w', .always⟩,
    ⟨"number-separator", 's', .always⟩, ⟨"number-format", 'n', .always⟩,
    ⟨"no-renumber", 'p', .never⟩]

/-- Prints lines with numbers in front. -/
def nl : Utility := fun call =>
  call.withOptions "p" "bhfivwsnld" (fun sorted =>
    let numbering (letter : Char) (standard : Numbering) : Option Numbering :=
      (sorted.value? letter).elim (some standard) Numbering.ofText?
    let shown (letter : Char) : String := Quoted.text ((sorted.value? letter).getD [])
    let number (letter : Char) (standard : Int) : Option Int :=
      (sorted.value? letter).elim (some standard) fun text =>
        Text.integer? (Text.lossyText text).toList
    let refuse (what : String) (letter : Char) : DiskTask Effect :=
      .done (call.failWithHint s!"invalid {what}: {shown letter}" 1)
    let fail (what : String) (letter : Char) (reason : String) : DiskTask Effect :=
      .done (call.fail s!"invalid {what}: {shown letter}{reason}" 1)
    let format := (sorted.value? 'n').getD (Text.bytesOf "rn")
    let known := ["ln", "rn", "rz"].contains (Text.lossyText format)
    match numbering 'h' .none, numbering 'b' .full, numbering 'f' .none with
    | none, _, _ => refuse "header numbering style" 'h'
    | _, none, _ => refuse "body numbering style" 'b'
    | _, _, none => refuse "footer numbering style" 'f'
    | some header, some body, some footer =>
      match number 'v' 1, number 'i' 1, number 'w' 6 with
      | none, _, _ => fail "starting line number" 'v' ""
      | _, none, _ => fail "line number increment" 'i' ""
      | _, _, none => fail "line number field width" 'w' ""
      | some start, some step, some width =>
        if width ≤ 0 then
          fail "line number field width" 'w' ": Numerical result out of range"
        else if !known then
          refuse "line numbering format" 'n'
        else
          let style : NumberedLines := {
            header, body, footer, start, step
            width := width.toNat
            separator := (sorted.value? 's').getD [9]
            keeps := sorted.has 'p'
            left := format = Text.bytesOf "ln"
            zeros := format = Text.bytesOf "rz" }
          call.onAll sorted.operands fun text => style.write .body start (linesOf text)) 1 true
    nlOptions

/-! ### From the end to the start -/

/-- What is said of files that cannot be turned over. -/
def tacRefusal : Call.Refusal where
  wording name error :=
    if error = .isADirectory then s!"{Quoted.nameIfTelling name}: read error: Invalid argument"
    else s!"failed to open {Quoted.name name} for reading: {Call.reason error}"

/-- The parts of a text between the places of a separator, of which at most `bound` are found. -/
def partsAround (separator : Bytes) : (bound : Nat) → (part : Bytes) → Bytes → List Bytes
  | 0, part, s => [part.reverse ++ s]
  | _, part, [] => [part.reverse]
  | bound + 1, part, b :: s =>
    if separator.isPrefixOf (b :: s) then
      part.reverse :: partsAround separator bound [] ((b :: s).drop separator.length)
    else partsAround separator bound (b :: part) s

/-- Prints lines from the last to the first. -/
def tac : Utility := fun call =>
  call.withOptions "br" "s" (fun sorted =>
    let separator := (sorted.value? 's').getD [newline]
    let separator := if separator = [] then [0] else separator
    let turned (text : Bytes) : Bytes :=
      let parts := partsAround separator (text.length + 1) [] text
      if sorted.has 'b' then
        let first := parts.headD []
        (parts.tail.reverse.flatMap (separator ++ ·)) ++ first
      else
        let parts := parts.reverse
        parts.headD [] ++ parts.tail.flatMap (· ++ separator)
    call.onEach sorted.operands (fun _ text => [(1, turned text)]) tacRefusal) 1 true
    [⟨"before", 'b', .never⟩, ⟨"regex", 'r', .never⟩, ⟨"separator", 's', .always⟩]

/-! ### Into files as well -/

/-- Makes files hold a text, and complains about those that cannot be written. -/
def storeAll (call : Call) (appending : Bool) (text : Bytes) : List Bytes → DiskTask (List String)
  | [] => .done []
  | name :: rest => do
    let path := call.path (Text.lossyText name)
    let before ←
      if appending then
        DiskTask.read path fun found => .done (found.toOption.getD [])
      else .done []
    let written ← DiskTask.write path (before ++ text) .done
    let others ← storeAll call appending text rest
    match written with
    | .ok () => return others
    | .error error =>
      let shown := Quoted.nameIfTelling (Text.lossyText name)
      return s!"{call.called}: {shown}: {Call.reason error}\n" :: others

/-- Prints its input and makes files hold it too. -/
def tee : Utility := fun call =>
  call.withOptions "aip" "" (fun sorted => do
    let streams := sorted.operands.filterMap fun name =>
      [(Text.bytesOf "/dev/stderr", 2), (Text.bytesOf "/dev/stdout", 1)].lookup name
    let devices := ["/dev/stderr", "/dev/stdout", "/dev/null"]
    let files := sorted.operands.filter fun name => !devices.contains (Text.lossyText name)
    let complaints ← storeAll call (sorted.has 'a') call.input files
    return {
      written :=
        complaints.map (fun line => (2, Text.bytesOf line)) ++
          (1, call.input) :: streams.map (·, call.input)
      status := if complaints = [] then 0 else 1 }) 1 true
    [⟨"append", 'a', .never⟩, ⟨"ignore-interrupts", 'i', .never⟩]

end Workbench.Shell
