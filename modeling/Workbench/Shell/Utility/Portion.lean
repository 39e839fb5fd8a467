import Workbench.Shell.Utility.Basic
import Workbench.Text.Numeral

/-!
# Starts and ends of texts

Programs that print the start or the end of a text (`head`, `tail`), counted in lines or in bytes. A
program that prints a start reads no further than it has to, and what it leaves can be read by
others.
-/

namespace Workbench.Shell

/-- The first `n` lines of a text, of which each ends with a byte. -/
def firstLines (ending : UInt8) : (n : Nat) → Bytes → Bytes
  | 0, _ => []
  | _ + 1, [] => []
  | n + 1, b :: s =>
    if b = ending then b :: firstLines ending n s else b :: firstLines ending (n + 1) s

/-- The text behind the first `n` lines. -/
def behindLines (ending : UInt8) (n : Nat) (s : Bytes) : Bytes :=
  s.drop (firstLines ending n s).length

/-- How many lines a text has. What is behind the last end is a line unless it is empty. -/
def lineCount (ending : UInt8) (s : Bytes) : Nat :=
  (partsEndingIn ending s).length

/-! ### Sizes -/

/-- The letters of multiples, with the power of a thousand that each stands for. -/
def multiples : List (Char × Nat) :=
  [('K', 1), ('k', 1), ('M', 2), ('m', 2), ('G', 3), ('g', 3), ('T', 4), ('t', 4), ('P', 5),
    ('E', 6), ('Z', 7), ('Y', 8), ('R', 9), ('Q', 10)]

/-- What the letters behind a number multiply it by. -/
def multiple? (letters : List Char) : Option Nat :=
  match letters with
  | [] => some 1
  | ['b'] => some 512
  | letter :: rest =>
    (multiples.lookup letter).bind fun power =>
      if rest = [] ∨ rest = ['i', 'B'] then some (Nat.pow 1024 power)
      else if rest = ['B'] then some (Nat.pow 1000 power)
      else none

/-- Why a size is refused. -/
inductive SizeFault where
  | noSize
  | tooGreat
  deriving DecidableEq, Repr

/-- The size that a text such as `12` or `1k` stands for. -/
def size (text : List Char) : Except SizeFault Nat :=
  let digits := text.takeWhile Char.isDigit
  match Text.magnitude? digits, multiple? (text.drop digits.length) with
  | some n, some factor =>
    if Text.bound64 ≤ n * factor then .error .tooGreat else .ok (n * factor)
  | _, _ => .error .noSize

/-! ### Portions -/

/-- How much of a text is meant: some lines or bytes from its start, or from its end. -/
structure Portion where
  /-- Whether bytes are counted, and not lines. -/
  bytes : Bool := false
  /-- Whether the count has a sign that turns its meaning over. -/
  turned : Bool := false
  count : Nat := 10
  deriving DecidableEq, Repr

namespace Portion

/-- The start of a text; all but an end of it if the count is turned. -/
def start (ending : UInt8) (p : Portion) (s : Bytes) : Bytes :=
  if p.bytes then s.take (if p.turned then s.length - p.count else p.count)
  else firstLines ending (if p.turned then lineCount ending s - p.count else p.count) s

/-- The end of a text; all from some place on if the count is turned. -/
def finish (ending : UInt8) (p : Portion) (s : Bytes) : Bytes :=
  if p.bytes then s.drop (if p.turned then p.count - 1 else s.length - p.count)
  else behindLines ending (if p.turned then p.count - 1 else lineCount ending s - p.count) s

/-- The portion that a count stands for, in which a sign turns the meaning over. -/
def ofCount (sign : Char) (bytes : Bool) (text : List Char) : Except SizeFault Portion :=
  match text with
  | [] => .error .noSize
  | c :: rest =>
    if c = sign then (size rest).map fun count => { bytes, turned := true, count }
    else if c = '-' ∨ c = '+' then (size rest).map fun count => { bytes, count }
    else (size text).map fun count => { bytes, count }

/-- The options that a count with letters behind it and none in front stands for, or the letter that
is none of those. -/
def oldOptions (called : Char → String) : List Char → Except String (List Bytes)
  | text =>
    let digits := text.takeWhile Char.isDigit
    let letters := text.drop digits.length
    match letters.find? fun c => !"bcklmqvzf".toList.contains c with
    | some letter => .error (called letter)
    | none =>
      let unit := letters.find? fun c => c = 'b' || c = 'k' || c = 'm'
      let kind := if letters.any fun c => c = 'c' || some c = unit then 'c' else 'n'
      let others := letters.filter fun c => c = 'q' || c = 'v' || c = 'z' || c = 'f'
      let option (text : List Char) : Bytes := Text.bytesOf (String.ofList text)
      .ok (option ('-' :: kind :: digits ++ unit.toList) :: others.map fun c => option ['-', c])

/-- What is said of files that cannot be read. -/
def refusal : Call.Refusal where
  wording name error :=
    let shown := Quoted.name name
    let reason := Call.reason error
    if error = .isADirectory then s!"error reading {shown}: {reason}"
    else s!"cannot open {shown} for reading: {reason}"

/-- The options with long names. -/
def options : List Call.LongOption :=
  [⟨"bytes", 'c', .always⟩, ⟨"lines", 'n', .always⟩, ⟨"quiet", 'q', .never⟩,
    ⟨"silent", 'q', .never⟩, ⟨"verbose", 'v', .never⟩, ⟨"zero-terminated", 'z', .never⟩]

/-- A program that prints portions of texts. -/
structure Printer where
  /-- The sign that turns the meaning of a count over. -/
  sign : Char
  flags : String
  long : List Call.LongOption
  cut : (ending : UInt8) → Portion → Bytes → Bytes

/-- Prints portions of texts, with the names of the files above them if there are several. What is
done with the portion and the ending of lines is given to `after`, too. -/
def Printer.print (printer : Printer)
    (after : Call.Sorted → (ending : UInt8) → Portion → Effect → Effect) : Utility := fun call =>
  call.withOptions printer.flags "ncs" (fun sorted =>
    let given := (sorted.options.reverse.find? fun entry => entry.1 = 'c' || entry.1 = 'n')
    let bytes := given.any (·.1 = 'c')
    let ending := if sorted.has 'z' then 0 else newline
    let value := given.map fun entry => Text.lossyText entry.2
    match value.elim (.ok {}) fun text => ofCount printer.sign bytes text.toList with
    | .error fault =>
      let unit := if bytes then "bytes" else "lines"
      let text := (value.getD "").toList
      let bare := if text.head? = some '-' then text.tail else text
      let shown := Quoted.ofString (String.ofList bare)
      let reason := if fault = .tooGreat then ": Value too large for defined data type" else ""
      .done (call.fail s!"invalid number of {unit}: {shown}{reason}" 1)
    | .ok portion => do
      let named := (sorted.options.map (·.1)).reverse.find? fun c => c = 'q' || c = 'v'
      let titled := named = some 'v' || (1 < sorted.operands.length && named ≠ some 'q')
      let title (name : Bytes) : Bytes :=
        let shown := if name = [45] then "standard input" else Text.lossyText name
        let gap := if sorted.operands.headD name = name then "" else "\n"
        Text.bytesOf s!"{gap}==> {shown} <==\n"
      let give (name text : Bytes) : List (Nat × Bytes) :=
        let part := printer.cut ending portion text
        [(1, if titled then title name ++ part else part)]
      return after sorted ending portion (← call.onEach sorted.operands give refusal))
    1 true printer.long

end Portion

/-- How many bytes are read at once. -/
def blockSize : Nat :=
  8192

/-- What is left of an input when the first `n` bytes of it are needed: nothing else of a file is
read, and whole blocks of what is no file. -/
def Call.behindBytes (exactly : Bool) (n : Nat) (call : Call) : Bytes :=
  if exactly || call.inputIsFile then call.input.drop n
  else call.input.drop ((n + blockSize - 1) / blockSize * blockSize)

/-- Prints the start of texts. -/
def head : Utility := fun call =>
  let printer : Portion.Printer := {
    sign := '-', flags := "qvz", long := Portion.options, cut := Portion.start }
  let after (sorted : Call.Sorted) (ending : UInt8) (portion : Portion) (effect : Effect) :
      Effect :=
    let needed := (portion.start ending call.input).length
    let readsInput := sorted.operands.isEmpty || sorted.operands.any Call.isInput
    if readsInput && !portion.turned then
      { effect with rest := call.behindBytes portion.bytes needed }
    else effect
  match call.args with
  | (45 :: b :: letters) :: rest =>
    if b < 48 ∨ 57 < b then printer.print after call
    else
      let refusal (letter : Char) : String := s!"invalid trailing option -- {letter}"
      match Portion.oldOptions refusal (Text.lossyText (b :: letters)).toList with
      | .ok options => printer.print after { call with args := options ++ rest }
      | .error message => .done (call.failWithHint message 1)
  | _ => printer.print after call

/-- The options with long names of the program that prints ends. -/
def tailOptions : List Call.LongOption :=
  Portion.options ++ [⟨"follow", 'f', .freely⟩, ⟨"retry", 'F', .never⟩,
    ⟨"sleep-interval", 's', .always⟩]

/-- Prints the end of texts. A count with a plus sign in front of everything needs no letter. A file
that is followed has no end. -/
def tail : Utility := fun call =>
  let printer : Portion.Printer := {
    sign := '+', flags := "qvzfF", long := tailOptions, cut := Portion.finish }
  let after (sorted : Call.Sorted) (_ : UInt8) (_ : Portion) (effect : Effect) : Effect :=
    let follows := sorted.has 'f' || sorted.has 'F'
    let files := sorted.operands.any fun name => !Call.isInput name
    { effect with endless := follows && effect.status = 0 && (files || call.inputIsFile) }
  match call.args with
  | (sign :: b :: letters) :: rest =>
    let digits := (Text.lossyText (b :: letters)).toList
    let old := (sign = 43 ∨ sign = 45) ∧ 48 ≤ b ∧ b ≤ 57 ∧ rest.length ≤ 1
    if !old then printer.print after call
    else
      let first := digits.headD '0'
      let refusal (_ : Char) : String := s!"option used in invalid context -- {first}"
      match Portion.oldOptions refusal digits with
      | .ok (count :: options) =>
        let count := if sign = 43 then count.take 2 ++ 43 :: count.drop 2 else count
        printer.print after { call with args := count :: options ++ rest }
      | .ok [] => printer.print after call
      | .error message =>
        if sign = 43 then printer.print after call else .done (call.fail message 1)
  | _ => printer.print after call

end Workbench.Shell
