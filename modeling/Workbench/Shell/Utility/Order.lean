import Workbench.Shell.Quantity
import Workbench.Shell.Utility.Copies
import Workbench.Text.Blank
import Workbench.Text.ByteClass

/-!
# Lines in order

Programs that put lines in order (`sort`), find lines that are the same (`uniq`), or compare two
texts whose lines are in order (`comm`). Lines are compared by keys: parts of them, read as text or
as numbers.
-/

namespace Workbench.Shell

/-- Whether a byte is a blank between fields. -/
def isFieldBlank (b : UInt8) : Bool :=
  b = 32 || b = 9

/-! ### Comparing -/

/-- How two texts compare by their bytes. -/
def compareBytes : Bytes → Bytes → Ordering
  | [], [] => .eq
  | [], _ :: _ => .lt
  | _ :: _, [] => .gt
  | a :: s, b :: t => if a < b then .lt else if b < a then .gt else compareBytes s t

/-- The letters of the ways to compare. -/
def orderLetters : List Char :=
  "bdfghiMnRrV".toList

/-- The decimal number that a text starts with behind blanks; zero if there is none. -/
def leadingNumber (s : Bytes) : Decimal :=
  let s := (Text.lossyText (s.dropWhile isFieldBlank)).toList
  let (negative, body) := match s with
    | '-' :: body => (true, body)
    | _ => (false, s)
  let whole := body.takeWhile Char.isDigit
  let fraction := match body.drop whole.length with
    | '.' :: rest => rest.takeWhile Char.isDigit
    | _ => []
  ⟨negative, ofDigits 10 (whole ++ fraction), fraction.length⟩

/-- How two decimal numbers compare. -/
def compareDecimals (a b : Decimal) : Ordering :=
  let scaled (d other : Decimal) : Int :=
    let size := d.coefficient * Nat.pow 10 other.places
    if d.negative then -(size : Int) else size
  compare (scaled a b) (scaled b a)

/-- The rank of a text as a quantity: no number, no number at all, the least one, and so on. -/
def quantityRank (s : Bytes) : Nat × Decimal :=
  match Quantity.at? (Text.lossyText s).toList with
  | none => (0, ⟨false, 0, 0⟩)
  | some (.undefined _, _) => (1, ⟨false, 0, 0⟩)
  | some (.infinite true, _) => (2, ⟨false, 0, 0⟩)
  | some (.finite d, _) => (3, d)
  | some (.infinite false, _) => (4, ⟨false, 0, 0⟩)

/-- How two texts compare as quantities. -/
def compareQuantities (a b : Bytes) : Ordering :=
  let (x, d) := quantityRank a
  let (y, e) := quantityRank b
  if x = y then compareDecimals d e else compare x y

/-- The power of a thousand that a size with a letter behind it has; negative ones have a negative
rank. -/
def sizeRank (s : Bytes) : Int :=
  let d := leadingNumber s
  let text := (Text.lossyText (s.dropWhile isFieldBlank)).toList
  let behind := text.dropWhile fun c => c.isDigit || c = '.' || c = '-'
  let power := ("KMGTPEZYRQ".toList.idxOf? ((behind.headD ' ').toUpper)).elim 0 (· + 1)
  if d.coefficient = 0 then 0 else if d.negative then -(power : Int) else power

/-- The number of the month whose name a text starts with, or zero. -/
def monthNumber (s : Bytes) : Nat :=
  let start := ((s.dropWhile isFieldBlank).take 3).map fun b => Char.ofNat b.toNat
  let names := ["JAN", "FEB", "MAR", "APR", "MAY", "JUN", "JUL", "AUG", "SEP", "OCT", "NOV", "DEC"]
  (names.idxOf? (String.ofList (start.map Char.toUpper))).elim 0 (· + 1)

/-- The parts of a text: runs of digits, and runs of other characters. -/
def digitRuns : List Char → List (List Char)
  | [] => []
  | c :: s =>
    match digitRuns s with
    | run :: runs =>
      if run.head?.any (·.isDigit == c.isDigit) then (c :: run) :: runs else [c] :: run :: runs
    | [] => [[c]]

/-- The rank of a character in versions: a tilde comes first, then the end, then letters. -/
def versionRank (c : Char) : Nat :=
  if c = '~' then 0 else if c.isAlpha then c.toNat + 1 else c.toNat + 300

/-- How two parts of versions compare. -/
def compareParts (a b : List Char) : Ordering :=
  let isNumber (s : List Char) : Bool := s.head?.any Char.isDigit
  if isNumber a && isNumber b then compare (ofDigits 10 a) (ofDigits 10 b)
  else compare (a.map versionRank ++ [1]) (b.map versionRank ++ [1])

/-- How two texts compare as versions. -/
def compareVersions (a b : Bytes) : Ordering :=
  let runs (s : Bytes) : List (List Char) := digitRuns (s.map fun b => Char.ofNat b.toNat)
  let rec go : List (List Char) → List (List Char) → Ordering
    | [], [] => .eq
    | [], part :: _ => if part.head? = some '~' then .gt else .lt
    | part :: _, [] => if part.head? = some '~' then .lt else .gt
    | p :: ps, q :: qs => (compareParts p q).then (go ps qs)
  (go (runs a) (runs b)).then (compareBytes a b)

/-- How two texts compare in the way that letters say. -/
def compareBy (letters : List Char) (a b : Bytes) : Ordering :=
  let has (letter : Char) : Bool := letters.contains letter
  let shown (s : Bytes) : Bytes :=
    let kept := s.filter fun b =>
      (!has 'd' || isFieldBlank b || (Text.byteClass? "alnum").any (·.contains b)) &&
        (!has 'i' || (32 ≤ b && b ≤ 126))
    if has 'f' then kept.map fun b => if 97 ≤ b ∧ b ≤ 122 then b - 32 else b else kept
  let order :=
    if has 'n' then compareDecimals (leadingNumber a) (leadingNumber b)
    else if has 'g' then compareQuantities a b
    else if has 'h' then
      (compare (sizeRank a) (sizeRank b)).then (compareDecimals (leadingNumber a) (leadingNumber b))
    else if has 'M' then compare (monthNumber a) (monthNumber b)
    else if has 'V' then compareVersions a b
    else compareBytes (shown a) (shown b)
  if has 'r' then order.swap else order

/-! ### Keys -/

/-- A place in a line: behind some fields and then some characters. -/
structure KeyPlace where
  field : Nat
  character : Nat
  /-- Whether blanks at the start of the field do not count. -/
  behindBlanks : Bool
  deriving DecidableEq, Repr

/-- A part of lines that they are ordered by. -/
structure SortKey where
  first : KeyPlace
  last : Option KeyPlace
  /-- Letters that say how. -/
  letters : List Char
  deriving DecidableEq, Repr

namespace SortKey

/-- A number at the start of a text, and the text behind it. -/
def number (what : String) (s : List Char) : Except String (Nat × List Char) :=
  let digits := s.takeWhile Char.isDigit
  if digits = [] then
    let shown := Quoted.ofString (String.ofList s)
    .error s!"{what}: invalid count at start of {shown}"
  else .ok (ofDigits 10 digits, s.drop digits.length)

/-- The key that a text such as `2,3.1n` stands for, or what is wrong with it. -/
def ofText (text : List Char) : Except String SortKey := do
  let refuse (what : String) : Except String Unit :=
    let shown := Quoted.ofString (String.ofList text)
    .error s!"{what}: invalid field specification {shown}"
  let letters (s : List Char) : List Char × List Char :=
    let found := s.takeWhile orderLetters.contains
    (found, s.drop found.length)
  let (field, s) ← number "invalid number at field start" text
  if field = 0 then refuse "field number is zero"
  let character ← match s with
    | '.' :: rest => number "invalid number after '.'" rest
    | _ => pure (1, s)
  if character.1 = 0 then refuse "character offset is zero"
  let (own, s) := letters character.2
  let first : KeyPlace := ⟨field - 1, character.1 - 1, own.contains 'b'⟩
  match s with
  | [] => return { first, last := none, letters := own }
  | ',' :: s =>
    let (field, s) ← number "invalid number after ','" s
    if field = 0 then refuse "field number is zero"
    let character ← match s with
      | '.' :: rest => number "invalid number after '.'" rest
      | _ => pure (0, s)
    let (others, s) := letters character.2
    if s ≠ [] then refuse "stray character in field spec"
    let last : KeyPlace := ⟨field, character.1, others.contains 'b'⟩
    return { first, last := some last, letters := own ++ others }
  | _ =>
    refuse "stray character in field spec"
    return { first, last := none, letters := own }

/-- The text behind some fields; a separator behind the last of them is passed if `passes`. -/
def behindFields (separator : Option UInt8) (passes : Bool) : (n : Nat) → Bytes → Bytes
  | 0, s => s
  | n + 1, s =>
    match separator with
    | some b =>
      let rest := s.dropWhile (· ≠ b)
      behindFields separator passes n (if 0 < n || passes then rest.drop 1 else rest)
    | none =>
      let field := s.dropWhile isFieldBlank
      behindFields separator passes n (field.dropWhile fun b => !isFieldBlank b)

/-- The part of a line that a key stands for. -/
def part (separator : Option UInt8) (blanks : Bool) (key : SortKey) (line : Bytes) : Bytes :=
  let place (skips : Bool) (s : Bytes) (n : Nat) : Bytes :=
    (if skips then s.dropWhile isFieldBlank else s).drop n
  let start := place (key.first.behindBlanks || blanks)
    (behindFields separator true key.first.field line) key.first.character
  match key.last with
  | none => start
  | some last =>
    let ending :=
      if last.character = 0 then behindFields separator false last.field line
      else
        place (last.behindBlanks || blanks) (behindFields separator true (last.field - 1) line)
          last.character
    start.take (start.length - ending.length)

end SortKey

/-- How lines are ordered. -/
structure LineOrder where
  /-- The letters that hold for keys without letters of their own. -/
  own : List Char
  keys : List SortKey
  separator : Option UInt8
  /-- Whether lines with equal keys stay as they are. -/
  stable : Bool
  deriving DecidableEq, Repr

namespace LineOrder

/-- How two lines compare by their keys. -/
def compareKeys (order : LineOrder) (a b : Bytes) : Ordering :=
  if order.keys = [] then
    let trimmed (line : Bytes) : Bytes :=
      if order.own.contains 'b' then line.dropWhile isFieldBlank else line
    compareBy order.own (trimmed a) (trimmed b)
  else
    order.keys.foldl (fun found key =>
      found.then
        (let inherits := key.letters.all (· = 'b')
         let letters := if inherits && key.letters = [] then order.own else key.letters
         let blanks := key.letters = [] && order.own.contains 'b'
         let part := key.part order.separator blanks
         compareBy letters (part a) (part b))) .eq

/-- How two lines compare. -/
def compareLines (order : LineOrder) (a b : Bytes) : Ordering :=
  let last :=
    if order.stable then .eq
    else if order.own.contains 'r' then compareBytes b a else compareBytes a b
  (order.compareKeys a b).then last

/-- Lines in order. -/
def sorted (order : LineOrder) (lines : List Bytes) : List Bytes :=
  lines.mergeSort fun a b => order.compareLines a b ≠ .gt

end LineOrder

/-- The items without those that are the same as the one before. -/
def withoutRepeats (same : Bytes → Bytes → Bool) : List Bytes → List Bytes
  | a :: b :: rest =>
    if same a b then withoutRepeats same (a :: rest) else a :: withoutRepeats same (b :: rest)
  | lines => lines
termination_by lines => lines.length

/-- The options with long names. -/
def sortOptions : List Call.LongOption :=
  [⟨"ignore-leading-blanks", 'b', .never⟩, ⟨"dictionary-order", 'd', .never⟩,
    ⟨"ignore-case", 'f', .never⟩, ⟨"general-numeric-sort", 'g', .never⟩,
    ⟨"ignore-nonprinting", 'i', .never⟩, ⟨"month-sort", 'M', .never⟩,
    ⟨"human-numeric-sort", 'h', .never⟩, ⟨"numeric-sort", 'n', .never⟩,
    ⟨"reverse", 'r', .never⟩, ⟨"version-sort", 'V', .never⟩, ⟨"check", 'c', .freely⟩,
    ⟨"merge", 'm', .never⟩, ⟨"output", 'o', .always⟩, ⟨"stable", 's', .never⟩,
    ⟨"field-separator", 't', .always⟩, ⟨"unique", 'u', .never⟩,
    ⟨"zero-terminated", 'z', .never⟩, ⟨"key", 'k', .always⟩, ⟨"buffer-size", 'S', .always⟩]

/-- The order that options ask for, or what is wrong with them. -/
def LineOrder.ofOptions (sorted : Call.Sorted) : Except String LineOrder := do
  let texts := (sorted.options.filter (·.1 = 'k')).map (·.2)
  let keys ← texts.mapM fun text => SortKey.ofText (Text.lossyText text).toList
  let own := orderLetters.filter sorted.has
  let kinds := "ghMnRV".toList.filter sorted.has
  let plain := "di".toList.filter sorted.has
  if 1 < kinds.length || (kinds ≠ [] && plain ≠ []) then
    let letters := "dghiMnRV".toList.filter sorted.has
    let shown := String.ofList (letters.mergeSort fun a b => a.toLower ≤ b.toLower)
    let options := Quoted.ofString ("-" ++ shown)
    throw s!"options {options} are incompatible"
  let separator ← match sorted.value? 't' with
    | none => pure none
    | some [] => throw "empty tab"
    | some [b] => pure (some b)
    | some [92, 48] => pure (some 0)
    | some text => throw s!"multi-character tab {Quoted.text text}"
  return { own, keys, separator, stable := sorted.has 's' || sorted.has 'u' }

/-- The first line that is out of order, with its number, when a line before has a number. -/
def firstDisorder (apart : Bytes → Bytes → Bool) :
    (number : Nat) → List Bytes → Option (Nat × Bytes)
  | number, a :: b :: rest =>
    if apart a b then firstDisorder apart (number + 1) (b :: rest) else some (number + 1, b)
  | _, _ => none

/-- Prints lines in order, or says whether they are. Lines with equal keys are in the order of their
bytes. -/
def sort : Utility := fun call =>
  call.withOptions "bdfghiMnRrVcCmsuz" "ktoST" (fun sorted => do
    match LineOrder.ofOptions sorted with
    | .error message => return call.fail message 2
    | .ok order =>
      let (found, rest) ← call.sources sorted.operands
      let ending := if sorted.has 'z' then 0 else newline
      let texts := found.filterMap fun entry => entry.2.toOption
      let lines := texts.flatMap (partsEndingIn ending)
      let same (a b : Bytes) : Bool := order.compareKeys a b = .eq
      let quiet := sorted.has 'C' || (sorted.value? 'c').any fun value =>
        [Text.bytesOf "quiet", Text.bytesOf "silent"].contains value
      match found.find? fun entry => entry.2.toOption.isNone with
      | some (name, .error error) =>
        let act := if error = .isADirectory then "read failed" else "cannot read"
        let shown := Quoted.nameIfTelling (Text.lossyText name)
        return { call.fail s!"{act}: {shown}: {Call.reason error}" 2 with rest }
      | _ =>
        if sorted.has 'c' || quiet then
          let apart (a b : Bytes) : Bool :=
            let comparison := order.compareLines a b
            if sorted.has 'u' then comparison = .lt else comparison ≠ .gt
          match firstDisorder apart 1 lines with
          | none => return { rest }
          | some (number, line) =>
            let name := Text.lossyText (sorted.operands.headD [45])
            let message := Text.bytesOf s!"{call.called}: {name}:{number}: disorder: " ++ line
            let written := if quiet then [] else [(2, message ++ [newline])]
            return { written, status := 1, rest }
        else
          let lines := order.sorted lines
          let lines := if sorted.has 'u' then withoutRepeats same lines else lines
          let output := lines.flatMap (· ++ [ending])
          match sorted.value? 'o' with
          | none => return { written := [(1, output)], rest }
          | some name =>
            let path := Text.lossyText name
            match ← DiskTask.write (call.path path) output .done with
            | .ok () => return { rest }
            | .error error =>
              let shown := Quoted.nameIfTelling path
              return { call.fail s!"open failed: {shown}: {Call.reason error}" 2 with rest })
    2 true sortOptions

/-! ### Lines that are the same -/

/-- The runs of lines that are the same. -/
def runs (same : Bytes → Bytes → Bool) : List Bytes → List (List Bytes)
  | [] => []
  | line :: rest =>
    match runs same rest with
    | (other :: others) :: found =>
      if same line other then (line :: other :: others) :: found
      else [line] :: (other :: others) :: found
    | found => [line] :: found

/-- The options with long names. -/
def uniqOptions : List Call.LongOption :=
  [⟨"count", 'c', .never⟩, ⟨"repeated", 'd', .never⟩, ⟨"all-repeated", 'D', .freely⟩,
    ⟨"skip-fields", 'f', .always⟩, ⟨"ignore-case", 'i', .never⟩, ⟨"skip-chars", 's', .always⟩,
    ⟨"unique", 'u', .never⟩, ⟨"zero-terminated", 'z', .never⟩, ⟨"check-chars", 'w', .always⟩]

/-- What is said of numbers that are none. -/
def uniqNumbers : List (Char × String) :=
  [('f', "invalid number of fields to skip"), ('s', "invalid number of bytes to skip"),
    ('w', "invalid number of bytes to compare")]

/-- Prints each run of lines that are the same once, or those runs that options ask for. -/
def uniq : Utility := fun call =>
  call.withOptions "cdDuiz" "fsw" (fun sorted => do
    let given (letter : Char) : Option Bytes := sorted.value? letter
    let number? (text : Bytes) : Option Nat := Text.magnitude? (Text.lossyText text).toList
    let bad := uniqNumbers.findSome? fun (letter, message) =>
      match given letter with
      | some text => if (number? text).isNone then some (text, message) else none
      | none => none
    match bad, sorted.operands with
    | some (text, message), _ => return call.fail s!"{Text.lossyText text}: {message}" 1
    | none, _ :: _ :: extra :: _ =>
      return call.failWithHint s!"extra operand {Quoted.text extra}" 1
    | none, operands =>
      if sorted.has 'c' && sorted.has 'D' then
        return call.failWithHint
          "printing all duplicated lines and repeat counts is meaningless" 1
      let ending := if sorted.has 'z' then 0 else newline
      let value (letter : Char) : Nat := ((given letter).bind number?).getD 0
      let key (line : Bytes) : Bytes :=
        let behind := (SortKey.behindFields none false (value 'f') line).drop (value 's')
        let part := if (given 'w').isSome then behind.take (value 'w') else behind
        if sorted.has 'i' then part.map fun b => if 97 ≤ b ∧ b ≤ 122 then b - 32 else b else part
      let ofRun (run : List Bytes) : List Bytes :=
        let n := run.length
        if (sorted.has 'd' || sorted.has 'D') && n = 1 || sorted.has 'u' && n ≠ 1 then []
        else if sorted.has 'D' then run
        else if sorted.has 'c' then
          (run.take 1).map fun line => Text.bytesOf (column 7 n) ++ 32 :: line
        else run.take 1
      let make (text : Bytes) : Bytes :=
        let lines := partsEndingIn ending text
        ((runs (fun a b => key a = key b) lines).flatMap ofRun).flatMap (· ++ [ending])
      let effect ← call.onAll (operands.take 1) make
      match operands with
      | [_, target] =>
        if effect.status ≠ 0 then return effect
        else
          let output := (effect.written.filter (·.1 = 1)).flatMap (·.2)
          match ← DiskTask.write (call.path (Text.lossyText target)) output .done with
          | .ok () => return { effect with written := [] }
          | .error error =>
            return call.fail s!"{Text.lossyText target}: {Call.reason error}" 1
      | _ => return effect) 1 true uniqOptions

/-! ### Two texts in order -/

/-- A line with the column it stands in: the first text alone, the second one alone, or both. -/
def compared : (bound : Nat) → List Bytes → List Bytes → List (Nat × Bytes)
  | 0, _, _ => []
  | _, [], lines => lines.map (2, ·)
  | _, lines, [] => lines.map (1, ·)
  | bound + 1, a :: s, b :: t =>
    match compareBytes a b with
    | .lt => (1, a) :: compared bound s (b :: t)
    | .gt => (2, b) :: compared bound (a :: s) t
    | .eq => (3, a) :: compared bound s t

/-- Compares two texts whose lines are in order, in three columns. -/
def comm : Utility := fun call =>
  call.withOptions "123z" "" (fun sorted => do
    let refuse (message : String) : DiskTask Effect := .done (call.failWithHint message 1)
    match sorted.operands with
    | [] => refuse "missing operand"
    | [one] => refuse s!"missing operand after {Quoted.text one}"
    | _ :: _ :: extra :: _ => refuse s!"extra operand {Quoted.text extra}"
    | [a, b] =>
      let (found, rest) ← call.sources [a, b]
      match found with
      | [(_, .ok first), (_, .ok second)] =>
        let ending := if sorted.has 'z' then 0 else newline
        let separator := (sorted.value? 'o').getD [9]
        let first := partsEndingIn ending first
        let second := partsEndingIn ending second
        let hidden (column : Nat) : Bool :=
          sorted.has (Char.ofNat ('0'.toNat + column))
        let before (column : Nat) : Nat :=
          ((List.range column).filter fun other => 0 < other && !hidden other).length
        let pairs := compared (first.length + second.length + 1) first second
        let lines := pairs.filterMap fun (column, line) =>
          if hidden column then none
          else some ((List.replicate (before column) separator).flatten ++ line ++ [ending])
        let isOrdered (lines : List Bytes) : Bool :=
          (firstDisorder (fun a b => compareBytes a b ≠ .gt) 1 lines).isNone
        let unpaired := pairs.any fun pair => pair.1 ≠ 3
        let complaints := [(1, first), (2, second)].filterMap fun (number, lines) =>
          if unpaired && !isOrdered lines then
            some (Text.bytesOf s!"{call.called}: file {number} is not in sorted order\n")
          else none
        let last := Text.bytesOf s!"{call.called}: input is not in sorted order\n"
        return {
          written := (1, lines.flatten) ::
            (if complaints = [] then [] else (complaints ++ [last]).map ((2, ·)))
          status := if complaints = [] then 0 else 1
          rest }
      | _ =>
        let failed := found.findSome? fun (name, contents) =>
          match contents with
          | .ok _ => none
          | .error error =>
            some s!"{Quoted.nameIfTelling (Text.lossyText name)}: {Call.reason error}"
        return { call.fail (failed.getD "") 1 with rest }) 1 true
    [⟨"output-delimiter", 'o', .always⟩, ⟨"zero-terminated", 'z', .never⟩]

end Workbench.Shell
