import Workbench.Shell.Quantity
import Workbench.Shell.Utility.Basic
import Workbench.Text.Blank

/-!
# Utilities that count

Programs that print numbers: those from one to another one by steps (`seq`), and the primes that a
number is a product of (`factor`). Numbers with a fraction are added exactly.
-/

namespace Workbench.Shell

/-- The effect of putting out some bytes and leaving the input. -/
def Call.put (output : Bytes) (call : Call) : Effect :=
  { written := [(1, output)], rest := call.input }

/-! ### Formats of one number -/

/-- A format with one directive, which writes a number. -/
structure NumberFormat where
  before : List Char
  flags : List Char
  width : Nat
  digits : Option Nat
  letter : Char
  after : List Char
  deriving DecidableEq, Repr

namespace NumberFormat

/-- Text up to a directive, in which two percent signs stand for one, and the text behind its
percent sign if there is a directive. -/
def literal : List Char → List Char × Option (List Char)
  | '%' :: '%' :: s => (literal s).map ('%' :: ·) id
  | '%' :: s => ([], some s)
  | c :: s => (literal s).map (c :: ·) id
  | [] => ([], none)

/-- The format that a text stands for, or what is wrong with it. -/
def ofText (text : List Char) : Except String NumberFormat :=
  let shown := Quoted.ofString (String.ofList text)
  match literal text with
  | (_, none) => .error s!"format {shown} has no % directive"
  | (before, some s) =>
    let flags := s.takeWhile "-+#0 '".toList.contains
    let s := s.drop flags.length
    let width := s.takeWhile Char.isDigit
    let s := s.drop width.length
    let (digits, s) := match s with
      | '.' :: rest =>
        let digits := rest.takeWhile Char.isDigit
        (some (ofDigits 10 digits), rest.drop digits.length)
      | _ => (none, s)
    let s := if s.head? = some 'L' then s.tail else s
    match s with
    | [] => .error s!"format {shown} ends in %"
    | letter :: rest =>
      if !"aAeEfFgG".toList.contains letter then
        .error s!"format {shown} has unknown %{letter} directive"
      else
        match literal rest with
        | (after, none) =>
          .ok { before, flags, width := ofDigits 10 width, digits, letter, after }
        | (_, some _) => .error s!"format {shown} has too many % directives"

/-- A number as a format says. -/
def write (format : NumberFormat) (d : Decimal) : List Char :=
  let value := (Quantity.finite d).rounded .extended
  format.before ++
    value.write .extended format.flags format.width format.digits format.letter ++ format.after

end NumberFormat

/-! ### Numbers by steps -/

/-- A decimal number in units of its last place, with some places. -/
def Decimal.scaled (places : Nat) (d : Decimal) : Int :=
  let size := d.coefficient * Nat.pow 10 (places - d.places)
  if d.negative then -(size : Int) else size

/-- The numbers from one to another one by steps, at most `bound` of them. Without another one there
is no end. -/
def steps (last : Option Int) (step : Int) : (bound : Nat) → (first : Int) → List Int
  | 0, _ => []
  | bound + 1, n =>
    if last.all fun last => 0 < step ∧ n ≤ last ∨ step < 0 ∧ last ≤ n then
      n :: steps last step bound (n + step)
    else []

/-- The greatest number of numbers that are counted. -/
def maxSteps : Nat :=
  1000000

/-- How many numbers stand for numbers without end. -/
def maxShown : Nat :=
  20000

/-- The quantity that an argument is. -/
def Quantity.ofBytes? (arg : Bytes) : Option Quantity :=
  match Quantity.at? (Text.lossyText arg).toList with
  | some (quantity, []) => some quantity
  | _ => none

/-- Whether an argument is a negative number and no option. -/
def isNegative : Bytes → Bool
  | 45 :: b :: _ => b = 46 || (48 ≤ b && b ≤ 57)
  | _ => false

/-- The long options of the program that counts. -/
def seqOptions : List Call.LongOption :=
  [⟨"format", 'f', .always⟩, ⟨"separator", 's', .always⟩, ⟨"equal-width", 'w', .never⟩]

/-- How numbers are printed. -/
inductive NumberStyle where
  | formatted (format : NumberFormat)
  /-- With as many places as the first number and the step have at most. -/
  | fixed (places : Nat)
  deriving DecidableEq, Repr

/-- A number in units of its last place as text. -/
def NumberStyle.write (style : NumberStyle) (fine : Nat) (n : Int) : List Char :=
  let d : Decimal := ⟨n < 0, n.natAbs, fine⟩
  match style with
  | .formatted format => format.write d
  | .fixed places => signOf [] d.negative ++ d.fixed false places

/-- Texts of one width, with zeros behind their signs. -/
def equalWidth (texts : List (List Char)) : List (List Char) :=
  let width := (texts.map List.length).foldl max 0
  texts.map fun text =>
    let (sign, body) := if text.head? = some '-' then (['-'], text.tail) else ([], text)
    sign ++ padded false '0' (width - sign.length) body

/-- Prints the numbers from one to another one, by steps. -/
def seq : Utility := fun call =>
  let marked : List Bytes := call.args.map fun arg => if isNegative arg then 32 :: arg else arg
  Call.withOptions "w" "sf" { call with args := marked } (fun sorted =>
    let refuse (message : String) : DiskTask Effect := .done (call.failWithHint message 1)
    let shown (arg : Bytes) : String := Quoted.text (arg.dropWhile (· = 32))
    let format := (sorted.value? 'f').map fun text =>
      NumberFormat.ofText (Text.lossyText text).toList
    match sorted.operands, format with
    | [], _ => refuse "missing operand"
    | _ :: _ :: _ :: extra :: _, _ => refuse s!"extra operand {shown extra}"
    | _, some (.error message) => .done (call.fail message 1)
    | operands, format =>
      let format := format.bind Except.toOption
      if format.isSome && sorted.has 'w' then
        refuse "format string may not be specified when printing equal width strings"
      else
        let found := operands.map fun arg => (arg, Quantity.ofBytes? arg)
        match found.find? fun entry => entry.2.isNone,
            found.find? fun entry => entry.2.any fun
              | .undefined _ => true
              | _ => false with
        | some (arg, _), _ => refuse s!"invalid floating point argument: {shown arg}"
        | none, some (arg, _) =>
          let kind := "'not-a-number'"
          refuse s!"invalid {kind} argument: {shown arg}"
        | none, none => run call sorted format (found.filterMap (·.2))
            (shown (operands.tail.headD []))) 1 false seqOptions
where
  /-- Prints the numbers between some numbers. -/
  run (call : Call) (sorted : Call.Sorted) (format : Option NumberFormat)
      (numbers : List Quantity) (second : String) : DiskTask Effect :=
    let one : Quantity := .finite ⟨false, 1, 0⟩
    let (first, step, last) := match numbers with
      | [last] => (one, one, last)
      | [first, last] => (first, one, last)
      | first :: step :: last :: _ => (first, step, last)
      | [] => (one, one, one)
    let nothing : DiskTask Effect := .done (call.put [])
    match first, step with
    | .finite first, .finite step =>
      if step.coefficient = 0 then
        .done (call.failWithHint s!"invalid Zero increment value: {second}" 1)
      else
        let places := max first.places step.places
        let (fine, limit) := match last with
          | .finite d => (max places d.places, some d)
          | _ => (places, none)
        let ending := limit.map (Decimal.scaled fine)
        let negative := match last with
          | .infinite negative => negative
          | _ => false
        if limit.isNone && negative != step.negative then nothing
        else
          let bound := if limit.isNone then maxShown else maxSteps
          let counted := steps ending (step.scaled fine) bound (first.scaled fine)
          let style : NumberStyle := format.elim (.fixed places) .formatted
          let texts := counted.map (style.write fine)
          let texts := if sorted.has 'w' then equalWidth texts else texts
          let texts := texts.map fun text => Text.bytesOf (String.ofList text)
          let separator := (sorted.value? 's').getD [newline]
          let output := separator.intercalate texts ++ if limit.isNone then separator else [newline]
          if texts = [] then nothing
          else .done { call.put output with endless := limit.isNone }
    | _, _ => nothing

/-! ### Factors -/

/-- The prime factors of a number from some number on, at most `bound` steps of search. -/
def primeFactors : (bound d n : Nat) → List Nat
  | 0, _, n => [n]
  | bound + 1, d, n =>
    if n < 2 then []
    else if n < d * d then [n]
    else if n % d = 0 then d :: primeFactors bound d (n / d)
    else primeFactors bound (d + if d = 2 then 1 else 2) n

/-- The greatest number of steps in the search for factors. -/
def maxSearch : Nat :=
  2000000

/-- Prints numbers with their prime factors. -/
def factor : Utility := fun call =>
  call.withOptions "h" "" fun sorted =>
    let texts := if sorted.operands = [] then
        (Text.words (Text.lossyText call.input).toList).map fun word =>
          Text.bytesOf (String.ofList word)
      else sorted.operands
    let line (text : Bytes) : Nat × Bytes :=
      match Text.natural? Text.bound64 ((Text.lossyText text).toList.dropWhile isSpace) with
      | some n =>
        let factors := (primeFactors maxSearch 2 n).map fun p => ' ' :: Text.digits p
        (1, Text.bytesOf (String.ofList (Text.digits n ++ ':' :: factors.flatten ++ ['\n'])))
      | none =>
        let shown := Quoted.text text
        (2, Text.bytesOf s!"{call.called}: {shown} is not a valid positive integer\n")
    let lines := texts.map line
    .done {
      written := lines
      status := if lines.any (·.1 = 2) then 1 else 0
      rest := if sorted.operands = [] then [] else call.input }

end Workbench.Shell
