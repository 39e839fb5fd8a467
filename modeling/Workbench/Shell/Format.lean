import Workbench.Shell.Escape
import Workbench.Shell.Quantity
import Workbench.Shell.Quoted
import Workbench.Text.Blank

/-!
# Formats

A format of `printf` is text with directives, each of which writes one argument. It is written as
often as it takes to use up the arguments; a missing argument counts as an empty one. The command
that is part of the shell and the program of the same name differ in what they know and in what they
say, which a `FormatStyle` records.
-/

namespace Workbench.Shell

/-- What can be wrong with a format or its arguments. -/
inductive FormatFault where
  | noNumber (arg : String)
  /-- Only the start of an argument is a number. -/
  | partlyNumber (arg : String)
  | outOfRange (arg : String)
  /-- A character that is given for its code has text behind it. -/
  | behindCharacter (text : String)
  /-- No directive takes the arguments from this one on. -/
  | excess (arg : String)
  | badDirective (text : String)
  /-- The format ends within a directive. -/
  | openDirective
  deriving DecidableEq, Repr

/-- What a command that writes formats knows. -/
structure FormatStyle where
  /-- The escapes of the format itself. -/
  escapes : Escapes
  /-- The escapes of an argument of `%b`. -/
  argumentEscapes : Escapes
  /-- Whether arguments that no directive takes are a fault. -/
  warnsOfExcess : Bool
  /-- Whether a number that is too great is said to be so even if there is text behind it. -/
  prefersRange : Bool
  /-- How numbers with a fraction are kept. -/
  numbers : Decimal.BinaryFormat
  message : FormatFault → String

/-! ### Directives -/

/-- A width or a number of digits. -/
inductive Extent where
  | given (n : Nat)
  /-- `*`: an argument. -/
  | argument
  deriving DecidableEq, Repr

/-- A part of a format. -/
inductive Directive where
  | text (bytes : Bytes)
  /-- The end of all output. -/
  | stop
  /-- One argument, written as a letter says. -/
  | write (flags : List Char) (width digits : Option Extent) (letter : Char)
  | bad (fault : FormatFault)
  deriving DecidableEq, Repr

namespace Directive

/-- The letters of directives. -/
def letters : List Char :=
  "bcsdiouxXaAeEfFgG".toList

/-- The extent a text starts with, and the text behind it. -/
def extent (s : List Char) : Option Extent × List Char :=
  match s with
  | '*' :: rest => (some .argument, rest)
  | _ =>
    let digits := s.takeWhile Char.isDigit
    (if digits = [] then none else some (.given (ofDigits 10 digits)), s.drop digits.length)

/-- The directive that stands behind a percent sign, and how many characters it has. -/
def read (s : List Char) : Directive × Nat :=
  let flags := s.takeWhile "#-+ 0".toList.contains
  let (width, rest) := extent (s.drop flags.length)
  let (digits, rest) := match rest with
    | '.' :: rest =>
      let (found, rest) := extent rest
      (some (found.getD (.given 0)), rest)
    | _ => (none, rest)
  let length := s.length - rest.length
  match rest with
  | [] => (.bad .openDirective, length)
  | letter :: _ =>
    if letters.contains letter then (.write flags width digits letter, length + 1)
    else
      let shown := (s.take (length + 1)).map fun c => c.toNat.toUInt8
      (.bad (.badDirective (Text.lossyText (37 :: shown))), length + 1)

/-- The directives of a format, of which at most `bound` are read. -/
def ofFormat (escapes : Escapes) : (bound : Nat) → Bytes → List Directive
  | 0, _ => []
  | _, [] => []
  | bound + 1, b :: s =>
    if b = Shell.backslash then
      match escapes.read s with
      | (.byte d, rest) => .text [d] :: ofFormat escapes bound rest
      | (.stop, _) => [.stop]
      | (.backslash, rest) => .text [b] :: ofFormat escapes bound rest
    else if b ≠ 37 then .text [b] :: ofFormat escapes bound s
    else if s.head? = some 37 then .text [37] :: ofFormat escapes bound s.tail
    else
      let (directive, length) := read (s.map fun b => Char.ofNat b.toNat)
      directive :: ofFormat escapes bound (s.drop length)

/-- Whether a directive takes an argument. -/
def takesArgument : Directive → Bool
  | write .. => true
  | _ => false

end Directive

/-! ### Writing -/

/-- A whole number as a decimal, an octal or a hexadecimal one. Flags ask for a sign, a mark of the
base, or zeros in front. -/
def writeInteger (flags : List Char) (width : Nat) (least : Option Nat) (letter : Char) (n : Int) :
    List Char :=
  let signed := letter = 'd' || letter = 'i'
  let size := if signed then n.natAbs else (n % (Text.bound64 : Int)).toNat
  let base := if letter = 'o' then 8 else if letter = 'x' ∨ letter = 'X' then 16 else 10
  let digits := digitsIn base 64 size
  let digits := if letter = 'X' then digits.map Char.toUpper else digits
  let digits := if size = 0 ∧ least = some 0 then [] else digits
  let digits := List.replicate (least.getD 1 - digits.length) '0' ++ digits
  let mark :=
    if !flags.contains '#' || size = 0 then []
    else if letter = 'o' then ['0'] else if base = 16 then ['0', letter] else []
  inField flags width least.isNone (if signed then signOf flags (n < 0) else mark) digits

/-- Output that is being written. -/
structure Formatting where
  args : List Bytes
  output : Bytes := []
  faults : List FormatFault := []
  /-- Whether nothing more is written. -/
  stopped : Bool := false
  deriving DecidableEq, Repr

namespace Formatting

/-- Takes an argument. -/
def next (f : Formatting) : Bytes × Formatting :=
  (f.args.headD [], { f with args := f.args.tail })

/-- Notes a fault. -/
def blame (fault : Option FormatFault) (f : Formatting) : Formatting :=
  { f with faults := f.faults ++ fault.toList }

/-- What is wrong with an argument that should be a number, of which all but `rest` was read, if it
was a number at the start. -/
def numberFault? (style : FormatStyle) (arg : Bytes) (beyond : Bool) (rest : Option (List Char)) :
    Option FormatFault :=
  let shown := Text.lossyText arg
  match rest with
  | none => if arg = [] then none else some (.noNumber shown)
  | some rest =>
    if rest = [] then if beyond then some (.outOfRange shown) else none
    else if beyond && style.prefersRange then some (.outOfRange shown)
    else some (.partlyNumber shown)

/-- The code of the character that stands behind a quote. -/
def nextCode? (style : FormatStyle) (f : Formatting) : Option (UInt8 × Formatting) :=
  match f.args with
  | (q :: text) :: args =>
    if (q = 34 ∨ q = 39) ∧ (text ≠ [] ∨ !style.warnsOfExcess) then
      let warns := style.warnsOfExcess && text.tail ≠ []
      let fault :=
        if warns then some (.behindCharacter (Text.lossyText text.tail)) else none
      some (text.headD 0, { f with args }.blame fault)
    else none
  | _ => none

/-- Takes an argument that is a whole number. A quote in front of a character gives its code. -/
def nextInteger (style : FormatStyle) (signed : Bool) (f : Formatting) : Int × Formatting :=
  match f.nextCode? style, f.args with
  | some (b, f), _ => (b.toNat, f)
  | none, [] => (0, f)
  | none, arg :: args =>
    let f := { f with args }
    match integerAt? (Text.lossyText arg).toList with
    | none => (0, f.blame (numberFault? style arg false none))
    | some (n, rest) =>
      let least : Int := if signed then -Text.bound63 else -Text.bound64
      let greatest : Int := if signed then Text.bound63 - 1 else Text.bound64 - 1
      let kept := if n < least ∧ !signed then greatest else max least (min n greatest)
      (kept, f.blame (numberFault? style arg (kept ≠ n) (some rest)))

/-- Takes an argument that is a quantity. -/
def nextQuantity (style : FormatStyle) (f : Formatting) : Rounded × Formatting :=
  match f.nextCode? style, f.args with
  | some (b, f), _ => ((Quantity.finite ⟨false, b.toNat, 0⟩).rounded style.numbers, f)
  | none, [] => (.finite false 0 0, f)
  | none, arg :: args =>
    let f := { f with args }
    match Quantity.at? (Text.lossyText arg).toList with
    | none => (.finite false 0 0, f.blame (numberFault? style arg false none))
    | some (quantity, rest) =>
      let beyond := quantity.outOfRange style.numbers
      (quantity.rounded style.numbers, f.blame (numberFault? style arg beyond (some rest)))

/-- The number that an extent stands for. -/
def extent (style : FormatStyle) (f : Formatting) : Option Extent → Option Int × Formatting
  | none => (none, f)
  | some (.given n) => (some n, f)
  | some .argument =>
    let (n, f) := f.nextInteger style true
    (some n, f)

/-- Adds bytes in a field. -/
def addPadded (left : Bool) (width : Nat) (text : Bytes) (f : Formatting) : Formatting :=
  let padding := List.replicate (width - text.length) 32
  { f with output := f.output ++ if left then text ++ padding else padding ++ text }

/-- Writes a directive. -/
def step (style : FormatStyle) (f : Formatting) (directive : Directive) : Formatting :=
  if f.stopped then f
  else
    match directive with
    | .text bytes => { f with output := f.output ++ bytes }
    | .stop => { f with stopped := true }
    | .bad fault => { f.blame (some fault) with stopped := true }
    | .write flags width digits letter =>
      let (width, f) := f.extent style width
      let (digits, f) := f.extent style digits
      let flags := if width.any (· < 0) then '-' :: flags else flags
      let width := (width.getD 0).natAbs
      let digits := (digits.filter (0 ≤ ·)).map Int.toNat
      let left := flags.contains '-'
      match letter with
      | 's' =>
        let (arg, f) := f.next
        f.addPadded left width (arg.take (digits.getD arg.length))
      | 'c' =>
        let (arg, f) := f.next
        f.addPadded left width (if arg = [] then [0] else arg.take 1)
      | 'b' =>
        let (arg, f) := f.next
        let (text, stopped) := style.argumentEscapes.replace arg
        { f.addPadded left width (text.take (digits.getD text.length)) with stopped }
      | 'a' | 'A' | 'e' | 'E' | 'f' | 'F' | 'g' | 'G' =>
        let (value, f) := f.nextQuantity style
        let text := value.write style.numbers flags width digits letter
        { f with output := f.output ++ Text.bytesOf (String.ofList text) }
      | _ =>
        let (n, f) := f.nextInteger style (letter = 'd' || letter = 'i')
        let text := writeInteger flags width digits letter n
        { f with output := f.output ++ Text.bytesOf (String.ofList text) }

/-- Writes a format as often as it takes to use up the arguments, at most `bound` times. -/
def writeAll (style : FormatStyle) (ds : List Directive) : (bound : Nat) → Formatting → Formatting
  | 0, f => f
  | bound + 1, f =>
    let after := ds.foldl (step style) f
    if after.stopped ∨ after.args = [] then after
    else if !ds.any Directive.takesArgument then
      if style.warnsOfExcess then
        after.blame (some (.excess (Text.lossyText (after.args.headD []))))
      else after
    else writeAll style ds bound after

/-- Writes arguments as a format says. -/
def ofFormat (style : FormatStyle) (format : Bytes) (args : List Bytes) : Formatting :=
  writeAll style (Directive.ofFormat style.escapes format.length format) (args.length + 1) { args }

/-- Whether nothing can be written because of a directive. -/
def isBroken (f : Formatting) : Bool :=
  f.faults.any fun
    | .badDirective _ | .openDirective => true
    | _ => false

end Formatting

/-! ### Styles -/

/-- The style of the command that is part of the shell. -/
def FormatStyle.builtin : FormatStyle where
  escapes := { marksOctal := false, stops := false }
  argumentEscapes := {}
  warnsOfExcess := false
  prefersRange := false
  numbers := .double
  message
    | .noNumber arg => s!"{arg}: expected numeric value"
    | .partlyNumber arg => s!"{arg}: not completely converted"
    | .outOfRange arg => s!"{arg}: Numerical result out of range"
    | .behindCharacter text | .excess text => text
    | .badDirective text => s!"{text}: invalid directive"
    | .openDirective => "missing format character"

/-- The style of the program. -/
def FormatStyle.program : FormatStyle where
  escapes := { marksOctal := false, quotes := true, hexadecimal := true }
  argumentEscapes := { quotes := true, hexadecimal := true }
  warnsOfExcess := true
  prefersRange := true
  numbers := .extended
  message
    | .noNumber arg => s!"{Quoted.ofString arg}: expected a numeric value"
    | .partlyNumber arg => s!"{Quoted.ofString arg}: value not completely converted"
    | .outOfRange arg => s!"{Quoted.ofString arg}: Numerical result out of range"
    | .behindCharacter text =>
      s!"warning: {text}: character(s) following character constant have been ignored"
    | .excess arg => s!"warning: ignoring excess arguments, starting with {Quoted.ofString arg}"
    | .badDirective text => s!"{text}: invalid conversion specification"
    | .openDirective => "%: invalid conversion specification"

end Workbench.Shell
