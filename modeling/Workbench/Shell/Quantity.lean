import Workbench.Decimal.Rounding
import Workbench.Shell.Numeral

/-!
# Quantities

Numbers with a fraction as scripts write them for `printf`, `seq`, `sort`, `awk` and others: in base
ten with a power of ten behind an `e`, in base sixteen with a power of two behind a `p`, and the
words for numbers without end and for no number at all. They are read exactly; a binary format says
to which number they are rounded, and the digits of that number are printed exactly again.
-/

namespace Workbench.Shell

/-- A decimal number with some digits behind its point. -/
structure Decimal where
  negative : Bool
  coefficient : Nat
  /-- How many digits of the coefficient stand behind the point. -/
  places : Nat
  deriving DecidableEq, Repr

/-- A number, or what stands for one. -/
inductive Quantity where
  | finite (d : Decimal)
  | infinite (negative : Bool)
  | undefined (negative : Bool)
  deriving DecidableEq, Repr

/-! ### Reading -/

/-- Exponents beyond this one are as good as it. -/
def maxExponent : Nat :=
  20000

/-- The exponent that a text starts with behind its letter, and the text behind it. Without digits
there is no exponent. -/
def exponentAt (letter : Char) (s : List Char) : Int × List Char :=
  match s with
  | c :: rest =>
    let (negative, body) := match rest with
      | '-' :: body => (true, body)
      | '+' :: body => (false, body)
      | body => (false, body)
    let digits := body.takeWhile Char.isDigit
    if c.toLower ≠ letter ∨ digits = [] then (0, s)
    else
      let size := min (ofDigits 10 digits) maxExponent
      (if negative then -(size : Int) else size, body.drop digits.length)
  | [] => (0, [])

/-- The digits of a base that a text starts with, with a point among them: how many stand behind the
point, and the text behind them. -/
def digitsAt (base : Nat) (s : List Char) : List Char × Nat × List Char :=
  let whole := s.takeWhile (isDigitOf base)
  match s.drop whole.length with
  | '.' :: behind =>
    let fraction := behind.takeWhile (isDigitOf base)
    (whole ++ fraction, fraction.length, behind.drop fraction.length)
  | rest => (whole, 0, rest)

/-- A decimal number times a power of ten. -/
def Decimal.ofScientific (negative : Bool) (coefficient : Nat) (exponent : Int) : Decimal where
  negative
  coefficient := coefficient * Nat.pow 10 exponent.toNat
  places := (-exponent).toNat

/-- The decimal number that is a whole number times a power of two. -/
def Decimal.ofBinary (negative : Bool) (significand : Nat) (exponent : Int) : Decimal where
  negative
  coefficient := significand * Nat.pow 2 exponent.toNat * Nat.pow 5 (-exponent).toNat
  places := (-exponent).toNat

/-- The decimal number a text without a sign starts with, and the text behind it. -/
def Decimal.tenAt? (negative : Bool) (s : List Char) : Option (Decimal × List Char) :=
  let (digits, behindPoint, rest) := digitsAt 10 s
  if digits = [] then none
  else
    let (exponent, rest) := exponentAt 'e' rest
    some (.ofScientific negative (ofDigits 10 digits) (exponent - behindPoint), rest)

/-- The number in base sixteen a text starts with behind its mark, and the text behind it. -/
def Decimal.sixteenAt? (negative : Bool) (s : List Char) : Option (Decimal × List Char) :=
  let (digits, behindPoint, rest) := digitsAt 16 s
  if digits = [] then none
  else
    let (exponent, rest) := exponentAt 'p' rest
    some (.ofBinary negative (ofDigits 16 digits) (exponent - 4 * behindPoint), rest)

/-- The text behind a word, whatever the case of its letters. -/
def behindWord? (word : String) (s : List Char) : Option (List Char) :=
  let start := s.take word.length
  if start.map Char.toLower = word.toList then some (s.drop word.length) else none

/-- The text behind what may stand in parentheses after the word for no number. -/
def behindNote (s : List Char) : List Char :=
  match s with
  | '(' :: rest =>
    let note := rest.takeWhile fun c => c.isAlphanum || c = '_'
    match rest.drop note.length with
    | ')' :: behind => behind
    | _ => s
  | _ => s

/-- The quantity a text starts with, behind blanks and a sign, and the text behind it. -/
def Quantity.at? (s : List Char) : Option (Quantity × List Char) :=
  let s := s.dropWhile isSpace
  let (negative, body) := match s with
    | '-' :: body => (true, body)
    | '+' :: body => (false, body)
    | body => (false, body)
  match behindWord? "infinity" body, behindWord? "inf" body, behindWord? "nan" body with
  | some rest, _, _ | none, some rest, _ => some (.infinite negative, rest)
  | none, none, some rest => some (.undefined negative, behindNote rest)
  | none, none, none =>
    let found := (behindWord? "0x" body).bind (Decimal.sixteenAt? negative)
    (found.orElse fun _ => Decimal.tenAt? negative body).map fun (d, rest) => (.finite d, rest)

/-- The finite number a text starts with, and the text behind it. -/
def Decimal.at? (s : List Char) : Option (Decimal × List Char) :=
  match Quantity.at? s with
  | some (.finite d, rest) => some (d, rest)
  | _ => none

/-! ### Rounding -/

/-- A quantity in a binary format. -/
inductive Rounded where
  /-- The number is `significand · 2 ^ exponent`. -/
  | finite (negative : Bool) (significand : Nat) (exponent : Int)
  | infinite (negative : Bool)
  | undefined (negative : Bool)
  deriving DecidableEq, Repr

/-- A quantity in a binary format. -/
def Quantity.rounded (format : Decimal.BinaryFormat) : Quantity → Rounded
  | infinite negative => .infinite negative
  | undefined negative => .undefined negative
  | finite d =>
    match format.nearest? d.coefficient (Nat.pow 10 d.places) with
    | some (significand, exponent) => .finite d.negative significand exponent
    | none => .infinite d.negative

/-- Whether a quantity is too great for a format, or so small that digits of it are lost. -/
def Quantity.outOfRange (format : Decimal.BinaryFormat) : Quantity → Bool
  | infinite _ | undefined _ => false
  | finite d =>
    match format.nearest? d.coefficient (Nat.pow 10 d.places) with
    | none => true
    | some (significand, exponent) =>
      let kept := Decimal.ofBinary d.negative significand exponent
      significand < Nat.pow 2 (format.precision - 1) &&
        kept.coefficient * Nat.pow 10 d.places ≠ d.coefficient * Nat.pow 10 kept.places

/-! ### Printing -/

/-- A text in a field of some width. -/
def padded (left : Bool) (fill : Char) (width : Nat) (s : List Char) : List Char :=
  let padding := List.replicate (width - s.length) fill
  if left then s ++ padding else padding ++ s

/-- The sign in front of a number; flags may ask for one where there is none. -/
def signOf (flags : List Char) (negative : Bool) : List Char :=
  if negative then ['-']
  else if flags.contains '+' then ['+']
  else if flags.contains ' ' then [' ']
  else []

/-- A number behind its sign and other marks in a field. Flags ask for zeros in front, if there may
be `zeros`. -/
def inField (flags : List Char) (width : Nat) (zeros : Bool) (marks body : List Char) : List Char :=
  if zeros && flags.contains '0' && !flags.contains '-' then
    marks ++ padded false '0' (width - marks.length) body
  else padded (flags.contains '-') ' ' width (marks ++ body)

/-- Digits with a point in front of the last ones. -/
def pointed (marked : Bool) (places : Nat) (digits : List Char) : List Char :=
  let whole := digits.take (digits.length - places)
  let fraction := digits.drop (digits.length - places)
  if places = 0 && !marked then whole else whole ++ '.' :: fraction

/-- A magnitude with some places. -/
def Decimal.fixed (marked : Bool) (places : Nat) (d : Decimal) : List Char :=
  let scaled := Decimal.roundedQuotient (d.coefficient * Nat.pow 10 places) (Nat.pow 10 d.places)
  let digits := Text.digits scaled
  pointed marked places (List.replicate (places + 1 - digits.length) '0' ++ digits)

/-- The first digits of a magnitude, with `places` of them behind the first one, and the power of
ten that the first one stands for. -/
def Decimal.leading (places : Nat) (d : Decimal) : List Char × Int :=
  if d.coefficient = 0 then (List.replicate (places + 1) '0', 0)
  else
    let power := ((Text.digits d.coefficient).length : Int) - 1 - d.places
    let shift := (places : Int) - power
    let digits := Text.digits (Decimal.roundedQuotient (d.coefficient * Nat.pow 10 shift.toNat)
      (Nat.pow 10 d.places * Nat.pow 10 (-shift).toNat))
    if places + 1 < digits.length then (digits.dropLast, power + 1) else (digits, power)

/-- An exponent with its sign and at least some digits. -/
def exponentText (least : Nat) (exponent : Int) : List Char :=
  let digits := Text.digits exponent.natAbs
  (if exponent < 0 then '-' else '+') :: List.replicate (least - digits.length) '0' ++ digits

/-- A number with a point without the zeros it ends with. -/
def withoutZeros (s : List Char) : List Char :=
  if s.contains '.' then
    let kept := (s.reverse.dropWhile (· = '0')).reverse
    if kept.getLast? = some '.' then kept.dropLast else kept
  else s

/-- A magnitude as a number between one and ten and the text of a power of ten. -/
def Decimal.scientific (marked : Bool) (places : Nat) (d : Decimal) : List Char × List Char :=
  let (digits, power) := d.leading places
  (pointed marked places digits, 'e' :: exponentText 2 power)

/-- A magnitude with some digits in the shorter way: with a power of ten if that is a great one. -/
def Decimal.general (marked : Bool) (digits : Nat) (d : Decimal) : List Char :=
  let digits := max digits 1
  let power := (d.leading (digits - 1)).2
  let (number, power) :=
    if -4 ≤ power ∧ power < digits then (d.fixed marked ((digits : Int) - 1 - power).toNat, [])
    else d.scientific marked (digits - 1)
  (if marked then number else withoutZeros number) ++ power

/-- A magnitude in base sixteen with a power of two. -/
def hexadecimal (format : Decimal.BinaryFormat) (marked : Bool) (places : Option Nat)
    (significand : Nat) (exponent : Int) : List Char :=
  let all := format.behindPoint / 4
  let power := if significand = 0 then 0 else exponent + format.behindPoint
  let kept := places.elim significand fun places =>
    if all ≤ places then significand * Nat.pow 16 (places - all)
    else Decimal.roundedQuotient significand (Nat.pow 16 (all - places))
  let places' := places.getD all
  let digits := digitsIn 16 (places' + 20) kept
  let digits := List.replicate (places' + 1 - digits.length) '0' ++ digits
  let text := pointed marked places' digits
  (if places.isNone && !marked then withoutZeros text else text) ++
    'p' :: exponentText 1 power

/-- A quantity as a letter says. -/
def Rounded.write (format : Decimal.BinaryFormat) (flags : List Char) (width : Nat)
    (digits : Option Nat) (letter : Char) (value : Rounded) : List Char :=
  let marked := flags.contains '#'
  let (negative, mark, body) := match value with
    | .infinite negative => (negative, [], "inf".toList)
    | .undefined negative => (negative, [], "nan".toList)
    | .finite negative significand exponent =>
      let d := Decimal.ofBinary negative significand exponent
      match letter.toLower with
      | 'a' => (negative, "0x".toList, hexadecimal format marked digits significand exponent)
      | 'e' =>
        let (number, power) := d.scientific marked (digits.getD 6)
        (negative, [], number ++ power)
      | 'g' => (negative, [], d.general marked (digits.getD 6))
      | _ => (negative, [], d.fixed marked (digits.getD 6))
  let isFinite := match value with
    | .finite .. => true
    | _ => false
  let text := inField flags width isFinite (signOf flags negative ++ mark) body
  if letter.isUpper then text.map Char.toUpper else text

end Workbench.Shell
