import Workbench.Text.Numeral

/-!
# Numerals of scripts

Whole numbers as `sh` reads them: in base ten, in base sixteen behind `0x` and in base eight behind
`0`. They are read at the start of a text, so what follows a numeral can be told from it.
-/

namespace Workbench.Shell

/-- The value of a digit in bases up to sixteen. -/
def digit? (c : Char) : Option Nat :=
  if c.isDigit then some (c.toNat - '0'.toNat)
  else if 'a' ≤ c ∧ c ≤ 'f' then some (c.toNat - 'a'.toNat + 10)
  else if 'A' ≤ c ∧ c ≤ 'F' then some (c.toNat - 'A'.toNat + 10)
  else none

/-- Whether a character is a digit in a base. -/
def isDigitOf (base : Nat) (c : Char) : Bool :=
  (digit? c).any (· < base)

/-- The value of digits in a base. -/
def ofDigits (base : Nat) (ds : List Char) : Nat :=
  (ds.filterMap digit?).foldl (fun n d => n * base + d) 0

/-- The digits of a number in a base, of which at most `bound` are written. -/
def digitsIn (base : Nat) : (bound n : Nat) → List Char
  | 0, _ => []
  | bound + 1, n =>
    let last := "0123456789abcdef".toList[n % base]?.getD '0'
    if n < base then [last] else digitsIn base bound (n / base) ++ [last]

/-- The base of the numeral a text starts with, and the text behind the mark of the base. -/
def baseOf : List Char → Nat × List Char
  | '0' :: 'x' :: c :: rest => if isDigitOf 16 c then (16, c :: rest) else (8, ['0'])
  | '0' :: 'X' :: c :: rest => if isDigitOf 16 c then (16, c :: rest) else (8, ['0'])
  | '0' :: rest => (8, '0' :: rest)
  | s => (10, s)

/-- The value of the numeral a text starts with, and how many characters it has. -/
def numeral (s : List Char) : Nat × Nat :=
  let (base, body) := baseOf s
  let digits := body.takeWhile (isDigitOf base)
  (ofDigits base digits, digits.length + if base = 16 then 2 else 0)

/-- Whether a character is blank in front of a numeral. -/
def isSpace (c : Char) : Bool :=
  c = ' ' || ('\t' ≤ c && c ≤ '\r')

/-- The whole number a text starts with, behind blanks and a sign, and the text behind it; nothing
if it starts with no number. -/
def integerAt? (s : List Char) : Option (Int × List Char) :=
  let s := s.dropWhile isSpace
  let (negative, body) := match s with
    | '-' :: body => (true, body)
    | '+' :: body => (false, body)
    | body => (false, body)
  let (n, width) := numeral body
  if width = 0 then none else some (if negative then -(n : Int) else n, body.drop width)

end Workbench.Shell
