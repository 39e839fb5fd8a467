/-!
# Decimal numerals

Whole numbers written in ASCII digits: `digits` writes them, `natural?` and `integer?` read them.
Reading takes an optional sign and any number of leading zeros, and refuses a value outside the
range it is given, an empty numeral and every character that is not a digit.
-/

namespace Workbench.Text

/-- The natural numbers of 64 bits are those below this one. -/
def bound64 : Nat :=
  18446744073709551616

/-- The whole numbers of 64 signed bits are those below this one and not below its negative. -/
def bound63 : Nat :=
  9223372036854775808

/-- Whether a whole number fits 64 signed bits. -/
def fitsSigned64 (n : Int) : Bool :=
  -(bound63 : Int) ≤ n && n < (bound63 : Int)

/-- The character of a digit below ten. -/
def digitChar (d : Nat) : Char :=
  Char.ofNat ('0'.toNat + d)

/-- The value of an ASCII digit. -/
def digitValue? (c : Char) : Option Nat :=
  if '0' ≤ c ∧ c ≤ '9' then some (c.toNat - '0'.toNat) else none

/-- A natural number in decimal, without leading zeros. -/
def digits (n : Nat) : List Char :=
  if n < 10 then [digitChar n] else digits (n / 10) ++ [digitChar (n % 10)]
termination_by n
decreasing_by omega

/-- A whole number in decimal. -/
def integerDigits (n : Int) : List Char :=
  if n < 0 then '-' :: digits n.natAbs else digits n.natAbs

/-- The number that a list of digit values stands for, most significant first. -/
def ofDigitValues (ds : List Nat) : Nat :=
  ds.foldl (fun n d => 10 * n + d) 0

/-- The value of a text of digits; nothing for the empty text or a text with another character. -/
def magnitude? (s : List Char) : Option Nat :=
  if s = [] then none else (s.mapM digitValue?).map ofDigitValues

/-- A natural number below `bound`, with an optional plus sign. -/
def natural? (bound : Nat) (s : List Char) : Option Nat := do
  let n ← match s with
    | '+' :: rest => magnitude? rest
    | _ => magnitude? s
  if n < bound then some n else none

/-- A whole number of 64 signed bits, with an optional sign. -/
def integer? (s : List Char) : Option Int := do
  let n : Int ← match s with
    | '+' :: rest => (magnitude? rest).map Int.ofNat
    | '-' :: rest => (magnitude? rest).map fun n => -Int.ofNat n
    | _ => (magnitude? s).map Int.ofNat
  if fitsSigned64 n then some n else none

end Workbench.Text
