import Workbench.Decimal.Layout
import Workbench.Json.Value

/-!
# JSON text

Values are written without spaces. Inside a string the quote, the backslash and the characters below
U+0020 are escaped, the latter by their letter where they have one; everything else is written as it
is. `record` writes an object whose members are already text, in the order given, and is how the
messages of the wire and the entries of a transcript are written.
-/

namespace Workbench.Json

/-- The digit of a value below sixteen, in lower case. -/
def hexDigit (n : Nat) : Char :=
  if n < 10 then Char.ofNat ('0'.toNat + n) else Char.ofNat ('a'.toNat + (n - 10))

/-- What stands for one character inside a string. -/
def escape (c : Char) : List Char :=
  if c = '"' then ['\\', '"']
  else if c = '\\' then ['\\', '\\']
  else if c = '\x08' then ['\\', 'b']
  else if c = '\t' then ['\\', 't']
  else if c = '\n' then ['\\', 'n']
  else if c = '\x0c' then ['\\', 'f']
  else if c = '\r' then ['\\', 'r']
  else if c.toNat < 0x20 then
    ['\\', 'u', '0', '0', hexDigit (c.toNat / 16), hexDigit (c.toNat % 16)]
  else [c]

/-- A string with its quotes. -/
def printString (s : String) : List Char :=
  '"' :: (s.toList.flatMap escape ++ ['"'])

/-- Doubles are written without an exponent while their leading digit stands from `10 ^ (-5)` to
`10 ^ 15`, always as a double (`1.0`), and of two equally near decimals the even one is written. -/
def doubleLayout : Decimal.Layout where
  positional e := -5 ≤ e && e < 16
  wholeMark := ['.', '0']
  tie := .toEven
  notANumber := "null".toList
  infinity := "null".toList

/-- A double as JSON; there is no number for an infinite value or NaN, so `null` stands for them. -/
def printDouble (x : Float) : List Char :=
  if Decimal.isFinite x then doubleLayout.write x else "null".toList

/-- A number of either kind. -/
def printNumber : Number → List Char
  | .whole n => Text.integerDigits n
  | .double x => printDouble x

/-- A truth value. -/
def printBool (b : Bool) : List Char :=
  if b then "true".toList else "false".toList

/-- Texts one after the other with commas between them. -/
def commaSeparated : List (List Char) → List Char
  | [] => []
  | [x] => x
  | x :: y :: rest => x ++ ',' :: commaSeparated (y :: rest)

/-- An object whose members are given as text. -/
def record (members : List (String × List Char)) : List Char :=
  '{' :: (commaSeparated (members.map fun (key, text) => printString key ++ ':' :: text) ++ ['}'])

mutual

/-- The text of a value. -/
def print : Json → List Char
  | null => "null".toList
  | bool b => printBool b
  | number n => printNumber n
  | string s => printString s
  | array items => '[' :: (commaSeparated (printItems items) ++ [']'])
  | object members => record (printMembers members)

/-- The texts of some items. -/
def printItems : List Json → List (List Char)
  | [] => []
  | x :: rest => print x :: printItems rest

/-- The members with the texts of their values. -/
def printMembers : List (String × Json) → List (String × List Char)
  | [] => []
  | (key, x) :: rest => (key, print x) :: printMembers rest

end

/-- The text of a value as a string. -/
def text (x : Json) : String :=
  String.ofList (print x)

end Workbench.Json
