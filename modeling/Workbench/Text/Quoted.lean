import Workbench.Text.Hidden

/-!
# Quoted text

A text in quotes shows every character: the quote, the backslash and the characters with a letter of
their own behind a backslash, and hidden characters by their number.
-/

namespace Workbench.Text

/-- The digits of a number to base sixteen, in lower case and without leading zeros. -/
def hexDigits (n : Nat) : List Char :=
  Nat.toDigits 16 n

/-- A character inside quotes. -/
def quoteChar (c : Char) : List Char :=
  match c with
  | '\x00' => ['\\', '0']
  | '\t' => ['\\', 't']
  | '\n' => ['\\', 'n']
  | '\r' => ['\\', 'r']
  | '\\' => ['\\', '\\']
  | '"' => ['\\', '"']
  | _ => if isHidden c then '\\' :: 'u' :: '\x7b' :: (hexDigits c.toNat ++ ['\x7d']) else [c]

/-- A text in quotes. -/
def quoted (s : String) : String :=
  String.ofList ('"' :: (s.toList.flatMap quoteChar ++ ['"']))

end Workbench.Text
