import Workbench.Shell.Effect
import Workbench.Text.Numeral

/-!
# Quoted texts

Texts and names of files as they appear in the messages of programs. A text is always in quotes,
with escapes inside them. A name is in quotes if it has to be, such that a shell would read it back.
-/

namespace Workbench.Shell.Quoted

/-- The control characters that have an escape of one letter. -/
def letters : List (UInt8 × Char) :=
  [(7, 'a'), (8, 'b'), (9, 't'), (10, 'n'), (11, 'v'), (12, 'f'), (13, 'r')]

/-- The escape of a byte that is no visible character: a letter or three octal digits. -/
def escape? (b : UInt8) : Option (List Char) :=
  match letters.lookup b with
  | some letter => some ['\\', letter]
  | none =>
    if b < 32 ∨ 127 ≤ b then
      let digit (n : Nat) : Char := Char.ofNat (48 + n % 8)
      some ['\\', digit (b.toNat / 64), digit (b.toNat / 8), digit b.toNat]
    else none

/-- A visible character of one byte. -/
def visible (b : UInt8) : Char :=
  Char.ofNat b.toNat

/-- A text in quotes. A quote or a backslash inside has a backslash in front. -/
def text (s : Bytes) : String :=
  let inside := s.flatMap fun b =>
    match escape? b with
    | some escape => escape
    | none => if b = 39 ∨ b = backslash then ['\\', visible b] else [visible b]
  String.ofList ('\'' :: inside ++ ['\''])

/-- A text in quotes, by its characters. -/
def ofString (s : String) : String :=
  text (Text.bytesOf s)

/-- The text inside quotes behind some place, up to the closing quote. Escapes stand in quotes with
a dollar sign in front; `escaping` says whether these are open. -/
def inside : (escaping : Bool) → Bytes → List Char
  | _, [] => ['\'']
  | escaping, b :: s =>
    match escape? b with
    | some escape => (if escaping then escape else "'$'".toList ++ escape) ++ inside true s
    | none =>
      let shown := if b = 39 then "'\\''".toList else [visible b]
      (if escaping then "''".toList ++ shown else shown) ++ inside false s

/-- The name of a file in quotes. -/
def name (name : String) : String :=
  let bytes := Text.bytesOf name
  let plain := bytes.all fun b => (escape? b).isNone
  if plain && bytes.contains 39 && !name.toList.any "!\"$\\\x60".toList.contains then
    String.ofList ('"' :: name.toList ++ ['"'])
  else String.ofList ('\'' :: inside false bytes)

/-- The characters that make a name appear in quotes wherever they stand. -/
def telling : List Char :=
  " !\"$&'()*:;<=>?[\\^\x60|".toList

/-- The name of a file, in quotes unless it is plain. -/
def nameIfTelling (text : String) : String :=
  let cs := text.toList
  let starts := cs = [] || cs.head? = some '~' || cs.head? = some '#'
  let telling := cs.any telling.contains || (Text.bytesOf text).any fun b => (escape? b).isSome
  if starts || telling then name text else text

end Workbench.Shell.Quoted
