/-!
# Patterns

A pattern of `sh` is a list of items that each match one byte, or any number of bytes. `matchesAll`
says whether a pattern matches a whole text, and `cutStart` and `cutEnd` take off a part that it
matches.
-/

namespace Workbench.Shell

/-- One item of a pattern. -/
inductive Glob where
  | byte (b : UInt8)
  /-- `?` -/
  | any
  /-- `*` -/
  | star
  /-- Brackets: one byte that is in some ranges, or in none of them. -/
  | oneOf (negated : Bool) (ranges : List (UInt8 × UInt8))
  deriving DecidableEq, Repr

namespace Glob

/-- Whether an item other than `star` matches a byte. -/
def takes (b : UInt8) : Glob → Bool
  | byte c => b = c
  | any => true
  | star => false
  | oneOf negated ranges => (ranges.any fun range => range.1 ≤ b && b ≤ range.2) != negated

/-- Whether items match a whole text. -/
def matchesAll : List Glob → List UInt8 → Bool
  | [], s => s.isEmpty
  | star :: rest, [] => matchesAll rest []
  | star :: rest, b :: s => matchesAll rest (b :: s) || matchesAll (star :: rest) s
  | _ :: _, [] => false
  | item :: rest, b :: s => item.takes b && matchesAll rest s
termination_by items s => items.length + s.length

/-! ### Reading -/

/-- A byte of a pattern before it is read; a quoted one stands for itself. -/
structure Mark where
  quoted : Bool
  byte : UInt8
  deriving DecidableEq, Repr

/-- Whether a byte is a character that is not quoted. -/
def Mark.is (c : Char) (mark : Mark) : Bool :=
  !mark.quoted && mark.byte.toNat = c.toNat

/-- The classes that may stand in brackets, by their names. -/
def classes : List (String × List (Char × Char)) :=
  [("digit", [('0', '9')]), ("alpha", [('a', 'z'), ('A', 'Z')]), ("lower", [('a', 'z')]),
    ("upper", [('A', 'Z')]), ("alnum", [('a', 'z'), ('A', 'Z'), ('0', '9')]),
    ("space", [('\t', '\r'), (' ', ' ')]), ("blank", [('\t', '\t'), (' ', ' ')]),
    ("punct", [('!', '/'), (':', '@'), ('[', '\x60'), ('\x7b', '~')]),
    ("xdigit", [('0', '9'), ('a', 'f'), ('A', 'F')]), ("print", [(' ', '~')]),
    ("graph", [('!', '~')]), ("cntrl", [('\x00', '\x1f'), ('\x7f', '\x7f')])]

/-- The ranges of a class. -/
def classRanges (name : String) : List (UInt8 × UInt8) :=
  ((classes.lookup name).getD []).map fun range => (range.1.toUInt8, range.2.toUInt8)

/-- The name of the class that some marks start with, as in `[:digit:]`, and the marks behind it. -/
def class? : List Mark → Option (String × List Mark)
  | a :: b :: rest =>
    let name := rest.takeWhile fun mark => !mark.is ':'
    match rest.dropWhile fun mark => !mark.is ':' with
    | _ :: close :: behind =>
      if a.is '[' && b.is ':' && close.is ']' then
        some (String.ofList (name.map fun mark => Char.ofNat mark.byte.toNat), behind)
      else none
    | _ => none
  | _ => none

/-- The ranges of brackets up to the closing one, at most `bound` of them, and the marks behind;
nothing if there is no closing bracket. One that comes first is no closing bracket. -/
def ranges : (bound : Nat) → (first : Bool) → List Mark →
    Option (List (UInt8 × UInt8) × List Mark)
  | 0, _, _ => none
  | _, _, [] => none
  | bound + 1, first, mark :: rest =>
    if mark.is ']' && !first then some ([], rest)
    else
      match class? (mark :: rest) with
      | some (name, behind) =>
        (ranges bound false behind).map fun (found, behind) => (classRanges name ++ found, behind)
      | none =>
        match rest with
        | dash :: last :: behind =>
          if dash.is '-' && !last.is ']' then
            (ranges bound false behind).map fun (found, behind) =>
              ((mark.byte, last.byte) :: found, behind)
          else
            (ranges bound false rest).map fun (found, behind) =>
              ((mark.byte, mark.byte) :: found, behind)
        | _ =>
          (ranges bound false rest).map fun (found, behind) =>
            ((mark.byte, mark.byte) :: found, behind)

/-- The brackets that some marks behind an opening one stand for, and the marks behind them. -/
def brackets? (marks : List Mark) : Option (Glob × List Mark) :=
  let negated := marks.head?.any fun mark => mark.is '!' || mark.is '^'
  let body := if negated then marks.tail else marks
  (ranges (body.length + 1) true body).map fun (found, behind) => (.oneOf negated found, behind)

/-- The items that some marks stand for, at most `bound` of them. -/
def ofMarks : (bound : Nat) → List Mark → List Glob
  | 0, _ => []
  | _, [] => []
  | bound + 1, mark :: rest =>
    if mark.is '?' then any :: ofMarks bound rest
    else if mark.is '*' then star :: ofMarks bound rest
    else if mark.is '[' then
      match brackets? rest with
      | some (item, behind) => item :: ofMarks bound behind
      | none => byte mark.byte :: ofMarks bound rest
    else byte mark.byte :: ofMarks bound rest

end Glob

/-- A pattern. -/
abbrev Pattern : Type :=
  List Glob

namespace Pattern

/-- The pattern that some marks stand for. A backslash takes the meaning of the mark behind it. -/
def ofMarks (marks : List Glob.Mark) : Pattern :=
  Glob.ofMarks marks.length (unescaped marks)
where
  /-- The marks with those behind a backslash quoted. -/
  unescaped : List Glob.Mark → List Glob.Mark
    | [] => []
    | [mark] => [mark]
    | mark :: next :: rest =>
      if mark.is '\\' then { next with quoted := true } :: unescaped rest
      else mark :: unescaped (next :: rest)

/-- The text without the part at its start that a pattern matches: the longest such part, or the
shortest. A text without such a part stays. -/
def cutStart (pattern : Pattern) (longest : Bool) (s : List UInt8) : List UInt8 :=
  let sizes := List.range (s.length + 1)
  let found := (if longest then sizes.reverse else sizes).find? fun n =>
    Glob.matchesAll pattern (s.take n)
  s.drop (found.getD 0)

/-- The text without the part at its end that a pattern matches: the longest such part, or the
shortest. A text without such a part stays. -/
def cutEnd (pattern : Pattern) (longest : Bool) (s : List UInt8) : List UInt8 :=
  let sizes := List.range (s.length + 1)
  let found := (if longest then sizes else sizes.reverse).find? fun n =>
    Glob.matchesAll pattern (s.drop n)
  s.take (found.getD s.length)

end Pattern

end Workbench.Shell
