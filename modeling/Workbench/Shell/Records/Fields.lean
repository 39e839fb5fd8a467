import Workbench.Shell.Records.Reader

/-!
# Records and fields

The input of `awk` is cut into records, and a record into fields. What ends a record or a field is a
byte, a regular expression, or blanks. Matches in a text can be replaced. An array is a list of
entries, of which the one that was used last comes first.
-/

namespace Workbench.Shell.Records

/-! ### Fields -/

/-- What stands between fields. -/
inductive Separator where
  | blanks
  | byte (b : UInt8)
  /-- Each byte is a field. -/
  | nothing
  | regex (r : Regex)
  deriving DecidableEq, Repr

/-- The separator that a text stands for. -/
def Separator.ofText : Bytes → Except String Separator
  | [] => .ok .nothing
  | [32] => .ok .blanks
  | [b] => .ok (.byte b)
  | s => (regexOf s).map .regex

/-- The first match of a regular expression that is not empty, from a place on. -/
def firstMatch? (r : Regex) : (bound : Nat) → Spot → Option Regex.Match
  | 0, _ => none
  | bound + 1, p =>
    match r.search? p with
    | none => none
    | some found =>
      if found.start.index < found.finish.index then some found
      else found.finish.next?.bind fun (_, q) => firstMatch? r bound q

/-- The parts of a text between the matches of a regular expression, from a place on. -/
def partsBetweenMatches (r : Regex) : (bound : Nat) → Spot → List Bytes
  | 0, p => [p.rest]
  | bound + 1, p =>
    match firstMatch? r (p.rest.length + 1) p with
    | none => [p.rest]
    | some found =>
      let behind : Spot := { found.finish with groups := [] }
      p.upTo found.start :: partsBetweenMatches r bound behind

/-- Whether a byte is a blank between fields. -/
def isBlank (b : UInt8) : Bool :=
  b = 32 || b = 9 || b = newline

/-- The words of a text, each of which holds no blanks. -/
def wordsOf (current : Bytes) : Bytes → List Bytes
  | [] => if current = [] then [] else [current.reverse]
  | b :: s =>
    if !isBlank b then wordsOf (b :: current) s
    else if current = [] then wordsOf [] s
    else current.reverse :: wordsOf [] s

/-- The fields of a text. -/
def Separator.split (text : Bytes) (separator : Separator) : List Bytes :=
  if text = [] then []
  else
    match separator with
    | blanks => wordsOf [] text
    | byte b => partsBetween b text
    | nothing => text.map ([·])
    | regex r => partsBetweenMatches r text.length { rest := text }

/-! ### Records -/

/-- What ends records. -/
inductive RecordEnd where
  | byte (b : UInt8)
  /-- Lines with nothing in them, of which those in front of a record are skipped. -/
  | emptyLines
  | regex (r : Regex)
  deriving DecidableEq, Repr

/-- What a text says about the ends of records. -/
def RecordEnd.ofText : Bytes → Except String RecordEnd
  | [] => .ok .emptyLines
  | [b] => .ok (.byte b)
  | s => (regexOf s).map .regex

/-- The text up to an empty line, and the text behind it. -/
def upToEmptyLine : Bytes → Bytes × Bytes
  | [] => ([], [])
  | b :: s =>
    if b = newline ∧ s.head? = some newline then ([], s.dropWhile (· = newline))
    else if b = newline ∧ s = [] then ([], [])
    else
      let (text, rest) := upToEmptyLine s
      (b :: text, rest)

/-- The record that a text starts with, and the text behind it; nothing in an empty text. -/
def RecordEnd.next? (text : Bytes) (ends : RecordEnd) : Option (Bytes × Bytes) :=
  match ends with
  | emptyLines =>
    let text := text.dropWhile (· = newline)
    if text = [] then none else some (upToEmptyLine text)
  | byte b =>
    if text = [] then none
    else
      let record := text.takeWhile (· ≠ b)
      some (record, text.drop (record.length + 1))
  | regex r =>
    if text = [] then none
    else
      let start : Spot := { rest := text }
      match firstMatch? r (text.length + 1) start with
      | none => some (text, [])
      | some found => some (start.upTo found.start, found.finish.rest)

/-! ### Replacing -/

/-- A part of a replacement. -/
inductive Part where
  | text (bytes : Bytes)
  /-- The text that was matched. -/
  | found
  deriving DecidableEq, Repr

/-- The parts of a replacement. Backslashes in front of an ampersand stand for half as many, and the
last one of an odd number makes the ampersand text. -/
def partsOf : (bound : Nat) → Bytes → List Part
  | 0, _ => []
  | _, [] => []
  | bound + 1, b :: s =>
    let slashes := ((b :: s).takeWhile (· = backslash)).length
    let rest := (b :: s).drop slashes
    if rest.head? = some 38 then
      let front := List.replicate (slashes / 2) backslash
      .text front :: (if slashes % 2 = 1 then .text [38] else .found) :: partsOf bound rest.tail
    else .text [b] :: partsOf bound s

/-- The text with matches replaced from a place on, and how many there were. A match may not be
empty where the last one ended. -/
def replaceFrom (r : Regex) (parts : List Part) (all : Bool) :
    (bound : Nat) → (lastEnd : Option Nat) → Spot → Bytes × Nat
  | 0, _, p => (p.rest, 0)
  | bound + 1, lastEnd, p =>
    match r.search? p with
    | none => (p.rest, 0)
    | some found =>
      let before := p.upTo found.start
      let new := parts.flatMap fun
        | .text bytes => bytes
        | .found => found.text
      let isEmpty := found.start.index = found.finish.index
      let repeated := isEmpty && lastEnd = some found.start.index
      let put := if repeated then before else before ++ new
      let count := if repeated then 0 else 1
      if !all then (put ++ found.finish.rest, count)
      else if isEmpty then
        match found.finish.next? with
        | none => (put, count)
        | some (b, q) =>
          let (rest, more) := replaceFrom r parts all bound none { q with groups := [] }
          (put ++ b :: rest, count + more)
      else
        let behind : Spot := { found.finish with groups := [] }
        let (rest, more) := replaceFrom r parts all bound (some found.finish.index) behind
        (put ++ rest, count + more)

/-- A text with its first match or all matches replaced, and how many there were. -/
def replaced (r : Regex) (replacement : Bytes) (all : Bool) (text : Bytes) : Bytes × Nat :=
  replaceFrom r (partsOf replacement.length replacement) all (text.length + 2) none { rest := text }

/-! ### Arrays -/

/-- A key of an array. -/
structure Key where
  text : Bytes
  /-- The whole number that it was first given as. -/
  whole : Option Int := none
  deriving DecidableEq, Repr

/-- The entries of an array, the one that was used last first. -/
abbrev Table : Type :=
  List (Key × Cell)

namespace Table

/-- The value at a key. -/
def get? (key : Key) (table : Table) : Option Cell :=
  (table.find? (·.1.text = key.text)).map (·.2)

/-- An array without a key. -/
def erase (key : Key) (table : Table) : Table :=
  table.filter (·.1.text ≠ key.text)

/-- An array with another value at a key. -/
def set (key : Key) (value : Cell) (table : Table) : Table :=
  let key := ((table.find? (·.1.text = key.text)).map (·.1)).getD key
  (key, value) :: table.erase key

/-- The number that the place of a key among other keys depends on. -/
def hash (key : Bytes) : UInt32 :=
  key.foldl (fun h b => (h ^^^ b.toUInt32) * 16777619) 2166136261

/-- How many groups the keys of an array are in: enough for twelve keys in each. -/
def groups (size : Nat) : (bound groups : Nat) → Nat
  | 0, n => n
  | bound + 1, n => if 12 * n < size then Table.groups size bound (2 * n) else n

/-- The keys of an array, group by group. In a group, those that were given as whole numbers come
first, by the remainders of these. -/
def keys (table : Table) : List Key :=
  let count := groups table.length 32 64
  let group (key : Key) : Nat := (hash key.text).toNat % count
  let remainder (key : Key) : Nat := ((key.whole.getD 0) % (count : Int)).toNat
  let keys := table.map (·.1)
  let numbers := (keys.filter (·.whole.isSome)).mergeSort fun a b => remainder a ≤ remainder b
  let arranged := numbers.reverse ++ keys.filter (·.whole.isNone)
  arranged.mergeSort fun a b => group a ≤ group b

end Table

end Workbench.Shell.Records
