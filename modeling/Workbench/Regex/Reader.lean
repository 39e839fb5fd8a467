import Workbench.Regex.Basic
import Workbench.Text.ByteClass

/-!
# Reading regular expressions

There are two ways to write regular expressions, which `grep`, `sed`, `awk` and `expr` share. In the
extended one, parentheses, braces, bars and the marks for repetition have their meaning by
themselves; in the basic one, most of them have it behind a backslash. The text is read by recursive
descent: alternatives are sequences of pieces, and a piece is an atom with marks for repetition.
-/

namespace Workbench

/-- What can be wrong with the text of a regular expression. -/
inductive RegexFault where
  | badPattern
  | openBracket
  | openGroup
  | closedGroup
  | openCount
  | badCount
  | greatCount
  | badRange
  | badRepetition
  | badReference
  | badClass
  /-- The name of a class has one pair of brackets alone. -/
  | bareClass
  | trailingBackslash
  deriving DecidableEq, Repr

/-- The wording of a fault. -/
def RegexFault.message : RegexFault → String
  | badPattern => "Invalid regular expression"
  | openBracket => "Unmatched [, [^, [:, [., or [="
  | openGroup => "Unmatched ( or \\("
  | closedGroup => "Unmatched ) or \\)"
  | openCount => "Unmatched \\\x7b"
  | badCount => "Invalid content of \\\x7b\\\x7d"
  | greatCount => "Regular expression too big"
  | badRange => "Invalid range end"
  | badRepetition => "Invalid preceding regular expression"
  | badReference => "Invalid back reference"
  | badClass => "Invalid character class name"
  | bareClass => "character class syntax is [[:space:]], not [:space:]"
  | trailingBackslash => "Trailing backslash"

/-- How regular expressions are written. -/
structure RegexStyle where
  extended : Bool := false
  /-- Whether a mark for repetition with nothing in front of it is a fault. -/
  strict : Bool := false
  /-- Whether letters stand for both of their cases. -/
  folds : Bool := false
  /-- Whether the marks for the start and the end of the text mean those of its lines. -/
  byLine : Bool := false
  /-- Whether a backslash in front of a letter may stand for a control character, and has a meaning
  inside brackets. -/
  escapes : Bool := false
  /-- Whether what closes no group and braces without a count stand for themselves, letters behind a
  backslash have no other meaning than control characters, and ranges can run backwards. -/
  lenient : Bool := false
  deriving DecidableEq, Repr

namespace Regex

/-- A text that is being read. -/
structure Reading where
  rest : List Char
  /-- How many groups were opened. -/
  opened : Nat := 0
  /-- The groups that were closed. -/
  closed : List Nat := []
  deriving DecidableEq, Repr

/-- What comes of reading. -/
abbrev Found : Type :=
  Except RegexFault (Regex × Reading)

/-! ### Atoms -/

/-- The byte of a character. -/
def byteOf (c : Char) : UInt8 :=
  c.toNat.toUInt8

/-- The control character that a letter stands for behind a backslash. -/
def control? : Char → Option Char
  | 'n' => some '\n'
  | 't' => some '\t'
  | 'r' => some '\r'
  | 'a' => some (Char.ofNat 7)
  | 'b' => some (Char.ofNat 8)
  | 'f' => some (Char.ofNat 12)
  | 'v' => some (Char.ofNat 11)
  | _ => none

/-- A byte of a set, with both cases of letters if the style wants it. -/
def ofSet (style : RegexStyle) (set : ByteSet) : Regex :=
  .byte (if style.folds then set.folded else set)

/-- One character. -/
def ofChar (style : RegexStyle) (c : Char) : Regex :=
  ofSet style (.single (byteOf c))

/-- The bytes of words. -/
def wordBytes : List UInt8 :=
  (Text.byteRange 0 255).filter isWordByte

/-- Any byte. -/
def anyByte : Regex :=
  .byte { members := [], negated := true }

/-- What a character behind a backslash means, if it does not stand for itself. -/
def special? (style : RegexStyle) (c : Char) : Option Regex :=
  match c with
  | 'w' => some (.byte { members := wordBytes })
  | 'W' => some (.byte { members := wordBytes, negated := true })
  | 's' => (Text.byteClass? "space").map fun bytes => .byte { members := bytes }
  | 'S' => (Text.byteClass? "space").map fun bytes => .byte { members := bytes, negated := true }
  | '<' => some (.edge .wordStart)
  | '>' => some (.edge .wordEnd)
  | 'b' => if style.escapes then none else some (.edge .wordEdge)
  | 'B' => some (.edge .noWordEdge)
  | '\x60' => some (.edge .textStart)
  | '\'' => some (.edge .textEnd)
  | _ => none

/-! ### Brackets -/

/-- The text in front of a mark such as `:]`, and the text behind it. -/
def upToMark (mark : Char) : List Char → Option (List Char × List Char)
  | [] => none
  | c :: rest =>
    if c = mark ∧ rest.head? = some ']' then some ([], rest.tail)
    else (upToMark mark rest).map fun (name, behind) => (c :: name, behind)

/-- What stands at a place between brackets. -/
inductive BracketItem where
  | one (c : Char)
  | several (bytes : List UInt8)
  deriving DecidableEq, Repr

/-- The item that a text between brackets starts with, and the text behind it. -/
def bracketItem (style : RegexStyle) : List Char → Except RegexFault (BracketItem × List Char)
  | '[' :: ':' :: rest =>
    match upToMark ':' rest with
    | none => .error .openBracket
    | some (name, behind) =>
      match Text.byteClass? (String.ofList name) with
      | some bytes => .ok (.several bytes, behind)
      | none => .error .badClass
  | '[' :: '=' :: rest => marked '=' rest
  | '[' :: '.' :: rest => marked '.' rest
  | '\\' :: c :: rest =>
    if style.escapes then .ok (.one ((control? c).getD c), rest) else .ok (.one '\\', c :: rest)
  | c :: rest => .ok (.one c, rest)
  | [] => .error .openBracket
where
  /-- One character between marks. -/
  marked (mark : Char) (rest : List Char) : Except RegexFault (BracketItem × List Char) :=
    match upToMark mark rest with
    | some ([c], behind) => .ok (.one c, behind)
    | some _ => .error .badClass
    | none => .error .openBracket

/-- The bytes between brackets and the text behind them, of which at most `bound` items are read.
The `first` item may be a closing bracket. -/
def bracketItems (style : RegexStyle) : (bound : Nat) → (first : Bool) → List Char →
    Except RegexFault (List UInt8 × List Char)
  | 0, _, _ | _, _, [] => .error .openBracket
  | bound + 1, first, c :: s => do
    if c = ']' ∧ !first then return ([], s)
    let (item, behind) ← bracketItem style (c :: s)
    match item, behind with
    | .one low, '-' :: d :: rest =>
      if d = ']' then
        let (others, rest) ← bracketItems style bound false behind
        return (byteOf low :: others, rest)
      else
        match ← bracketItem style (d :: rest) with
        | (.several _, _) => throw .badRange
        | (.one high, rest) =>
          if high < low && !style.lenient then throw .badRange
          let (others, rest) ← bracketItems style bound false rest
          let range := Text.byteRange (min low.toNat high.toNat) (max low.toNat high.toNat)
          return (range ++ others, rest)
    | .one c, _ =>
      let (others, rest) ← bracketItems style bound false behind
      return (byteOf c :: others, rest)
    | .several bytes, _ =>
      let (others, rest) ← bracketItems style bound false behind
      return (bytes ++ others, rest)

/-- Whether a text behind a bracket is the name of a class and the end of the brackets. -/
def isBareClass (s : List Char) : Bool :=
  match s with
  | ':' :: rest =>
    let inside := rest.takeWhile (· ≠ ']')
    (rest.drop inside.length).head? = some ']' && 1 < inside.length &&
      inside.getLast? = some ':'
  | _ => false

/-- The set that a text behind an opening bracket starts with, and the text behind it. -/
def bracket (style : RegexStyle) (s : List Char) : Except RegexFault (ByteSet × List Char) := do
  if isBareClass s then throw .bareClass
  let (negated, body) := match s with
    | '^' :: body => (true, body)
    | _ => (false, s)
  if body = [] then throw .badPattern
  let (members, rest) ← bracketItems style (body.length + 1) true body
  return ({ members, negated }, rest)

/-! ### Repetition -/

/-- The greatest number of times that can be asked for. -/
def maxCount : Nat :=
  32767

/-- The text of a number in front of a comma or of the end of a count, and the text from there on;
nothing if there is neither. -/
def countText? (s : List Char) : Option (List Char × List Char) :=
  let text := s.takeWhile fun c => c ≠ ',' && c ≠ '}' && c ≠ '\\'
  if (s.drop text.length).isEmpty then none else some (text, s.drop text.length)

/-- The text behind the end of a count. -/
def behindCount? (style : RegexStyle) : List Char → Option (List Char)
  | '}' :: rest => if style.extended then some rest else none
  | '\\' :: '}' :: rest => if style.extended then none else some rest
  | _ => none

/-- The least and the greatest number of times that a text behind an opening brace asks for, and the
text behind it. -/
def count (style : RegexStyle) (s : List Char) :
    Except RegexFault (Nat × Option Nat × List Char) := do
  let number (text : List Char) : Except RegexFault (Option Nat) :=
    if text.all Char.isDigit then
      .ok (if text = [] then none
        else some (text.foldl (fun n c => n * 10 + (c.toNat - '0'.toNat)) 0))
    else .error .badCount
  let some (text, rest) := countText? s | throw .openCount
  let first ← number text
  match first, rest with
  | none, ',' :: _ | some _, ',' :: _ =>
    let some (text, rest) := countText? rest.tail | throw .openCount
    let last ← number text
    finish (first.getD 0) last rest
  | some n, rest => finish n (some n) rest
  | none, _ => throw .badCount
where
  /-- The count when its end has to follow. -/
  finish (least : Nat) (most : Option Nat) (rest : List Char) :
      Except RegexFault (Nat × Option Nat × List Char) :=
    match behindCount? style rest with
    | none => .error .badCount
    | some behind =>
      if most.any (· < least) then .error .badCount
      else if maxCount < most.getD least then .error .greatCount
      else .ok (least, most, behind)

/-- A mark for repetition. -/
inductive Mark where
  | times (least : Nat) (most : Option Nat)
  | faulty (fault : RegexFault)
  deriving DecidableEq, Repr

/-- The mark for repetition that a text starts with, and the text behind it. -/
def mark? (style : RegexStyle) : List Char → Option (Mark × List Char)
  | '*' :: rest => some (.times 0 none, rest)
  | '+' :: rest => if style.extended then some (.times 1 none, rest) else none
  | '?' :: rest => if style.extended then some (.times 0 (some 1), rest) else none
  | '{' :: rest =>
    if !style.extended then none
    else
      match count style rest with
      | .ok (least, most, rest) => some (.times least most, rest)
      | .error fault =>
        let isText := !style.strict || (style.lenient && fault = .openCount)
        if !isText || fault = .greatCount then some (.faulty fault, rest) else none
  | '\\' :: '+' :: rest => if style.extended then none else some (.times 1 none, rest)
  | '\\' :: '?' :: rest => if style.extended then none else some (.times 0 (some 1), rest)
  | '\\' :: '{' :: rest =>
    if style.extended then none
    else
      match count style rest with
      | .ok (least, most, rest) => some (.times least most, rest)
      | .error fault => some (.faulty fault, rest)
  | _ => none

/-- Whether a mark may follow another mark. -/
def mayFollow (style : RegexStyle) (s : List Char) : Bool :=
  style.extended || !style.strict ||
    !(s.head? = some '*' || ['\\', '{'].isPrefixOf s)

/-- An expression with the marks behind it, of which at most `bound` are read. -/
def withMarks (style : RegexStyle) : (bound : Nat) → (again : Bool) → Regex → List Char →
    Except RegexFault (Regex × List Char)
  | 0, _, r, s => .ok (r, s)
  | bound + 1, again, r, s =>
    match mark? style s with
    | none => .ok (r, s)
    | some (.faulty fault, _) => .error fault
    | some (.times least most, rest) =>
      if again && !mayFollow style s then .error .badRepetition
      else withMarks style bound true (.repeated least most r) rest

/-! ### Alternatives -/

/-- The text behind a bar between alternatives. -/
def behindBar? (style : RegexStyle) : List Char → Option (List Char)
  | '|' :: rest => if style.extended then some rest else none
  | '\\' :: '|' :: rest => if style.extended then none else some rest
  | '\n' :: rest => if style.strict || style.escapes then none else some rest
  | _ => none

/-- The text behind the end of a group. -/
def behindGroup? (style : RegexStyle) : List Char → Option (List Char)
  | ')' :: rest => if style.extended then some rest else none
  | '\\' :: ')' :: rest => if style.extended then none else some rest
  | _ => none

/-- The text behind the start of a group. -/
def behindOpening? (style : RegexStyle) : List Char → Option (List Char)
  | '(' :: rest => if style.extended then some rest else none
  | '\\' :: '(' :: rest => if style.extended then none else some rest
  | _ => none

/-- Whether a dollar sign in front of a text marks an end. -/
def endsHere (style : RegexStyle) (s : List Char) : Bool :=
  style.extended || s = [] || (behindBar? style s).isSome || (behindGroup? style s).isSome

/-- The condition for the start of the text, or for that of a line. -/
def startEdge (style : RegexStyle) : Regex :=
  .edge (if style.byLine then .lineStart else .textStart)

/-- The condition for the end of the text, or for that of a line. -/
def endEdge (style : RegexStyle) : Regex :=
  .edge (if style.byLine then .lineEnd else .textEnd)

/-- The atom that a text starts with; no group, and no mark that has to follow an atom. -/
def atom (style : RegexStyle) (reading : Reading) : Found :=
  let put (r : Regex) (rest : List Char) : Found := .ok (r, { reading with rest })
  match reading.rest with
  | [] => put .empty []
  | '.' :: rest => put anyByte rest
  | '[' :: rest => do
    let (set, rest) ← bracket style rest
    put (ofSet style set) rest
  | ['\\'] => .error .trailingBackslash
  | '\\' :: c :: rest =>
    if '1' ≤ c ∧ c ≤ '9' then
      let n := c.toNat - '0'.toNat
      if reading.closed.contains n then put (.reference n style.folds) rest
      else .error .badReference
    else
      let special := if style.lenient then none else special? style c
      match special, if style.escapes then control? c else none with
      | some r, _ => put r rest
      | none, some d => put (ofChar style d) rest
      | none, none => put (ofChar style c) rest
  | c :: rest => put (ofChar style c) rest

mutual

/-- The alternatives that a text starts with. -/
def alternatives (style : RegexStyle) : (bound depth : Nat) → Reading → Found
  | 0, _, _ => .error .greatCount
  | bound + 1, depth, reading => do
    let (r, reading) ← pieces style bound depth true reading
    match behindBar? style reading.rest with
    | none => return (r, reading)
    | some rest =>
      let (s, reading) ← alternatives style bound depth { reading with rest }
      return (.either r s, reading)

/-- The pieces that a text starts with, one after the other; `starts` says whether nothing stands in
front of them. -/
def pieces (style : RegexStyle) : (bound depth : Nat) → (starts : Bool) → Reading → Found
  | 0, _, _, _ => .error .greatCount
  | bound + 1, depth, starts, reading =>
    let closes := (behindGroup? style reading.rest).isSome
    if reading.rest = [] || (behindBar? style reading.rest).isSome || (closes && 0 < depth) then
      .ok (.empty, reading)
    else if closes && !style.lenient then .error .closedGroup
    else
      match behindOpening? style reading.rest, reading.rest with
      | some rest, _ => do
        let number := reading.opened + 1
        let (r, inside) ←
          alternatives style bound (depth + 1) { reading with rest, opened := number }
        let some rest := behindGroup? style inside.rest | throw .openGroup
        let closed := number :: inside.closed
        follow bound depth (.group number r) { inside with rest, closed }
      | none, '^' :: rest =>
        if starts || style.extended then join bound depth (startEdge style) { reading with rest }
        else do
          let (r, reading) ← atom style reading
          follow bound depth r reading
      | none, '$' :: rest =>
        if endsHere style rest then join bound depth (endEdge style) { reading with rest }
        else do
          let (r, reading) ← atom style reading
          follow bound depth r reading
      | none, text => do
        match if starts || style.extended then mark? style text else none with
        | none =>
          let (r, reading) ← atom style reading
          follow bound depth r reading
        | some (.faulty fault, _) => throw fault
        | some (.times .., rest) =>
          let counts := text.head? = some '{' || ['\\', '{'].isPrefixOf text
          if style.strict && (style.extended || counts) then throw .badRepetition
          else if style.extended then pieces style bound depth starts { reading with rest }
          else
            let plain := if text.head? = some '\\' then text.tail else text
            let (r, reading) ← atom style { reading with rest := plain.take 1 }
            follow bound depth r { reading with rest := plain.drop 1 }
where
  /-- A piece with its marks, and the pieces behind it. -/
  follow (bound depth : Nat) (r : Regex) (reading : Reading) : Found := do
    let (r, rest) ← withMarks style reading.rest.length false r reading.rest
    join bound depth r { reading with rest }
  /-- A piece and the pieces behind it. -/
  join (bound depth : Nat) (r : Regex) (reading : Reading) : Found := do
    let (s, reading) ← pieces style bound depth false reading
    return (.sequence r s, reading)

end

/-- The regular expression that a text stands for, and how many groups it has. -/
def ofText (style : RegexStyle) (text : List UInt8) : Except RegexFault (Regex × Nat) := do
  let chars := text.map fun b => Char.ofNat b.toNat
  let (r, reading) ← alternatives style (2 * chars.length + 2) 0 { rest := chars }
  return (r, reading.opened)

end Regex

end Workbench
