import Workbench.Regex.Reader
import Workbench.Shell.Utility.Output

/-!
# Formulas in arguments

The arguments of a call of `expr` make up a formula, one token each. Its value is a text; texts that
are whole numbers are added and compared as numbers. The formula is read by recursive descent, one
function for all levels of operators with two sides.
-/

namespace Workbench.Shell.Formula

/-! ### Formulas -/

/-- How two values can be compared. -/
inductive Relation where
  | less
  | atMost
  | same
  | different
  | atLeast
  | greater
  deriving DecidableEq, Repr

/-- What can be done with two numbers. -/
inductive Arithmetic where
  | add
  | subtract
  | multiply
  | divide
  | remainder
  deriving DecidableEq, Repr

/-- A formula as a tree. -/
inductive Tree where
  | plain (bytes : Bytes)
  /-- The first one unless it is nothing. -/
  | either (first second : Tree)
  /-- The first one if both are something. -/
  | both (first second : Tree)
  | compare (relation : Relation) (left right : Tree)
  | arithmetic (op : Arithmetic) (left right : Tree)
  /-- What a regular expression matches at the start of a text. -/
  | matching (text pattern : Tree)
  | length (text : Tree)
  /-- The place of the first byte that is one of some bytes. -/
  | index (text bytes : Tree)
  | substring (text start length : Tree)
  deriving DecidableEq, Repr

/-- What can be wrong with a formula. -/
inductive Fault where
  | missingBehind (token : Bytes)
  | unexpected (token : Bytes)
  /-- A parenthesis closes nothing. -/
  | closing
  | unclosed (last : Bytes)
  | notClosed (token : Bytes)
  | notWhole
  | byZero
  | badRegex (fault : RegexFault)
  deriving DecidableEq, Repr

/-- The wording of a fault. -/
def Fault.message : Fault → String
  | missingBehind token => s!"syntax error: missing argument after {Quoted.text token}"
  | unexpected token => s!"syntax error: unexpected argument {Quoted.text token}"
  | closing => "syntax error: unexpected ')'"
  | unclosed last => s!"syntax error: expecting ')' after {Quoted.text last}"
  | notClosed token => s!"syntax error: expecting ')' instead of {Quoted.text token}"
  | notWhole => "non-integer argument"
  | byZero => "division by zero"
  | badRegex fault => fault.message

/-! ### Reading -/

/-- What is made of two formulas. -/
abbrev Joiner : Type :=
  Tree → Tree → Tree

/-- The operators with two sides, the level that binds least first. -/
def levels : List (List (String × Joiner)) :=
  [[("|", .either)],
    [("&", .both)],
    [("<", .compare .less), ("<=", .compare .atMost), ("=", .compare .same),
      ("==", .compare .same), ("!=", .compare .different), (">=", .compare .atLeast),
      (">", .compare .greater)],
    [("+", .arithmetic .add), ("-", .arithmetic .subtract)],
    [("*", .arithmetic .multiply), ("/", .arithmetic .divide), ("%", .arithmetic .remainder)],
    [(":", .matching)]]

/-- Tokens that are being read, with the last one that was taken. -/
structure Reading where
  rest : List Bytes
  last : Bytes := []

/-- What reads some tokens. -/
abbrev Reads (α : Type) : Type :=
  StateT Reading (Except Fault) α

/-- Takes the next token. -/
def next : Reads Bytes := do
  let r ← get
  match r.rest with
  | [] => throw (.missingBehind r.last)
  | token :: rest =>
    modify fun r => { r with rest, last := token }
    return token

/-- Takes the next token if it is one of a table. -/
def nextIn {α : Type} (table : List (String × α)) : Reads (Option α) := do
  match (← get).rest with
  | [] => return none
  | token :: _ =>
    match table.lookup (Text.lossyText token) with
    | none => return none
    | some found =>
      let _ ← next
      return some found

mutual

/-- Reads a formula with operators of some levels. -/
def formula : (bound : Nat) → List (List (String × Joiner)) → Reads Tree
  | 0, _ => do throw (.missingBehind (← get).last)
  | bound + 1, [] => operand bound
  | bound + 1, table :: levels => do
    let first ← formula bound levels
    behind bound table levels first

/-- Reads the operators of a level behind a formula. -/
def behind : (bound : Nat) → List (String × Joiner) → List (List (String × Joiner)) → Tree →
    Reads Tree
  | 0, _, _, left => return left
  | bound + 1, table, levels, left => do
    match ← nextIn table with
    | none => return left
    | some join => behind bound table levels (join left (← formula bound levels))

/-- Reads a formula without operators that have two sides. -/
def operand : (bound : Nat) → Reads Tree
  | 0 => do throw (.missingBehind (← get).last)
  | bound + 1 => do
    match Text.lossyText (← peek) with
    | "+" =>
      let _ ← next
      return .plain (← next)
    | "length" =>
      let _ ← next
      return .length (← operand bound)
    | "match" =>
      let _ ← next
      return .matching (← operand bound) (← operand bound)
    | "index" =>
      let _ ← next
      return .index (← operand bound) (← operand bound)
    | "substr" =>
      let _ ← next
      return .substring (← operand bound) (← operand bound) (← operand bound)
    | "(" =>
      let _ ← next
      let inside ← formula bound levels
      match (← get).rest with
      | [] => throw (.unclosed (← get).last)
      | token :: _ =>
        if token = [41] then
          let _ ← next
          return inside
        else throw (.notClosed token)
    | ")" => throw .closing
    | _ => return .plain (← next)
where
  /-- The next token, which stays there. -/
  peek : Reads Bytes := do
    let r ← get
    match r.rest with
    | [] => throw (.missingBehind r.last)
    | token :: _ => return token

end

/-- The formula that tokens make up. -/
def Tree.ofTokens (tokens : List Bytes) : Except Fault Tree := do
  let (found, r) ← (formula (20 * tokens.length + 20) levels).run { rest := tokens }
  match r.rest with
  | [] => return found
  | token :: _ => throw (.unexpected token)

/-! ### Values -/

/-- The whole number that a text is. -/
def whole? (s : Bytes) : Option Int :=
  let chars := s.map fun b => Char.ofNat b.toNat
  let (negative, digits) := match chars with
    | '-' :: digits => (true, digits)
    | digits => (false, digits)
  if digits = [] ∨ !digits.all Char.isDigit then none
  else
    let n : Int := ofDigits 10 digits
    some (if negative then -n else n)

/-- The text of a whole number. -/
def ofWhole (n : Int) : Bytes :=
  Text.bytesOf (toString n)

/-- Whether a value is nothing: an empty text or a zero. -/
def isNothing (s : Bytes) : Bool :=
  s = [] || whole? s = some 0

/-- Whether a relation holds, given whether the left side is less and whether both are the same. -/
def Relation.holds (isLess isSame : Bool) : Relation → Bool
  | less => isLess
  | atMost => isLess || isSame
  | same => isSame
  | different => !isSame
  | atLeast => !isLess
  | greater => !isLess && !isSame

/-- What arithmetic gives. A division goes towards zero. -/
def Arithmetic.apply (m n : Int) : Arithmetic → Except Fault Int
  | add => .ok (m + n)
  | subtract => .ok (m - n)
  | multiply => .ok (m * n)
  | divide => if n = 0 then .error .byZero else .ok (m.tdiv n)
  | remainder => if n = 0 then .error .byZero else .ok (m.tmod n)

/-- What a regular expression matches at the start of a text: what its first group matched, or the
number of bytes if it has no groups. -/
def matched (text pattern : Bytes) : Except Fault Bytes :=
  match Regex.ofText {} pattern with
  | .error fault => .error (.badRegex fault)
  | .ok (r, groups) =>
    match r.matchAt? (fun _ => true) { rest := text } with
    | none => .ok (if 0 < groups then [] else ofWhole 0)
    | some last => .ok (if 0 < groups then last.group 1 else ofWhole last.index)

namespace Tree

/-- The value of a formula. -/
def value : Tree → Except Fault Bytes
  | plain bytes => .ok bytes
  | either first second => do
    let left ← first.value
    if !isNothing left then return left
    let right ← second.value
    return if isNothing right then ofWhole 0 else right
  | both first second => do
    let left ← first.value
    if isNothing left then return ofWhole 0
    let right ← second.value
    return if isNothing right then ofWhole 0 else left
  | compare relation left right => do
    let left ← left.value
    let right ← right.value
    let holds := match whole? left, whole? right with
      | some m, some n => relation.holds (m < n) (m = n)
      | _, _ => relation.holds (left ≠ right && bytesBefore left right) (left = right)
    return ofWhole (if holds then 1 else 0)
  | arithmetic op left right => do
    match whole? (← left.value), whole? (← right.value) with
    | some m, some n => return ofWhole (← op.apply m n)
    | _, _ => throw .notWhole
  | matching text pattern => do matched (← text.value) (← pattern.value)
  | length text => do return ofWhole (← text.value).length
  | index text bytes => do
    let text ← text.value
    let bytes ← bytes.value
    return ofWhole ((text.findIdx? bytes.contains).elim 0 fun (i : Nat) => i + 1)
  | substring text start size => do
    let text ← text.value
    match whole? (← start.value), whole? (← size.value) with
    | some start, some size =>
      return if start ≤ 0 ∨ size ≤ 0 then []
        else (text.drop (start - 1).toNat).take size.toNat
    | _, _ => return []

end Tree

/-- Prints the value of the formula in its arguments, and fails if it is nothing. -/
def expr : Utility := fun call =>
  let args := match call.args with
    | [45, 45] :: args => args
    | args => args
  if args = [] then .done (call.failWithHint "missing operand" 2)
  else
    match (Tree.ofTokens args).bind Tree.value with
    | .error fault => .done (call.fail fault.message 2)
    | .ok text =>
      let effect := call.put (text ++ [newline])
      .done { effect with status := if isNothing text then 1 else 0 }

end Workbench.Shell.Formula
