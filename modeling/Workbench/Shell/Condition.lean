import Workbench.Shell.Installed
import Workbench.Shell.Quoted
import Workbench.Text.Blank

/-!
# Conditions

What `test` and `[` are asked: conditions on texts, numbers and files, joined by `-a`, `-o`, `!` and
parentheses. Up to four arguments are read by their number, so that texts that look like operators
can be compared.
-/

namespace Workbench.Shell

/-- A condition. -/
inductive Condition where
  | holds (truth : Bool)
  /-- A test of a text or of the file it names, by its letter. -/
  | check (letter : Char) (text : String)
  /-- A comparison of texts or numbers, by its operator. -/
  | compare (operator : String) (a b : String)
  | not (c : Condition)
  | both (a b : Condition)
  | either (a b : Condition)
  deriving DecidableEq, Repr

namespace Condition

/-- Why a condition is not answered. -/
inductive Fault where
  /-- The closing bracket is not there. -/
  | unclosed
  | openParenthesis
  | argumentExpected (operator : String)
  /-- An operator that is none stands behind an operand. -/
  | unexpectedOperator (operand operator : String)
  | noNumber (text : String)
  deriving DecidableEq, Repr

/-- The wording of a fault in a shell. -/
def Fault.message : Fault → String
  | unclosed => "missing ]"
  | openParenthesis => "closing paren expected"
  | argumentExpected operator => s!"{operator}: argument expected"
  | unexpectedOperator "" _ => "unexpected operator"
  | unexpectedOperator operand _ => s!"{operand}: unexpected operator"
  | noNumber text => s!"Illegal number: {text}"

/-- The wording of a fault in the condition that some texts stand for, outside of shells. -/
def Fault.report (ts : List String) : Fault → String
  | unclosed => "missing ']'"
  | openParenthesis => "')' expected"
  | argumentExpected operator => s!"missing argument after {Quoted.ofString operator}"
  | unexpectedOperator operand operator =>
    match ts with
    | [_, _] =>
      if operand.startsWith "-" then s!"{Quoted.ofString operand}: unary operator expected"
      else s!"missing argument after {Quoted.ofString operator}"
    | [_, middle, _] => s!"{Quoted.ofString middle}: binary operator expected"
    | _ => s!"extra argument {Quoted.ofString operator}"
  | noNumber text => s!"invalid integer {Quoted.ofString text}"

/-! ### Reading -/

/-- The operators between two texts. -/
def binaryOperators : List String :=
  ["=", "!=", "<", ">", "-eq", "-ne", "-ge", "-gt", "-le", "-lt", "-nt", "-ot", "-ef"]

/-- The letters of the operators in front of a text. -/
def unaryLetters : List Char :=
  "rwxefdcbpugkshLnztOGS".toList

/-- The letter of an operator in front of a text. -/
def unary? (text : String) : Option Char :=
  match text.toList with
  | ['-', c] => if unaryLetters.contains c then some c else none
  | _ => none

/-- Whether a text in front of others is taken for the operator that it looks like. -/
def isUnary (text : String) (rest : List String) : Bool :=
  (unary? text).isSome &&
    match rest with
    | [] => false
    | [_] => true
    | next :: _ => !binaryOperators.contains next

mutual

/-- Conditions of which one has to hold. -/
def disjunction : (bound : Nat) → List String → Except Fault (Condition × List String)
  | 0, _ => .error .openParenthesis
  | bound + 1, ts => do
    let (a, rest) ← conjunction bound ts
    match rest with
    | "-o" :: rest =>
      let (b, rest) ← disjunction bound rest
      return (.either a b, rest)
    | _ => return (a, rest)

/-- Conditions that all have to hold. -/
def conjunction : (bound : Nat) → List String → Except Fault (Condition × List String)
  | 0, _ => .error .openParenthesis
  | bound + 1, ts => do
    let (a, rest) ← single bound ts
    match rest with
    | "-a" :: rest =>
      let (b, rest) ← conjunction bound rest
      return (.both a b, rest)
    | _ => return (a, rest)

/-- A condition without `-a` and `-o`. -/
def single : (bound : Nat) → List String → Except Fault (Condition × List String)
  | 0, _ => .error .openParenthesis
  | _, [] => .ok (.holds false, [])
  | bound + 1, t :: rest => do
    if t = "!" ∧ rest ≠ [] then
      let (c, rest) ← single bound rest
      return (.not c, rest)
    else if t = "(" ∧ rest ≠ [] then
      if rest.head? = some ")" then return (.holds false, rest.tail)
      else
        let (c, rest) ← disjunction bound rest
        if rest.head? = some ")" then return (c, rest.tail) else .error .openParenthesis
    else
      match isUnary t rest, unary? t, rest with
      | true, some letter, text :: rest => return (.check letter text, rest)
      | _, _, operator :: rest' =>
        if binaryOperators.contains operator then
          match rest' with
          | b :: rest => return (.compare operator t b, rest)
          | [] => .error (.argumentExpected operator)
        else return (.holds (t ≠ ""), rest)
      | _, _, [] => return (.holds (t ≠ ""), rest)

end

/-- The condition that all of some texts stand for. If texts are left, the one in front of them is
taken for an operand that lacks its operator. -/
def ofAll (ts : List String) : Except Fault Condition := do
  let (c, rest) ← disjunction (4 * ts.length + 4) ts
  match rest with
  | [] => return c
  | operator :: _ =>
    let taken := ts.take (ts.length - rest.length)
    .error (.unexpectedOperator (taken.getLast?.getD "") operator)

/-- The condition that some texts stand for. -/
def ofTexts (ts : List String) : Except Fault Condition :=
  match ts with
  | [] => .ok (.holds false)
  | [t] => .ok (.holds (t ≠ ""))
  | [a, operator, b] =>
    if binaryOperators.contains operator then .ok (.compare operator a b)
    else if a = "(" ∧ b = ")" then .ok (.holds (operator ≠ ""))
    else if a = "!" then (ofAll [operator, b]).map .not
    else ofAll ts
  | [a, b, c, d] =>
    if a = "(" ∧ d = ")" then ofAll [b, c]
    else if a = "!" then
      if binaryOperators.contains c then .ok (.not (.compare c b d)) else (ofAll [b, c, d]).map .not
    else ofAll ts
  | _ => ofAll ts

/-- The condition that the arguments of `[` stand for; the last one is the closing bracket, behind
which a shell lets anything stand. -/
def ofBrackets (strict : Bool) (ts : List String) : Except Fault Condition :=
  match ts.getLast? with
  | some last =>
    if last = "]" ∨ !strict && last.startsWith "]" then ofTexts ts.dropLast else .error .unclosed
  | none => .error .unclosed

/-! ### Answers -/

/-- The number that a text stands for: decimal, with an optional sign and blanks around it. -/
def number (text : String) : Except Fault Int :=
  match Text.integer? (Text.trim text.toList) with
  | some n => .ok n
  | none => .error (.noNumber text)

/-- Whether a comparison holds. -/
def compares (operator a b : String) : Except Fault Bool :=
  let numbers (holds : Int → Int → Bool) : Except Fault Bool := do
    return holds (← number a) (← number b)
  match operator with
  | "=" => .ok (a = b)
  | "!=" => .ok (a ≠ b)
  | "<" => .ok (a < b)
  | ">" => .ok (b < a)
  | "-eq" => numbers fun m n => m = n
  | "-ne" => numbers fun m n => m ≠ n
  | "-ge" => numbers fun m n => n ≤ m
  | "-gt" => numbers fun m n => n < m
  | "-le" => numbers fun m n => m ≤ n
  | "-lt" => numbers fun m n => m < n
  | _ => .ok false

/-- Whether a test of a file holds, by what its path leads to. -/
def checksFile (letter : Char) : FileKind → Bool
  | .file size => if letter = 's' then 0 < size else "erwfOG".toList.contains letter
  | .program => "erwxfsOG".toList.contains letter
  | .directory => "erwxdsOG".toList.contains letter
  | .device => "erwcOG".toList.contains letter

/-- Whether a condition holds. The path of a file is what `path` makes of its name. -/
def answer (path : String → String) : Condition → DiskTask (Except Fault Bool)
  | .holds truth => .done (.ok truth)
  | .check letter text =>
    if letter = 'n' then .done (.ok (text ≠ ""))
    else if letter = 'z' then .done (.ok (text = ""))
    else if letter = 't' then .done ((number text).map fun _ => false)
    else do
      return .ok ((← fileKind (path text)).toOption.any (checksFile letter))
  | .compare operator a b => .done (compares operator a b)
  | .not c => do
    return (← c.answer path).map (! ·)
  | .both a b => do
    match ← a.answer path, ← b.answer path with
    | .ok x, .ok y => return .ok (x && y)
    | .error fault, _ | _, .error fault => return .error fault
  | .either a b => do
    match ← a.answer path, ← b.answer path with
    | .ok x, .ok y => return .ok (x || y)
    | .error fault, _ | _, .error fault => return .error fault

end Condition

end Workbench.Shell
