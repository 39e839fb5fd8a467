import Workbench.Regex.Reader
import Workbench.Shell.Records.Token

/-!
# Reading programs on records

The tokens of a program for `awk` are read by recursive descent. Operators with two sides have
levels, and an operand is followed by as many of them as its level allows; what has neither an
operator in front of it nor behind it is joined to the text before. The functions that read have a
bound on how deep they nest.
-/

namespace Workbench.Shell.Records

/-- Tokens that are being read. -/
structure Reading where
  rest : List (Token × Nat)
  /-- The parameters of the function that is read. -/
  params : Option (List String) := none
  /-- Whether a sign for greater writes to a file. -/
  printing : Bool := false
  /-- How many parentheses are open. -/
  parens : Nat := 0
  /-- How many blocks are open. -/
  blocks : Nat := 0
  /-- How many loops are open. -/
  loops : Nat := 0
  /-- Whether the action is for records. -/
  onRecords : Bool := false
  /-- The functions that are called, with the numbers of their arguments and the lines. -/
  calls : List (String × Nat × Nat) := []

/-- What reads some tokens. -/
abbrev Reads (α : Type) : Type :=
  StateT Reading (Except Fault) α

/-! ### Tokens -/

/-- The next token. -/
def peek : Reads Token := do
  return ((← get).rest.head?.map (·.1)).getD .finish

/-- The line of the next token. -/
def currentLine : Reads Nat := do
  return ((← get).rest.head?.map (·.2)).getD 1

/-- Takes the next token. -/
def advance : Reads Unit :=
  modify fun r => { r with rest := r.rest.tail }

/-- Fails at the next token. -/
def refuse {α : Type} : Reads α := do
  let token ← peek
  let line ← currentLine
  let r ← get
  let ends := match token with
    | .newline | .finish | .mark ";" | .mark "\x7d" => true
    | _ => false
  match token with
  | .faulty fault => throw fault
  | .mark ")" => if r.parens = 0 then throw (.excess ')' line)
  | .finish | .keyword "BEGIN" | .keyword "END" =>
    if r.parens = 0 ∧ 0 < r.blocks then throw (.missing '\x7d' line token.shown)
  | _ => pure ()
  if ends && 0 < r.parens then throw (.missing ')' line token.shown)
  throw (.unexpectedToken line token.shown)

/-- Takes a mark if it is the next token. -/
def takes (mark : String) : Reads Bool := do
  if (← peek) == .mark mark then
    advance
    return true
  else return false

/-- Takes a mark that must be there. -/
def demand (mark : String) : Reads Unit := do
  if !(← takes mark) then refuse

/-- Takes the newlines that come next. -/
def skipNewlines : Reads Unit := do
  if (← peek) == .newline then advance

/-- Does what reads between an opening parenthesis that was taken and its closing one. -/
def inside {α : Type} (closing : String) (read : Reads α) : Reads α := do
  let before ← get
  let depth := if closing = ")" then before.parens + 1 else before.parens
  set { before with printing := false, parens := depth }
  let found ← read
  demand closing
  modify fun r => { r with printing := before.printing, parens := before.parens }
  return found

/-- What a name stands for. -/
def nameOf (name : String) : Reads Name := do
  let params := ((← get).params).getD []
  return match params.idxOf? name with
    | some index => .parameter index
    | none => .shared name

/-- Takes a name. -/
def someName : Reads Name := do
  match ← peek with
  | .name name =>
    advance
    nameOf name
  | _ => refuse

/-! ### Operators -/

/-- Whether something can have a value given to it. -/
def Expr.isPlace : Expr → Bool
  | name _ | field _ | element .. => true
  | _ => false

/-- The marks that give values. -/
def assignMarks : List (String × Option Arithmetic) :=
  [("=", none), ("+=", some .add), ("-=", some .subtract), ("*=", some .multiply),
    ("/=", some .divide), ("%=", some .remainder), ("^=", some .power)]

/-- The marks with two sides, with their levels and what they make. -/
def operators : List (String × Nat × (Expr → Expr → Expr)) :=
  [("||", 2, .either), ("&&", 3, .both), ("~", 5, .matching false), ("!~", 5, .matching true),
    ("<", 6, .compare .less), ("<=", 6, .compare .atMost), ("==", 6, .compare .same),
    ("!=", 6, .compare .different), (">=", 6, .compare .atLeast), (">", 6, .compare .greater)]

/-- The marks of sums. -/
def sums : List (String × Arithmetic) :=
  [("+", .add), ("-", .subtract)]

/-- The marks of products. -/
def products : List (String × Arithmetic) :=
  [("*", .multiply), ("/", .divide), ("%", .remainder)]

/-- The mark that is the next token, if it is in a table. -/
def markIn {α : Type} (table : List (String × α)) : Reads (Option α) := do
  match ← peek with
  | .mark m => return table.lookup m
  | _ => return none

/-- Whether a token starts an operand. -/
def Token.startsOperand : Token → Bool
  | number .. | text _ | regex _ | name _ | call _ | known _ => true
  | keyword w => w = "getline"
  | mark m => ["(", "$", "!", "++", "--"].contains m
  | newline | finish | faulty _ => false

/-- How far a mark counts. -/
def counting : List (String × Float) :=
  [("++", 1), ("--", -1)]

/-- The regular expression of a text. -/
def regexOf (text : Bytes) : Except String Regex :=
  let style : RegexStyle :=
    { extended := true, strict := true, escapes := true, lenient := true }
  match Regex.ofText style text with
  | .ok (r, _) => .ok r
  | .error .openGroup => .error "missing ')'"
  | .error .badRepetition => .error "missing operand"
  | .error .badCount | .error .greatCount => .error "bad interval expression"
  | .error .openBracket | .error .badClass | .error .bareClass =>
    .error "bad class -- [], [^] or ["
  | .error fault => .error fault.message

/-! ### Expressions -/

mutual

/-- Reads an expression whose operators have at least some level. -/
def expr : (bound : Nat) → (least : Nat) → Reads Expr
  | 0, _ => refuse
  | bound + 1, least => do
    let left ← operand bound
    climb bound least left

/-- Reads the operators behind an operand. -/
def climb : (bound : Nat) → (least : Nat) → Expr → Reads Expr
  | 0, _, _ => refuse
  | bound + 1, least, left => do
    let token ← peek
    if token == .keyword "in" ∧ least ≤ 4 then
      advance
      let array ← someName
      let keys := match left with
        | .several es => es
        | e => [e]
      climb bound least (.isKey keys array)
    else if token == .mark "?" ∧ least ≤ 1 then
      advance
      let yes ← expr bound 1
      demand ":"
      let no ← expr bound 1
      return .choice left yes no
    else if token == .mark ">" ∧ (← get).printing then return left
    else
      match ← markIn operators with
      | none => return left
      | some (level, make) =>
        if level < least then return left
        else
          advance
          let right ← expr bound (level + 1)
          climb bound least (make left right)

/-- Reads something between operators with two sides: what is joined, or what gives a value. -/
def operand : (bound : Nat) → Reads Expr
  | 0 => refuse
  | bound + 1 => do
    let left ← sum bound
    match ← markIn (if left.isPlace then assignMarks else []) with
    | some op =>
      advance
      return .assign op left (← expr bound 1)
    | none => joined bound left

/-- Reads what is joined to an operand. -/
def joined : (bound : Nat) → Expr → Reads Expr
  | 0, _ => refuse
  | bound + 1, left => do
    if !(← peek).startsOperand then return left
    else joined bound (.join left (← sum bound))

/-- Reads a sum. -/
def sum : (bound : Nat) → Reads Expr
  | 0 => refuse
  | bound + 1 => do
    let first ← product bound
    sumFrom bound first

/-- Reads the rest of a sum. -/
def sumFrom : (bound : Nat) → Expr → Reads Expr
  | 0, _ => refuse
  | bound + 1, left => do
    match ← markIn sums with
    | none => return left
    | some op =>
      advance
      sumFrom bound (.arithmetic op left (← product bound))

/-- Reads a product. -/
def product : (bound : Nat) → Reads Expr
  | 0 => refuse
  | bound + 1 => do
    let first ← signed bound
    productFrom bound first

/-- Reads the rest of a product. -/
def productFrom : (bound : Nat) → Expr → Reads Expr
  | 0, _ => refuse
  | bound + 1, left => do
    match ← markIn products with
    | none => return left
    | some op =>
      advance
      productFrom bound (.arithmetic op left (← signed bound))

/-- Reads a power or the output of a command, with signs in front of it. -/
def signed : (bound : Nat) → Reads Expr
  | 0 => refuse
  | bound + 1 => do
    if ← takes "!" then return .opposite (← signed bound)
    else if ← takes "-" then return .negative (← signed bound)
    else if ← takes "+" then return .numeric (← signed bound)
    else
      let base ← power bound
      piped bound base

/-- Reads what takes the output of a command. -/
def piped : (bound : Nat) → Expr → Reads Expr
  | 0, _ => refuse
  | bound + 1, left => do
    match (← get).rest with
    | (.mark "|", _) :: (.keyword "getline", _) :: _ =>
      advance
      advance
      let target ← place bound
      piped bound (.read (.command left) target)
    | _ => return left

/-- Reads a power. -/
def power : (bound : Nat) → Reads Expr
  | 0 => refuse
  | bound + 1 => do
    let base ← counted bound
    if ← takes "^" then return .arithmetic .power base (← signed bound)
    else return base

/-- Reads an operand that may be counted up or down. -/
def counted : (bound : Nat) → Reads Expr
  | 0 => refuse
  | bound + 1 => do
    match ← markIn counting with
    | some step =>
      advance
      let target ← primary bound
      if target.isPlace then return .count true step target else refuse
    | none =>
      let e ← primary bound
      match ← markIn (if e.isPlace then counting else []) with
      | some step =>
        advance
        return .count false step e
      | none => return e

/-- Reads what can have a value given to it, if it is there. -/
def place : (bound : Nat) → Reads (Option Expr)
  | 0 => refuse
  | bound + 1 => do
    match ← peek with
    | .name _ | .mark "$" => return some (← primary bound)
    | _ => return none

/-- Reads an operand without any signs. -/
def primary : (bound : Nat) → Reads Expr
  | 0 => refuse
  | bound + 1 => do
    let line ← currentLine
    match ← peek with
    | .number x _ =>
      advance
      return .number x
    | .text bytes =>
      advance
      return .text bytes
    | .regex bytes =>
      advance
      match regexOf bytes with
      | .ok r => return .regex r
      | .error why => throw (.badRegex line why bytes)
    | .name name =>
      advance
      let found ← nameOf name
      if ← takes "[" then return .element found (← inside "]" (list bound))
      else return .name found
    | .call name =>
      advance
      advance
      let args ← inside ")" (args bound false)
      modify fun r => { r with calls := r.calls ++ [(name, args.length, line)] }
      return .callDefined name args
    | .known name =>
      advance
      match Known.all.lookup name with
      | none => refuse
      | some (function, least, most) =>
        if (← peek) != .mark "(" ∧ function = Known.length then return .call function []
        else
          demand "("
          let args ← inside ")" (args bound (function = .length))
          if args.length < least ∨ most < args.length then throw (.wrongNumber line name)
          else return .call function args
    | .keyword "getline" =>
      advance
      let target ← place bound
      if ← takes "<" then return .read (.file (← power bound)) target
      else return .read .input target
    | .mark "$" =>
      advance
      let isSigned := match ← peek with
        | .mark m => ["-", "+", "!", "++", "--"].contains m
        | _ => false
      return .field (← if isSigned then signed bound else primary bound)
    | .mark "(" =>
      advance
      match ← inside ")" (list bound) with
      | [e] => return .grouped e
      | es =>
        let ends := match ← peek with
          | .newline | .finish => true
          | .mark m => [";", "\x7d", ">", ">>", "|"].contains m
          | _ => false
        if (← peek) == .keyword "in" || ((← get).printing && ends) then return .several es
        else refuse
    | _ => refuse

/-- Reads expressions with commas between them. -/
def list : (bound : Nat) → Reads (List Expr)
  | 0 => refuse
  | bound + 1 => do
    let first ← expr bound 1
    if ← takes "," then return first :: (← list bound)
    else return [first]

/-- Reads the arguments of a function, of which there may be none. There may be `one` at most. -/
def args : (bound : Nat) → (one : Bool) → Reads (List Expr)
  | 0, _ => refuse
  | bound + 1, one => do
    if (← peek) == .mark ")" then return []
    else if one then return [← expr bound 1]
    else list bound

end

/-! ### Statements -/

/-- The bound for what is left to be read. -/
def bound : Reads Nat := do
  return 20 * (← get).rest.length + 20

/-- Reads an expression. -/
def wholeExpr : Reads Expr := do
  expr (← bound) 1

/-- Takes what ends a statement. The end of a block does, too. -/
def endStatement : Reads Unit := do
  match ← peek with
  | .newline | .mark ";" => advance
  | .mark "\x7d" => return
  | _ => refuse

/-- Whether a statement ends at the next token. -/
def atEnd : Reads Bool := do
  return match ← peek with
    | .newline | .mark ";" | .mark "\x7d" => true
    | _ => false

/-- Reads an expression in parentheses. -/
def condition : Reads Expr := do
  demand "("
  let e ← inside ")" wholeExpr
  return e

/-- Reads where something is printed. -/
def outlet : Reads (Option (Outlet × Expr)) := do
  let found ← markIn [(">", Outlet.replacing), (">>", Outlet.appending), ("|", Outlet.command)]
  modify fun r => { r with printing := false }
  match found with
  | none => return none
  | some kind =>
    advance
    return some (kind, ← wholeExpr)

/-- Reads what is printed, and where. -/
def printed : Reads (List Expr × Option (Outlet × Expr)) := do
  modify fun r => { r with printing := true }
  let starts := match ← peek with
    | .mark m => ["(", "$", "!", "-", "+", "++", "--"].contains m
    | token => token.startsOperand
  let args ←
    if starts then do
      match ← list (← bound) with
      | [.several es] => pure es
      | es => pure es
    else pure []
  let target ← outlet
  endStatement
  return (args, target)

/-- Reads an expression up to the end of a statement, if it is there. -/
def ending : Reads (Option Expr) := do
  let e ← if ← atEnd then pure none else some <$> wholeExpr
  endStatement
  return e

/-- Fails if a statement has no meaning where it stands. -/
def meant (fits : Reading → Bool) (what : String) (line : Nat) : Reads Unit := do
  if !fits (← get) then throw (.misplaced line what)

/-- Does what reads the body of a loop. -/
def inLoop {α : Type} (read : Reads α) : Reads α := do
  modify fun r => { r with loops := r.loops + 1 }
  let found ← read
  modify fun r => { r with loops := r.loops - 1 }
  return found

mutual

/-- Reads a statement. -/
def statement : (bound : Nat) → Reads Statement
  | 0 => refuse
  | depth + 1 => do
    let line ← currentLine
    match ← peek with
    | .mark "\x7b" =>
      let body ← block depth
      skipNewlines
      return body
    | .mark ";" =>
      advance
      return .block []
    | .newline =>
      advance
      return .block []
    | .keyword word =>
      match word with
      | "if" =>
        advance
        let test ← condition
        skipNewlines
        let yes ← statement depth
        if (← peek) == .keyword "else" then
          advance
          return .branch test yes (← statement depth)
        else return .branch test yes (.block [])
      | "while" =>
        advance
        let test ← condition
        if ← takes ";" then return .loop (some test) (.block []) (.block [])
        else
          skipNewlines
          return .loop (some test) (← inLoop (statement depth)) (.block [])
      | "do" =>
        advance
        let body ← inLoop (statement depth)
        if (← peek) == .keyword "while" then
          advance
          let test ← condition
          endStatement
          return .loopOnce body test
        else refuse
      | "for" =>
        advance
        match (← get).rest with
        | (.mark "(", _) :: (.name key, _) :: (.keyword "in", _) :: (.name array, _) ::
            (.mark ")", _) :: _ =>
          modify fun r => { r with rest := r.rest.drop 5 }
          skipNewlines
          return .each (← nameOf key) (← nameOf array) (← inLoop (statement depth))
        | _ =>
          demand "("
          let (first, test, after) ← inside ")" do
            let first ← part ";"
            let test ← part ";"
            let after ← part ")"
            return (first, test, after)
          let asStatement (e : Option Expr) : Statement := e.elim (.block []) .value
          if ← takes ";" then
            return .block [asStatement first, .loop test (.block []) (asStatement after)]
          else
            skipNewlines
            let body ← inLoop (statement depth)
            return .block [asStatement first, .loop test body (asStatement after)]
      | "print" =>
        advance
        let (args, target) ← printed
        return .print args target
      | "printf" =>
        advance
        let (args, target) ← printed
        if args.isEmpty then throw (.misplaced line "no arguments in call to printf")
        else return .printFormat args target
      | "break" =>
        advance
        meant (0 < ·.loops) "break statement outside of loop" line
        endStatement
        return .leaveLoop
      | "continue" =>
        advance
        meant (0 < ·.loops) "continue statement outside of loop" line
        endStatement
        return .nextTurn
      | "next" =>
        advance
        meant (·.onRecords) "improper use of next" line
        endStatement
        return .nextRecord
      | "nextfile" =>
        advance
        meant (·.onRecords) "improper use of nextfile" line
        endStatement
        return .nextFile
      | "exit" =>
        advance
        return .exit (← ending)
      | "return" =>
        advance
        meant (·.params.isSome) "return outside function body" line
        return .answer (← ending)
      | "delete" =>
        advance
        let array ← someName
        let keys ← if ← takes "[" then some <$> inside "]" (do list (← bound)) else pure none
        endStatement
        return .delete array keys
      | _ => plain
    | _ => plain
where
  /-- Reads a statement that is an expression. -/
  plain : Reads Statement := do
    let e ← wholeExpr
    endStatement
    return .value e
  /-- Reads one of the parts of the head of a loop, which may be empty. -/
  part (closing : String) : Reads (Option Expr) := do
    let e ← if (← peek) == .mark closing then pure none else some <$> wholeExpr
    if closing = ";" then demand ";"
    return e

/-- Reads a block. -/
def block : (bound : Nat) → Reads Statement
  | 0 => refuse
  | depth + 1 => do
    demand "\x7b"
    modify fun r => { r with blocks := r.blocks + 1 }
    let body ← statements depth
    demand "\x7d"
    modify fun r => { r with blocks := r.blocks - 1 }
    return .block body

/-- Reads the statements of a block. -/
def statements : (bound : Nat) → Reads (List Statement)
  | 0 => refuse
  | depth + 1 => do
    if (← peek) == .mark "\x7d" then return []
    else
      let first ← statement depth
      return first :: (← statements depth)

end

/-! ### Programs -/

/-- Reads the action of a rule. -/
def action (onRecords : Bool) : Reads Statement := do
  modify fun r => { r with onRecords }
  block (← bound)

/-- Reads the parameters of a function. -/
def parameters : (bound : Nat) → List String → Reads (List String)
  | 0, _ => refuse
  | depth + 1, before => do
    match ← peek with
    | .name name =>
      if before.contains name then throw (.doubled (← currentLine) name)
      advance
      if ← takes "," then parameters depth (before ++ [name]) else return before ++ [name]
    | _ => refuse

/-- Reads a function behind its keyword. -/
def definition : Reads (String × Definition) := do
  let name ← match ← peek with
    | .name name | .call name =>
      advance
      pure name
    | _ => refuse
  demand "("
  let params ← inside ")" do
    if (← peek) == .mark ")" then return [] else parameters (← bound) []
  skipNewlines
  modify fun r => { r with params := some params }
  let body ← action false
  modify fun r => { r with params := none }
  return (name, { arity := params.length, body })

/-- Reads a rule. -/
def rule : Reads Rule := do
  match ← peek with
  | .keyword "BEGIN" =>
    advance
    return ⟨.first, ← action false⟩
  | .keyword "END" =>
    advance
    return ⟨.last, ← action false⟩
  | .mark "\x7b" => return ⟨.always, ← action true⟩
  | _ =>
    let start ← wholeExpr
    let pattern ← if ← takes "," then Pattern.between start <$> wholeExpr else pure (.on start)
    match ← peek with
    | .mark "\x7b" => return ⟨pattern, ← action true⟩
    | .newline | .mark ";" =>
      advance
      return ⟨pattern, .print [] none⟩
    | _ => refuse

/-- Reads the rules and functions of a program, at most `bound` of them. -/
def items : (bound : Nat) → Program → Reads Program
  | 0, program => return program
  | depth + 1, program => do
    skipNewlines
    match ← peek with
    | .finish => return program
    | .mark "\x7d" => throw (.excess '\x7d' (← currentLine))
    | .keyword "function" =>
      advance
      let found ← definition
      afterBlock
      items depth { program with functions := program.functions ++ [found] }
    | _ =>
      let found ← rule
      afterBlock
      items depth { program with rules := program.rules ++ [found] }
where
  /-- Takes the semicolon that may stand behind a block. -/
  afterBlock : Reads Unit := do
    if ← takes ";" then skipNewlines

/-- What is wrong with the calls of the functions of a program. -/
def Program.callFault? (program : Program) (line : Nat) (calls : List (String × Nat × Nat)) :
    Option Fault :=
  calls.findSome? fun (name, count, callLine) =>
    match program.functions.lookup name with
    | none => some (.undefined line name)
    | some definition =>
      if definition.arity < count then some (.tooMany callLine name) else none

/-- The program that a text is. -/
def Program.ofText (text : Bytes) : Except Fault Program := do
  let text := text ++ [newline]
  let found := tokens (text.length + 2) 1 .newline text
  let empty : Program := { rules := [], functions := [] }
  let (program, r) ← (items (found.length + 1) empty).run { rest := found }
  let line := (found.getLast?.map (·.2)).getD 1
  match program.callFault? line r.calls with
  | some fault => throw fault
  | none => return program

end Workbench.Shell.Records
