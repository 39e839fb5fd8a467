import Workbench.Shell.Numeral

/-!
# Arithmetic expressions of scripts

Expressions of `sh` over whole numbers of 64 bits, whose operations wrap around. A text is cut into
tokens, the tokens are read as an expression, and the expression is evaluated over variables that it
can read and set. Division by zero is a fault; the parts that a condition leaves out are not
evaluated.
-/

namespace Workbench.Shell.Arithmetic

/-! ### Expressions -/

/-- An operation on two numbers. -/
inductive Operation where
  | times
  | divide
  | remainder
  | plus
  | minus
  | shiftLeft
  | shiftRight
  | less
  | lessEqual
  | greater
  | greaterEqual
  | equal
  | unequal
  | bitAnd
  | bitXor
  | bitOr
  deriving DecidableEq, Repr

/-- An expression. -/
inductive Expr where
  | number (value : Int64)
  | name (name : String)
  | negative (e : Expr)
  /-- `!`: one for zero, and zero for all else. -/
  | isZero (e : Expr)
  /-- `~`: all bits turned over. -/
  | complement (e : Expr)
  | binary (op : Operation) (a b : Expr)
  | both (a b : Expr)
  | either (a b : Expr)
  | choice (condition yes no : Expr)
  /-- A variable is set, to the value itself or to what an operation makes of its value. -/
  | assign (name : String) (op : Option Operation) (e : Expr)
  deriving DecidableEq, Repr

/-- Why a text has no value. -/
inductive Fault where
  /-- Something else has to stand at some place. -/
  | expecting (wanted : String)
  | divisionByZero
  /-- The value of a variable is no number. -/
  | noNumber (text : String)
  | readOnly (name : String)
  deriving DecidableEq, Repr

/-- The wording of a fault in an expression. -/
def Fault.message (source : String) : Fault → String
  | expecting wanted => s!"arithmetic expression: expecting {wanted}: \"{source}\""
  | divisionByZero => s!"arithmetic expression: division by zero: \"{source}\""
  | noNumber text => s!"Illegal number: {text}"
  | readOnly name => s!"{name}: is read only"

/-! ### Numbers -/

/-- A number, or the nearest one that has 64 bits. -/
def clamped (n : Int) : Int64 :=
  if n < -(Text.bound63 : Int) then Int64.minValue
  else if (Text.bound63 : Int) ≤ n then Int64.maxValue
  else Int64.ofInt n

/-- The number that the value of a variable stands for: a numeral with an optional sign and blanks
around it. No text at all is zero. -/
def ofValue? (s : List Char) : Option Int64 :=
  match integerAt? s with
  | some (n, rest) =>
    if rest.all isSpace ∧ Text.fitsSigned64 n then some (Int64.ofInt n) else none
  | none => if s.all isSpace then some 0 else none

/-- A number in decimal. -/
def digits (value : Int64) : List Char :=
  Text.integerDigits value.toInt

/-! ### Tokens -/

/-- A token. -/
inductive Token where
  | number (value : Int64)
  | name (name : String)
  | symbol (text : String)
  deriving DecidableEq, Repr

/-- The symbols of more than one character; of two that start alike the longer one comes first. -/
def longSymbols : List String :=
  ["<<=", ">>=", "<<", ">>", "<=", ">=", "==", "!=", "&&", "||", "*=", "/=", "%=", "+=", "-=", "&=",
    "^=", "|="]

/-- The symbol a text starts with. Any character is one. -/
def symbolOf (c : Char) (rest : List Char) : String :=
  (longSymbols.find? fun symbol => symbol.toList.isPrefixOf (c :: rest)).getD (String.singleton c)

/-- The tokens of a text, of which at most `bound` are read. -/
def tokens : (bound : Nat) → List Char → List Token
  | 0, _ => []
  | _, [] => []
  | bound + 1, c :: rest =>
    if isSpace c then tokens bound rest
    else if c.isDigit then
      let (n, width) := numeral (c :: rest)
      .number (clamped n) :: tokens bound ((c :: rest).drop width)
    else if c.isAlpha || c = '_' then
      let isNameChar (c : Char) := c.isAlphanum || c = '_'
      .name (String.ofList (c :: rest.takeWhile isNameChar)) ::
        tokens bound (rest.dropWhile isNameChar)
    else
      let symbol := symbolOf c rest
      .symbol symbol :: tokens bound ((c :: rest).drop symbol.length)

/-- The operations by their symbols, and how loosely they bind. -/
def operations : List (String × Operation × Nat) :=
  [("*", .times, 0), ("/", .divide, 0), ("%", .remainder, 0), ("+", .plus, 1), ("-", .minus, 1),
    ("<<", .shiftLeft, 2), (">>", .shiftRight, 2), ("<", .less, 3), ("<=", .lessEqual, 3),
    (">", .greater, 3), (">=", .greaterEqual, 3), ("==", .equal, 4), ("!=", .unequal, 4),
    ("&", .bitAnd, 5), ("^", .bitXor, 6), ("|", .bitOr, 7)]

/-- The operation of a symbol and how loosely it binds. -/
def operation? : Token → Option (Operation × Nat)
  | .symbol text => operations.lookup text
  | _ => none

/-- How loosely the operations bind at most. -/
def loosest : Nat :=
  7

/-- What a symbol assigns: the value itself, or what an operation makes of it. -/
def assigning? (symbol : String) : Option (Option Operation) :=
  if symbol = "=" then some none
  else
    let updates := ["*=", "/=", "%=", "+=", "-=", "<<=", ">>=", "&=", "^=", "|="]
    if updates.contains symbol then
      (operation? (.symbol (String.ofList symbol.toList.dropLast))).map fun op => some op.1
    else none

/-! ### Reading -/

/-- What comes of reading an expression: it and the tokens behind it. -/
abbrev Parsed : Type :=
  Except Fault (Expr × List Token)

mutual

/-- An assignment, or a condition. -/
def assignment : (bound : Nat) → List Token → Parsed
  | 0, _ => .error (.expecting "primary")
  | bound + 1, .name name :: .symbol symbol :: rest =>
    match assigning? symbol with
    | some op => do
      let (e, rest) ← assignment bound rest
      return (.assign name op e, rest)
    | none => condition bound (.name name :: .symbol symbol :: rest)
  | bound + 1, ts => condition bound ts

/-- A choice between two expressions, or what is chosen by. -/
def condition : (bound : Nat) → List Token → Parsed
  | 0, _ => .error (.expecting "primary")
  | bound + 1, ts => do
    let (c, rest) ← disjunction bound ts
    match rest with
    | .symbol "?" :: rest =>
      let (yes, rest) ← assignment bound rest
      match rest with
      | .symbol ":" :: rest =>
        let (no, rest) ← condition bound rest
        return (.choice c yes no, rest)
      | _ => .error (.expecting "':'")
    | _ => return (c, rest)

/-- Expressions of which one must not be zero. -/
def disjunction : (bound : Nat) → List Token → Parsed
  | 0, _ => .error (.expecting "primary")
  | bound + 1, ts => do
    let (a, rest) ← conjunction bound ts
    match rest with
    | .symbol "||" :: rest =>
      let (b, rest) ← disjunction bound rest
      return (.either a b, rest)
    | _ => return (a, rest)

/-- Expressions of which none must be zero. -/
def conjunction : (bound : Nat) → List Token → Parsed
  | 0, _ => .error (.expecting "primary")
  | bound + 1, ts => do
    let (a, rest) ← operand bound ts
    let (a, rest) ← operationsOn bound loosest a rest
    match rest with
    | .symbol "&&" :: rest =>
      let (b, rest) ← conjunction bound rest
      return (.both a b, rest)
    | _ => return (a, rest)

/-- The operations on `a` that bind no looser than `level`. -/
def operationsOn : (bound : Nat) → (level : Nat) → (a : Expr) → List Token → Parsed
  | 0, _, _, _ => .error (.expecting "primary")
  | bound + 1, level, a, ts =>
    match ts.head?.bind operation? with
    | some (op, own) =>
      if own ≤ level then do
        let (b, rest) ← operand bound ts.tail
        let (b, rest) ← if own = 0 then pure (b, rest) else operationsOn bound (own - 1) b rest
        operationsOn bound level (.binary op a b) rest
      else .ok (a, ts)
    | none => .ok (a, ts)

/-- A number, a variable, or an expression in parentheses, with signs in front of it. -/
def operand : (bound : Nat) → List Token → Parsed
  | 0, _ => .error (.expecting "primary")
  | bound + 1, ts => do
    match ts with
    | .number n :: rest => return (.number n, rest)
    | .name name :: rest => return (.name name, rest)
    | .symbol "+" :: rest => operand bound rest
    | .symbol "-" :: rest =>
      let (e, rest) ← operand bound rest
      return (.negative e, rest)
    | .symbol "!" :: rest =>
      let (e, rest) ← operand bound rest
      return (.isZero e, rest)
    | .symbol "~" :: rest =>
      let (e, rest) ← operand bound rest
      return (.complement e, rest)
    | .symbol "(" :: rest =>
      let (e, rest) ← assignment bound rest
      match rest with
      | .symbol ")" :: rest => return (e, rest)
      | _ => .error (.expecting "')'")
    | _ => .error (.expecting "primary")

end

/-- The expression that a text stands for. -/
def Expr.ofText (s : List Char) : Except Fault Expr := do
  let ts := tokens s.length s
  let (e, rest) ← assignment (10 * ts.length + 10) ts
  if rest = [] then return e else .error (.expecting "EOF")

/-! ### Evaluation -/

/-- One for true and zero for false. -/
def truth (b : Bool) : Int64 :=
  if b then 1 else 0

/-- The value of an operation. -/
def Operation.apply (a b : Int64) : Operation → Except Fault Int64
  | times => .ok (a * b)
  | divide => if b = 0 then .error .divisionByZero else .ok (a / b)
  | remainder => if b = 0 then .error .divisionByZero else .ok (a % b)
  | plus => .ok (a + b)
  | minus => .ok (a - b)
  | shiftLeft => .ok (a <<< b)
  | shiftRight => .ok (a >>> b)
  | less => .ok (truth (a < b))
  | lessEqual => .ok (truth (a ≤ b))
  | greater => .ok (truth (b < a))
  | greaterEqual => .ok (truth (b ≤ a))
  | equal => .ok (truth (a = b))
  | unequal => .ok (truth (a ≠ b))
  | bitAnd => .ok (a &&& b)
  | bitXor => .ok (a ^^^ b)
  | bitOr => .ok (a ||| b)

/-- How an expression reads and sets the variables of a store. -/
structure Store (σ : Type) where
  read : String → σ → Except Fault Int64
  write : String → Int64 → σ → Except Fault σ

/-- The value of an expression, and the variables it leaves. -/
def Expr.eval {σ : Type} (store : Store σ) : Expr → σ → Except Fault (Int64 × σ)
  | number n, s => .ok (n, s)
  | name x, s => do return (← store.read x s, s)
  | negative e, s => do
    let (n, s) ← e.eval store s
    return (-n, s)
  | isZero e, s => do
    let (n, s) ← e.eval store s
    return (truth (n = 0), s)
  | complement e, s => do
    let (n, s) ← e.eval store s
    return (~~~n, s)
  | binary op a b, s => do
    let (m, s) ← a.eval store s
    let (n, s) ← b.eval store s
    return (← op.apply m n, s)
  | both a b, s => do
    let (m, s) ← a.eval store s
    if m = 0 then return (0, s)
    else
      let (n, s) ← b.eval store s
      return (truth (n ≠ 0), s)
  | either a b, s => do
    let (m, s) ← a.eval store s
    if m ≠ 0 then return (1, s)
    else
      let (n, s) ← b.eval store s
      return (truth (n ≠ 0), s)
  | choice c yes no, s => do
    let (m, s) ← c.eval store s
    if m ≠ 0 then yes.eval store s else no.eval store s
  | assign x none e, s => do
    let (n, s) ← e.eval store s
    return (n, ← store.write x n s)
  | assign x (some op) e, s => do
    let (n, s) ← e.eval store s
    let value ← op.apply (← store.read x s) n
    return (value, ← store.write x value s)

end Workbench.Shell.Arithmetic
