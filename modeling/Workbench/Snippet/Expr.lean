import Workbench.Bindings
import Workbench.Json.Printer
import Workbench.Text.Blank

/-!
# Expressions of the snippet language

An expression is a whole number, a quoted string, a name, or a sum `a + b`. It is split at the last
plus sign outside quotes, so sums associate to the left; the quotes only matter for where the plus
signs are, and an atom is judged by its text as it stands.

The doc of `eval` says which value a text has; `EvalError` lists why it may have none.
-/

namespace Workbench.Snippet

/-- Why an expression has no value. -/
inductive EvalError where
  /-- The sum of two whole numbers does not fit 64 signed bits. -/
  | overflow
  /-- The sum of values that cannot be added. -/
  | cannotAdd (lhs rhs : Json)
  /-- A name that is not bound. -/
  | undefined (name : String)
  /-- A text that is no expression. -/
  | invalid (expr : String)
  deriving DecidableEq

/-- The wording of an error. -/
def EvalError.message : EvalError → String
  | overflow => "integer overflow"
  | cannotAdd lhs rhs => s!"cannot add {lhs.text} and {rhs.text}"
  | undefined name => s!"name '{name}' is not defined"
  | invalid expr => s!"invalid expression: {expr}"

/-! ### Atoms -/

/-- Whether a character may start a name. -/
def startsName (c : Char) : Bool :=
  c.isAlpha || c = '_'

/-- Whether a character may go on a name. -/
def continuesName (c : Char) : Bool :=
  c.isAlphanum || c = '_'

/-- Whether a text is a name: ASCII letters, digits and underscores, not starting with a digit. -/
def isName : List Char → Bool
  | [] => false
  | c :: rest => startsName c && rest.all continuesName

/-- The text between two quotes that enclose the whole. -/
def quoted? : List Char → Option (List Char)
  | '"' :: rest => if rest.getLast? = some '"' then some rest.dropLast else none
  | _ => none

/-- The value of an expression without a sum. -/
def evalAtom (bindings : Bindings) (expr : List Char) : Except EvalError Json :=
  let expr := Text.trim expr
  match Text.integer? expr with
  | some n => .ok (.ofInt n)
  | none =>
    match quoted? expr with
    | some text => .ok (.string (String.ofList text))
    | none =>
      if isName expr then
        match bindings.get? (String.ofList expr) with
        | some value => .ok value
        | none => .error (.undefined (String.ofList expr))
      else .error (.invalid (String.ofList expr))

/-! ### Sums -/

/-- A whole number of 64 signed bits. -/
def signed64? : Json.Number → Option Int
  | .whole n => if Text.fitsSigned64 n then some n else none
  | .double _ => none

/-- The sum of two values: of whole numbers if it fits 64 signed bits, or of strings. -/
def add (lhs rhs : Json) : Except EvalError Json :=
  match lhs, rhs with
  | .number a, .number b =>
    match signed64? a, signed64? b with
    | some a, some b =>
      if Text.fitsSigned64 (a + b) then .ok (.ofInt (a + b)) else .error .overflow
    | _, _ => .error (.cannotAdd lhs rhs)
  | .string a, .string b => .ok (.string (a ++ b))
  | _, _ => .error (.cannotAdd lhs rhs)

/-- The texts before and after the last plus sign outside quotes. The flag says whether the text
starts inside quotes. -/
def splitSum? : (inQuotes : Bool) → List Char → Option (List Char × List Char)
  | _, [] => none
  | inQuotes, c :: rest =>
    match splitSum? (if c = '"' then !inQuotes else inQuotes) rest with
    | some (before, after) => some (c :: before, after)
    | none => if c = '+' ∧ inQuotes = false then some ([], rest) else none

theorem length_of_splitSum? {inQuotes : Bool} {s before after : List Char}
    (h : splitSum? inQuotes s = some (before, after)) :
    before.length + after.length + 1 = s.length := by
  induction s generalizing inQuotes before with
  | nil => simp [splitSum?] at h
  | cons c rest ih =>
    simp only [splitSum?] at h
    split at h
    · rename_i heq
      cases h
      have := ih heq
      simp only [List.length_cons]
      omega
    · split at h
      · cases h
        simp
      · cases h

/-- The value of an expression. The left operand of a sum is evaluated first, and its error wins. -/
def eval (bindings : Bindings) (expr : List Char) : Except EvalError Json :=
  match h : splitSum? false expr with
  | some (lhs, rhs) =>
    have := length_of_splitSum? h
    match eval bindings lhs with
    | .error e => .error e
    | .ok x =>
      match eval bindings rhs with
      | .error e => .error e
      | .ok y => add x y
  | none => evalAtom bindings expr
termination_by expr.length

/-- A value as the user sees it: a string as it is, anything else as JSON. -/
def render : Json → String
  | .string s => s
  | x => x.text

end Workbench.Snippet
