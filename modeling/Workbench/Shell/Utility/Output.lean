import Workbench.Shell.Condition
import Workbench.Shell.Format
import Workbench.Shell.Utility.Basic
import Workbench.Shell.Utility.Numbers
import Workbench.Text.Blank

/-!
# Utilities without input

Programs that do their work on their arguments alone: they print, wait, count or compare, and leave
the input to others. Among them are `echo`, `printf`, `basename`, `test` and `sleep`.
-/

namespace Workbench.Shell

/-- A program that does nothing but end with a status. -/
def constant (status : Nat) : Utility :=
  fun call => .done { status, rest := call.input }

/-! ### Printing -/

/-- How arguments are printed. -/
structure EchoStyle where
  /-- The escapes that are replaced, if any are. -/
  escapes : Option Escapes
  /-- Whether a newline follows. -/
  newline : Bool := true
  deriving DecidableEq, Repr

namespace EchoStyle

/-- The style after one letter of an option. -/
def withLetter? (style : EchoStyle) (letter : UInt8) : Option EchoStyle :=
  if letter = 110 then some { style with newline := false }
  else if letter = 101 then some { style with escapes := some { hexadecimal := true } }
  else if letter = 69 then some { style with escapes := none }
  else none

/-- The style that options in front of the arguments ask for, and the other arguments. An option has
the letters `n`, `e` and `E` and no others. -/
def ofOptions (style : EchoStyle) : List Bytes → EchoStyle × List Bytes
  | (45 :: letter :: letters) :: rest =>
    match (letter :: letters).foldlM withLetter? style with
    | some style => style.ofOptions rest
    | none => (style, (45 :: letter :: letters) :: rest)
  | args => (style, args)

/-- The text that arguments are printed as. -/
def print (style : EchoStyle) (args : List Bytes) : Bytes :=
  let (text, cut) := match style.escapes with
    | some escapes => escapes.replace (spaced args)
    | none => (spaced args, false)
  if style.newline && !cut then text ++ [Shell.newline] else text

end EchoStyle

/-- Prints its arguments; options in front say how. -/
def echo : Utility := fun call =>
  let (style, args) := EchoStyle.ofOptions { escapes := none } call.args
  .done (call.put (style.print args))

/-- Prints its arguments with their escapes replaced, as the shell itself does. There is one option,
`-n`. -/
def builtinEcho : Utility := fun call =>
  .done (call.put (match call.args with
    | [45, 110] :: rest => EchoStyle.print { escapes := some {}, newline := false } rest
    | args => EchoStyle.print { escapes := some {} } args))

/-- The effect of writing a format. -/
def Call.printFormat (style : FormatStyle) (brokenStatus : Nat) (call : Call) : Effect :=
  let args := match call.args with
    | [45, 45] :: args => args
    | args => args
  let found := Formatting.ofFormat style (args.headD []) args.tail
  let failures := found.faults.filter fun
    | .excess _ | .behindCharacter _ => false
    | _ => true
  { written :=
      found.faults.map (fun fault =>
        (2, Text.bytesOf s!"{call.called}: {style.message fault}\n")) ++ [(1, found.output)]
    status := if found.isBroken then brokenStatus else if failures = [] then 0 else 1
    rest := call.input }

/-- Prints its arguments as a format says. -/
def printf : Utility := fun call =>
  .done (if call.args = [] then call.failWithHint "missing operand" 1
    else call.printFormat .program 1)

/-- Prints its arguments as a format says, as the shell itself does. -/
def builtinPrintf : Utility := fun call =>
  match call.args with
  | [] | [[45, 45]] => .done (call.fail "usage: printf format [arg ...]" 2)
  | (45 :: b :: _) :: _ =>
    .done (if b = 45 then call.printFormat .builtin 2
      else call.fail s!"Illegal option -{Char.ofNat b.toNat}" 2)
  | _ => .done (call.printFormat .builtin 2)

/-! ### Names of files -/

/-- A text without the slashes it ends with. -/
def withoutTail (s : Bytes) : Bytes :=
  (s.reverse.dropWhile (· = 47)).reverse

/-- The last component of a path. -/
def lastComponent (s : Bytes) : Bytes :=
  if s ≠ [] ∧ withoutTail s = [] then [47]
  else ((withoutTail s).reverse.takeWhile (· ≠ 47)).reverse

/-- Prints the last component of a path, without a given end. -/
def basename : Utility := fun call =>
  match call.args with
  | [] => .done (call.failWithHint "missing operand" 1)
  | [name] => .done (call.put (lastComponent name ++ [newline]))
  | [name, suffix] =>
    let last := lastComponent name
    let cut := last.take (last.length - suffix.length)
    .done (call.put ((if cut ≠ [] ∧ cut ++ suffix = last then cut else last) ++ [newline]))
  | _ :: _ :: extra :: _ =>
    .done (call.failWithHint s!"extra operand {Quoted.text extra}" 1)

/-- The path without its last component. -/
def withoutLast (s : Bytes) : Bytes :=
  let body := withoutTail s
  if body = [] then if s = [] then [46] else [47]
  else if !body.contains 47 then [46]
  else
    let above := withoutTail ((body.reverse.dropWhile (· ≠ 47)).reverse)
    if above = [] then [47] else above

/-- Prints paths without their last components. -/
def dirname : Utility := fun call =>
  .done (if call.args = [] then call.failWithHint "missing operand" 1
    else call.put (unlines (call.args.map withoutLast)))

/-! ### Conditions -/

/-- Ends with the answer to a condition, or with a message about its fault. -/
def Call.decide (wording : Condition.Fault → String) (found : Except Condition.Fault Condition)
    (call : Call) : DiskTask Effect :=
  let broken (fault : Condition.Fault) : Effect := call.fail (wording fault) 2
  match found with
  | .error fault => .done (broken fault)
  | .ok condition => do
    match ← condition.answer call.path with
    | .ok holds => return { status := if holds then 0 else 1, rest := call.input }
    | .error fault => return broken fault

/-- Answers the condition in its arguments. -/
def test : Utility := fun call =>
  let ts := call.args.map Text.lossyText
  call.decide (Condition.Fault.report ts) (Condition.ofTexts ts)

/-- Answers the condition in its arguments, of which the last one is a bracket. -/
def brackets : Utility := fun call =>
  let ts := call.args.map Text.lossyText
  call.decide (Condition.Fault.report ts.dropLast) (Condition.ofBrackets true ts)

/-- Answers the condition in its arguments, as the shell itself does. -/
def builtinTest : Utility := fun call =>
  call.decide Condition.Fault.message (Condition.ofTexts (call.args.map Text.lossyText))

/-- Answers the condition in brackets, as the shell itself does. -/
def builtinBrackets : Utility := fun call =>
  call.decide Condition.Fault.message
    (Condition.ofBrackets false (call.args.map Text.lossyText))

/-! ### Time -/

/-- How many milliseconds the units of time have. -/
def timeUnits : List (Char × Nat) :=
  [('s', 1000), ('m', 60000), ('h', 3600000), ('d', 86400000)]

/-- A duration in milliseconds: a decimal number of seconds or of another unit. -/
def duration? (text : Bytes) : Option Nat :=
  match Decimal.at? (Text.lossyText text).toList with
  | some (d, rest) =>
    let unit := match rest with
      | [] => some 1000
      | [c] => timeUnits.lookup c
      | _ => none
    if d.negative then none else unit.map fun ms => d.coefficient * ms / Nat.pow 10 d.places
  | none => none

/-- Whether a text stands for time without end. -/
def isForever (text : Bytes) : Bool :=
  [Text.bytesOf "infinity", Text.bytesOf "inf"].contains text

/-- Waits as long as its arguments say. -/
def sleep : Utility := fun call =>
  match call.args.head?, call.args.filter fun arg => (duration? arg).isNone && !isForever arg with
  | none, _ => .done (call.failWithHint "missing operand" 1)
  | some (45 :: b :: _), _ =>
    .done (call.failWithHint s!"invalid option -- '{Text.lossyText [b]}'" 1)
  | _, [] => .done {
      time := (call.args.filterMap duration?).foldl (· + ·) 0
      endless := call.args.any isForever
      rest := call.input }
  | _, bad =>
    let line (arg : Bytes) : String :=
      s!"{call.called}: invalid time interval {Quoted.text arg}\n"
    let hint := s!"Try '{call.called} --help' for more information.\n"
    .done {
      written := [(2, Text.bytesOf (String.join (bad.map line ++ [hint])))]
      status := 1
      rest := call.input }

end Workbench.Shell
