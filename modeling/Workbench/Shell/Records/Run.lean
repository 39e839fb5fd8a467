import Workbench.Shell.Records.State

/-!
# Running programs on records

As `awk` runs a program, expressions have values and statements change the state. Both have a bound
on how deep they nest, functions that call themselves included, and loops have a bound on their
turns; a program that exhausts a bound is one that does not come to its end.
-/

namespace Workbench.Shell.Records

/-! ### Writing formats -/

/-- Why a format cannot be written. -/
inductive FormatError where
  | tooFew
  /-- The directive with a number is none. -/
  | improper (number : Nat)
  deriving DecidableEq, Repr

/-- The number that an extent stands for, and the arguments that it leaves; nothing if it needs one
more argument. -/
def extentOf (args : List Cell) : Option Extent → Option (Option Int × List Cell)
  | none => some (none, args)
  | some (.given n) => some (some n, args)
  | some .argument =>
    match args with
    | [] => none
    | arg :: args => some (some (truncatedWithin (-65536) 65536 arg.toNumber), args)

/-- An argument as the letter of a directive writes it. -/
def writeCell (conversion : Bytes) (flags : List Char) (width : Nat) (digits : Option Nat)
    (letter : Char) (cell : Cell) : Bytes :=
  let inWidth (text : Bytes) : Bytes :=
    let padding := List.replicate (width - text.length) 32
    if flags.contains '-' then text ++ padding else padding ++ text
  match letter with
  | 's' =>
    let text := cell.toText conversion
    inWidth (text.take (digits.getD text.length))
  | 'c' =>
    match cell with
    | .number x | .likeNumber _ x =>
      inWidth [((truncatedWithin (-Text.bound63) Text.bound63 x) % 256).toNat.toUInt8]
    | cell => inWidth [(cell.toText conversion).headD 0]
  | _ => writeNumber flags width digits letter cell.toNumber

/-- Arguments as directives write them, up to a directive that cannot be written; `number` is the
number of the next directive that takes an argument. -/
def writeDirectives (conversion : Bytes) : (number : Nat) → List Cell → List Directive →
    Bytes × Option FormatError
  | _, _, [] => ([], none)
  | number, args, directive :: rest =>
    match directive with
    | .text bytes =>
      let (text, error) := writeDirectives conversion number args rest
      (bytes ++ text, error)
    | .stop => ([], none)
    | .bad _ => ([], some (.improper number))
    | .write flags width digits letter =>
      match extentOf args width with
      | none => ([], some .tooFew)
      | some (width, args) =>
        match extentOf args digits with
        | none | some (_, []) => ([], some .tooFew)
        | some (digits, arg :: args) =>
          let flags := if width.any (· < 0) then '-' :: flags else flags
          let digits := (digits.filter (0 ≤ ·)).map Int.toNat
          let bytes := writeCell conversion flags (width.getD 0).natAbs digits letter arg
          let (text, error) := writeDirectives conversion (number + 1) args rest
          (bytes ++ text, error)

/-- What is said of a format that cannot be written by a function. -/
def FormatError.message (function : String) (format : Bytes) (error : FormatError) : Bytes :=
  let shown := Text.bytesOf s!"{function}(\"" ++ format ++ Text.bytesOf "\")"
  match error with
  | tooFew => Text.bytesOf "not enough arguments passed to " ++ shown
  | improper number => Text.bytesOf s!"improper conversion(number {number}) in " ++ shown

/-! ### Known functions -/

/-- A part of a text, of which the first byte has the number one. A start in front of the text makes
the part longer. -/
def substring (text : Bytes) (start : Float) (length : Option Float) : Bytes :=
  let start := truncatedWithin (-Text.bound63) Text.bound63 start
  match length with
  | none => text.drop (start - 1).toNat
  | some length =>
    let length := truncatedWithin (-Text.bound63) Text.bound63 length
    let extra := if start < 0 then -start else 0
    (text.drop (start - 1).toNat).take (if length ≤ 0 then 0 else (length + extra).toNat)

/-- The number of the first byte of a part in a text; zero if it is no part of it. -/
def indexOf (part : Bytes) : (number : Nat) → Bytes → Nat
  | number, [] => if part = [] then number else 0
  | number, b :: s =>
    if part.isPrefixOf (b :: s) then number else indexOf part (number + 1) s

/-- The letters of a text in the other case, where they are between two others. -/
def withCase (first last : UInt8) (text : Bytes) : Bytes :=
  text.map fun b => if first ≤ b ∧ b ≤ last then ByteSet.otherCase b else b

/-- The next random number between zero and one. -/
def nextRandom : Doing Float := do
  let next := ((← get).randomState * 1103515245 + 12345) % 2147483648
  modify fun s => { s with randomState := next }
  return Float.ofNat next / 2147483648

/-- The value of a known function whose arguments are values. -/
def applyKnown (function : Known) (args : List Cell) : Doing Cell := do
  let first := args.headD .unset
  let x := first.toNumber
  let text ← textFor first
  match function with
  | .length => return .number (Float.ofNat text.length)
  | .substring => do
    let start := ((args[1]?).getD Cell.unset).toNumber
    return .text (Records.substring text start ((args[2]?).map Cell.toNumber))
  | .index => do
    let part ← textFor ((args[1]?).getD Cell.unset)
    return .number (Float.ofNat (indexOf part 1 text))
  | .format => do
    let (written, error) :=
      writeDirectives (← get).conversion 1 args.tail (directives text.length text)
    match error with
    | none => return .text written
    | some error => failWith (error.message "sprintf" text)
  | .sine => return .number x.sin
  | .cosine => return .number x.cos
  | .arctangent => return .number (x.atan2 ((args[1]?).getD Cell.unset).toNumber)
  | .exponential => return .number x.exp
  | .logarithm => return .number x.log
  | .root => return .number x.sqrt
  | .whole => return .number (if x < 0 then x.ceil else x.floor)
  | .random => return .number (← nextRandom)
  | .seed => do
    let before := (← get).seed
    let new := if args.isEmpty then .number 1 else first
    let start := (truncatedWithin 0 Text.bound63 new.toNumber).toNat
    modify fun s => { s with seed := new, randomState := start }
    return before
  | .lower => return .text (withCase 65 90 text)
  | .upper => return .text (withCase 97 122 text)
  | .obey => do
    flush
    let effect ← obey text (← get).inputLeft
    note effect
    modify fun s => { s with inputLeft := effect.rest }
    return .number (Float.ofNat effect.status)
  | .close => do
    match ← close text with
    | some status => return .number (Float.ofNat status)
    | none => return .number (-1)
  | .flush => do
    flush
    return .number 0
  | .split | .locate | .replaceFirst | .replaceAll => return .unset

/-- Finds a regular expression in a text and says where. -/
def locate (text : Bytes) (r : Regex) : Doing Cell := do
  let found := r.search? { rest := text }
  let start : Float := found.elim 0 fun found => Float.ofNat (found.start.index + 1)
  let length : Float := found.elim (-1) fun found => Float.ofNat found.text.length
  modify fun s => (s.bind "RSTART" (.number start)).bind "RLENGTH" (.number length)
  return .number start

/-! ### Turns -/

/-- The greatest number of turns of a loop. -/
def maxTurns : Nat :=
  1000000

/-- Takes turns until one says that it is the last, at most `bound` turns. -/
def turns : (bound : Nat) → Doing Bool → Doing Unit
  | 0, _ => throw .never
  | bound + 1, turn => do
    if ← turn then turns bound turn

/-- Takes a turn for each of some values, until one says that it is the last. -/
def turnForEach {α : Type} (turn : α → Doing Bool) : List α → Doing Unit
  | [] => return
  | x :: xs => do
    if ← turn x then turnForEach turn xs

/-- Does the body of a loop and says whether another turn may follow. -/
def oneTurn (body : Doing Unit) : Doing Bool :=
  tryCatch (do body; return true) fun
    | .leaveLoop => return false
    | .nextTurn => return true
    | leave => throw leave

/-! ### Expressions -/

/-- Counts the arguments of a call and leaves it with its value. -/
def within (slots : Array Slot) (body : Doing Unit) : Doing Cell := do
  modify fun s => { s with calls := s.calls.push slots }
  let value ← tryCatch (do body; return .unset) fun
    | .answer value => return value
    | leave => throw leave
  modify fun s => { s with calls := s.calls.pop }
  return value

/-- The record as a value. -/
def wholeRecord : Doing Cell := do
  return .ofInput (← get).record

mutual

/-- The value of an expression. -/
def eval (p : Program) : (bound : Nat) → Expr → Doing Cell
  | 0, _ => throw .never
  | bound + 1, e => do
    match e with
    | .number x => return .number x
    | .text bytes => return .text bytes
    | .regex r => return .ofBool (r.occursIn (← get).record)
    | .name _ | .field _ | .element .. => (← placeOf p bound e).load
    | .grouped e => eval p bound e
    | .several es => return .text (← keyOf p bound es).text
    | .assign op target value =>
      let target ← placeOf p bound target
      let new ← eval p bound value
      let new ← match op with
        | none => pure new
        | some op => do
          let old ← target.load
          pure (.number (op.apply old.toNumber new.toNumber))
      target.store new
      return new
    | .count givesNew step target =>
      let target ← placeOf p bound target
      let old := (← target.load).toNumber
      target.store (.number (old + step))
      return .number (if givesNew then old + step else old)
    | .choice condition yes no =>
      if (← eval p bound condition).isTrue then eval p bound yes else eval p bound no
    | .both first second =>
      if (← eval p bound first).isTrue then return .ofBool (← eval p bound second).isTrue
      else return .ofBool false
    | .either first second =>
      if (← eval p bound first).isTrue then return .ofBool true
      else return .ofBool (← eval p bound second).isTrue
    | .isKey keys array =>
      let key ← keyOf p bound keys
      let number ← arrayOf array
      match (← tableAt number).get? key with
      | none => return .ofBool false
      | some cell =>
        changeTable number (·.set key cell)
        return .ofBool true
    | .matching inverted subject pattern =>
      let text ← textFor (← eval p bound subject)
      let r ← patternOf p bound pattern
      return .ofBool (r.occursIn text != inverted)
    | .compare relation left right =>
      let left ← eval p bound left
      let right ← eval p bound right
      return .ofBool (relation.holdsOf (← get).conversion left right)
    | .join left right =>
      let left ← textFor (← eval p bound left)
      let right ← textFor (← eval p bound right)
      return .text (left ++ right)
    | .arithmetic op left right =>
      let left ← eval p bound left
      let right ← eval p bound right
      return .number (op.apply left.toNumber right.toNumber)
    | .negative e => return .number (-(← eval p bound e).toNumber)
    | .numeric e => return .number (← eval p bound e).toNumber
    | .opposite e => return .ofBool !(← eval p bound e).isTrue
    | .call function args => knownValue p bound function args
    | .callDefined function args =>
      match p.functions.lookup function with
      | none => return .unset
      | some definition =>
        let given ← args.mapM fun arg =>
          match arg with
          | .name name => slotOf name
          | arg => do return .value (← eval p bound arg)
        let missing := List.replicate (definition.arity - given.length) (Slot.value .unset)
        within (given ++ missing).toArray (exec p bound definition.body)
    | .read source target =>
      let target ← match target with
        | none => pure none
        | some target => do pure (some (← placeOf p bound target))
      let found : Option (Option Bytes) ← match source with
        | .input => do
          let found ← nextRecord 1000
          if found.isSome then countRecord
          pure (some found)
        | .file name => do
          let name ← textFor (← eval p bound name)
          match ← openReader name with
          | none => pure none
          | some () => do pure (some (← nextOf name))
        | .command script => do
          let script ← textFor (← eval p bound script)
          openCommand script
          pure (some (← nextOf script))
      match found, target with
      | none, _ => return .number (-1)
      | some none, _ => return .number 0
      | some (some record), none =>
        modify (·.withRecord record)
        return .number 1
      | some (some record), some target =>
        target.store (.ofInput record)
        return .number 1

/-- The place that an expression leads to. -/
def placeOf (p : Program) : (bound : Nat) → Expr → Doing Place
  | 0, _ => throw .never
  | bound + 1, e => do
    match e with
    | .name name => return .home (← homeOf name)
    | .element array keys =>
      let key ← keyOf p bound keys
      return .entry (← arrayOf array) key
    | .field index =>
      let x := (← eval p bound index).toNumber
      let index := truncatedWithin (-1) (maxField + 1) x
      if index < 0 then
        failWith (Text.bytesOf s!"negative field index ${index}")
      else if (maxField : Int) < index then
        failWith (Text.bytesOf s!"program limit exceeded: field index {index}")
      else return .field index.toNat
    | _ => return .field 0

/-- The key that some expressions make up. -/
def keyOf (p : Program) : (bound : Nat) → List Expr → Doing Key
  | 0, _ => throw .never
  | bound + 1, es => do
    let cells ← es.mapM fun e => eval p bound e
    let texts ← cells.mapM textFor
    let gap ← textFor ((← get).shared "SUBSEP")
    let whole := match cells with
      | [.number x] => writtenWhole? x
      | _ => none
    return { text := gap.intercalate texts, whole }

/-- The regular expression that an expression stands for. -/
def patternOf (p : Program) : (bound : Nat) → Expr → Doing Regex
  | 0, _ => throw .never
  | bound + 1, e => do
    match e with
    | .regex r => return r
    | e => regexFor (← eval p bound e)

/-- The value of a known function. -/
def knownValue (p : Program) : (bound : Nat) → Known → List Expr → Doing Cell
  | 0, _, _ => throw .never
  | bound + 1, function, args => do
    match function, args with
    | .length, [] => return .number (Float.ofNat (← get).record.length)
    | .length, [.name name] =>
      let home ← homeOf name
      match ← arrayIn? home with
      | some number => return .number (Float.ofNat (← tableAt number).length)
      | none => applyKnown .length [← load home]
    | .split, text :: .name array :: rest =>
      let text ← textFor (← eval p bound text)
      let number ← arrayOf array
      let separator ← match rest with
        | [] => do pure (← get).separator
        | .regex r :: _ => pure (.regex r)
        | e :: _ => do
          let text ← textFor (← eval p bound e)
          match Separator.ofText text with
          | .ok separator => pure separator
          | .error _ => do pure (.regex (← regexFor (.text text)))
      let entries : Table := (separator.split text).zipIdx.map fun (part, i) =>
        ({ text := Text.bytesOf (toString (i + 1)), whole := some (i + 1) }, Cell.ofInput part)
      changeTable number fun _ => entries.reverse
      return .number (Float.ofNat entries.length)
    | .locate, [text, pattern] =>
      let text ← textFor (← eval p bound text)
      locate text (← patternOf p bound pattern)
    | .replaceFirst, pattern :: new :: rest | .replaceAll, pattern :: new :: rest =>
      let r ← patternOf p bound pattern
      let new ← textFor (← eval p bound new)
      let target ← placeOf p bound (rest.headD (.field (.number 0)))
      let text ← textFor (← target.load)
      let (text, count) := replaced r new (function = .replaceAll) text
      if 0 < count then target.store (.text text)
      return .number (Float.ofNat count)
    | function, args => applyKnown function (← args.mapM fun e => eval p bound e)

/-- Obeys a statement. -/
def exec (p : Program) : (bound : Nat) → Statement → Doing Unit
  | 0, _ => throw .never
  | bound + 1, statement => do
    match statement with
    | .value e => let _ ← eval p bound e
    | .print args target =>
      let cells ← if args.isEmpty then do pure [← wholeRecord]
        else args.mapM fun e => eval p bound e
      let s ← get
      let text (name : String) : Bytes := (s.shared name).toText s.conversion
      let texts := cells.map (·.toText s.outputFormat)
      put p bound target ((text "OFS").intercalate texts ++ text "ORS")
    | .printFormat args target =>
      let cells ← args.mapM fun e => eval p bound e
      let format ← textFor (cells.headD .unset)
      let (text, error) :=
        writeDirectives (← get).conversion 1 cells.tail (directives format.length format)
      put p bound target text
      if let some error := error then failWith (error.message "printf" format)
    | .block body => body.forM fun statement => exec p bound statement
    | .branch condition yes no =>
      if (← eval p bound condition).isTrue then exec p bound yes else exec p bound no
    | .loop condition body after =>
      turns maxTurns do
        let goesOn ← match condition with
          | none => pure true
          | some condition => do pure (← eval p bound condition).isTrue
        if !goesOn then return false
        else if ← oneTurn (exec p bound body) then
          exec p bound after
          return true
        else return false
    | .loopOnce body condition =>
      turns maxTurns do
        if ← oneTurn (exec p bound body) then return (← eval p bound condition).isTrue
        else return false
    | .each name array body =>
      let home ← homeOf name
      let keys := (← tableAt (← arrayOf array)).keys
      turnForEach (fun key => do
        store (.text key.text) home
        oneTurn (exec p bound body)) keys
    | .leaveLoop => throw .leaveLoop
    | .nextTurn => throw .nextTurn
    | .nextRecord => throw .nextRecord
    | .nextFile => throw .nextFile
    | .exit status =>
      if let some e := status then
        let x := (← eval p bound e).toNumber
        let status := (truncatedWithin (-Text.bound63) Text.bound63 x % 256).toNat
        modify fun s => { s with status }
      throw .exit
    | .answer e =>
      match e with
      | none => throw (.answer .unset)
      | some e => throw (.answer (← eval p bound e))
    | .delete array keys =>
      let number ← arrayOf array
      match keys with
      | none => changeTable number fun _ => []
      | some keys =>
        let key ← keyOf p bound keys
        changeTable number (·.erase key)

/-- Puts text out, or writes it where an expression says. -/
def put (p : Program) : (bound : Nat) → Option (Outlet × Expr) → Bytes → Doing Unit
  | 0, _, _ => throw .never
  | bound + 1, target, text => do
    match target with
    | none => modify fun s => { s with waiting := text :: s.waiting }
    | some (outlet, e) => writeTo (← textFor (← eval p bound e)) outlet text

end

/-! ### Rules -/

/-- How deep expressions and statements nest at most. -/
def maxDepth : Nat :=
  100000

/-- Whether a rule with a number is for the record. -/
def holds (p : Program) (number : Nat) : Pattern → Doing Bool
  | .first | .last => return false
  | .always => return true
  | .on condition => do return (← eval p maxDepth condition).isTrue
  | .between start finish => do
    let begun := (← get).ranges.contains number
    if !begun && !(← eval p maxDepth start).isTrue then return false
    else
      let ends := (← eval p maxDepth finish).isTrue
      modify fun s => { s with
        ranges := if ends then s.ranges.filter (· ≠ number)
          else if begun then s.ranges else number :: s.ranges }
      return true

/-- Obeys the rules for the record. -/
def obeyRules (p : Program) : Doing Unit :=
  tryCatch
    (p.rules.zipIdx.forM fun (rule, number) => do
      if ← holds p number rule.pattern then exec p maxDepth rule.action)
    fun
      | .nextRecord => return
      | .nextFile => modify fun s => { s with reading := none }
      | leave => throw leave

/-- Whether something left the program. -/
def leaves (act : Doing Unit) : Doing Bool :=
  tryCatch (do act; return false) fun
    | .exit => return true
    | leave => throw leave

/-- Whether a pattern is one of those that hold once. -/
def Pattern.isOnce : Pattern → Bool × Bool
  | first => (true, false)
  | last => (false, true)
  | _ => (false, false)

/-- Obeys the rules for the start, for all records, and for the end. -/
def runRules (p : Program) : Doing Unit := do
  let once (select : Bool × Bool → Bool) : Doing Unit :=
    (p.rules.filter fun rule => select rule.pattern.isOnce).forM fun rule =>
      exec p maxDepth rule.action
  let left ← leaves (once (·.1))
  modify fun s => { s with calls := #[] }
  if !left && p.rules.any fun rule => !rule.pattern.isOnce.1 then
    let _ ← leaves <| turns maxTurns do
      match ← nextRecord 1000 with
      | none => return false
      | some record =>
        countRecord
        modify (·.withRecord record)
        obeyRules p
        return true
  modify fun s => { s with calls := #[] }
  let _ ← leaves (once (·.2))

/-- Stores and obeys all that was written to files and for commands. -/
def finish : Doing Unit := do
  let writers := (← get).writers
  modify fun s => { s with writers := [] }
  writers.forM fun writer => do
    let _ ← writer.finish
  flush

end Workbench.Shell.Records
