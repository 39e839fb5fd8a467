import Workbench.Shell.Token

/-!
# Reading shell scripts

Each production of the grammar of `sh` is a function on the place in the script. The functions are
recursive in a bound that every call lowers; `Cursor.nextLine` starts them with a bound that the
length of the text cannot exhaust, because between two characters that are taken there are only a
few calls.

A script is read line by line, so what stands in front of a fault can be obeyed before the fault is
met.
-/

namespace Workbench.Shell

/-- Reads something at a place in a script. A fault comes with its line. -/
abbrev Reading (α : Type) : Type :=
  StateT Cursor (Except (Nat × ScriptFault)) α

namespace Reading

variable {α : Type}

/-! ### Characters and held tokens -/

/-- Stops with a fault on the current line. -/
def fail (fault : ScriptFault) : Reading α :=
  fun c => .error (c.line, fault)

/-- Stops at a token that should be another one, or should not be there. -/
def unexpected (found : Token) (wanted : Option Token) : Reading α :=
  fail (.unexpected found.name (wanted.map Token.name))

/-- Goes past some characters that come next. -/
def skip (text : List Char) : Reading Unit :=
  modify (Cursor.skip text)

/-- The characters that come next, behind the joints of lines. -/
def ahead : Reading (List Char) := do
  modify Cursor.joined
  return (← get).rest

/-- Goes past the characters that satisfy a condition, and gives them. -/
def takeWhile (p : Char → Bool) : Reading (List Char) := do
  let text := (← get).rest.takeWhile p
  skip text
  return text

/-- Holds a token for the next time. -/
def hold (token : Token) : Reading Unit :=
  modify fun c => { c with held := some token }

/-- Reads another text from its start, and stays at the place. -/
def within (text : List Char) (line : Nat) (reading : Reading α) : Reading α := fun c =>
  (reading { rest := text, line, aliases := c.aliases }).map fun (result, _) => (result, c)

/-- Puts the text that a token stands for in front of the place, if it stands for one. The text of a
name is not looked for inside itself. -/
def putAlias (token : Token) : Reading Bool := do
  let c ← get
  match token with
  | .word word =>
    let name := ((plainText? word).map String.ofList).getD ""
    let busy := c.replaced.filter fun entry => entry.2 ≤ c.rest.length
    match Keyed.get? name c.aliases with
    | some text =>
      if busy.any (·.1 = name) then return false
      else
        set { c with
          rest := text.toList ++ c.rest
          replaced := (name, c.rest.length) :: busy }
        return true
    | none => return false
  | _ => return false

/-- Whether the place is behind a blank that a text ends with which was put into the script, so that
the next word may stand for a text too. -/
def followsAlias : Reading Bool := do
  let before ← get
  modify fun c => c.skip (Cursor.blanks c.rest)
  let after ← get
  return before.held.isNone && before.replaced.any fun (name, left) =>
    left ≤ before.rest.length && after.rest.length ≤ left &&
      ((Keyed.get? name before.aliases).bind (·.toList.getLast?)).any fun c => c = ' ' || c = '\t'

/-! ### Pieces -/

/-- What is around the pieces that are read. It says how characters are taken and where the pieces
end. -/
inductive Around where
  /-- A word, which ends at a blank or an operator. -/
  | word
  /-- The word that says where a document ends. It has no substitutions. -/
  | delimiter
  | quotes
  | document
  /-- Braces behind the name of a parameter, which end at the closing brace. -/
  | braces (quoted : Bool)
  /-- Two parentheses, with some more open inside. -/
  | arithmetic (depth : Nat)
  deriving DecidableEq, Repr

namespace Around

/-- Whether pieces are quoted there. -/
def quoted : Around → Bool
  | word | delimiter | braces false => false
  | _ => true

/-- Whether quotes are marks there and no characters. -/
def knowsQuotes : Around → Bool
  | word | delimiter | braces false => true
  | _ => false

/-- Whether substitutions are made there. -/
def substitutes (around : Around) : Bool :=
  around ≠ delimiter

/-- Whether a character just stands for itself there. -/
def isOrdinary (around : Around) (c : Char) : Bool :=
  match c with
  | '\\' => false
  | '$' | '\x60' => !around.substitutes
  | '\'' => !around.knowsQuotes
  | '"' => !around.knowsQuotes && around ≠ quotes && around ≠ braces true
  | '\x7d' =>
    match around with
    | braces _ => false
    | _ => true
  | '(' | ')' =>
    match around with
    | word | delimiter | arithmetic _ => false
    | _ => true
  | _ => (around ≠ word && around ≠ delimiter) || !endsWord c

/-- Whether a backslash in front of a character takes its meaning away there and goes itself. -/
def unescapes (around : Around) (c : Char) : Bool :=
  match around with
  | word | delimiter | braces false => true
  | document => "\\\x60$".toList.contains c
  | braces true => "\\\x60$\"\x7d".toList.contains c
  | quotes | arithmetic _ => "\\\x60$\"".toList.contains c

/-- What is wrong if the text ends there; nothing if it may. -/
def faultAtEnd? : Around → Option ScriptFault
  | word | delimiter | document => none
  | quotes | braces true => some .openQuotes
  | braces false => some .openBrace
  | arithmetic _ => some .openArithmetic

end Around

/-- Adds text behind pieces that are in reverse. -/
def addLiteral (quoted : Bool) (text : List Char) : List Piece → List Piece
  | .literal q before :: done =>
    if q = quoted then .literal q (before ++ text) :: done
    else .literal quoted text :: .literal q before :: done
  | done => .literal quoted text :: done

/-- The text between backquotes, as it is meant, and the text behind them. A backslash in front of a
character that would have a meaning goes. -/
def backquoted (quoted : Bool) : List Char → Option (List Char × List Char)
  | [] => none
  | '\x60' :: rest => some ([], rest)
  | ['\\'] => none
  | '\\' :: c :: rest =>
    let hidden := c = '\x60' || c = '\\' || c = '$' || quoted && c = '"'
    (backquoted quoted rest).map fun (text, behind) =>
      if c = '\n' then (text, behind)
      else if hidden then (c :: text, behind)
      else ('\\' :: c :: text, behind)
  | c :: rest => (backquoted quoted rest).map fun (text, behind) => (c :: text, behind)

/-- The name of a parameter in braces: a name, a number or a special character. -/
def bracedName : Reading (Option String) := do
  match ← ahead with
  | [] => return none
  | c :: _ =>
    if startsName c then return some (String.ofList (← takeWhile isNameChar))
    else if c.isDigit then return some (String.ofList (← takeWhile Char.isDigit))
    else if isSpecial c then
      skip [c]
      return some (String.singleton c)
    else return none

/-- Whether what stands behind `#` in braces is the parameter whose length is meant. -/
def meansLength : List Char → Bool
  | c :: next :: _ => isNameChar c || (c ≠ '\x7d' && next = '\x7d')
  | _ => false

/-- Goes past a character if it comes next. -/
def skipIf (c : Char) : Reading Bool := do
  if (← ahead).head? = some c then
    skip [c]
    return true
  else return false

/-- Goes past a character that has no meaning where it stands, unless it is a closing brace. The end
of a line is not counted there. -/
def skipStray : Reading Unit := do
  match ← ahead with
  | [] | '\x7d' :: _ => return ()
  | _ :: rest => modify fun c => { c with rest }

/-- The use that an operator behind the name of a parameter stands for, and what is around its word.
Another character but a closing brace is taken for an operator without a use. -/
def useOperator (quoted : Bool) : Reading (Option ((Word → Use) × Around)) := do
  let orEmpty ← skipIf ':'
  match ← ahead with
  | '-' :: _ => skip ['-']; return some (.fallback orEmpty, .braces quoted)
  | '=' :: _ => skip ['=']; return some (.assign orEmpty, .braces quoted)
  | '?' :: _ => skip ['?']; return some (.demand orEmpty, .braces quoted)
  | '+' :: _ => skip ['+']; return some (.alternative orEmpty, .braces quoted)
  | '\x7d' :: _ => do
    -- A brace right behind a colon is taken for the operator.
    if orEmpty then skip ['\x7d']
    return none
  | c :: _ =>
    if (c = '#' || c = '%') && !orEmpty then
      skip [c]
      let longest ← skipIf c
      return some (.cut (c = '%') longest, .braces false)
    else
      skipStray
      return none
  | [] => return none

/-! ### Tokens without words -/

/-- What the operator means of which `>` is behind the place. -/
def outArrow : Reading Arrow := do
  match ← ahead with
  | '&' :: _ => skip ['&']; return .stream
  | '>' :: _ => skip ['>']; return .file .append
  | '|' :: _ => skip ['|']; return .file .rewrite
  | _ => return .file .write

/-- What the operator means of which `<` is behind the place. -/
def inArrow : Reading Arrow := do
  match ← ahead with
  | '&' :: _ => skip ['&']; return .stream
  | '>' :: _ => skip ['>']; return .file .update
  | '<' :: _ => skip ['<']; return .text (← skipIf '-')
  | _ => return .file .read

/-- The redirection that starts with `<` or `>`, which comes next. -/
def arrow (stream : Option Nat) : Reading Token := do
  if ← skipIf '>' then return .redirection (stream.getD 1) (← outArrow)
  else
    skip ['<']
    return .redirection (stream.getD 0) (← inArrow)

/-- The operator that comes next, if one does. -/
def operator? : Reading (Option Token) := do
  match ← ahead with
  | [] => return some .endOfText
  | '\n' :: _ => skip ['\n']; return some .newline
  | '(' :: _ => skip ['(']; return some .opening
  | ')' :: _ => skip [')']; return some .closing
  | '&' :: _ => skip ['&']; return some (if ← skipIf '&' then .and else .background)
  | '|' :: _ => skip ['|']; return some (if ← skipIf '|' then .or else .pipe)
  | ';' :: _ => skip [';']; return some (if ← skipIf ';' then .caseEnd else .semicolon)
  | _ => return none

/-! ### The grammar -/

/-- Where a list of commands stands. -/
inductive Ending where
  /-- It is a line of the script, and ends with it. -/
  | line
  /-- It ends at a token that ends commands, and is not empty. -/
  | block
  /-- It ends at a token that ends commands. -/
  | optional
  deriving DecidableEq, Repr

mutual

/-- The pieces up to the end that what is around them sets; `done` holds those in front of the place
in reverse. -/
def pieces : (bound : Nat) → Around → (done : List Piece) → Reading (List Piece)
  | 0, _, _ => fail .tooDeep
  | bound + 1, around, done => do
    let run ← takeWhile around.isOrdinary
    let done := if run = [] then done else addLiteral around.quoted run done
    match (← get).rest with
    | [] =>
      match around.faultAtEnd? with
      | some fault => fail fault
      | none => return done.reverse
    | '\\' :: [] =>
      skip ['\\']
      pieces bound around (addLiteral true ['\\'] done)
    | '\\' :: c :: _ =>
      skip ['\\', c]
      if c = '\n' then pieces bound around done
      else if around.unescapes c then pieces bound around (addLiteral true [c] done)
      else pieces bound around (addLiteral true ['\\', c] done)
    | '\'' :: _ =>
      skip ['\'']
      let text ← takeWhile (· ≠ '\'')
      if ← skipIf '\'' then pieces bound around (addLiteral true text done) else fail .openQuotes
    | '"' :: _ =>
      skip ['"']
      if around = .quotes then return done.reverse
      else if around = .delimiter then
        let text ← takeWhile (· ≠ '"')
        if ← skipIf '"' then pieces bound around (addLiteral true text done) else fail .openQuotes
      else
        let inner ← pieces bound .quotes []
        pieces bound around
          (if inner.isEmpty then addLiteral true [] done else inner.reverse ++ done)
    | '$' :: _ =>
      skip ['$']
      pieces bound around ((← substitution bound around.quoted) :: done)
    | '\x60' :: _ =>
      skip ['\x60']
      match backquoted around.quoted (← get).rest with
      | none =>
        let _ ← takeWhile fun _ => true
        fail .openBackquote
      | some (text, behind) =>
        let rest := (← get).rest
        skip (rest.take (rest.length - behind.length))
        let commands ← within text 1 (list bound .optional [])
        pieces bound around (.output around.quoted commands :: done)
    | c :: _ =>
      match around, c with
      | .braces _, _ =>
        skip [c]
        return done.reverse
      | .arithmetic depth, '(' =>
        skip [c]
        pieces bound (.arithmetic (depth + 1)) (addLiteral true [c] done)
      | .arithmetic (depth + 1), _ =>
        skip [c]
        pieces bound (.arithmetic depth) (addLiteral true [c] done)
      | .arithmetic 0, _ =>
        skip [c]
        if ← skipIf ')' then return done.reverse
        else pieces bound (.arithmetic 0) (addLiteral true [c] done)
      | _, _ => return done.reverse

/-- The piece that a dollar sign starts. -/
def substitution : (bound : Nat) → (quoted : Bool) → Reading Piece
  | 0, _ => fail .tooDeep
  | bound + 1, quoted => do
    match ← ahead with
    | '(' :: _ =>
      skip ['(']
      if ← skipIf '(' then return .arithmetic quoted (← pieces bound (.arithmetic 0) [])
      else
        let commands ← list bound .optional []
        match ← token bound .word with
        | .closing => return .output quoted commands
        | other => unexpected other (some .closing)
    | '\x7b' :: _ =>
      skip ['\x7b']
      braced bound quoted
    | c :: _ =>
      if startsName c then
        return .parameter quoted (String.ofList (← takeWhile isNameChar)) .value
      else if isSpecial c then
        skip [c]
        return .parameter quoted (String.singleton c) .value
      else return .literal quoted ['$']
    | [] => return .literal quoted ['$']

/-- The piece that is a parameter in braces, of which the first one is behind the place. -/
def braced : (bound : Nat) → (quoted : Bool) → Reading Piece
  | 0, _ => fail .tooDeep
  | bound + 1, quoted => do
    match ← ahead with
    | '#' :: rest =>
      if !meansLength rest then parameter bound quoted
      else
        skip ['#']
        match ← bracedName with
        | some name =>
          if ← skipIf '\x7d' then return .lengthOf quoted name
          else
            let _ ← pieces bound (.braces quoted) []
            return .meaningless
        | none =>
          skipStray
          let _ ← pieces bound (.braces quoted) []
          return .meaningless
    | _ => parameter bound quoted

/-- The piece that is a parameter with its use, up to the closing brace. -/
def parameter : (bound : Nat) → (quoted : Bool) → Reading Piece
  | 0, _ => fail .tooDeep
  | bound + 1, quoted => do
    match ← bracedName with
    | none =>
      skipStray
      let _ ← pieces bound (.braces quoted) []
      return .meaningless
    | some name =>
      if ← skipIf '\x7d' then return .parameter quoted name .value
      else
        match ← useOperator quoted with
        | some (use, around) => return .parameter quoted name (use (← pieces bound around []))
        | none =>
          let _ ← pieces bound (.braces quoted) []
          return .meaningless

/-- The next token. A word is read as what is around it says. -/
def token : (bound : Nat) → Around → Reading Token
  | 0, _ => fail .tooDeep
  | bound + 1, around => do
    match (← get).held with
    | some held =>
      modify fun c => { c with held := none }
      return held
    | none =>
      modify fun c => c.skip (Cursor.blanks c.rest)
      match ← operator? with
      | some found => return found
      | none =>
        let word ← pieces bound around []
        match (← get).rest.head?, word with
        | some c, [] => if c = '<' || c = '>' then arrow none else return .word []
        | some c, [.literal false [d]] =>
          if (c = '<' || c = '>') && d.isDigit then arrow (Text.digitValue? d)
          else return .word word
        | _, _ => return .word word

/-- The next token where keywords may stand, with newlines in front of it or not. -/
def opener : (bound : Nat) → (pastNewlines : Bool) → Reading Token
  | 0, _ => fail .tooDeep
  | bound + 1, pastNewlines => do
    match ← token bound .word with
    | .newline => if pastNewlines then opener bound true else return .newline
    | found => if ← putAlias found then opener bound pastNewlines else return found.asKeyword

/-- The commands up to an end; `done` holds those in front of the place in reverse. -/
def list : (bound : Nat) → Ending → (done : List Command) → Reading (List Command)
  | 0, _, _ => fail .tooDeep
  | bound + 1, ending, done => do
    match ← opener bound (ending ≠ .line) with
    | .newline => return done.reverse
    | .endOfText =>
      hold .endOfText
      return done.reverse
    | first =>
      hold first
      if ending ≠ .line ∧ (ending = .optional ∨ !done.isEmpty) ∧ first.endsCommands then
        return done.reverse
      else
        let command ← andOr bound none
        match ← token bound .word with
        | .semicolon => list bound ending (command :: done)
        | .background => list bound ending (.background command :: done)
        | .newline =>
          hold .newline
          list bound ending (command :: done)
        | .endOfText =>
          hold .endOfText
          return (command :: done).reverse
        | other =>
          if ending = .line then unexpected other none
          else
            hold other
            return (command :: done).reverse

/-- Pipelines of which each runs if those before it succeed, or if they fail. -/
def andOr : (bound : Nat) → (done : Option (Command → Command)) → Reading Command
  | 0, _ => fail .tooDeep
  | bound + 1, done => do
    let next ← pipeline bound done.isSome
    let command := (done.getD id) next
    match ← token bound .word with
    | .and => andOr bound (some command.both)
    | .or => andOr bound (some command.either)
    | other =>
      hold other
      return command

/-- Commands of which each reads what the one before puts out. -/
def pipeline : (bound : Nat) → (pastNewlines : Bool) → Reading Command
  | 0, _ => fail .tooDeep
  | bound + 1, pastNewlines => do
    let first ← opener bound pastNewlines
    match first with
    | .keyword "!" => return .negation (← stages bound [← command bound false])
    | _ =>
      hold first
      stages bound [← command bound false]

/-- The commands of a pipeline, of which `done` is read, in reverse. -/
def stages : (bound : Nat) → (done : List Command) → Reading Command
  | 0, _ => fail .tooDeep
  | bound + 1, done => do
    match ← token bound .word with
    | .pipe => stages bound ((← command bound true) :: done)
    | other =>
      hold other
      match done with
      | [only] => return only
      | _ => return .pipeline done.reverse

/-- A command. -/
def command : (bound : Nat) → (pastNewlines : Bool) → Reading Command
  | 0, _ => fail .tooDeep
  | bound + 1, pastNewlines => do
    let first ← opener bound pastNewlines
    let line := (← get).line
    match first with
    | .word _ | .redirection .. =>
      hold first
      simple bound line [] [] []
    | .opening =>
      let commands ← list bound .block []
      expect bound .closing
      redirected bound line (.subshell commands)
    | .keyword "\x7b" =>
      let commands ← list bound .block []
      expect bound (.keyword "\x7d")
      redirected bound line (.group commands)
    | .keyword "if" =>
      let whole ← branch bound
      redirected bound line whole
    | .keyword "while" =>
      let whole ← loop bound false
      redirected bound line whole
    | .keyword "until" =>
      let whole ← loop bound true
      redirected bound line whole
    | .keyword "for" =>
      let whole ← each bound line
      redirected bound line whole
    | .keyword "case" =>
      let whole ← choose bound line
      redirected bound line whole
    | other => unexpected other none

/-- Goes past a token that has to come next. -/
def expect : (bound : Nat) → (wanted : Token) → Reading Unit
  | 0, _ => fail .tooDeep
  | bound + 1, wanted => do
    let found ← token bound .word
    if found.name = wanted.name then return () else unexpected found (some wanted)

/-- A condition and what depends on it, behind `if` or `elif`. -/
def branch : (bound : Nat) → Reading Command
  | 0 => fail .tooDeep
  | bound + 1 => do
    let condition ← list bound .block []
    expect bound (.keyword "then")
    let yes ← list bound .block []
    match ← token bound .word with
    | .keyword "elif" => return .branch condition yes [← branch bound]
    | .keyword "else" =>
      let no ← list bound .block []
      expect bound (.keyword "fi")
      return .branch condition yes no
    | .keyword "fi" => return .branch condition yes []
    | other => unexpected other (some (.keyword "fi"))

/-- A condition and the commands it repeats. -/
def loop : (bound : Nat) → (untilTrue : Bool) → Reading Command
  | 0, _ => fail .tooDeep
  | bound + 1, untilTrue => do
    let condition ← list bound .block []
    expect bound (.keyword "do")
    let body ← list bound .block []
    expect bound (.keyword "done")
    return .loop untilTrue condition body

/-- The variable of a loop, the words for it and the commands that are repeated. -/
def each : (bound : Nat) → (line : Nat) → Reading Command
  | 0, _ => fail .tooDeep
  | bound + 1, line => do
    match ← token bound .word with
    | .word word =>
      match (plainText? word).filter isName with
      | none => fail .loopName
      | some name =>
        let words ← eachWords bound
        match ← opener bound true with
        | .keyword "do" =>
          let body ← list bound .block []
          expect bound (.keyword "done")
          return .each line (String.ofList name) words body
        | other => unexpected other (some (.keyword "do"))
    | _ => fail .loopName

/-- The words of a loop. Without `in` they are the arguments of the shell. -/
def eachWords : (bound : Nat) → Reading (List Word)
  | 0 => fail .tooDeep
  | bound + 1 => do
    match ← opener bound true with
    | .keyword "in" =>
      let (found, behind) ← words bound []
      match behind with
      | .newline | .semicolon => return found
      | other => unexpected other none
    | .semicolon => return [[.parameter true "@" .value]]
    | other =>
      hold other
      return [[.parameter true "@" .value]]

/-- Words as long as there are some, and the token behind them; `done` is in reverse. -/
def words : (bound : Nat) → (done : List Word) → Reading (List Word × Token)
  | 0, _ => fail .tooDeep
  | bound + 1, done => do
    match ← token bound .word with
    | .word word => words bound (word :: done)
    | other => return (done.reverse, other)

/-- A word and the cases for it. -/
def choose : (bound : Nat) → (line : Nat) → Reading Command
  | 0, _ => fail .tooDeep
  | bound + 1, line => do
    match ← token bound .word with
    | .word word =>
      match ← opener bound true with
      | .keyword "in" => return .choose line word (← cases bound [.literal false ['i', 'n']] [])
      | other => unexpected other (some (.keyword "in"))
    | other => unexpected other (some (.word []))

/-- Cases up to `esac`; `before` is the word in front of them and `done` is in reverse. -/
def cases : (bound : Nat) → (before : Word) → (done : List (List Word × List Command)) →
    Reading (List (List Word × List Command))
  | 0, _, _ => fail .tooDeep
  | bound + 1, before, done => do
    let first ← opener bound true
    match first with
    | .keyword "esac" => return done.reverse
    | _ =>
      let first ← if let .opening := first then token bound .word else pure first
      let patterns ← patterns bound first before []
      let body ← list bound .optional []
      let done := (patterns, body) :: done
      match ← opener bound true with
      | .keyword "esac" => return done.reverse
      | .caseEnd => cases bound (patterns.getLast?.getD before) done
      | other => unexpected other (some .caseEnd)

/-- The patterns of a case, of which `first` is the token that comes next; `done` is in reverse. An
operator in the place of a pattern stands for the word before it. -/
def patterns : (bound : Nat) → (first : Token) → (before : Word) → (done : List Word) →
    Reading (List Word)
  | 0, _, _, _ => fail .tooDeep
  | bound + 1, first, before, done => do
    let pattern := match first with
      | .word word => word
      | .keyword text => [.literal false text.toList]
      | _ => before
    match ← token bound .word with
    | .pipe => patterns bound (← token bound .word) pattern (pattern :: done)
    | .closing => return (pattern :: done).reverse
    | other => unexpected other (some .closing)

/-- The command with the redirections behind it. -/
def redirected : (bound : Nat) → (line : Nat) → (command : Command) → Reading Command
  | 0, _, _ => fail .tooDeep
  | bound + 1, line, command => do
    let first ← opener bound false
    hold first
    let redirections ← redirections bound []
    return if redirections.isEmpty then command else .redirected line command redirections

/-- Redirections as long as there are some; `done` is in reverse. -/
def redirections : (bound : Nat) → (done : List Redirection) → Reading (List Redirection)
  | 0, _ => fail .tooDeep
  | bound + 1, done => do
    match ← token bound .word with
    | .redirection stream arrow =>
      redirections bound ((← redirection bound stream arrow) :: done)
    | other =>
      hold other
      return done.reverse

/-- The redirection that has begun with an operator. -/
def redirection : (bound : Nat) → (stream : Nat) → Arrow → Reading Redirection
  | 0, _, _ => fail .tooDeep
  | bound + 1, stream, arrow => do
    let around := match arrow with
      | .text _ => Around.delimiter
      | _ => .word
    match ← token bound around, arrow with
    | .word word, .file access => return { stream, target := .file access word }
    | .word word, .stream => return { stream, target := .stream word }
    | .word word, .text dropTabs =>
      let delimiter := word.flatMap fun
        | .literal _ text => text
        | _ => []
      let literal := (plainText? word).isSome
      let c ← get
      let (document, after) := c.takeDocument dropTabs delimiter
      set after
      let text ←
        if literal then within document (c.line + 1) (pieces bound .document [])
        else pure [.literal true document]
      return { stream, target := .text text }
    | other, _ => unexpected other none

/-- A command that is no keyword's, of which some parts are read, in reverse. -/
def simple : (bound : Nat) → (line : Nat) → (assignments : List (String × Word)) →
    (words : List Word) → (redirections : List Redirection) → Reading Command
  | 0, _, _, _, _ => fail .tooDeep
  | bound + 1, line, assignments, words, redirections => do
    let follows ← followsAlias
    let next ← token bound .word
    if (follows || words.isEmpty) && (← putAlias next) then
      simple bound line assignments words redirections
    else part bound line assignments words redirections next

/-- A command that is no keyword's, of which some parts are read, in reverse, and whose next token
is known. -/
def part : (bound : Nat) → (line : Nat) → (assignments : List (String × Word)) →
    (words : List Word) → (redirections : List Redirection) → (next : Token) → Reading Command
  | 0, _, _, _, _, _ => fail .tooDeep
  | bound + 1, line, assignments, words, redirections, next => do
    match next, words with
    | .word word, [] =>
      match assignment? word with
      | some assignment => simple bound line (assignment :: assignments) [] redirections
      | none => simple bound line assignments [word] redirections
    | .word word, _ => simple bound line assignments (word :: words) redirections
    | .redirection stream arrow, _ =>
      let next ← redirection bound stream arrow
      simple bound line assignments words (next :: redirections)
    | other, _ =>
      match other, words with
      | .opening, [name] =>
        if assignments.isEmpty && redirections.isEmpty then
          expect bound .closing
          match (plainText? name).filter isName with
          | none => fail .functionName
          | some name =>
            if specialCommands.contains (String.ofList name) then fail .functionName
            else return .define (String.ofList name) (← command bound true)
        else
          hold other
          return .simple line assignments.reverse words.reverse redirections.reverse
      | _, _ =>
        hold other
        return .simple line assignments.reverse words.reverse redirections.reverse

end

end Reading

/-- The commands of the next line of a script and the place behind them; nothing at the end of the
text. A line has commands of several lines if one of them does not end with the line. -/
def Cursor.nextLine (c : Cursor) : Except (Nat × ScriptFault) (Option (List Command × Cursor)) := do
  let bound := 20 * c.rest.length + 100
  let (commands, after) ← Reading.list bound .line [] c
  match commands, after.held with
  | [], some .endOfText => return none
  | _, _ => return some (commands, after)

/-- A text as it would be read inside a here document; nothing if it cannot be read. -/
def documentWord? (text : List Char) : Option Word :=
  (Reading.pieces (20 * text.length + 100) .document [] { rest := text }).toOption.map (·.1)

end Workbench.Shell
