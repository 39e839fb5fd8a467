import Workbench.Shell.Records.Value

/-!
# Tokens of programs on records

The text of a program for `awk` is cut into tokens from the left to the right. A slash starts a
regular expression where an operand can stand and divides elsewhere, which the token in front of it
tells. A newline is a token of its own unless something must follow.
-/

namespace Workbench.Shell.Records

/-- What can be wrong with the text of a program. -/
inductive Fault where
  /-- Nothing that can stand there starts like this. -/
  | unexpectedToken (line : Nat) (shown : Bytes)
  | unexpectedByte (line : Nat) (b : UInt8)
  | openText (line : Nat) (start : Bytes)
  | openRegex (line : Nat) (start : Bytes)
  | badRegex (line : Nat) (why : String) (text : Bytes)
  | missing (closing : Char) (line : Nat) (shown : Bytes)
  | excess (closing : Char) (line : Nat)
  | undefined (line : Nat) (function : String)
  | tooMany (line : Nat) (function : String)
  | wrongNumber (line : Nat) (function : String)
  | misplaced (line : Nat) (what : String)
  | doubled (line : Nat) (name : String)
  deriving DecidableEq, Repr

/-- The wording of a fault. -/
def Fault.message : Fault → Bytes
  | unexpectedToken line shown => Text.bytesOf s!"line {line}: syntax error at or near " ++ shown
  | unexpectedByte line b =>
    let shown :=
      if 32 ≤ b ∧ b ≤ 126 then Text.bytesOf "'" ++ [b] ++ Text.bytesOf "'"
      else Text.bytesOf ("0x" ++ String.ofList (digitsIn 16 2 b.toNat))
    Text.bytesOf s!"{line}: unexpected character " ++ shown
  | openText line start =>
    Text.bytesOf s!"line {line}: runaway string constant \"" ++ start ++ Text.bytesOf " ..."
  | openRegex line start =>
    Text.bytesOf s!"line {line}: runaway regular expression /" ++ start ++ Text.bytesOf " ..."
  | badRegex line why text =>
    Text.bytesOf s!"line {line}: regular expression compile failed ({why})\n" ++ text
  | missing closing line shown => Text.bytesOf s!"line {line}: missing {closing} near " ++ shown
  | excess closing line => Text.bytesOf s!"line {line}: extra '{closing}'"
  | undefined line function => Text.bytesOf s!"line {line}: function {function} never defined"
  | tooMany line function =>
    Text.bytesOf s!"line {line}: too many arguments in call to {function}"
  | wrongNumber line function =>
    Text.bytesOf s!"line {line}: wrong number of arguments in call to {function}"
  | misplaced line what => Text.bytesOf s!"line {line}: {what}"
  | doubled line name => Text.bytesOf s!"line {line}: {name} is duplicated in argument list"

/-- A token. -/
inductive Token where
  | number (x : Float) (spelling : Bytes)
  | text (bytes : Bytes)
  | regex (bytes : Bytes)
  | name (name : String)
  /-- A name with an opening parenthesis right behind it. -/
  | call (name : String)
  | known (name : String)
  | keyword (word : String)
  | mark (mark : String)
  | newline
  | finish
  /-- What is no token. -/
  | faulty (fault : Fault)
  deriving BEq

namespace Token

/-- A token in a message. -/
def shown : Token → Bytes
  | number _ spelling => spelling
  | text bytes => bytes
  | regex bytes => Text.bytesOf "/" ++ bytes ++ Text.bytesOf "/"
  | name s | call s | known s | keyword s | mark s => Text.bytesOf s
  | newline => Text.bytesOf "end of line"
  | finish | faulty _ => Text.bytesOf "end of file"

/-- Whether a slash behind a token divides. -/
def endsOperand : Token → Bool
  | number .. | text _ | regex _ | name _ | known _ => true
  | mark m => [")", "]", "$", "++", "--"].contains m
  | call _ | keyword _ | newline | finish | faulty _ => false

/-- Whether newlines behind a token are nothing. -/
def swallowsNewlines : Token → Bool
  | newline => true
  | mark m => ["\x7b", "&&", "||", ",", ";"].contains m
  | keyword w => ["do", "else"].contains w
  | _ => false

end Token

/-- The words with a meaning of their own. -/
def keywords : List String :=
  ["BEGIN", "END", "function", "if", "else", "while", "for", "do", "break", "continue", "next",
    "nextfile", "exit", "return", "delete", "in", "getline", "print", "printf"]

/-- The marks of more than one character, the longest ones first. -/
def longMarks : List String :=
  ["++", "--", "+=", "-=", "*=", "/=", "%=", "^=", "==", "!=", "<=", ">=", "!~", "&&", "||", ">>"]

/-- The marks of one character. -/
def shortMarks : List Char :=
  "\x7b\x7d()[];,+-*/%^!<>|?:~$=".toList

/-- Whether a byte can stand in a name, the first one if no digits are allowed. -/
def isNameByte (first : Bool) (b : UInt8) : Bool :=
  isWordByte b && !(first && 48 ≤ b && b ≤ 57)

/-- The bytes of a text in quotes up to the closing one, and the text behind that; nothing if there
is none on the line. -/
def quotedAt? (quote : UInt8) : Bytes → Option (Bytes × Bytes)
  | [] => none
  | 92 :: b :: s => (quotedAt? quote s).map fun (text, rest) => (92 :: b :: text, rest)
  | b :: s =>
    if b = quote then some ([], s)
    else if b = newline then none
    else (quotedAt? quote s).map fun (text, rest) => (b :: text, rest)

/-- The bytes of a regular expression up to the closing slash, and the text behind that; a slash in
brackets is one of the bytes. -/
def slashedAt? (bracket : Bool) : Bytes → Option (Bytes × Bytes)
  | [] => none
  | 92 :: 47 :: s => (slashedAt? bracket s).map fun (text, rest) => (47 :: text, rest)
  | 92 :: b :: s => (slashedAt? bracket s).map fun (text, rest) => (92 :: b :: text, rest)
  | b :: s =>
    if b = newline then none
    else if b = 47 ∧ !bracket then some ([], s)
    else
      let bracket := if b = 91 then true else if b = 93 then false else bracket
      (slashedAt? bracket s).map fun (text, rest) => (b :: text, rest)

/-- The letters that stand for a control character behind a backslash, and those that stand for
themselves. -/
def escapeLetters : List (UInt8 × UInt8) :=
  [(34, 34), (92, 92), (97, 7), (98, 8), (102, 12), (110, 10), (114, 13), (116, 9),
    (118, 11)]

/-- A text without its escapes, of which at most `bound` are replaced. A backslash in front of what
has no meaning there is text. -/
def unescaped : (bound : Nat) → Bytes → Bytes
  | 0, s => s
  | _, [] => []
  | bound + 1, 92 :: s =>
    match s with
    | [] => [92]
    | 10 :: s => unescaped bound s
    | b :: rest =>
      let octal := (s.take 3).takeWhile fun b => 48 ≤ b && b ≤ 55
      if octal ≠ [] then
        let value := octal.foldl (fun n b => n * 8 + (b.toNat - 48)) 0
        value.toUInt8 :: unescaped bound (s.drop octal.length)
      else
        let digits := (rest.take 2).takeWhile fun b => isDigitOf 16 (Char.ofNat b.toNat)
        if b = 120 ∧ digits ≠ [] then
          let value := ofDigits 16 (digits.map fun b => Char.ofNat b.toNat)
          value.toUInt8 :: unescaped bound (rest.drop digits.length)
        else
          match escapeLetters.lookup b with
          | some c => c :: unescaped bound rest
          | none => 92 :: b :: unescaped bound rest
  | bound + 1, b :: s => b :: unescaped bound s

/-- The token that a text starts with behind blanks, and the text behind it. A slash divides behind
an operand. -/
def tokenAt (line : Nat) (behindOperand : Bool) (s : Bytes) : Except Fault (Token × Bytes) :=
  match s with
  | [] => .ok (.finish, [])
  | b :: rest =>
    let chars := s.map fun b => Char.ofNat b.toNat
    let short (b : UInt8) : String := String.ofList [Char.ofNat b.toNat]
    if b = newline then .ok (.newline, rest)
    else if b = 34 then
      match quotedAt? 34 rest with
      | some (text, rest) => .ok (.text (unescaped text.length text), rest)
      | none => .error (.openText line (rest.takeWhile (· ≠ newline)))
    else if b = 47 ∧ !behindOperand then
      match slashedAt? false rest with
      | some (text, rest) => .ok (.regex text, rest)
      | none => .error (.openRegex line (rest.takeWhile (· ≠ newline)))
    else if isNameByte true b then
      let word := s.takeWhile (isNameByte false)
      let rest := s.drop word.length
      let name := Text.lossyText word
      let token :=
        if keywords.contains name then .keyword name
        else if (Known.all.lookup name).isSome then .known name
        else if rest.head? = some 40 then .call name
        else .name name
      .ok (token, rest)
    else
      match (if chars.head?.any fun c => c.isDigit || c = '.' then Decimal.tenAt? false chars
        else none) with
      | some (d, behind) =>
        let length := s.length - behind.length
        .ok (.number (floatOf (.finite d)) (s.take length), s.drop length)
      | none =>
        match longMarks.find? fun m => m.toList.isPrefixOf (chars.take 2) with
        | some m => .ok (.mark m, s.drop 2)
        | none =>
          if shortMarks.contains (Char.ofNat b.toNat) then .ok (.mark (short b), rest)
          else .error (.unexpectedByte line b)

/-- The text behind blanks, comments and backslashes at the ends of lines, and how many of its lines
these take. -/
def behindBlanks : (bound lines : Nat) → Bytes → Nat × Bytes
  | 0, lines, s => (lines, s)
  | bound + 1, lines, s =>
    match s with
    | 92 :: 10 :: rest => behindBlanks bound (lines + 1) rest
    | 92 :: 13 :: 10 :: rest => behindBlanks bound (lines + 1) rest
    | 35 :: rest => behindBlanks bound lines (rest.dropWhile (· ≠ newline))
    | b :: rest =>
      if b = 32 ∨ b = 9 ∨ b = 13 ∨ b = 12 ∨ b = 11 then behindBlanks bound lines rest
      else (lines, s)
    | [] => (lines, s)

/-- The tokens of a text with their lines, of which at most `bound` are read. What is no token is
the last one. -/
def tokens : (bound line : Nat) → (last : Token) → Bytes → List (Token × Nat)
  | 0, _, _, _ => []
  | bound + 1, line, last, s =>
    let (skipped, s) := behindBlanks (s.length + 1) 0 s
    let line := line + skipped
    match tokenAt line last.endsOperand s with
    | .error fault => [(.faulty fault, line)]
    | .ok (.finish, _) => [(.finish, line)]
    | .ok (.newline, rest) =>
      if last.swallowsNewlines then tokens bound (line + 1) last rest
      else (.newline, line) :: tokens bound (line + 1) .newline rest
    | .ok (token, rest) =>
      let taken := s.take (s.length - rest.length)
      (token, line) :: tokens bound (line + taken.count newline) token rest

end Workbench.Shell.Records
