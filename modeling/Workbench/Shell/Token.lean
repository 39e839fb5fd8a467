import Workbench.Keyed
import Workbench.Shell.Script
import Workbench.Text.Blank
import Workbench.Text.Numeral

/-!
# Tokens of shell scripts

A script for `sh` is read token by token from a `Cursor`. A token that was read too early is held
for the next time. The words of a script tell the keywords from other words, so keywords are tokens
of their own only where they may stand; `Token.asKeyword` makes the difference.

The text of a here document is taken out of the script when its redirection is read, so that the
rest of the line can be read on as if the document were not there; the lines it had are counted when
the line ends.
-/

namespace Workbench.Shell

/-- What kind of redirection an operator stands for. -/
inductive Arrow where
  | file (access : Access)
  /-- `<&` and `>&` -/
  | stream
  /-- `<<`, and `<<-` whose document loses the tabs its lines start with. -/
  | text (dropTabs : Bool)
  deriving DecidableEq, Repr

/-- A token. -/
inductive Token where
  | word (word : Word)
  /-- A word that opens, closes or divides a command. -/
  | keyword (text : String)
  | redirection (stream : Nat) (arrow : Arrow)
  | newline
  | endOfText
  /-- `;` -/
  | semicolon
  /-- `;;` -/
  | caseEnd
  /-- `&` -/
  | background
  /-- `&&` -/
  | and
  /-- `||` -/
  | or
  /-- `|` -/
  | pipe
  /-- An opening parenthesis. -/
  | opening
  /-- A closing parenthesis. -/
  | closing

namespace Token

/-- What a token is called in messages. -/
def name : Token → String
  | word _ => "word"
  | keyword text => s!"\"{text}\""
  | redirection .. => "redirection"
  | newline => "newline"
  | endOfText => "end of file"
  | semicolon => "\";\""
  | caseEnd => "\";;\""
  | background => "\"&\""
  | and => "\"&&\""
  | or => "\"||\""
  | pipe => "\"|\""
  | opening => "\"(\""
  | closing => "\")\""

/-- The keywords. -/
def keywords : List String :=
  ["!", "case", "do", "done", "elif", "else", "esac", "fi", "for", "if", "in", "then", "until",
    "while", "\x7b", "\x7d"]

/-- The keywords that no command starts with and that end the commands before them. -/
def closingKeywords : List String :=
  ["do", "done", "elif", "else", "esac", "fi", "then", "\x7d"]

/-- The token, as a keyword if it is the word of one. -/
def asKeyword : Token → Token
  | word w =>
    match (plainText? w).map String.ofList with
    | some text => if keywords.contains text then keyword text else word w
    | none => word w
  | token => token

/-- Whether a list of commands ends in front of a token. -/
def endsCommands : Token → Bool
  | endOfText | closing | caseEnd => true
  | keyword text => closingKeywords.contains text
  | _ => false

end Token

/-- Why a text is no script. -/
inductive ScriptFault where
  | openQuotes
  | openBrace
  | openArithmetic
  | openBackquote
  /-- A token stands where it means nothing, or where another one has to stand. -/
  | unexpected (found : String) (wanted : Option String)
  /-- What should name the variable of a loop is no name. -/
  | loopName
  /-- What should name a function is no name. -/
  | functionName
  /-- There are more nested parts than can be read. -/
  | tooDeep
  deriving DecidableEq, Repr

/-- The wording of a fault. -/
def ScriptFault.message : ScriptFault → String
  | openQuotes => "Unterminated quoted string"
  | openBrace => "Missing '\x7d'"
  | openArithmetic => "Missing '))'"
  | openBackquote => "EOF in backquote substitution"
  | unexpected found none => s!"{found} unexpected"
  | unexpected found (some wanted) => s!"{found} unexpected (expecting {wanted})"
  | loopName => "Bad for loop variable"
  | functionName => "Bad function name"
  | tooDeep => "Nested too deeply"

/-! ### Characters -/

/-- Whether a character may start the name of a variable. -/
def startsName (c : Char) : Bool :=
  c.isAlpha || c = '_'

/-- Whether a character may stand in the name of a variable. -/
def isNameChar (c : Char) : Bool :=
  c.isAlphanum || c = '_'

/-- Whether a text is a name. -/
def isName (s : List Char) : Bool :=
  s.head?.any startsName && s.all isNameChar

/-- Whether a character is a parameter by itself. -/
def isSpecial (c : Char) : Bool :=
  c.isDigit || "#?$!-*@".toList.contains c

/-- Whether a character ends a word that it is not quoted in. -/
def endsWord (c : Char) : Bool :=
  " \t\n&|;()<>".toList.contains c

/-- The name and the value of a word that is an assignment. -/
def assignment? : Word → Option (String × Word)
  | .literal false text :: rest =>
    let name := text.takeWhile (· ≠ '=')
    match text.dropWhile (· ≠ '=') with
    | _ :: value =>
      if isName name then
        some (String.ofList name, if value = [] then rest else .literal false value :: rest)
      else none
    | [] => none
  | _ => none

/-- The commands of the shell that come before functions, so that no function can be called like
them. -/
def specialCommands : List String :=
  [".", ":", "break", "continue", "eval", "exec", "exit", "export", "local", "readonly", "return",
    "set", "shift", "times", "trap", "unset"]

/-! ### The place in a script -/

/-- A place in a script. -/
structure Cursor where
  rest : List Char
  /-- The number of the line. -/
  line : Nat := 1
  /-- How many lines that were taken out follow the line. -/
  hidden : Nat := 0
  /-- A token that was read too early. -/
  held : Option Token := none
  /-- The texts that stand for others where a command starts. -/
  aliases : Keyed String := []
  /-- The names whose texts were put into the script, and how many characters are behind these. -/
  replaced : List (String × Nat) := []

namespace Cursor

/-- The place behind some characters that come next. -/
def skip (text : List Char) (c : Cursor) : Cursor :=
  let lines := text.count '\n'
  if lines = 0 then { c with rest := c.rest.drop text.length }
  else
    { c with rest := c.rest.drop text.length, line := c.line + lines + c.hidden, hidden := 0 }

/-- The backslashes in front of newlines that a text starts with. They join lines. -/
def joints : List Char → List Char
  | '\\' :: '\n' :: rest => '\\' :: '\n' :: joints rest
  | _ => []

/-- The place behind the joints of lines. -/
def joined (c : Cursor) : Cursor :=
  c.skip (joints c.rest)

/-- The blanks, joints and comments that a text starts with. -/
def blanks : List Char → List Char
  | '\\' :: '\n' :: rest => '\\' :: '\n' :: blanks rest
  | c :: rest =>
    if c = ' ' ∨ c = '\t' then c :: blanks rest
    else if c = '#' then c :: rest.takeWhile (· ≠ '\n')
    else []
  | [] => []

/-- The lines of a here document, and the lines behind the one that ends it, if there is one. -/
def documentLines (dropTabs : Bool) (delimiter : List Char) :
    List (List Char) → List (List Char) × Option (List (List Char))
  | [] => ([], none)
  | line :: rest =>
    let line := if dropTabs then line.dropWhile (· = '\t') else line
    if line = delimiter then ([], some rest)
    else
      let (document, behind) := documentLines dropTabs delimiter rest
      (line :: document, behind)

/-- Lines in one text, with newlines between them. -/
def joinLines (lines : List (List Char)) : List Char :=
  ['\n'].intercalate lines

/-- Takes a here document out of the lines behind the current one. A document that nothing ends goes
on to the end of the text. -/
def takeDocument (dropTabs : Bool) (delimiter : List Char) (c : Cursor) : List Char × Cursor :=
  let current := c.rest.takeWhile (· ≠ '\n')
  match c.rest.dropWhile (· ≠ '\n') with
  | [] => ([], c)
  | newline :: below =>
    match documentLines dropTabs delimiter (Text.pieces (· = '\n') below) with
    | (document, some behind) =>
      (document.flatMap (· ++ ['\n']),
        { c with
          rest := current ++ newline :: joinLines behind
          hidden := c.hidden + document.length + 1 })
    | (document, none) =>
      (joinLines document,
        { c with rest := current ++ [newline], hidden := c.hidden + document.length - 1 })

end Cursor

end Workbench.Shell
