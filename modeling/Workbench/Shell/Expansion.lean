import Workbench.Shell.Arithmetic
import Workbench.Shell.Names

/-!
# Expansion of words

The pieces of a word are expanded to parts as `sh` does it, which say of each text where it comes
from. The parts are then read in one of three ways: as one text, as fields, or as a pattern. Only
text that comes from an expansion outside quotes is split into fields, and only bytes outside quotes
have a meaning in a pattern, also in a field that stands for the names of files.
-/

namespace Workbench.Shell

/-- A part of an expanded word. -/
inductive Part where
  /-- Text from inside quotes. -/
  | fixed (text : Bytes)
  /-- Text of the script. -/
  | bare (text : Bytes)
  /-- Text that came from an expansion. -/
  | loose (text : Bytes)
  /-- The end of a field. -/
  | next
  deriving DecidableEq, Repr

namespace Part

/-- A text that is quoted or came from an expansion. -/
def of (quoted : Bool) (text : Bytes) : Part :=
  if quoted then fixed text else loose text

/-- The part as it is outside quotes in a word that stands for the value of a parameter. -/
def loosened : Part → Part
  | bare text => loose text
  | part => part

/-- The parts as one text. -/
def whole (parts : List Part) : Bytes :=
  parts.flatMap fun
    | fixed text | bare text | loose text => text
    | next => [32]

/-- The marks of a text that stands for itself. -/
def quotedMarks (text : Bytes) : Field :=
  text.map (⟨true, ·⟩)

/-- The marks of a text whose bytes may have a meaning. -/
def bareMarks (text : Bytes) : Field :=
  text.map (⟨false, ·⟩)

/-- The parts as a pattern. -/
def pattern (parts : List Part) : Pattern :=
  .ofMarks (parts.flatMap fun
    | fixed text => quotedMarks text
    | bare text | loose text => bareMarks text
    | next => quotedMarks [32])

end Part

/-! ### Fields -/

/-- Whether a separator is white space, of which any amount separates fields once. -/
def isWhite (b : UInt8) : Bool :=
  b = 32 || b = 9 || b = newline

/-- Fields that are being collected; the finished ones are in reverse. -/
structure Fields where
  finished : List Field := []
  /-- The field that is being collected, if one is. -/
  current : Option Field := none
  /-- Whether the last field was ended by white space, so that one more separator belongs to its
  end. -/
  loose : Bool := false
  deriving DecidableEq, Repr

namespace Fields

/-- Adds text that belongs to one field. -/
def add (text : Field) (f : Fields) : Fields :=
  { f with current := some (f.current.getD [] ++ text), loose := false }

/-- Ends the field, if there is one. -/
def flush (f : Fields) : Fields :=
  match f.current with
  | none => f
  | some field => { finished := field :: f.finished }

/-- Adds a byte of text that is split at separators. -/
def addLoose (separators : Bytes) (f : Fields) (b : UInt8) : Fields :=
  if !separators.contains b then f.add (Part.bareMarks [b])
  else if isWhite b then
    if f.current.isSome then { f.flush with loose := true } else f
  else if f.current.isSome then f.flush
  else if f.loose then { f with loose := false }
  else { f with finished := [] :: f.finished }

/-- Adds a part of a word. -/
def addPart (separators : Bytes) (f : Fields) : Part → Fields
  | .fixed text => f.add (Part.quotedMarks text)
  | .bare text => f.add (Part.bareMarks text)
  | .loose text => text.foldl (addLoose separators) f
  | .next => f.flush

/-- The fields of some parts. -/
def ofParts (separators : Bytes) (parts : List Part) : List Field :=
  (parts.foldl (addPart separators) {}).flush.finished.reverse

end Fields

/-! ### Pieces -/

/-- What can be done with a shell one level deeper: commands can be obeyed and words expanded. -/
structure Inner where
  run : List Command → Shell → DiskTask Shell
  expand : Word → Shell → DiskTask (List Part × Shell)
  /-- Brings a process to its end: it does what it has to do then, and leaves those behind that it
  does not wait for. -/
  close : Shell → DiskTask Shell
  /-- Finds a program and runs it to its end, in the place of the shell or not, or says why there is
  none. -/
  start : (replacing : Bool) → (called : String) → (args : List Bytes) → Shell →
    DiskTask (Except DiskError Shell)

/-- Lets a copy of the shell do something, up to its end. -/
def inSubshell (inner : Inner) (act : Shell → DiskTask Shell) (sh : Shell) : DiskTask Shell := do
  return (← inner.close (← act sh.copied)).after sh

/-- A text without the newlines it ends with, and without zero bytes. -/
def captureText (text : Bytes) : Bytes :=
  ((text.filter (· ≠ 0)).reverse.dropWhile (· = newline)).reverse

/-- What some commands put out when a copy of the shell obeys them. -/
def capture (inner : Inner) (commands : List Command) (sh : Shell) :
    DiskTask (Bytes × Shell) := do
  let (stream, opened) := sh.openChannel [] false
  let copy ← inner.close (← inner.run commands
    { (opened.connect 1 (some stream)).copied with tested := false })
  let channel := copy.channels[sh.channels.length]?.getD {}
  let after := copy.after sh
  return (captureText channel.bytes, { after with
    status := sh.status
    captured := copy.finalStatus
    time := max after.time channel.heldUntil
    leave := if channel.heldForever then some .never else after.leave })

/-- How arithmetic reads and sets the variables of a shell. -/
def arithmeticStore : Arithmetic.Store Shell where
  read name sh :=
    let text := Text.lossyText ((sh.value? name).getD [])
    (Arithmetic.ofValue? text.toList).elim (.error (.noNumber text)) .ok
  write name value sh :=
    let old := (Keyed.get? name sh.bound).getD {}
    if old.readOnly then .error (.readOnly name)
    else
      let text := Text.bytesOf (String.ofList (Arithmetic.digits value))
      .ok { sh with bound := sh.bound.insert name { old with value := some text } }

/-- The value of an arithmetic expression. -/
def arithmetic (source : String) (sh : Shell) : DiskTask (Bytes × Shell) :=
  let found := do
    let e ← Arithmetic.Expr.ofText source.toList
    e.eval arithmeticStore sh
  match found with
  | .ok (value, sh) => .done (Text.bytesOf (String.ofList (Arithmetic.digits value)), sh)
  | .error fault => do return ([], ← sh.abandon (fault.message source))

/-- The parts of the value of a parameter. All arguments are fields of their own. -/
def valueParts (quoted : Bool) (name : String) (sh : Shell) : List Part :=
  if name = "@" ∨ name = "*" ∧ !quoted then (sh.args.map (Part.of quoted)).intersperse .next
  else [.of quoted ((sh.value? name).getD [])]

/-- Whether a parameter counts as one that has no value. -/
def isMissing (orEmpty : Bool) (name : String) (sh : Shell) : Bool :=
  match sh.value? name with
  | none => true
  | some value => orEmpty && value = []

/-- The parts of a word that stands for the value of a parameter. -/
def expandInstead (inner : Inner) (quoted : Bool) (word : Word) (sh : Shell) :
    DiskTask (List Part × Shell) := do
  let (parts, sh) ← inner.expand word sh
  return (if quoted then parts else parts.map .loosened, sh)

/-- What is said about a parameter that should have a value. -/
def demandMessage (orEmpty : Bool) (said : Bytes) : String :=
  if said ≠ [] then Text.lossyText said
  else if orEmpty then "parameter not set or null"
  else "parameter not set"

/-- Expands a parameter as its use says. -/
def expandParameter (inner : Inner) (quoted : Bool) (name : String) (use : Use) (sh : Shell) :
    DiskTask (List Part × Shell) :=
  let own := (valueParts quoted name sh, sh)
  let demanded := sh.options.demandsValues && name ≠ "@" && name ≠ "*"
  let unset : DiskTask (List Part × Shell) := do
    return ([], ← sh.abandon s!"{name}: parameter not set")
  match use with
  | .value => if demanded && (sh.value? name).isNone then unset else .done own
  | .fallback orEmpty word =>
    if isMissing orEmpty name sh then expandInstead inner quoted word sh else .done own
  | .alternative orEmpty word =>
    if isMissing orEmpty name sh then .done ([], sh) else expandInstead inner quoted word sh
  | .assign orEmpty word =>
    if !isMissing orEmpty name sh then .done own
    else do
      let (parts, sh) ← inner.expand word sh
      let sh ← sh.assign name (Part.whole parts)
      return (valueParts quoted name sh, sh)
  | .demand orEmpty word =>
    if !isMissing orEmpty name sh then .done own
    else do
      let (parts, sh) ← inner.expand word sh
      return ([], ← sh.abandon s!"{name}: {demandMessage orEmpty (Part.whole parts)}")
  | .cut atEnd longest word =>
    if demanded && (sh.value? name).isNone then unset
    else do
      let (parts, after) ← inner.expand word sh
      let cut := if atEnd then Pattern.cutEnd else Pattern.cutStart
      return ([.of quoted (cut (Part.pattern parts) longest ((sh.value? name).getD []))], after)

/-- Expands a piece of a word. -/
def expandPiece (inner : Inner) (piece : Piece) (sh : Shell) : DiskTask (List Part × Shell) :=
  match piece with
  | .literal quoted text =>
    let text := Text.bytesOf (String.ofList text)
    .done ([if quoted then .fixed text else .bare text], sh)
  | .parameter quoted name use => expandParameter inner quoted name use sh
  | .lengthOf quoted name =>
    let length := ((sh.value? name).getD []).length
    if sh.options.demandsValues && (sh.value? name).isNone then do
      return ([], ← sh.abandon s!"{name}: parameter not set")
    else .done ([.of quoted (decimal length)], sh)
  | .output quoted commands => do
    let (text, sh) ← capture inner commands sh
    return ([.of quoted text], sh)
  | .arithmetic quoted expression => do
    let (parts, sh) ← inner.expand expression sh
    if sh.leave.isSome then return ([], sh)
    else
      let (text, sh) ← arithmetic (Text.lossyText (Part.whole parts)) sh
      return ([.of quoted text], sh)
  | .meaningless => do return ([], ← sh.abandon "Bad substitution")

/-- Expands the pieces of a word, as far as the shell does not leave. -/
def expandPieces (inner : Inner) : Word → Shell → DiskTask (List Part × Shell)
  | [], sh => .done ([], sh)
  | piece :: rest, sh => do
    let (parts, sh) ← expandPiece inner piece sh
    if sh.leave.isSome then return (parts, sh)
    else
      let (others, sh) ← expandPieces inner rest sh
      return (parts ++ others, sh)

/-! ### Words -/

/-- The directories that users start in. -/
def homes : List (String × String) :=
  [("root", "/root"), ("daemon", "/usr/sbin"), ("bin", "/bin"), ("nobody", "/nonexistent")]

/-- The directory that the text behind a tilde stands for. -/
def homeOf? (name : String) (sh : Shell) : Option Bytes :=
  if name = "" then sh.value? "HOME" else (homes.lookup name).map Text.bytesOf

/-- A literal at the start of a word or of a part of it, with the directory for the tilde that it
may start with; `ends` says whether the word ends with it. -/
def withHome (ends : Bool) (text : List Char) (sh : Shell) : List Piece :=
  match text with
  | '~' :: rest =>
    let name := rest.takeWhile (· ≠ '/')
    let behind := rest.drop name.length
    if behind = [] ∧ !ends then [.literal false text]
    else
      match homeOf? (String.ofList name) sh with
      | some home =>
        .literal true (Text.lossyText home).toList ::
          if behind = [] then [] else [.literal false behind]
      | none => [.literal false text]
  | _ => [.literal false text]

/-- A word with the directory for the tilde that it may start with. -/
def wordWithHome (sh : Shell) : Word → Word
  | .literal false text :: rest => withHome rest.isEmpty text sh ++ rest
  | word => word

/-- The value of an assignment with the directories for the tildes at its start and behind colons.
-/
def valueWithHomes (sh : Shell) : (first : Bool) → Word → Word
  | _, [] => []
  | first, .literal false text :: rest =>
    let parts := Text.pieces (· = ':') text
    let ends (i : Nat) : Bool := i + 1 < parts.length || rest.isEmpty
    let pieces := parts.zipIdx.map fun (part, i) =>
      if i = 0 ∧ !first then [.literal false part] else withHome (ends i) part sh
    [.literal false [':']].intercalate pieces ++ valueWithHomes sh false rest
  | _, piece :: rest => piece :: valueWithHomes sh false rest

/-- The fields of a word. -/
def fields (inner : Inner) (word : Word) (sh : Shell) : DiskTask (List Bytes × Shell) := do
  let (parts, sh) ← expandPieces inner (wordWithHome sh word) sh
  let found ← (Fields.ofParts sh.separators parts).mapM fun field => expandNames field sh
  return (found.flatten, sh)

/-- The fields of some words, as far as the shell does not leave. -/
def allFields (inner : Inner) : List Word → Shell → DiskTask (List Bytes × Shell)
  | [], sh => .done ([], sh)
  | word :: rest, sh => do
    let (found, sh) ← fields inner word sh
    if sh.leave.isSome then return (found, sh)
    else
      let (others, sh) ← allFields inner rest sh
      return (found ++ others, sh)

/-- A word as one text. -/
def wholeText (inner : Inner) (word : Word) (sh : Shell) : DiskTask (Bytes × Shell) := do
  let (parts, sh) ← expandPieces inner (wordWithHome sh word) sh
  return (Part.whole parts, sh)

/-- The value of an assignment as one text. -/
def valueText (inner : Inner) (word : Word) (sh : Shell) : DiskTask (Bytes × Shell) := do
  let (parts, sh) ← expandPieces inner (valueWithHomes sh true word) sh
  return (Part.whole parts, sh)

/-- A word as a pattern. -/
def wordPattern (inner : Inner) (word : Word) (sh : Shell) : DiskTask (Pattern × Shell) := do
  let (parts, sh) ← expandPieces inner (wordWithHome sh word) sh
  return (Part.pattern parts, sh)

end Workbench.Shell
