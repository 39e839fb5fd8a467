import Workbench.Disk.Task
import Workbench.Text.Utf8

/-!
# What programs do

A program that `sh` starts reads its input, puts bytes out and takes time. An `Effect` is all that
one run of a program did.
-/

namespace Workbench.Shell

/-- What goes through a stream. -/
abbrev Bytes : Type :=
  List UInt8

/-- The byte of a newline. -/
def newline : UInt8 :=
  10

/-- The byte of a backslash. -/
def backslash : UInt8 :=
  92

/-- Texts with blanks between them. -/
def spaced : List Bytes → Bytes
  | [] => []
  | [x] => x
  | x :: y :: rest => x ++ 32 :: spaced (y :: rest)

/-- The lines of a text without their ends. What is behind the last newline is a line unless it is
empty. -/
def linesOf : Bytes → List Bytes
  | [] => []
  | b :: s =>
    if b = newline then [] :: linesOf s
    else
      match linesOf s with
      | [] => [[b]]
      | line :: lines => (b :: line) :: lines

/-- The parts of a text between the places of a byte. -/
def partsBetween (separator : UInt8) : Bytes → List Bytes
  | [] => [[]]
  | b :: s =>
    if b = separator then [] :: partsBetween separator s
    else (partsBetween separator s).modifyHead (b :: ·)

/-- The parts of a text that end with a byte. What is behind the last such byte is a part unless it
is empty. -/
def partsEndingIn (ending : UInt8) (text : Bytes) : List Bytes :=
  let parts := partsBetween ending text
  if parts.getLast? = some [] then parts.dropLast else parts

/-- Lines in one text, each with its end. -/
def unlines (lines : List Bytes) : Bytes :=
  lines.flatMap (· ++ [newline])

/-- Whether a text comes before another one or is the same, by its bytes. -/
def bytesBefore : Bytes → Bytes → Bool
  | [], _ => true
  | _ :: _, [] => false
  | a :: s, b :: t => a < b || (a = b && bytesBefore s t)

/-- What a program did. -/
structure Effect where
  /-- What it put out, piece by piece, each with the number of its stream. -/
  written : List (Nat × Bytes) := []
  status : Nat := 0
  /-- The input that was not read. -/
  rest : Bytes := []
  /-- The milliseconds it took. -/
  time : Nat := 0
  /-- Whether it goes on for ever. What it puts out is then the start of what it would put out. -/
  endless : Bool := false
  deriving DecidableEq, Repr

end Workbench.Shell
