import Workbench.Text.Numeral

/-!
# Signals

The signals that scripts for `sh` send and catch, by number and by name, and what is said of a
process that one of them ended.
-/

namespace Workbench.Shell

/-- What a signal does to a process that does not catch it. -/
inductive Signal.Action where
  | ends
  /-- It halts the process, which is never told to go on. -/
  | halts
  | nothing
  deriving DecidableEq, Repr

/-- A signal. -/
structure Signal where
  number : Nat
  name : String
  /-- What is said of a process that it ended; nothing for a signal that goes without saying. -/
  notice : Option String := none
  action : Signal.Action := .ends
  deriving DecidableEq, Repr

namespace Signal

/-- The signals that have a purpose. -/
def common : List Signal :=
  [⟨1, "HUP", some "Hangup", .ends⟩, ⟨2, "INT", none, .ends⟩, ⟨3, "QUIT", some "Quit", .ends⟩,
    ⟨4, "ILL", some "Illegal instruction", .ends⟩,
    ⟨5, "TRAP", some "Trace/breakpoint trap", .ends⟩, ⟨6, "ABRT", some "Aborted", .ends⟩,
    ⟨7, "BUS", some "Bus error", .ends⟩, ⟨8, "FPE", some "Floating point exception", .ends⟩,
    ⟨9, "KILL", some "Killed", .ends⟩, ⟨10, "USR1", some "User defined signal 1", .ends⟩,
    ⟨11, "SEGV", some "Segmentation fault", .ends⟩,
    ⟨12, "USR2", some "User defined signal 2", .ends⟩, ⟨13, "PIPE", none, .ends⟩,
    ⟨14, "ALRM", some "Alarm clock", .ends⟩, ⟨15, "TERM", some "Terminated", .ends⟩,
    ⟨16, "16", some "Stack fault", .ends⟩, ⟨17, "CHLD", none, .nothing⟩,
    ⟨18, "CONT", none, .nothing⟩, ⟨19, "STOP", none, .halts⟩, ⟨20, "TSTP", none, .halts⟩,
    ⟨21, "TTIN", none, .halts⟩, ⟨22, "TTOU", none, .halts⟩, ⟨23, "URG", none, .nothing⟩,
    ⟨24, "XCPU", some "CPU time limit exceeded", .ends⟩,
    ⟨25, "XFSZ", some "File size limit exceeded", .ends⟩,
    ⟨26, "VTALRM", some "Virtual timer expired", .ends⟩,
    ⟨27, "PROF", some "Profiling timer expired", .ends⟩, ⟨28, "WINCH", none, .nothing⟩,
    ⟨29, "IO", some "I/O possible", .ends⟩, ⟨30, "PWR", some "Power failure", .ends⟩,
    ⟨31, "SYS", some "Bad system call", .ends⟩, ⟨32, "32", none, .ends⟩, ⟨33, "33", none, .ends⟩]

/-- The number of the first signal without a purpose. -/
def firstFree : Nat :=
  34

/-- The greatest number of a signal. -/
def last : Nat :=
  64

/-- A signal without a purpose, by its place among them. -/
def free (place : Nat) : Signal :=
  let digits (n : Nat) : String := String.ofList (Text.digits n)
  let fromEnd := last - firstFree - place
  { number := firstFree + place
    name :=
      if place = 0 then "RTMIN"
      else if fromEnd = 0 then "RTMAX"
      else if place ≤ fromEnd then "RTMIN+" ++ digits place
      else "RTMAX-" ++ digits fromEnd
    notice := some ("Real-time signal " ++ digits place) }

/-- The signals. -/
def all : List Signal :=
  common ++ (List.range (last + 1 - firstFree)).map free

/-- The signal of a number. -/
def ofNumber? (number : Nat) : Option Signal :=
  all.find? (·.number = number)

/-- The number of the signal that a text names or is the number of; zero is no signal, and can be
sent and caught all the same. -/
def number? (text : String) : Option Nat :=
  match Text.magnitude? text.toList with
  | some n => if n ≤ last then some n else none
  | none =>
    if text = "EXIT" then some 0 else (all.find? (·.name = text.map Char.toUpper)).map (·.number)

/-- The name of a number of a signal. -/
def nameOf (number : Nat) : String :=
  ((ofNumber? number).map (·.name)).getD "EXIT"

/-- What a signal of this number does to a process that does not catch it. -/
def actionOf (number : Nat) : Action :=
  ((ofNumber? number).map (·.action)).getD .nothing

/-- What is said of a process that a signal ended. -/
def notice? (number : Nat) : Option String :=
  (ofNumber? number).bind (·.notice)

end Signal

end Workbench.Shell
