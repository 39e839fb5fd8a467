import Workbench.CommitPolicy
import Workbench.History
import Workbench.Program
import Workbench.Session.Error
import Workbench.Transcript
import Workbench.Wire.Message

/-!
# Sessions

A session has at most one run in flight. It decides whether a run may start, and what becomes of the
transcript and the bindings when a run ends; starting runs and giving them up is the business of a
`ContextHost`, whose state is passed along. What is offered as the result of a run is applied only
if that run is in flight, and dropped as stale otherwise.

The *generation* tells runs apart across aborts and resets: it only grows, and a run carries the
generation it was started in.
-/

namespace Workbench

/-- What is run. -/
inductive RunMode where
  /-- The whole program; it starts without bindings and leaves none. -/
  | program
  /-- One line; it starts from the bindings of the session. -/
  | terminal
  deriving DecidableEq, Repr

/-- The run in flight. -/
structure Flight where
  generation : Nat
  mode : RunMode
  source : String
  deriving DecidableEq, Repr

/-- What became of an offered result. -/
inductive Completion where
  | applied
  /-- It belonged to no run in flight. -/
  | stale
  deriving DecidableEq, Repr

/-- Starts runs and gives them up, on a state of its own. -/
structure ContextHost (η : Type) where
  /-- Hands a request to a context. -/
  start : Request → η → Except SessionError Unit × η
  /-- Gives up the run of a generation. -/
  abort : (generation : Nat) → η → η

/-- A session. -/
structure Session where
  flight : Option Flight := none
  generation : Nat := 0
  bindings : Bindings := ∅
  transcript : Transcript := []
  history : History := .empty
  program : Program := .scratch
  policy : CommitPolicy := .always
  deriving DecidableEq

namespace Session

/-- Whether a run is in flight. -/
def isRunning (s : Session) : Bool :=
  s.flight.isSome

/-- The generation of the run in flight. -/
def runningGeneration? (s : Session) : Option Nat :=
  s.flight.map (·.generation)

/-- The session with an entry at the end of its transcript. -/
def log (s : Session) (entry : Entry) : Session :=
  { s with transcript := s.transcript ++ [entry] }

/-- The session with some entries at the end of its transcript. -/
def logAll (s : Session) (entries : List Entry) : Session :=
  { s with transcript := s.transcript ++ entries }

/-! ### Starting a run -/

/-- The bindings that a run starts from. -/
def bindingsFor (s : Session) : RunMode → Bindings
  | .program => ∅
  | .terminal => s.bindings

/-- What the host is asked to run. -/
def requestFor (s : Session) (mode : RunMode) (source : String) : Request where
  generation := s.generation
  wholeProgram := mode = .program
  source := source
  bindings := s.bindingsFor mode

/-- The entry for a run that could not be started. -/
def startFailure (error : SessionError) : Entry :=
  .banner s!"Run failed to start: {error.message}"

/-- The entries for a run that was started. -/
def opening : RunMode → String → List Entry
  | .program, _ => [Entry.running]
  | .terminal, source => [Entry.running, .echo source]

section Host

variable {η : Type} (host : ContextHost η)

/-- Starts a run and returns its generation. -/
def dispatch (mode : RunMode) (source : String) (s : Session) (h : η) :
    Except SessionError Nat × Session × η :=
  if s.isRunning then (.error .runInFlight, s, h)
  else if mode = .terminal ∧ Text.allBlank source then (.error .emptyInput, s, h)
  else
    match host.start (s.requestFor mode source) h with
    | (.error error, h) => (.error error, s.log (startFailure error), h)
    | (.ok (), h) =>
      let flight : Flight := ⟨s.generation, mode, source⟩
      (.ok s.generation, { s.logAll (opening mode source) with flight := some flight }, h)

/-- Notes a line in the history, if it may be dispatched now. -/
def submit (line : String) (s : Session) : Except SessionError String × Session :=
  if s.isRunning then (.error .runInFlight, s)
  else if Text.allBlank line then (.error .emptyInput, s)
  else (.ok line, { s with history := s.history.record line })

/-- Submits a line and runs it. -/
def runLine (line : String) (s : Session) (h : η) : Except SessionError Nat × Session × η :=
  match s.submit line with
  | (.error error, s) => (.error error, s, h)
  | (.ok line, s) => s.dispatch host .terminal line h

/-- Runs the program, even if it is empty. -/
def runProgram (s : Session) (h : η) : Except SessionError Nat × Session × η :=
  s.dispatch host .program s.program.text h

/-! ### Giving a run up -/

/-- Retires the run in flight, if there is one. -/
def retire (s : Session) (h : η) : Session × η :=
  match s.flight with
  | none => (s, h)
  | some flight =>
    ({ s with generation := s.generation + 1, flight := none }, host.abort flight.generation h)

/-- Aborts the run in flight; says whether there was one. -/
def abort (s : Session) (h : η) : Bool × Session × η :=
  if s.isRunning then
    let (s, h) := s.retire host h
    (true, s.log Entry.aborted, h)
  else (false, s, h)

/-- Drops the transcript and the bindings. -/
def reset (s : Session) : Session :=
  { s with transcript := [], bindings := ∅, generation := s.generation + 1 }

/-- Takes another program. A run in flight is given up without a word, since the transcript is
dropped with it; the history stays. -/
def openProgram (program : Program) (s : Session) (h : η) : Session × η :=
  let (s, h) := s.retire host h
  ({ s with program }.reset, h)

end Host

/-- Drops the transcript and the bindings, unless a run is in flight. -/
def clear (s : Session) : Except SessionError Unit × Session :=
  if s.isRunning then (.error .runInFlight, s) else (.ok (), s.reset)

/-! ### Results -/

/-- The mode of the run in flight, if it is of this generation and the generation is current. -/
def accepting? (s : Session) (generation : Nat) : Option RunMode :=
  match s.flight with
  | none => none
  | some flight =>
    if flight.generation = generation ∧ generation = s.generation then some flight.mode else none

/-- The entries for a run that ended with a response at the time `now`. -/
def closing (now : String) (mode : RunMode) (response : Response) : List Entry :=
  (if response.output = "" then [] else [.output response.ok response.output]) ++
    match mode, response.ok with
    | .terminal, true => response.lastValue.toList.map (.output true ·)
    | .terminal, false => []
    | .program, true => [Entry.succeeded, .timing response.seconds now]
    | .program, false => [Entry.failed]

/-- The bindings after a run that ended with a response. -/
def bindingsAfter (s : Session) (mode : RunMode) (response : Response) : Bindings :=
  match mode with
  | .terminal => if s.policy.commits response.ok then response.bindings else s.bindings
  | .program => s.bindings

/-- Offers a response as the result of the run of a generation. -/
def complete (now : String) (generation : Nat) (response : Response) (s : Session) :
    Completion × Session :=
  match s.accepting? generation with
  | none => (.stale, s)
  | some mode =>
    (.applied, { s.logAll (closing now mode response) with
      bindings := s.bindingsAfter mode response
      flight := none })

/-- The entries for a run whose context broke. -/
def breakdown (mode : RunMode) (message : String) : List Entry :=
  match mode with
  | .terminal => [.output false message]
  | .program => [.output false message, Entry.failed]

/-- Offers an error of the context as the result of the run of a generation. -/
def fail (generation : Nat) (message : String) (s : Session) : Completion × Session :=
  match s.accepting? generation with
  | none => (.stale, s)
  | some mode => (.applied, { s.logAll (breakdown mode message) with flight := none })

/-! ### History and program -/

/-- Recalls the line before the cursor. -/
def previous (s : Session) : Option String × Session :=
  (s.history.previous.1, { s with history := s.history.previous.2 })

/-- Recalls the line behind the cursor. -/
def next (s : Session) : Option String × Session :=
  (s.history.next.1, { s with history := s.history.next.2 })

/-- Replaces the text of the program; says whether the text is another one now. -/
def setProgramText (text : String) (s : Session) : Bool × Session :=
  (text ≠ s.program.text, { s with program := s.program.setText text })

/-- Empties the program and forgets the bindings. -/
def clearProgram (s : Session) : Session :=
  { s with program := s.program.clear, bindings := ∅ }

/-- Notes that the program is stored as it is. -/
def markSaved (s : Session) : Session :=
  { s with program := s.program.markSaved }

end Session

end Workbench
