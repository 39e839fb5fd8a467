import Workbench.Runner.Event
import Workbench.Session.Basic

/-!
# Slots for contexts

Contexts are costly, so one that finished a run well is kept for the next one. There are two slots:
the *active* one holds the context of the run in flight, the *idle* one a context that waits for
work. A context that leaves both is destroyed.

Contexts are numbered in the order they are created. The slots also keep what has happened so far:
which contexts were destroyed, and for every run that was started its ticket, its context, its
request and whether it was told to stop.
-/

namespace Workbench

/-- A source of contexts. Attempts are counted from zero. -/
structure Supply where
  /-- The error of an attempt to create a context, if it fails. -/
  refusal : (attempt : Nat) → Option String := fun _ => none
  /-- The error of an attempt to set a context to work, if it fails. -/
  spawnFailure : (attempt : Nat) → Option String := fun _ => none

/-- A source whose first attempts to create a context fail with the errors listed, and whose later
ones fail with `otherwise`, if that is an error; an attempt listed without an error counts as a
later one. -/
def Supply.ofErrors (errors : List (Option String)) (otherwise : Option String) : Supply where
  refusal attempt := (errors[attempt]?.join) <|> otherwise

/-- The run in the active slot. -/
structure ActiveRun where
  ticket : Ticket
  context : Nat
  deriving DecidableEq, Repr

/-- A run that was started. -/
structure Worker where
  ticket : Ticket
  context : Nat
  request : Request
  /-- Whether the run was told to stop. -/
  cancelled : Bool := false
  /-- Whether the run has ended and said so. -/
  reported : Bool := false
  deriving DecidableEq

/-- The slots and their past. -/
structure Slots where
  supply : Supply := {}
  /-- How often a context was to be created. -/
  attempts : Nat := 0
  /-- How many contexts were created. -/
  created : Nat := 0
  /-- How often a context was to be set to work. -/
  spawns : Nat := 0
  /-- The sequence number of the next run. -/
  nextSeq : Nat := 1
  idle : Option Nat := none
  active : Option ActiveRun := none
  /-- The contexts that were destroyed, in order. -/
  destroyed : List Nat := []
  /-- The runs that were started, in order. -/
  workers : List Worker := []

namespace Slots

/-- Whether a run is in the active slot. -/
def isActive (slots : Slots) (ticket : Ticket) : Bool :=
  slots.active.map (·.ticket) = some ticket

/-- Tells a run to stop. -/
def cancel (ticket : Ticket) (slots : Slots) : Slots :=
  { slots with
    workers := slots.workers.map fun w =>
      if w.ticket = ticket then { w with cancelled := true } else w }

/-- Destroys a context. -/
def destroy (context : Nat) (slots : Slots) : Slots :=
  { slots with destroyed := slots.destroyed ++ [context] }

/-! ### Starting a run -/

/-- A context to work with: the idle one, or a new one. -/
def takeContext (slots : Slots) : Except SessionError Nat × Slots :=
  match slots.idle with
  | some context => (.ok context, { slots with idle := none })
  | none =>
    match slots.supply.refusal slots.attempts with
    | some message =>
      (.error (.contextUnavailable message), { slots with attempts := slots.attempts + 1 })
    | none =>
      (.ok slots.created,
        { slots with attempts := slots.attempts + 1, created := slots.created + 1 })

/-- Sets a context to work on a request. A context that cannot be set to work is kept as idle. -/
def launch (context : Nat) (request : Request) (slots : Slots) : Except SessionError Unit × Slots :=
  match slots.supply.spawnFailure slots.spawns with
  | some message =>
    (.error (.workerSpawn message),
      { slots with spawns := slots.spawns + 1, idle := some context })
  | none =>
    let ticket : Ticket := ⟨request.generation, slots.nextSeq⟩
    (.ok (), { slots with
      spawns := slots.spawns + 1
      nextSeq := slots.nextSeq + 1
      active := some ⟨ticket, context⟩
      workers := slots.workers ++ [{ ticket, context, request }] })

/-- Starts a run. -/
def start (request : Request) (slots : Slots) : Except SessionError Unit × Slots :=
  match slots.takeContext with
  | (.error error, slots) => (.error error, slots)
  | (.ok context, slots) => slots.launch context request

/-! ### Ending a run -/

/-- Takes the run in the active slot out, tells it to stop and destroys its context. -/
def discard (active : ActiveRun) (slots : Slots) : Slots :=
  ({ slots with active := none }.cancel active.ticket).destroy active.context

/-- Gives up the active run if it is of this generation. -/
def abort (generation : Nat) (slots : Slots) : Slots :=
  match slots.active with
  | none => slots
  | some active =>
    if active.ticket.generation = generation then slots.discard active else slots

/-- Frees the slot of a run whose result was applied. A context that may be used again becomes the
idle one, if there is none. -/
def finish (ticket : Ticket) (reusable : Bool) (slots : Slots) : Slots :=
  match slots.active with
  | none => slots
  | some active =>
    if active.ticket ≠ ticket then slots
    else if reusable ∧ slots.idle = none then
      { slots with active := none, idle := some active.context }.cancel ticket
    else slots.discard active

/-- Empties both slots. -/
def shutdown (slots : Slots) : Slots :=
  let slots := slots.active.elim slots slots.discard
  match slots.idle with
  | none => slots
  | some context => { slots with idle := none }.destroy context

/-- The slots as the host of a session. -/
def host : ContextHost Slots where
  start := start
  abort := abort

end Slots

end Workbench
