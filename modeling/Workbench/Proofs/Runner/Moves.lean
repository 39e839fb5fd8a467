import Mathlib.Logic.Relation
import Workbench.Proofs.Runner.Slots
import Workbench.Proofs.Session.Cases
import Workbench.Runner.Basic

/-!
# What an operation does to a runner

A runner is changed by the operations that its users call and by the events that take effect. All
of them come down to seven *moves* of the session and the slots, each with the guard under which it
is made (`Runner.Move`), and what holds of all reachable runners is shown move by move
(`Runner.perform_moves`, `Runner.apply_moves`). `Runner.Applied` writes out what an event does, for
statements about parts of a session that no run depends on.

No move touches the queue: events are added by the threads of the runs and taken off by those that
drain it.
-/

namespace Workbench

/-- An operation that a user of a runner can call. -/
inductive Call where
  | dispatch (mode : RunMode) (source : String)
  | runLine (line : String)
  | runProgram
  | abort
  | shutdown
  | clear
  | openProgram (program : Program)
  | clearProgram
  | setProgramText (text : String)
  | markSaved
  | submit (line : String)
  | previous
  | next

namespace Runner

/-- The runner after an operation. -/
def perform (call : Call) (r : Runner) : Runner :=
  match call with
  | .dispatch mode source => (r.dispatch mode source).2
  | .runLine line => (r.runLine line).2
  | .runProgram => r.runProgram.2
  | .abort => r.abort.2
  | .shutdown => r.shutdown
  | .clear => r.clear.2
  | .openProgram program => r.openProgram program
  | .clearProgram => { r with session := r.session.clearProgram }
  | .setProgramText text => (r.onSession (Session.setProgramText text)).2
  | .markSaved => { r with session := r.session.markSaved }
  | .submit line => (r.onSession (Session.submit line)).2
  | .previous => (r.onSession Session.previous).2
  | .next => (r.onSession Session.next).2

/-- One thing that happens to the session and the slots while they are locked. -/
inductive Move (r : Runner) : Runner → Prop where
  /-- The session changes in what is not about runs. -/
  | keeps {session : Session} (flight : session.flight = r.session.flight)
      (generation : session.generation = r.session.generation) : Move r { r with session }
  /-- A session without a run in flight changes. -/
  | rests {session : Session} (before : r.session.flight = none)
      (after : session.flight = none) : Move r { r with session }
  /-- A run cannot be started. -/
  | refuses {session : Session} {slots : Slots} {request : Request} {error : SessionError}
      (before : r.session.flight = none) (start : r.slots.start request = (.error error, slots))
      (after : session.flight = none) : Move r { r with session, slots }
  /-- A run is started. -/
  | starts {session : Session} {slots : Slots} {mode : RunMode} {source : String}
      (before : r.session.flight = none)
      (start : r.slots.start (r.session.requestFor mode source) = (.ok (), slots))
      (after : session.flight = some ⟨r.session.generation, mode, source⟩)
      (generation : session.generation = r.session.generation) : Move r { r with session, slots }
  /-- The run in flight is given up. -/
  | retires {session : Session} {flight : Flight} (before : r.session.flight = some flight)
      (after : session.flight = none) :
      Move r { r with session, slots := r.slots.abort flight.generation }
  /-- The run in flight ends. -/
  | finishes {session : Session} {ticket : Ticket} {reusable : Bool}
      (active : r.slots.isActive ticket = true) (after : session.flight = none) :
      Move r { r with session, slots := r.slots.finish ticket reusable }
  /-- The slots are emptied while no run is in flight. -/
  | empties (before : r.session.flight = none) : Move r { r with slots := r.slots.shutdown }

/-- Some moves, one after another. -/
abbrev Moves : Runner → Runner → Prop :=
  Relation.ReflTransGen Move

variable {r r' : Runner}

theorem Move.queue_eq (h : Move r r') : r'.queue = r.queue := by
  cases h <;> rfl

theorem Moves.queue_eq (h : Moves r r') : r'.queue = r.queue := by
  induction h with
  | refl => rfl
  | tail _ hmove ih => exact hmove.queue_eq.trans ih

theorem withSession_snd {α : Type} (act : Session → Slots → α × Session × Slots) (r : Runner) :
    (r.withSession act).2 =
      { r with session := (act r.session r.slots).2.1, slots := (act r.session r.slots).2.2 } :=
  rfl

theorem onSession_snd {α : Type} (act : Session → α × Session) (r : Runner) :
    (r.onSession act).2 = { r with session := (act r.session).2 } :=
  rfl

/-! ### Starting a run -/

/-- Dispatching in a session that differs from that of the runner in nothing that a run depends on
makes at most one move. -/
theorem dispatched_moves {session : Session} {mode : RunMode} {source : String}
    {result : Except SessionError Nat × Session × Slots}
    (hflight : session.flight = r.session.flight)
    (hrequest : session.requestFor mode source = r.session.requestFor mode source)
    (hgeneration : session.generation = r.session.generation)
    (h : Session.Dispatched Slots.host mode source session r.slots result) :
    Moves r { r with session := result.2.1, slots := result.2.2 } := by
  cases h with
  | running flight before => exact .single (.keeps hflight hgeneration)
  | blank before _ _ => exact .single (.keeps hflight hgeneration)
  | refused before error slots start =>
    exact .single (.refuses (hflight ▸ before) start before)
  | started before slots start =>
    rw [hrequest] at start
    exact .single (.starts (hflight ▸ before) start (by rw [hgeneration]) hgeneration)

theorem dispatch_moves (mode : RunMode) (source : String) (r : Runner) :
    Moves r (r.dispatch mode source).2 :=
  dispatched_moves rfl rfl rfl (Session.dispatched Slots.host mode source r.session r.slots)

/-- The line is noted in the history before it is dispatched; no run depends on that. -/
theorem runLine_moves (line : String) (r : Runner) : Moves r (r.runLine line).2 := by
  rw [runLine, withSession_snd]
  rcases Session.runLine_cases Slots.host line r.session r.slots with ⟨error, heq⟩ | heq
  · rw [heq]
  · rw [heq]
    have h := Session.dispatched Slots.host .terminal line
      { r.session with history := r.session.history.record line } r.slots
    refine dispatched_moves ?_ ?_ ?_ h <;> rfl

/-! ### Giving a run up -/

theorem abort_moves (r : Runner) : Moves r r.abort.2 := by
  rw [abort, withSession_snd]
  cases hflight : r.session.flight with
  | none => rw [Session.abort_of_idle hflight]
  | some flight =>
    rw [Session.abort_of_flight hflight]
    exact .single (.retires hflight rfl)

theorem flight_abort (r : Runner) : r.abort.2.session.flight = none := by
  rw [abort, withSession_snd]
  cases hflight : r.session.flight with
  | none => rw [Session.abort_of_idle hflight, hflight]
  | some flight =>
    rw [Session.abort_of_flight hflight]
    rfl

theorem openProgram_moves (program : Program) (r : Runner) : Moves r (r.openProgram program) := by
  rw [openProgram]
  cases hflight : r.session.flight with
  | none =>
    rw [Session.openProgram_of_idle program hflight]
    exact .single (.rests hflight hflight)
  | some flight =>
    rw [Session.openProgram_of_flight program hflight]
    exact .single (.retires hflight rfl)

/-- A shutdown gives up the run in flight first, so the slots are emptied without one. -/
theorem shutdown_moves (r : Runner) : Moves r r.shutdown :=
  (abort_moves r).tail (.empties (flight_abort r))

/-! ### Operations and events -/

/-- Every operation is some moves. -/
theorem perform_moves (call : Call) (r : Runner) : Moves r (r.perform call) := by
  cases call with
  | dispatch mode source => exact dispatch_moves mode source r
  | runLine line => exact runLine_moves line r
  | runProgram => exact dispatch_moves .program r.session.program.text r
  | abort => exact abort_moves r
  | shutdown => exact shutdown_moves r
  | clear =>
    rw [perform, clear, onSession_snd]
    rcases Session.clear_cases r.session with ⟨flight, _, heq⟩ | ⟨hidle, heq⟩
    · rw [heq]
    · rw [heq]
      exact .single (.rests hidle hidle)
  | openProgram program => exact openProgram_moves program r
  | submit line =>
    rw [perform, onSession_snd]
    rcases Session.submit_cases line r.session with heq | heq
    · rw [heq]
    · rw [heq]
      exact .single (.keeps rfl rfl)
  | clearProgram => exact .single (.keeps rfl rfl)
  | setProgramText text => exact .single (.keeps rfl rfl)
  | markSaved => exact .single (.keeps rfl rfl)
  | previous => exact .single (.keeps rfl rfl)
  | next => exact .single (.keeps rfl rfl)

/-- An event about another run than the active one changes nothing. -/
theorem apply_of_not_isActive {event : RunEvent} (now : String)
    (hstale : ¬r.slots.isActive event.ticket = true) : r.apply now event = r := by
  rw [apply.eq_def, if_neg hstale]

/-- What an event can do. A run that is not in the active slot, or that the session does not accept,
is not heard any more. -/
inductive Applied (now : String) (r : Runner) : RunEvent → Runner → Prop where
  | dropped {event : RunEvent} (stale : r.slots.isActive event.ticket = false ∨
      r.session.accepting? event.ticket.generation = none) : Applied now r event r
  | completed {ticket : Ticket} {response : Response} {mode : RunMode}
      (active : r.slots.isActive ticket = true)
      (accepting : r.session.accepting? ticket.generation = some mode) :
      Applied now r (.completed ticket response)
        { r with
          session := { r.session.logAll (Session.closing now mode response) with
            bindings := r.session.bindingsAfter mode response
            flight := none }
          slots := r.slots.finish ticket true }
  | failed {ticket : Ticket} {message : String} {mode : RunMode}
      (active : r.slots.isActive ticket = true)
      (accepting : r.session.accepting? ticket.generation = some mode) :
      Applied now r (.failed ticket message)
        { r with
          session := { r.session.logAll (Session.breakdown mode message) with flight := none }
          slots := r.slots.finish ticket false }
  | timedOut {ticket : Ticket} (active : r.slots.isActive ticket = true) :
      Applied now r (.timedOut ticket) r.abort.2

theorem applied (now : String) (event : RunEvent) (r : Runner) :
    Applied now r event (r.apply now event) := by
  by_cases hactive : r.slots.isActive event.ticket = true
  · rw [apply.eq_def, if_pos hactive]
    cases event with
    | completed ticket response =>
      rcases Session.complete_cases now ticket.generation response r.session with
        ⟨hnone, heq⟩ | ⟨mode, hsome, heq⟩
      · simp only [heq]
        exact .dropped (.inr hnone)
      · simp only [heq]
        exact .completed hactive hsome
    | failed ticket message =>
      rcases Session.fail_cases ticket.generation message r.session with
        ⟨hnone, heq⟩ | ⟨mode, hsome, heq⟩
      · simp only [heq]
        exact .dropped (.inr hnone)
      · simp only [heq]
        exact .failed hactive hsome
    | timedOut ticket => exact .timedOut hactive
  · rw [apply_of_not_isActive now hactive]
    exact .dropped (.inl (Bool.eq_false_iff.2 hactive))

/-- Every event that takes effect is some moves. -/
theorem apply_moves (now : String) (event : RunEvent) (r : Runner) :
    Moves r (r.apply now event) := by
  have happlied := applied now event r
  generalize r.apply now event = r' at happlied ⊢
  cases happlied with
  | dropped => exact .refl
  | completed active | failed active => exact .single (.finishes active rfl)
  | timedOut => exact abort_moves r

end Runner

end Workbench
