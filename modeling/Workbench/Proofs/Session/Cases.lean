import Workbench.Session.Basic

/-!
# What the operations of a session come to

One statement for each operation that deals with runs, for any host: `Session.Dispatched` lists the
four ways a dispatch can go, `abort`, `retire` and `openProgram` are written out with and without a
run in flight, and `complete` and `fail` with and without a run that accepts the result. The
operations themselves are not opened elsewhere.
-/

namespace Workbench.Session

variable {η : Type} {host : ContextHost η} {s : Session} {h : η} {flight : Flight}

theorem isRunning_iff : s.isRunning = true ↔ ∃ flight, s.flight = some flight :=
  Option.isSome_iff_exists

theorem not_isRunning_iff : ¬s.isRunning = true ↔ s.flight = none := by
  simp [isRunning]

theorem isRunning_of_flight (hflight : s.flight = some flight) : s.isRunning = true :=
  isRunning_iff.2 ⟨flight, hflight⟩

theorem runningGeneration?_of_flight (hflight : s.flight = some flight) :
    s.runningGeneration? = some flight.generation := by
  rw [runningGeneration?, hflight, Option.map_some]

/-! ### Starting a run -/

/-- The ways a dispatch can go: it is rejected because a run is in flight or because there is
nothing to run, or it reaches the host, which refuses or starts the run. -/
inductive Dispatched (host : ContextHost η) (mode : RunMode) (source : String) (s : Session)
    (h : η) : Except SessionError Nat × Session × η → Prop where
  | running (flight : Flight) (before : s.flight = some flight) :
      Dispatched host mode source s h (.error .runInFlight, s, h)
  | blank (before : s.flight = none) (mode_eq : mode = .terminal)
      (source_blank : Text.allBlank source = true) :
      Dispatched host mode source s h (.error .emptyInput, s, h)
  | refused (before : s.flight = none) (error : SessionError) (h' : η)
      (start : host.start (s.requestFor mode source) h = (.error error, h')) :
      Dispatched host mode source s h (.error error, s.log (startFailure error), h')
  | started (before : s.flight = none) (h' : η)
      (start : host.start (s.requestFor mode source) h = (.ok (), h')) :
      Dispatched host mode source s h (.ok s.generation,
        { s.logAll (opening mode source) with flight := some ⟨s.generation, mode, source⟩ }, h')

theorem dispatched (host : ContextHost η) (mode : RunMode) (source : String) (s : Session)
    (h : η) : Dispatched host mode source s h (s.dispatch host mode source h) := by
  rw [dispatch]
  split
  · rename_i hrunning
    obtain ⟨flight, hflight⟩ := isRunning_iff.1 hrunning
    exact .running flight hflight
  · rename_i hidle
    have hbefore := not_isRunning_iff.1 hidle
    split
    · rename_i hblank
      exact .blank hbefore hblank.1 hblank.2
    · split
      · rename_i hstart
        exact .refused hbefore _ _ hstart
      · rename_i hstart
        exact .started hbefore _ hstart

/-- The ways a line can be run: it is rejected when it is submitted, with nothing changed, or it is
noted in the history and dispatched. -/
theorem runLine_cases (host : ContextHost η) (line : String) (s : Session) (h : η) :
    (∃ error, s.runLine host line h = (.error error, s, h)) ∨
      s.runLine host line h =
        { s with history := s.history.record line }.dispatch host .terminal line h := by
  rw [runLine, submit]
  by_cases hrunning : s.isRunning = true
  · exact .inl ⟨.runInFlight, by simp [hrunning]⟩
  · by_cases hblank : Text.allBlank line = true
    · exact .inl ⟨.emptyInput, by simp [hrunning, hblank]⟩
    · exact .inr (by simp [hrunning, hblank])

/-- Submitting a line changes at most the history. -/
theorem submit_cases (line : String) (s : Session) :
    (s.submit line).2 = s ∨ (s.submit line).2 = { s with history := s.history.record line } := by
  rw [submit]
  by_cases hrunning : s.isRunning = true
  · exact .inl (by simp [hrunning])
  · by_cases hblank : Text.allBlank line = true
    · exact .inl (by simp [hrunning, hblank])
    · exact .inr (by simp [hrunning, hblank])

/-! ### Giving a run up -/

theorem retire_of_idle (hidle : s.flight = none) : s.retire host h = (s, h) := by
  rw [retire, hidle]

theorem retire_of_flight (hflight : s.flight = some flight) :
    s.retire host h = ({ s with generation := s.generation + 1, flight := none },
      host.abort flight.generation h) := by
  rw [retire, hflight]

theorem abort_of_idle (hidle : s.flight = none) : s.abort host h = (false, s, h) := by
  simp [abort, isRunning, hidle]

theorem abort_of_flight (hflight : s.flight = some flight) :
    s.abort host h =
      (true, { s with generation := s.generation + 1, flight := none }.log Entry.aborted,
        host.abort flight.generation h) := by
  simp [abort, isRunning, hflight, retire_of_flight hflight]

theorem openProgram_of_idle (program : Program) (hidle : s.flight = none) :
    s.openProgram host program h = ({ s with program }.reset, h) := by
  rw [openProgram, retire_of_idle hidle]

theorem openProgram_of_flight (program : Program) (hflight : s.flight = some flight) :
    s.openProgram host program h =
      ({ s with generation := s.generation + 1, flight := none, program }.reset,
        host.abort flight.generation h) := by
  rw [openProgram, retire_of_flight hflight]

/-- Clearing either changes nothing because a run is in flight, or resets. -/
theorem clear_cases (s : Session) :
    (∃ flight, s.flight = some flight ∧ s.clear = (.error .runInFlight, s)) ∨
      s.flight = none ∧ s.clear = (.ok (), s.reset) := by
  rw [clear]
  cases hflight : s.flight with
  | none => exact .inr ⟨rfl, by simp [isRunning, hflight]⟩
  | some flight => exact .inl ⟨flight, rfl, by simp [isRunning, hflight]⟩

/-! ### Results -/

/-- A run in flight accepts results of its own generation while that is the current one. -/
theorem accepting?_of_flight (hflight : s.flight = some flight)
    (hcurrent : flight.generation = s.generation) :
    s.accepting? flight.generation = some flight.mode := by
  simp [accepting?, hflight, hcurrent]

/-- A response is dropped, or it is merged and the run has ended. -/
theorem complete_cases (now : String) (generation : Nat) (response : Response) (s : Session) :
    s.accepting? generation = none ∧ s.complete now generation response = (.stale, s) ∨
      ∃ mode, s.accepting? generation = some mode ∧ s.complete now generation response =
        (.applied, { s.logAll (closing now mode response) with
          bindings := s.bindingsAfter mode response
          flight := none }) := by
  rw [complete]
  cases haccepting : s.accepting? generation with
  | none => exact .inl ⟨rfl, rfl⟩
  | some mode => exact .inr ⟨mode, rfl, rfl⟩

/-- An error is dropped, or it is logged and the run has ended. -/
theorem fail_cases (generation : Nat) (message : String) (s : Session) :
    s.accepting? generation = none ∧ s.fail generation message = (.stale, s) ∨
      ∃ mode, s.accepting? generation = some mode ∧ s.fail generation message =
        (.applied, { s.logAll (breakdown mode message) with flight := none }) := by
  rw [fail]
  cases haccepting : s.accepting? generation with
  | none => exact .inl ⟨rfl, rfl⟩
  | some mode => exact .inr ⟨mode, rfl, rfl⟩

end Workbench.Session
