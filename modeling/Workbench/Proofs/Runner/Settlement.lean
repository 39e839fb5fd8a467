import Mathlib.Data.List.Induction
import Workbench.Proofs.Runner.Pruning

/-!
# How runs are settled

A run is in flight from the operation that started it until it is *settled*: until the act in which
the session ceases to run it. This module says what such an act can be, that there is at most one
for every run, and that what is merged into the session comes from the run in flight.

Generations do not tell consecutive runs apart. What does is the ticket of an event: an event about
the active run was sent by the worker or the watchdog of that run (`World.Sent`), since no two runs
have the same ticket.
-/

namespace Workbench

/-- Whether the answer to an operation is that a run was started. -/
def Call.starts (r : Runner) : Call → Bool
  | .dispatch mode source => (r.dispatch mode source).1.isOk
  | .runLine line => (r.runLine line).1.isOk
  | .runProgram => r.runProgram.1.isOk
  | _ => false

namespace Runner

variable {r : Runner} {n m : Nat}

/-- The session is running, and the run with this number is in the active slot. -/
def InFlight (r : Runner) (n : Nat) : Prop :=
  r.session.isRunning = true ∧
    ∃ worker, r.slots.workers[n]? = some worker ∧ r.slots.isActive worker.ticket = true

/-! ### Runs that stay as they are -/

theorem runs_abort (r : Runner) : r.abort.2.slots.runs = r.slots.runs := by
  rw [abort, withSession_snd]
  cases hflight : r.session.flight with
  | none => rw [Session.abort_of_idle hflight]
  | some flight =>
    rw [Session.abort_of_flight hflight]
    exact Slots.runs_abort flight.generation r.slots

theorem runs_shutdown (r : Runner) : r.shutdown.slots.runs = r.slots.runs :=
  (Slots.runs_shutdown _).trans (runs_abort r)

theorem runs_openProgram (program : Program) (r : Runner) :
    (r.openProgram program).slots.runs = r.slots.runs := by
  rw [openProgram]
  cases hflight : r.session.flight with
  | none => rw [Session.openProgram_of_idle program hflight]
  | some flight =>
    rw [Session.openProgram_of_flight program hflight]
    exact Slots.runs_abort flight.generation r.slots

/-- Events start no runs. -/
theorem runs_apply (now : String) (event : RunEvent) (r : Runner) :
    (r.apply now event).slots.runs = r.slots.runs := by
  have happlied := applied now event r
  generalize r.apply now event = r' at happlied ⊢
  cases happlied with
  | dropped => rfl
  | completed | failed => exact Slots.runs_finish _ _ r.slots
  | timedOut => exact runs_abort r

namespace Coherent

theorem inFlight_iff (h : r.Coherent) :
    r.InFlight n ↔
      ∃ worker, r.slots.workers[n]? = some worker ∧ r.slots.isActive worker.ticket = true := by
  refine ⟨(·.2), fun hworker ↦ ⟨?_, hworker⟩⟩
  obtain ⟨worker, -, hactive⟩ := hworker
  obtain ⟨a, ha, -⟩ := Slots.isActive_iff.1 hactive
  exact h.isRunning_iff.2 ⟨a, ha⟩

/-! ### Starting runs -/

/-- Either nothing was started and no run was added, or a run was added and is in flight. -/
theorem dispatched_cases (h : r.Coherent) {session : Session} {mode : RunMode} {source : String}
    {result : Except SessionError Nat × Session × Slots}
    (hflight : session.flight = r.session.flight)
    (hdispatched : Session.Dispatched Slots.host mode source session r.slots result) :
    result.1.isOk = false ∧ result.2.2.workers.length = r.slots.workers.length ∨
      result.1.isOk = true ∧ r.session.isRunning = false ∧
        result.2.2.workers.length = r.slots.workers.length + 1 ∧
        { r with session := result.2.1, slots := result.2.2 }.InFlight r.slots.workers.length := by
  cases hdispatched with
  | running flight before => exact .inl ⟨rfl, rfl⟩
  | blank before _ _ => exact .inl ⟨rfl, rfl⟩
  | refused before error slots start =>
    obtain ⟨-, -, hworkers⟩ := h.slots.start_error (h.active_eq_none (hflight ▸ before)) start
    exact .inl ⟨rfl, by rw [hworkers]⟩
  | started before slots start =>
    have hidle : r.session.flight = none := hflight ▸ before
    obtain ⟨-, context, hworkers, ha⟩ := h.slots.start_ok (h.active_eq_none hidle) start
    refine .inr ⟨rfl, Bool.eq_false_iff.2 (Session.not_isRunning_iff.2 hidle), ?_, rfl,
      r.slots.fresh (session.requestFor mode source) context, ?_, Slots.isActive_of_active ha⟩
    · simp [hworkers]
    · simp [hworkers]

/-- An operation adds a run exactly if its answer says so, and only when none is in flight. -/
theorem perform_cases (h : r.Coherent) (call : Call) :
    call.starts r = false ∧ (r.perform call).slots.workers.length = r.slots.workers.length ∨
      call.starts r = true ∧ r.session.isRunning = false ∧
        (r.perform call).slots.workers.length = r.slots.workers.length + 1 ∧
        (r.perform call).InFlight r.slots.workers.length := by
  cases call with
  | dispatch mode source =>
    exact h.dispatched_cases rfl (Session.dispatched Slots.host mode source r.session r.slots)
  | runProgram =>
    exact h.dispatched_cases rfl (Session.dispatched Slots.host .program _ r.session r.slots)
  | runLine line =>
    rw [Call.starts, Runner.perform, runLine, withSession]
    rcases Session.runLine_cases Slots.host line r.session r.slots with ⟨error, heq⟩ | heq
    · rw [heq]
      exact .inl ⟨rfl, rfl⟩
    · rw [heq]
      have hdispatched := Session.dispatched Slots.host .terminal line
        { r.session with history := r.session.history.record line } r.slots
      refine h.dispatched_cases ?_ hdispatched
      rfl
  | abort => exact .inl ⟨rfl, Slots.length_workers_of_runs_eq (runs_abort r)⟩
  | shutdown => exact .inl ⟨rfl, Slots.length_workers_of_runs_eq (runs_shutdown r)⟩
  | openProgram program =>
    exact .inl ⟨rfl, Slots.length_workers_of_runs_eq (runs_openProgram program r)⟩
  | clear | setProgramText | submit | previous | next | clearProgram | markSaved =>
    exact .inl ⟨rfl, rfl⟩

/-! ### Keeping the run in flight -/

end Coherent

/-- While a run is in flight, operations that do not give it up leave it and the slots alone. -/
theorem perform_of_running (hrunning : r.session.isRunning = true) (call : Call) :
    (call = .abort ∨ (∃ program, call = .openProgram program) ∨ call = .shutdown) ∨
      (r.perform call).session.flight = r.session.flight ∧ (r.perform call).slots = r.slots := by
  obtain ⟨flight, hflight⟩ := Session.isRunning_iff.1 hrunning
  have hdispatch (mode : RunMode) (source : String) (session : Session)
      (hsession : session.flight = some flight) :
      session.dispatch Slots.host mode source r.slots =
        (.error .runInFlight, session, r.slots) := by
    rw [Session.dispatch, if_pos (Session.isRunning_of_flight hsession)]
  cases call with
  | abort => exact .inl (.inl rfl)
  | openProgram program => exact .inl (.inr (.inl ⟨program, rfl⟩))
  | shutdown => exact .inl (.inr (.inr rfl))
  | dispatch mode source =>
    rw [perform, dispatch, withSession_snd, hdispatch mode source r.session hflight]
    exact .inr ⟨rfl, rfl⟩
  | runProgram =>
    rw [perform, runProgram, withSession_snd, Session.runProgram,
      hdispatch .program _ r.session hflight]
    exact .inr ⟨rfl, rfl⟩
  | runLine line =>
    rw [perform, runLine, withSession_snd]
    rcases Session.runLine_cases Slots.host line r.session r.slots with ⟨error, heq⟩ | heq
    · rw [heq]
      exact .inr ⟨rfl, rfl⟩
    · rw [heq, hdispatch .terminal line _ (by exact hflight)]
      exact .inr ⟨rfl, rfl⟩
  | clear =>
    rw [perform, clear, onSession_snd]
    rcases Session.clear_cases r.session with ⟨_, _, heq⟩ | ⟨hidle, _⟩
    · rw [heq]
      exact .inr ⟨rfl, rfl⟩
    · simp [hflight] at hidle
  | submit line =>
    rw [perform, onSession_snd]
    rcases Session.submit_cases line r.session with heq | heq <;> rw [heq] <;>
      exact .inr ⟨rfl, rfl⟩
  | setProgramText | previous | next | clearProgram | markSaved => exact .inr ⟨rfl, rfl⟩

/-- Operations that give up the run in flight leave the session idle. -/
theorem flight_openProgram (program : Program) (r : Runner) :
    (r.openProgram program).session.flight = none := by
  rw [openProgram]
  cases hflight : r.session.flight with
  | none =>
    rw [Session.openProgram_of_idle program hflight]
    exact hflight
  | some flight =>
    rw [Session.openProgram_of_flight program hflight]
    rfl

end Runner

namespace World

variable {w : World} {n m : Nat} {a : Act}

/-- The run with this number is in flight before an act, and not after it. -/
def Settles (w : World) (a : Act) (n : Nat) : Prop :=
  w.runner.InFlight n ∧ ¬(w.act a).runner.InFlight n

/-- What can settle a run: an event takes effect that its own worker or watchdog has sent, or an
operation gives it up. -/
inductive Ends (w : World) (n : Nat) : Act → Prop where
  | event {thread : Nat} {now : String} {event : RunEvent} (holds : w.held thread = some event)
      (own : w.Sent n event) : Ends w n (.applies thread now)
  | abort : Ends w n (.call .abort)
  | openProgram (program : Program) : Ends w n (.call (.openProgram program))
  | shutdown : Ends w n (.call .shutdown)

/-- In this act an operation starts a run. -/
def Starts (w : World) (a : Act) : Prop :=
  ∃ call, a = .call call ∧ call.starts w.runner = true

/-! ### Runs that were started -/

/-- An act adds a run exactly if it starts one, and then it is in flight. -/
theorem Sound.act_cases (h : w.Sound) (a : Act) :
    ¬w.Starts a ∧
        (w.act a).runner.slots.workers.length = w.runner.slots.workers.length ∨
      w.Starts a ∧ w.runner.session.isRunning = false ∧
        (w.act a).runner.slots.workers.length = w.runner.slots.workers.length + 1 ∧
        (w.act a).runner.InFlight w.runner.slots.workers.length := by
  by_cases hcall : ∃ call, a = .call call
  · obtain ⟨call, rfl⟩ := hcall
    rcases h.coherent.perform_cases call with ⟨hstarts, hlength⟩ | ⟨hstarts, hadded⟩
    · refine .inl ⟨?_, hlength⟩
      rintro ⟨call', heq, hstarts'⟩
      obtain rfl := Act.call.inj heq
      simp [hstarts] at hstarts'
    · exact .inr ⟨⟨call, rfl, hstarts⟩, hadded⟩
  · refine .inl ⟨fun ⟨call, heq, _⟩ ↦ hcall ⟨call, heq⟩, ?_⟩
    have hacted := acted w a
    generalize w.act a = w' at hacted ⊢
    cases hacted with
    | calls call => exact absurd ⟨call, rfl⟩ hcall
    | rests | returns | looks | takes => rfl
    | reports => rw [Runner.slots_report, Slots.report, List.length_modify]
    | alarms => rw [Runner.slots_post]
    | applies => exact Slots.length_workers_of_runs_eq (Runner.runs_apply _ _ _)

/-! ### What settles a run -/

/-- A held event about the active run was sent by that run. -/
theorem Sound.sent_of_isActive (h : w.Sound) {thread : Nat} {event : RunEvent}
    (holds : w.held thread = some event)
    (hactive : w.runner.slots.isActive event.ticket = true) :
    ∃ n, w.runner.InFlight n ∧ w.Sent n event := by
  obtain ⟨n, hsent⟩ := h.sent (.inr ⟨thread, holds⟩)
  obtain ⟨run, hrun, hticket⟩ := hsent.ticket_eq
  rw [Slots.getElem?_runs] at hrun
  obtain ⟨worker, hworker, rfl⟩ := Option.map_eq_some_iff.1 hrun
  exact ⟨n, h.coherent.inFlight_iff.2 ⟨worker, hworker, hticket ▸ hactive⟩, hsent⟩

/-- At most one run is in flight. -/
theorem Sound.inFlight_unique (h : w.Sound) (hn : w.runner.InFlight n)
    (hm : w.runner.InFlight m) : n = m := by
  obtain ⟨-, worker, hworker, hactive⟩ := hn
  obtain ⟨-, worker', hworker', hactive'⟩ := hm
  have hlast := h.coherent.slots.eq_last_of_isActive hworker hactive
  have hlast' := h.coherent.slots.eq_last_of_isActive hworker' hactive'
  omega

/-- The run in flight is settled by an event that it has sent, by an operation that gives it up, and
by nothing else. -/
theorem Sound.settles_iff (h : w.Sound) :
    w.Settles a n ↔ w.runner.InFlight n ∧ w.Ends n a := by
  refine ⟨fun ⟨hin, hout⟩ ↦ ⟨hin, ?_⟩, fun ⟨hin, hends⟩ ↦ ⟨hin, ?_⟩⟩
  · have hacted := acted w a
    generalize w.act a = w' at hacted hout
    cases hacted with
    | rests | returns | looks | takes => exact absurd hin hout
    | calls call =>
      rcases Runner.perform_of_running hin.1 call with
        (rfl | ⟨program, rfl⟩ | rfl) | ⟨hflight, hslots⟩
      · exact .abort
      · exact .openProgram program
      · exact .shutdown
      · -- Any other operation leaves the run in flight.
        refine absurd ⟨?_, hslots ▸ hin.2⟩ hout
        rw [Session.isRunning, hflight]
        exact hin.1
    | @reports m outcome worker started returned before =>
      obtain ⟨hrunning, worker', hworker', hactive⟩ := hin
      refine absurd ⟨?_, ?_⟩ hout
      · rw [Runner.session_report]
        exact hrunning
      · rw [Runner.slots_report]
        simp only [Slots.getElem?_workers_report, hworker', Option.map_some]
        refine ⟨_, rfl, ?_⟩
        split <;> exact hactive
    | alarms =>
      refine absurd ⟨?_, ?_⟩ hout
      · rw [Runner.session_post]
        exact hin.1
      · rw [Runner.slots_post]
        exact hin.2
    | @applies thread now event holds =>
      by_cases hactive : w.runner.slots.isActive event.ticket = true
      · -- The sender is the run in flight, and there is only one.
        obtain ⟨m, hm, hsent⟩ := h.sent_of_isActive holds hactive
        obtain rfl := h.inFlight_unique hin hm
        exact .event holds hsent
      · rw [Runner.apply_of_not_isActive now hactive] at hout
        exact absurd hin hout
  · have hidle : (w.act a).runner.session.flight = none := by
      cases hends with
      | abort => exact Runner.flight_abort w.runner
      | openProgram program => exact Runner.flight_openProgram program w.runner
      | shutdown => exact Runner.flight_abort w.runner
      | @event thread now event holds own =>
        obtain ⟨run, hrun, hticket⟩ := own.ticket_eq
        obtain ⟨-, worker, hworker, hactive⟩ := hin
        rw [Slots.getElem?_runs, hworker, Option.map_some, Option.some.injEq] at hrun
        rw [act_applies now holds]
        refine (h.coherent.apply_of_isActive now ?_).1
        rw [hticket, ← hrun]
        exact hactive
    exact fun hlater ↦ Session.not_isRunning_iff.2 hidle hlater.1

/-- A run that was started is in flight only if it was before: no run is resumed. -/
theorem Sound.inFlight_of_after (h : w.Sound) (acts : List Act)
    (hn : n < w.runner.slots.workers.length) (hlater : (w.after acts).runner.InFlight n) :
    w.runner.InFlight n := by
  have hworker := List.getElem?_eq_getElem hn
  have hrun : w.runner.slots.runs[n]? = some w.runner.slots.workers[n].core := by
    rw [Slots.getElem?_runs, hworker, Option.map_some]
  obtain ⟨-, worker', hworker', hactive⟩ := hlater
  obtain ⟨run', hrun', hticket, -⟩ := (grows_after h acts).run hrun
  rw [Slots.getElem?_runs, hworker', Option.map_some, Option.some.injEq] at hrun'
  have hactive' := isActive_of_after h acts hrun (by
    rw [← hticket, ← hrun']
    exact hactive)
  exact h.coherent.inFlight_iff.2 ⟨_, hworker, hactive'⟩

/-- A run is settled at most once. -/
theorem Sound.settles_once (h : w.Sound) (hsettles : w.Settles a n) (acts : List Act) (b : Act) :
    ¬((w.act a).after acts).Settles b n := by
  obtain ⟨⟨-, worker, hworker, -⟩, hout⟩ := hsettles
  have hlt := (List.getElem?_eq_some_iff.1 hworker).1
  have hlater : n < (w.act a).runner.slots.workers.length := by
    rcases h.act_cases a with ⟨-, hlength⟩ | ⟨-, -, hlength, -⟩ <;> omega
  exact fun hagain ↦ hout ((h.act a).inFlight_of_after acts hlater hagain.1)

/-- A run that was started and is not in flight any more was settled. -/
theorem exists_settles (policy : CommitPolicy) (supply : Supply) (hasWaker : Bool)
    {acts : List Act} :
    let start := new policy supply hasWaker
    n < (start.after acts).runner.slots.workers.length → ¬(start.after acts).runner.InFlight n →
      ∃ pre a, pre ++ [a] <+: acts ∧ (start.after pre).Settles a n := by
  intro start
  induction acts using List.reverseRecOn with
  | nil => simp [start, new, Runner.new]
  | append_singleton acts a ih =>
    rw [after_append, after_cons, after_nil]
    intro hlt hout
    have hsound : (start.after acts).Sound := sound_after policy supply hasWaker acts
    by_cases hbefore : n < (start.after acts).runner.slots.workers.length
    · by_cases hin : (start.after acts).runner.InFlight n
      · exact ⟨acts, a, List.prefix_rfl, hin, hout⟩
      · obtain ⟨pre, b, hpre, hsettles⟩ := ih hbefore hin
        exact ⟨pre, b, hpre.trans (List.prefix_append ..), hsettles⟩
    · -- The act started it.
      rcases hsound.act_cases a with ⟨-, hlength⟩ | ⟨-, -, hlength, hin⟩
      · exact absurd (hlength ▸ hlt) hbefore
      · obtain rfl : n = (start.after acts).runner.slots.workers.length := by omega
        exact absurd hin hout

/-- Every run that is started is settled at most once, by its own event or by an operation that
gives it up, under every schedule. In the order of the statement: after a schedule,

* an act either starts a run, which no other may be in flight for and which is in flight then, or
  adds no run;
* a run that was started is in flight, or was settled in an act of the schedule;
* an act settles a run exactly if the run is in flight and the act lets an event take effect that
  was sent by the worker or the watchdog of that very run, or is one of the operations that give it
  up;
* no later act settles the run again;
* an event that changes the session was sent by the run in flight, and by no other run, and brings
  what the execution of that run returned;
* an event about another run than the active one changes nothing;
* deleting from the schedule all that is about events of the latter kind leaves, at every moment,
  the session and what is in the slots as they are;
* and no event of that kind is left then. -/
theorem runs_settled_once (policy : CommitPolicy) (supply : Supply) (hasWaker : Bool)
    (acts : List Act) :
    let start := new policy supply hasWaker
    let w := start.after acts
    (∀ a, ¬w.Starts a ∧
          (w.act a).runner.slots.workers.length = w.runner.slots.workers.length ∨
        w.Starts a ∧ w.runner.session.isRunning = false ∧
          (w.act a).runner.slots.workers.length = w.runner.slots.workers.length + 1 ∧
          (w.act a).runner.InFlight w.runner.slots.workers.length) ∧
      (∀ n < w.runner.slots.workers.length, w.runner.InFlight n ∨
        ∃ pre a, pre ++ [a] <+: acts ∧ (start.after pre).Settles a n) ∧
      (∀ a n, w.Settles a n ↔ w.runner.InFlight n ∧ w.Ends n a) ∧
      (∀ a n, w.Settles a n → ∀ acts' b, ¬((w.act a).after acts').Settles b n) ∧
      (∀ thread now event, w.held thread = some event →
        (w.act (.applies thread now)).runner.session ≠ w.runner.session →
        ∃ n, w.runner.InFlight n ∧ w.Sent n event ∧ (∀ m, w.Sent m event → m = n) ∧
          (∀ ticket response, event = .completed ticket response →
            w.outcome? n = some (.responded response)) ∧
          ∀ ticket message, event = .failed ticket message →
            w.outcome? n = some (.broke message) ∨
              w.outcome? n = some .panicked ∧ event = .panicked ticket) ∧
      (∀ thread now event, w.held thread = some event →
        w.runner.slots.isActive event.ticket = false →
        (w.act (.applies thread now)).runner = w.runner) ∧
      (∀ pre, pre <+: acts →
        let v := start.after (prune (start.dropped acts) start pre)
        v.runner.session = (start.after pre).runner.session ∧
          v.runner.slots.active = (start.after pre).runner.slots.active ∧
          v.runner.slots.idle = (start.after pre).runner.slots.idle) ∧
      start.dropped (prune (start.dropped acts) start acts) = [] := by
  intro start w
  have hw : w.Sound := sound_after policy supply hasWaker acts
  obtain ⟨hprune, hnone⟩ := prune_dropped policy supply hasWaker acts
  refine ⟨hw.act_cases, fun n hn ↦ ?_, fun a n ↦ hw.settles_iff, fun a n ↦ hw.settles_once, ?_, ?_,
    fun pre hpre ↦ ?_, hnone⟩
  · by_cases hin : w.runner.InFlight n
    · exact .inl hin
    · exact .inr (exists_settles policy supply hasWaker hn hin)
  · intro thread now event holds hchanged
    rw [act_applies now holds] at hchanged
    by_cases hactive : w.runner.slots.isActive event.ticket = true
    · obtain ⟨n, hn, hsent⟩ := hw.sent_of_isActive holds hactive
      refine ⟨n, hn, hsent, fun m hm ↦ hm.unique hsent hw.coherent.slots.toNumbered, ?_, ?_⟩
      · rintro ticket response rfl
        exact hsent.outcome_of_completed
      · rintro ticket message rfl
        exact hsent.outcome_of_failed
    · rw [Runner.apply_of_not_isActive now hactive] at hchanged
      exact absurd rfl hchanged
  · intro thread now event holds hstale
    rw [act_applies now holds]
    exact Runner.apply_of_not_isActive now (by simp [hstale])
  · have halike := (hprune pre hpre).alike
    exact ⟨halike.session, halike.active_eq, halike.idle_eq⟩

end World

end Workbench
