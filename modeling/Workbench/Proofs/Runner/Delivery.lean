import Workbench.Proofs.Runner.Pending

/-!
# No result is lost

As long as a run is in the active slot, its worker is still at it, or what the worker reported is in
the queue, or a thread that drains the queue is just about to let it take effect. So once the queue
is empty and no thread is in between, a session can be running only if a worker is. The last theorem
of this module states that for all schedules, and with it what draining the queue comes to.

`Runner.flush` is the schedule in which one thread takes and applies events until the queue is empty
and nobody else acts (`World.after_drain`).
-/

namespace Workbench

namespace Runner

variable {r : Runner}

/-- What an event does has nothing to do with the events behind it. -/
theorem apply_withQueue (now : String) (event : RunEvent) (queue : List RunEvent) (r : Runner) :
    { r with queue }.apply now event = { r.apply now event with queue } := by
  by_cases hactive : r.slots.isActive event.ticket = true
  · rw [apply.eq_def, apply.eq_def, if_pos hactive, if_pos hactive]
    cases event with
    | completed ticket response =>
      dsimp only
      split <;> rfl
    | failed ticket message =>
      dsimp only
      split <;> rfl
    | timedOut ticket => rfl
  · rw [apply_of_not_isActive now hactive]
    exact apply_of_not_isActive now hactive

theorem flush_snd (now : String) (r : Runner) :
    (r.flush now).2 = r.queue.foldl (fun r event ↦ r.apply now event) { r with queue := [] } :=
  rfl

/-- Draining begins with the first event. -/
theorem flush_cons (now : String) {event : RunEvent} {rest : List RunEvent}
    (hqueue : r.queue = event :: rest) :
    (r.flush now).2 = (({ r with queue := rest }.apply now event).flush now).2 := by
  have hrest : ({ r with queue := rest }.apply now event).queue = rest :=
    (apply_moves now event _).queue_eq
  have hfirst : { r with queue := [] }.apply now event =
      { { r with queue := rest }.apply now event with queue := [] } := by
    rw [apply_withQueue now event [] r, apply_withQueue now event rest r]
  rw [flush_snd, flush_snd, hqueue, hrest, List.foldl_cons, hfirst]

/-- Without a run in the active slot no event does anything. -/
theorem foldl_apply_of_free (now : String) (ha : r.slots.active = none) (events : List RunEvent) :
    events.foldl (fun r event ↦ r.apply now event) r = r := by
  induction events with
  | nil => rfl
  | cons event events ih =>
    have hstale : ¬r.slots.isActive event.ticket = true := by
      rw [Slots.isActive_of_none ha]
      simp
    rw [List.foldl_cons, apply_of_not_isActive now hstale, ih]

/-- Among some events that take effect, one about the active run ends it. -/
theorem Coherent.flight_foldl_apply (h : r.Coherent) (now : String) {event : RunEvent}
    {events : List RunEvent} (hmem : event ∈ events)
    (hactive : r.slots.isActive event.ticket = true) :
    (events.foldl (fun r event ↦ r.apply now event) r).session.flight = none := by
  induction events with
  | nil => simp at hmem
  | cons first events ih =>
    rw [List.foldl_cons]
    by_cases hfirst : r.slots.isActive first.ticket = true
    · obtain ⟨hidle, hfree⟩ := h.apply_of_isActive now hfirst
      rw [foldl_apply_of_free now hfree, hidle]
    · have hrest : event ∈ events :=
        (List.mem_cons.1 hmem).resolve_left fun heq ↦ hfirst (heq ▸ hactive)
      rw [apply_of_not_isActive now hfirst]
      exact ih hrest

/-- Draining a queue with an event about the active run leaves the session idle. So does draining
when no run is in the active slot. -/
theorem Coherent.flight_flush (h : r.Coherent) (now : String)
    (hpending : ∀ a, r.slots.active = some a → ∃ event ∈ r.queue, event.ticket = a.ticket) :
    (r.flush now).2.session.flight = none := by
  have hempty : { r with queue := [] }.Coherent := h.congr rfl rfl
  rw [flush_snd]
  cases ha : r.slots.active with
  | none =>
    have hfree : { r with queue := [] }.slots.active = none := ha
    rw [foldl_apply_of_free now hfree]
    by_contra hrunning
    obtain ⟨flight, hflight⟩ := Option.ne_none_iff_exists'.1 hrunning
    obtain ⟨a, ha', -⟩ := h.exists_active hflight
    simp [ha] at ha'
  | some a =>
    obtain ⟨event, hmem, hticket⟩ := hpending a ha
    exact hempty.flight_foldl_apply now hmem (Slots.isActive_iff.2 ⟨a, ha, hticket.symm⟩)

end Runner

namespace World

variable {w : World} {thread : Nat}

/-- A thread takes so many events off the queue and lets each take effect. -/
def drain (thread : Nat) (now : String) : Nat → List Act
  | 0 => []
  | count + 1 => .takes thread :: .applies thread now :: drain thread now count

/-- Taking the first event and letting it take effect. -/
theorem act_takes_applies (now : String) {event : RunEvent} {rest : List RunEvent}
    (free : w.held thread = none) (queue : w.runner.queue = event :: rest) :
    (w.act (.takes thread)).act (.applies thread now) =
      { w with runner := { w.runner with queue := rest }.apply now event } := by
  rw [act_takes free queue, act_applies now (Function.update_self ..), Function.update_idem,
    ← free, Function.update_eq_self]

/-- Draining the queue without anyone in between is a schedule. -/
theorem after_drain (now : String) (free : w.held thread = none) :
    w.after (drain thread now w.runner.queue.length) =
      { w with runner := (w.runner.flush now).2 } := by
  generalize hqueue : w.runner.queue = queue
  induction queue generalizing w with
  | nil =>
    have hnil : { w.runner with queue := [] } = w.runner := by rw [← hqueue]
    rw [Runner.flush, hqueue, List.foldl_nil, hnil]
    rfl
  | cons event rest ih =>
    rw [List.length_cons, drain, after_cons, after_cons, act_takes_applies now free hqueue,
      Runner.flush_cons now hqueue]
    exact ih free (Runner.apply_moves now event _).queue_eq

namespace Sound

/-- The run in the active slot is still at work, or its report is pending. -/
theorem report_pending (h : w.Sound) {a : ActiveRun} (ha : w.runner.slots.active = some a) :
    ∃ n worker, w.runner.slots.workers[n]? = some worker ∧ worker.ticket = a.ticket ∧
      (worker.reported = false ∨
        ∃ outcome, w.outcome? n = some outcome ∧ w.Pending (outcome.event a.ticket)) := by
  obtain ⟨n, worker, -, hworker, hticket, -⟩ := h.coherent.slots.exists_last_of_active ha
  refine ⟨n, worker, hworker, hticket, ?_⟩
  cases hreported : worker.reported with
  | false => exact .inl rfl
  | true =>
    have hrun : w.runner.slots.runs[n]? = some worker.core := by
      rw [Slots.getElem?_runs, hworker, Option.map_some]
    obtain ⟨outcome, houtcome⟩ := h.returned hrun hreported
    have hactive : w.runner.slots.isActive worker.core.ticket = true :=
      Slots.isActive_iff.2 ⟨a, ha, hticket.symm⟩
    have hdelivered := h.delivered hrun hreported hactive houtcome
    exact .inr ⟨outcome, houtcome, hticket ▸ hdelivered⟩

/-- With nothing pending, a session runs only as long as a worker does. -/
theorem exists_unreported (h : w.Sound) (hrunning : w.runner.session.isRunning = true)
    (hqueue : w.runner.queue = []) (hheld : ∀ thread, w.held thread = none) :
    ∃ worker ∈ w.runner.slots.workers, w.runner.slots.isActive worker.ticket = true ∧
      worker.reported = false := by
  obtain ⟨a, ha⟩ := h.coherent.isRunning_iff.1 hrunning
  obtain ⟨n, worker, hworker, hticket, hreported | ⟨outcome, -, hpending⟩⟩ := h.report_pending ha
  · exact ⟨worker, List.mem_of_getElem? hworker,
      Slots.isActive_iff.2 ⟨a, ha, hticket.symm⟩, hreported⟩
  · rcases hpending with hmem | ⟨thread, holds⟩
    · simp [hqueue] at hmem
    · simp [hheld] at holds

/-- The run that an event is about is not in the active slot once the event has taken effect, and
never again. -/
theorem isActive_applied (h : w.Sound) (now : String) {event : RunEvent}
    (holds : w.held thread = some event) (acts : List Act) :
    (w.after (.applies thread now :: acts)).runner.slots.isActive event.ticket = false := by
  have hnext : (w.act (.applies thread now)).runner.slots.isActive event.ticket = false := by
    rw [act_applies now holds]
    by_cases hactive : w.runner.slots.isActive event.ticket = true
    · exact Slots.isActive_of_none (h.coherent.apply_of_isActive now hactive).2 _
    · rw [Runner.apply_of_not_isActive now hactive]
      exact Bool.eq_false_iff.2 hactive
  -- The run was started before, so it does not come back.
  obtain ⟨n, hsent⟩ := (h.spent now holds).1
  obtain ⟨run, hrun, hticket⟩ := hsent.ticket_eq
  rw [hticket] at hnext ⊢
  rw [after_cons, Bool.eq_false_iff]
  intro hactive
  rw [isActive_of_after (h.act _) acts hrun hactive] at hnext
  simp at hnext

end Sound

/-- After every schedule: the worker of the run in the active slot has not reported yet, or what it
reported is in the queue or held by a thread that drains it. So if the session runs while the queue
is empty and no thread is in between, the worker of its run has not reported. An event that takes
effect ends the run that it is about, for good: that run is never active again, and if it was
active the session is idle. And if no thread is in between and the worker of the active run has
reported, draining the queue leaves the session idle. -/
theorem result_delivered (policy : CommitPolicy) (supply : Supply) (hasWaker : Bool)
    (acts : List Act) :
    let w := (new policy supply hasWaker).after acts
    (∀ a, w.runner.slots.active = some a →
      ∃ n worker, w.runner.slots.workers[n]? = some worker ∧ worker.ticket = a.ticket ∧
        (worker.reported = false ∨
          ∃ outcome, w.outcome? n = some outcome ∧
            (outcome.event a.ticket ∈ w.runner.queue ∨
              ∃ thread, w.held thread = some (outcome.event a.ticket)))) ∧
      (w.runner.session.isRunning = true → w.runner.queue = [] → (∀ thread, w.held thread = none) →
        ∃ worker ∈ w.runner.slots.workers, w.runner.slots.isActive worker.ticket = true ∧
          worker.reported = false) ∧
      (∀ thread now event, w.held thread = some event →
        (w.runner.slots.isActive event.ticket = true →
          (w.act (.applies thread now)).runner.session.isRunning = false) ∧
        ∀ acts', (w.after (.applies thread now :: acts')).runner.slots.isActive event.ticket =
          false) ∧
      ((∀ thread, w.held thread = none) →
        (∀ worker ∈ w.runner.slots.workers, w.runner.slots.isActive worker.ticket = true →
          worker.reported = true) →
        ∀ now, (w.runner.flush now).2.session.isRunning = false) := by
  intro w
  have hw : w.Sound := sound_after policy supply hasWaker acts
  refine ⟨fun a ↦ hw.report_pending, hw.exists_unreported, fun thread now event holds ↦
    ⟨fun hactive ↦ ?_, hw.isActive_applied now holds⟩, fun hheld hreported now ↦ ?_⟩
  · rw [act_applies now holds, Bool.eq_false_iff]
    exact Session.not_isRunning_iff.2 (hw.coherent.apply_of_isActive now hactive).1
  · refine Bool.eq_false_iff.2 (Session.not_isRunning_iff.2 (hw.coherent.flight_flush now ?_))
    intro a ha
    obtain ⟨n, worker, hworker, hticket, hunreported | ⟨outcome, -, hpending⟩⟩ :=
      hw.report_pending ha
    · have hactive := Slots.isActive_iff.2 ⟨a, ha, hticket.symm⟩
      rw [hreported worker (List.mem_of_getElem? hworker) hactive] at hunreported
      simp at hunreported
    · rcases hpending with hmem | ⟨thread, holds⟩
      · exact ⟨_, hmem, Outcome.ticket_event _ _⟩
      · simp [hheld] at holds

end World

end Workbench
