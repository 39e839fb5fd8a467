import Mathlib.Data.List.Nodup
import Workbench.Proofs.Runner.World

/-!
# Events on their way

An event is *pending* from the moment it is added to the queue until it takes effect: it is in the
queue, or a draining thread holds it. `World.Sound` is the invariant of all schedules. Beside the
coherence of the runner it says that

* a pending event was sent by the worker or the watchdog of a run (`World.Sent`), and no event is
  pending twice. Since each of the two sends at most once, an event that took effect never comes
  back (`World.Spent.act`);
* as long as a run is in the active slot and its worker has reported, what it reported is pending.

The second part would fail if an operation could put a run into the active slot again, or if an
event about the active run could be dropped. That neither happens is what coherence is for.
-/

namespace Workbench

/-! ### Changing one place -/

section Update

variable {α : Type} {f : Nat → α} {place n : Nat} {old new value : α}

/-- A value found somewhere is still found there when a place that held another one is changed. -/
theorem update_eq_of_ne (before : f place = old) (hne : old ≠ value) (hn : f n = value) :
    Function.update f place new n = value := by
  rw [Function.update_of_ne, hn]
  rintro rfl
  exact hne (before.symm.trans hn)

/-- A value found after one place was changed is the new one, at that place, or was there. -/
theorem eq_or_of_update_eq (h : Function.update f place new n = value) :
    n = place ∧ new = value ∨ f n = value := by
  rw [Function.update_apply] at h
  split at h
  · exact .inl ⟨‹_›, h⟩
  · exact .inr h

end Update

/-! ### Distinct events -/

/-- No event is queued twice, held by two threads, or both queued and held. -/
structure Distinct (queue : List RunEvent) (held : Nat → Option RunEvent) : Prop where
  queue_nodup : queue.Nodup
  held_unique : ∀ {thread thread' : Nat} {event : RunEvent}, held thread = some event →
    held thread' = some event → thread = thread'
  held_not_queued : ∀ {thread : Nat} {event : RunEvent}, held thread = some event → event ∉ queue

namespace Distinct

variable {queue : List RunEvent} {held : Nat → Option RunEvent} {event : RunEvent}

/-- A new event is added to the queue. -/
theorem push (h : Distinct queue held) (hqueue : event ∉ queue)
    (hheld : ∀ thread, held thread ≠ some event) : Distinct (queue ++ [event]) held where
  queue_nodup := by
    refine h.queue_nodup.append (List.nodup_singleton event) ?_
    simpa using hqueue
  held_unique := h.held_unique
  held_not_queued {thread e} hthread := by
    rw [List.mem_append, List.mem_singleton]
    rintro (hmem | rfl)
    · exact h.held_not_queued hthread hmem
    · exact hheld thread hthread

/-- A thread that holds none takes the first event. -/
theorem take (h : Distinct (event :: queue) held) (thread : Nat) :
    Distinct queue (Function.update held thread (some event)) where
  queue_nodup := (List.nodup_cons.1 h.queue_nodup).2
  held_unique ht ht' := by
    rcases eq_or_of_update_eq ht with ⟨hthread, heq⟩ | hold <;>
      rcases eq_or_of_update_eq ht' with ⟨hthread', heq'⟩ | hold'
    · exact hthread.trans hthread'.symm
    · obtain rfl := Option.some.inj heq
      exact absurd List.mem_cons_self (h.held_not_queued hold')
    · obtain rfl := Option.some.inj heq'
      exact absurd List.mem_cons_self (h.held_not_queued hold)
    · exact h.held_unique hold hold'
  held_not_queued ht := by
    rcases eq_or_of_update_eq ht with ⟨-, heq⟩ | ht
    · obtain rfl := Option.some.inj heq
      exact (List.nodup_cons.1 h.queue_nodup).1
    · exact fun hmem ↦ h.held_not_queued ht (List.mem_cons_of_mem _ hmem)

/-- A thread lets go of its event. -/
theorem drop (h : Distinct queue held) (thread : Nat) :
    Distinct queue (Function.update held thread none) := by
  have hold {t : Nat} {e : RunEvent} (ht : Function.update held thread none t = some e) :
      held t = some e :=
    (eq_or_of_update_eq ht).resolve_left (by simp)
  exact ⟨h.queue_nodup, fun ht ht' ↦ h.held_unique (hold ht) (hold ht'),
    fun ht ↦ h.held_not_queued (hold ht)⟩

end Distinct

namespace World

variable {w : World} {n m : Nat} {event : RunEvent}

/-- An event is in the queue, or a draining thread holds it. -/
def Pending (w : World) (event : RunEvent) : Prop :=
  event ∈ w.runner.queue ∨ ∃ thread, w.held thread = some event

/-- The worker of a run has reported this event, or its watchdog has raised the alarm with it. -/
def Sent (w : World) (n : Nat) (event : RunEvent) : Prop :=
  ∃ run, w.runner.slots.runs[n]? = some run ∧
    ((run.reported = true ∧ ∃ outcome, w.outcome? n = some outcome ∧
        event = outcome.event run.ticket) ∨
      (w.watch n = .alarmed ∧ event = .timedOut run.ticket))

/-- What holds after every schedule. -/
structure Sound (w : World) : Prop where
  /-- Session and slots agree. -/
  coherent : w.runner.Coherent
  /-- A worker reports only what its execution returned. -/
  returned : ∀ {n : Nat} {run : Worker}, w.runner.slots.runs[n]? = some run →
    run.reported = true → ∃ outcome, w.outcome? n = some outcome
  /-- No event is pending twice. -/
  distinct : Distinct w.runner.queue w.held
  /-- What is pending was sent. -/
  sent : ∀ {event : RunEvent}, w.Pending event → ∃ n, w.Sent n event
  /-- The report of the active run is pending. -/
  delivered : ∀ {n : Nat} {run : Worker} {outcome : Outcome},
    w.runner.slots.runs[n]? = some run → run.reported = true →
    w.runner.slots.isActive run.ticket = true → w.outcome? n = some outcome →
    w.Pending (outcome.event run.ticket)

/-- The first moment. -/
theorem sound_new (policy : CommitPolicy) (supply : Supply) (hasWaker : Bool) :
    (new policy supply hasWaker).Sound where
  coherent := Runner.coherent_new policy supply hasWaker
  returned hrun := by simp [new, Runner.new, Slots.runs] at hrun
  distinct := ⟨List.nodup_nil, fun ht ↦ by simp [new] at ht, fun ht ↦ by simp [new] at ht⟩
  sent hpending := by simp [Pending, new, Runner.new] at hpending
  delivered hrun := by simp [new, Runner.new, Slots.runs] at hrun

/-! ### What was sent stays sent -/

theorem Sent.ticket_eq (h : w.Sent n event) :
    ∃ run, w.runner.slots.runs[n]? = some run ∧ event.ticket = run.ticket := by
  obtain ⟨run, hrun, ⟨-, outcome, -, rfl⟩ | ⟨-, rfl⟩⟩ := h
  · exact ⟨run, hrun, Outcome.ticket_event _ _⟩
  · exact ⟨run, hrun, rfl⟩

/-- An event carries the ticket of the run that sent it, and of no other. -/
theorem Sent.eq_of_ticket_eq (h : w.Sent n event) (hslots : w.runner.slots.Numbered)
    {run : Worker} (hrun : w.runner.slots.runs[m]? = some run)
    (hticket : event.ticket = run.ticket) : n = m := by
  obtain ⟨run', hrun', hticket'⟩ := h.ticket_eq
  have hn := hslots.seq_of_run hrun'
  have hm := hslots.seq_of_run hrun
  rw [← hticket', hticket] at hn
  omega

/-- An event is sent by one run only. -/
theorem Sent.unique (h : w.Sent n event) (h' : w.Sent m event) (hslots : w.runner.slots.Numbered) :
    n = m := by
  obtain ⟨run, hrun, hticket⟩ := h'.ticket_eq
  exact h.eq_of_ticket_eq hslots hrun hticket

/-- A response that was sent is the one that the execution of the run returned. -/
theorem Sent.outcome_of_completed {ticket : Ticket} {response : Response}
    (h : w.Sent n (.completed ticket response)) : w.outcome? n = some (.responded response) := by
  obtain ⟨run, -, ⟨-, outcome, houtcome, hevent⟩ | ⟨-, hevent⟩⟩ := h
  · cases outcome with
    | responded response' =>
      obtain ⟨-, rfl⟩ := RunEvent.completed.inj hevent
      exact houtcome
    | broke message => simp [Outcome.event] at hevent
    | panicked => simp [Outcome.event, RunEvent.panicked] at hevent
  · simp at hevent

/-- An error that was sent is the one that the execution of the run returned, or tells of its
panic. -/
theorem Sent.outcome_of_failed {ticket : Ticket} {message : String}
    (h : w.Sent n (.failed ticket message)) :
    w.outcome? n = some (.broke message) ∨
      w.outcome? n = some .panicked ∧ .failed ticket message = RunEvent.panicked ticket := by
  obtain ⟨run, -, ⟨-, outcome, houtcome, hevent⟩ | ⟨-, hevent⟩⟩ := h
  · cases outcome with
    | responded response => simp [Outcome.event] at hevent
    | broke message' =>
      obtain ⟨-, rfl⟩ := RunEvent.failed.inj hevent
      exact .inl houtcome
    | panicked =>
      obtain ⟨-, rfl⟩ := RunEvent.failed.inj hevent
      exact .inr ⟨houtcome, rfl⟩
  · simp at hevent

/-- How a world may relate to a later one for what was sent to stay sent: runs keep their tickets
and their reports, and what threads found out stays found out. -/
structure Grows (w w' : World) : Prop where
  run : ∀ {n : Nat} {run : Worker}, w.runner.slots.runs[n]? = some run →
    ∃ run', w'.runner.slots.runs[n]? = some run' ∧ run'.ticket = run.ticket ∧
      (run.reported = true → run'.reported = true)
  outcome : ∀ {n : Nat} {outcome : Outcome}, w.outcome? n = some outcome →
    w'.outcome? n = some outcome
  alarm : ∀ {n : Nat}, w.watch n = .alarmed → w'.watch n = .alarmed

theorem Sent.grows {w' : World} (h : w.Sent n event) (hgrows : w.Grows w') : w'.Sent n event := by
  obtain ⟨run, hrun, hevent⟩ := h
  obtain ⟨run', hrun', hticket, hreported⟩ := hgrows.run hrun
  refine ⟨run', hrun', ?_⟩
  rw [hticket]
  exact hevent.imp (fun ⟨hr, outcome, ho, he⟩ ↦ ⟨hreported hr, outcome, hgrows.outcome ho, he⟩)
    fun ⟨ha, he⟩ ↦ ⟨hgrows.alarm ha, he⟩

theorem Grows.of_runs_eq {w' : World}
    (hruns : w'.runner.slots.runs = w.runner.slots.runs)
    (houtcome : ∀ {n : Nat} {outcome : Outcome}, w.outcome? n = some outcome →
      w'.outcome? n = some outcome)
    (halarm : ∀ {n : Nat}, w.watch n = .alarmed → w'.watch n = .alarmed) : w.Grows w' where
  run hrun := ⟨_, hruns ▸ hrun, rfl, fun h ↦ h⟩
  outcome := houtcome
  alarm := halarm

/-- Operations and events only add runs. -/
theorem grows_of_follows {r : Runner} (hfollows : Runner.Follows w.runner r)
    (held : Nat → Option RunEvent) : w.Grows { w with runner := r, held } where
  run hrun := by
    obtain ⟨added, hruns, -⟩ := hfollows
    refine ⟨_, ?_, rfl, fun h ↦ h⟩
    rw [hruns, List.getElem?_append_left (List.getElem?_eq_some_iff.1 hrun).1]
    exact hrun
  outcome h := h
  alarm h := h

/-- A report adds to what has been sent. -/
theorem grows_report (w : World) (n : Nat) (event : RunEvent) :
    w.Grows { w with runner := w.runner.report n event } where
  run {m run} hrun := by
    rw [Runner.slots_report, Slots.getElem?_runs_report, hrun]
    refine ⟨_, rfl, ?_, fun hreported ↦ ?_⟩ <;> split
    · rfl
    · rfl
    · rfl
    · exact hreported
  outcome h := h
  alarm h := h

/-- So does a watchdog that gets further, with an alarm or without. -/
theorem grows_watch {r : Runner} {old new : Watch} (hslots : r.slots = w.runner.slots)
    (before : w.watch n = old) (hne : old ≠ .alarmed) :
    w.Grows { w with runner := r, watch := Function.update w.watch n new } :=
  .of_runs_eq (congrArg Slots.runs hslots) (fun h ↦ h) fun h ↦ update_eq_of_ne before hne h

theorem grows_returns {outcome : Outcome} (before : w.outcome? n = none) :
    w.Grows { w with outcome? := Function.update w.outcome? n (some outcome) } :=
  .of_runs_eq rfl (fun h ↦ update_eq_of_ne before (by simp) h) fun h ↦ h

/-- Every act lets what was sent stay sent. -/
theorem grows_act (h : w.runner.Coherent) (a : Act) : w.Grows (w.act a) := by
  have hacted := acted w a
  generalize w.act a = w' at hacted ⊢
  cases hacted with
  | rests => exact .of_runs_eq rfl (fun h ↦ h) fun h ↦ h
  | calls call => exact grows_of_follows (h.follows (Runner.perform_moves call w.runner)) w.held
  | returns started before => exact grows_returns before
  | reports started returned before => exact grows_report w _ _
  | looks started before found => exact grows_watch rfl before (by simp)
  | alarms started before => exact grows_watch (Runner.slots_post ..) before (by simp)
  | takes free queue => exact .of_runs_eq rfl (fun h ↦ h) fun h ↦ h
  | applies holds => exact grows_of_follows (h.follows (Runner.apply_moves _ _ w.runner)) _

theorem Grows.trans {w' w'' : World} (h : w.Grows w') (h' : w'.Grows w'') : w.Grows w'' where
  run hrun := by
    obtain ⟨run', hrun', hticket, hreported⟩ := h.run hrun
    obtain ⟨run'', hrun'', hticket', hreported'⟩ := h'.run hrun'
    exact ⟨run'', hrun'', hticket'.trans hticket, fun hr ↦ hreported' (hreported hr)⟩
  outcome ho := h'.outcome (h.outcome ho)
  alarm ha := h'.alarm (h.alarm ha)

/-! ### Each sender sends once -/

/-- What a worker is about to report was not sent before. -/
theorem not_sent_report (hslots : w.runner.slots.Numbered) {worker : Worker} {outcome : Outcome}
    (started : w.runner.slots.workers[n]? = some worker) (before : worker.reported = false) :
    ¬w.Sent m (outcome.event worker.ticket) := by
  intro hsent
  have hrun : w.runner.slots.runs[n]? = some worker.core := by
    rw [Slots.getElem?_runs, started, Option.map_some]
  obtain rfl := hsent.eq_of_ticket_eq hslots hrun (Outcome.ticket_event _ _)
  obtain ⟨run, hrun', ⟨hreported, -⟩ | ⟨-, hevent⟩⟩ := hsent
  · obtain rfl := Option.some.inj (hrun.symm.trans hrun')
    exact absurd hreported (by simp [Worker.core, before])
  · exact Outcome.event_ne_timedOut _ _ _ hevent

/-- The alarm that a watchdog is about to raise was not raised before. -/
theorem not_sent_alarm (hslots : w.runner.slots.Numbered) {worker : Worker}
    (started : w.runner.slots.workers[n]? = some worker) (before : w.watch n = .late) :
    ¬w.Sent m (.timedOut worker.ticket) := by
  intro hsent
  have hrun : w.runner.slots.runs[n]? = some worker.core := by
    rw [Slots.getElem?_runs, started, Option.map_some]
  obtain rfl := hsent.eq_of_ticket_eq hslots hrun rfl
  obtain ⟨run, hrun', ⟨-, outcome, -, hevent⟩ | ⟨halarmed, -⟩⟩ := hsent
  · exact Outcome.event_ne_timedOut _ _ _ hevent.symm
  · exact absurd (before.symm.trans halarmed) (by simp)

/-- A thread that lets go of its event leaves everything else pending. -/
theorem Pending.release {thread : Nat} (h : w.Pending event) (hne : w.held thread ≠ some event) :
    { w with held := Function.update w.held thread none }.Pending event :=
  h.imp_right fun ⟨t, ht⟩ ↦ ⟨t, update_eq_of_ne rfl hne ht⟩

theorem Pending.of_release {thread : Nat} {r : Runner} (hqueue : r.queue = w.runner.queue)
    (h : { w with runner := r, held := Function.update w.held thread none }.Pending event) :
    w.Pending event :=
  h.imp (fun hmem ↦ hqueue ▸ hmem)
    fun ⟨t, ht⟩ ↦ ⟨t, (eq_or_of_update_eq ht).resolve_left (by simp)⟩

/-- Adding an event to the queue makes it pending, and keeps all others so. -/
theorem pending_push_iff {r : Runner} {watch : Nat → Watch} {new : RunEvent}
    (hqueue : r.queue = w.runner.queue ++ [new]) :
    { w with runner := r, watch }.Pending event ↔ w.Pending event ∨ event = new := by
  rw [Pending, Pending, hqueue, List.mem_append, List.mem_singleton, or_right_comm]

/-- Taking an event off the queue keeps it pending, and all others. -/
theorem pending_take_iff {thread : Nat} {first : RunEvent} {rest : List RunEvent}
    (free : w.held thread = none) (queue : w.runner.queue = first :: rest) :
    { w with
      runner := { w.runner with queue := rest }
      held := Function.update w.held thread (some first) }.Pending event ↔ w.Pending event := by
  constructor
  · rintro (hmem | ⟨t, ht⟩)
    · exact .inl (queue ▸ List.mem_cons_of_mem _ hmem)
    · rcases eq_or_of_update_eq ht with ⟨-, heq⟩ | ht
      · obtain rfl := Option.some.inj heq
        exact .inl (queue ▸ List.mem_cons_self)
      · exact .inr ⟨t, ht⟩
  · rintro (hmem | ⟨t, ht⟩)
    · rw [queue] at hmem
      rcases List.mem_cons.1 hmem with rfl | hmem
      · exact .inr ⟨thread, Function.update_self ..⟩
      · exact .inl hmem
    · exact .inr ⟨t, update_eq_of_ne free (by simp) ht⟩

/-- What becomes pending by an act was not sent before. -/
theorem pending_of_act (hslots : w.runner.slots.Numbered) (a : Act)
    (h : (w.act a).Pending event) : w.Pending event ∨ ∀ m, ¬w.Sent m event := by
  have hacted := acted w a
  generalize w.act a = w' at hacted h
  cases hacted with
  | rests => exact .inl h
  | calls call => exact .inl (h.imp_left fun hmem ↦ (Runner.perform_moves call _).queue_eq ▸ hmem)
  | returns started before => exact .inl h
  | reports started returned before =>
    refine ((pending_push_iff (Runner.queue_report ..)).1 h).imp_right ?_
    rintro rfl m
    exact not_sent_report hslots started before
  | looks started before found => exact .inl h
  | alarms started before =>
    refine ((pending_push_iff (Runner.queue_post ..)).1 h).imp_right ?_
    rintro rfl m
    exact not_sent_alarm hslots started before
  | takes free queue => exact .inl ((pending_take_iff free queue).1 h)
  | applies holds => exact .inl (.of_release (Runner.apply_moves _ _ w.runner).queue_eq h)

/-! ### The invariant along a schedule -/

namespace Sound

/-- Moves of the runner disturb no thread. -/
theorem moved (h : w.Sound) {r : Runner} (hmoves : Runner.Moves w.runner r) :
    { w with runner := r }.Sound := by
  have hfollows := h.coherent.follows hmoves
  have hcoherent := h.coherent.moves hmoves
  have hqueue := hmoves.queue_eq
  have hgrows := grows_of_follows hfollows w.held
  -- A run that has reported was there before.
  have hold {n : Nat} {run : Worker} (hrun : r.slots.runs[n]? = some run)
      (hreported : run.reported = true) : w.runner.slots.runs[n]? = some run := by
    obtain ⟨added, hruns, hunreported, -⟩ := hfollows
    rw [hruns, List.getElem?_append] at hrun
    split at hrun
    · exact hrun
    · exact absurd (hunreported run (List.mem_of_getElem? hrun)) (by simp [hreported])
  refine ⟨hcoherent, fun hrun hreported ↦ h.returned (hold hrun hreported) hreported, ?_, ?_, ?_⟩
  · rw [hqueue]
    exact h.distinct
  · intro event hpending
    obtain ⟨n, hsent⟩ := h.sent (hpending.imp_left fun hmem ↦ hqueue ▸ hmem)
    exact ⟨n, hsent.grows hgrows⟩
  · intro n run outcome hrun hreported hisActive houtcome
    have hisActive' := hfollows.isActive_of_isActive hcoherent (hold hrun hreported) hisActive
    refine (h.delivered (hold hrun hreported) hreported hisActive' houtcome).imp_left fun hmem ↦ ?_
    rw [hqueue]
    exact hmem

/-- A thread may let go of an event about a run that is not active. -/
theorem release (h : w.Sound) {thread : Nat} (holds : w.held thread = some event)
    (hstale : w.runner.slots.isActive event.ticket = false) :
    { w with held := Function.update w.held thread none }.Sound where
  coherent := h.coherent
  returned := h.returned
  distinct := h.distinct.drop thread
  sent hpending := h.sent (.of_release rfl hpending)
  delivered {n run outcome} hrun hreported hisActive houtcome := by
    -- The event is not the report of the active run, which stays pending.
    refine (h.delivered hrun hreported hisActive houtcome).release fun heq ↦ ?_
    obtain rfl := Option.some.inj (holds.symm.trans heq)
    rw [Outcome.ticket_event] at hstale
    exact absurd (hstale.symm.trans hisActive) (by simp)

/-- Letting an event take effect and letting go of it. -/
theorem applied (h : w.Sound) {thread : Nat} (now : String) (holds : w.held thread = some event) :
    { w with
      runner := w.runner.apply now event
      held := Function.update w.held thread none }.Sound := by
  refine (h.moved (Runner.apply_moves now event w.runner)).release holds ?_
  -- If the event was about the active run, that has ended now.
  by_cases hactive : w.runner.slots.isActive event.ticket = true
  · exact Slots.isActive_of_none (h.coherent.apply_of_isActive now hactive).2 _
  · rw [Runner.apply_of_not_isActive now hactive]
    exact Bool.eq_false_iff.2 hactive

/-- An event that was not sent before is not pending yet, and may be added to the queue. -/
theorem push (h : w.Sound) {r : Runner} (hqueue : r.queue = w.runner.queue ++ [event])
    (hsent : ∀ {m : Nat}, ¬w.Sent m event) : Distinct r.queue w.held := by
  have hpending : ¬w.Pending event := fun hpending ↦ (h.sent hpending).elim fun _ ↦ hsent
  rw [hqueue]
  exact h.distinct.push (fun hmem ↦ hpending (.inl hmem)) fun t ht ↦ hpending (.inr ⟨t, ht⟩)

/-- The invariant survives every act. -/
theorem act (h : w.Sound) (a : Act) : (w.act a).Sound := by
  have hgrows := grows_act h.coherent a
  have hacted := acted w a
  generalize w.act a = w' at hacted hgrows ⊢
  -- What is pending in both worlds is sent in the later one if it was in the earlier one.
  have hsent {event : RunEvent} (hpending : w.Pending event) : ∃ n, w'.Sent n event := by
    obtain ⟨n, hsent⟩ := h.sent hpending
    exact ⟨n, hsent.grows hgrows⟩
  cases hacted with
  | rests => exact h
  | calls call => exact h.moved (Runner.perform_moves call w.runner)
  | @returns run outcome worker started before =>
    refine ⟨h.coherent, fun hrun hreported ↦ ?_, h.distinct, hsent, ?_⟩
    · obtain ⟨outcome', houtcome⟩ := h.returned hrun hreported
      exact ⟨outcome', hgrows.outcome houtcome⟩
    · intro n run' outcome' hrun hreported hisActive houtcome
      obtain ⟨found, hfound⟩ := h.returned hrun hreported
      obtain rfl := Option.some.inj ((hgrows.outcome hfound).symm.trans houtcome)
      exact h.delivered hrun hreported hisActive hfound
  | @reports n outcome worker started returned before =>
    have hqueue := Runner.queue_report w.runner n (outcome.event worker.ticket)
    have hstarted : w.runner.slots.runs[n]? = some worker.core := by
      rw [Slots.getElem?_runs, started, Option.map_some]
    -- A run of the later world, in the earlier one.
    have hold {m : Nat} {run : Worker}
        (hrun : (w.runner.report n (outcome.event worker.ticket)).slots.runs[m]? = some run) :
        ∃ run', w.runner.slots.runs[m]? = some run' ∧ run'.ticket = run.ticket ∧
          (n ≠ m → run' = run) := by
      rw [Runner.slots_report, Slots.getElem?_runs_report] at hrun
      obtain ⟨run', hrun', rfl⟩ := Option.map_eq_some_iff.1 hrun
      refine ⟨run', hrun', by split <;> rfl, fun hne ↦ (if_neg hne).symm⟩
    refine ⟨h.coherent.report, ?_, h.push hqueue (not_sent_report h.coherent.slots.toNumbered
      started before), ?_, ?_⟩
    · intro m run hrun hreported
      obtain ⟨run', hrun', -, heq⟩ := hold hrun
      by_cases hne : n = m
      · exact ⟨outcome, hne ▸ returned⟩
      · exact h.returned hrun' (heq hne ▸ hreported)
    · intro event hpending
      rcases (pending_push_iff hqueue).1 hpending with hpending | rfl
      · exact hsent hpending
      · refine ⟨n, { worker.core with reported := true }, ?_, .inl ⟨rfl, outcome, returned, rfl⟩⟩
        rw [Runner.slots_report, Slots.getElem?_runs_report, hstarted, Option.map_some, if_pos rfl]
    · intro m run outcome' hrun hreported hisActive houtcome
      obtain ⟨run', hrun', hticket, heq⟩ := hold hrun
      rw [pending_push_iff hqueue]
      by_cases hne : n = m
      · subst hne
        obtain rfl := Option.some.inj (hstarted.symm.trans hrun')
        obtain rfl := Option.some.inj (returned.symm.trans houtcome)
        exact .inr (by rw [← hticket]; rfl)
      · obtain rfl := heq hne
        rw [Runner.slots_report] at hisActive
        exact .inl (h.delivered hrun' hreported hisActive houtcome)
  | looks started before found =>
    exact ⟨h.coherent, h.returned, h.distinct, hsent, h.delivered⟩
  | @alarms n worker started before =>
    have hqueue := Runner.queue_post w.runner (.timedOut worker.ticket)
    have hslots := Runner.slots_post w.runner (.timedOut worker.ticket)
    have hstarted : w.runner.slots.runs[n]? = some worker.core := by
      rw [Slots.getElem?_runs, started, Option.map_some]
    refine ⟨h.coherent.congr (Runner.session_post ..) hslots, ?_, h.push hqueue
      (not_sent_alarm h.coherent.slots.toNumbered started before), ?_, ?_⟩
    · intro m run hrun hreported
      exact h.returned (hslots ▸ hrun) hreported
    · intro event hpending
      rcases (pending_push_iff hqueue).1 hpending with hpending | rfl
      · exact hsent hpending
      · exact ⟨n, worker.core, hslots ▸ hstarted, .inr ⟨Function.update_self .., rfl⟩⟩
    · intro m run outcome hrun hreported hisActive houtcome
      rw [pending_push_iff hqueue]
      exact .inl (h.delivered (hslots ▸ hrun) hreported (hslots ▸ hisActive) houtcome)
  | takes free queue =>
    refine ⟨h.coherent.congr rfl rfl, h.returned, ?_, ?_, ?_⟩
    · exact (queue ▸ h.distinct).take _
    · exact fun hpending ↦ hsent ((pending_take_iff free queue).1 hpending)
    · intro n run outcome hrun hreported hisActive houtcome
      exact (pending_take_iff free queue).2 (h.delivered hrun hreported hisActive houtcome)
  | applies holds => exact h.applied _ holds

theorem after (h : w.Sound) (acts : List Act) : (w.after acts).Sound := by
  induction acts generalizing w with
  | nil => exact h
  | cons a acts ih => exact ih (h.act a)

end Sound

theorem grows_after (h : w.Sound) (acts : List Act) : w.Grows (w.after acts) := by
  induction acts generalizing w with
  | nil => exact .of_runs_eq rfl (fun h ↦ h) fun h ↦ h
  | cons a acts ih => exact (grows_act h.coherent a).trans (ih (h.act a))

/-- No act puts a run back into the active slot. -/
theorem isActive_of_act (h : w.Sound) (a : Act) {run : Worker}
    (hrun : w.runner.slots.runs[n]? = some run)
    (hactive : (w.act a).runner.slots.isActive run.ticket = true) :
    w.runner.slots.isActive run.ticket = true := by
  have hacted := acted w a
  have hcoherent := (h.act a).coherent
  generalize w.act a = w' at hacted hcoherent hactive
  cases hacted with
  | rests | returns | looks | takes => exact hactive
  | reports => rwa [Runner.slots_report] at hactive
  | alarms => rwa [Runner.slots_post] at hactive
  | calls call =>
    exact (h.coherent.follows (Runner.perform_moves call _)).isActive_of_isActive hcoherent hrun
      hactive
  | applies holds =>
    exact (h.coherent.follows (Runner.apply_moves _ _ _)).isActive_of_isActive hcoherent hrun
      hactive

/-- A run that has left the active slot never comes back. -/
theorem isActive_of_after (h : w.Sound) (acts : List Act) {run : Worker}
    (hrun : w.runner.slots.runs[n]? = some run)
    (hactive : (w.after acts).runner.slots.isActive run.ticket = true) :
    w.runner.slots.isActive run.ticket = true := by
  induction acts generalizing w run with
  | nil => exact hactive
  | cons a acts ih =>
    obtain ⟨run', hrun', hticket, -⟩ := (grows_act h.coherent a).run hrun
    rw [after_cons, ← hticket] at hactive
    have hlater := ih (h.act a) hrun' hactive
    rw [hticket] at hlater
    exact isActive_of_act h a hrun hlater

/-- The invariant holds after every schedule. -/
theorem sound_after (policy : CommitPolicy) (supply : Supply) (hasWaker : Bool)
    (acts : List Act) : ((new policy supply hasWaker).after acts).Sound :=
  (sound_new policy supply hasWaker).after acts

/-! ### What took effect does not come back -/

/-- The event was sent and has taken effect. -/
def Spent (w : World) (event : RunEvent) : Prop :=
  (∃ n, w.Sent n event) ∧ ¬w.Pending event

/-- Every act leaves a spent event spent. -/
theorem Spent.act (h : w.Spent event) (hw : w.Sound) (a : Act) : (w.act a).Spent event := by
  obtain ⟨⟨n, hsent⟩, hpending⟩ := h
  refine ⟨⟨n, hsent.grows (grows_act hw.coherent a)⟩, fun hlater ↦ ?_⟩
  rcases pending_of_act hw.coherent.slots.toNumbered a hlater with hbefore | hunsent
  · exact hpending hbefore
  · exact hunsent n hsent

theorem Spent.after (h : w.Spent event) (hw : w.Sound) (acts : List Act) :
    (w.after acts).Spent event := by
  induction acts generalizing w with
  | nil => exact h
  | cons a acts ih => exact ih (h.act hw a) (hw.act a)

/-- An event that takes effect is spent. -/
theorem Sound.spent (hw : w.Sound) {thread : Nat} (now : String)
    (holds : w.held thread = some event) : (w.act (.applies thread now)).Spent event := by
  obtain ⟨n, hsent⟩ := hw.sent (.inr ⟨thread, holds⟩)
  refine ⟨⟨n, hsent.grows (grows_act hw.coherent _)⟩, ?_⟩
  have hqueue := (Runner.apply_moves now event w.runner).queue_eq
  rw [act_applies now holds]
  rintro (hmem | ⟨thread', holds'⟩)
  · exact hw.distinct.held_not_queued holds (hqueue ▸ hmem)
  · by_cases hthread : thread' = thread
    · simp [hthread] at holds'
    · -- Two threads would have held it before.
      have hbefore : w.held thread' = some event :=
        (Function.update_of_ne hthread _ _).symm.trans holds'
      exact hthread (hw.distinct.held_unique hbefore holds)

end World

end Workbench
