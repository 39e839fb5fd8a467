import Workbench.Proofs.Runner.Contexts
import Workbench.Proofs.Runner.Settlement

/-!
# Contexts that serve several runs

A context may be given to a run after it has served another one. Whether it may is decided when the
earlier run is settled, by a thread that drains the queue, while executions go on in their own
threads; nobody asks the context. It is safe all the same:

* a run that is settled by the response it returned has returned, and its context becomes the idle
  one. Besides, only a context that no run could be started in is put into the idle slot;
* a run that is settled in any other way may still be executing, and its context is destroyed in
  the same act (`World.Sound.settled_context`);
* a run that is started gets the idle context or a new one, and neither is destroyed
  (`World.Sound.assigned_act`).

So a context is handed on only when its former run is known to have returned a response.
-/

namespace Workbench

/-! ### What slots do to contexts -/

namespace Slots

variable {slots slots' slots'' : Slots}

/-- The contexts that the runs were given, in the order in which the runs were started. -/
def assigned (slots : Slots) : List Nat :=
  slots.workers.map (·.context)

theorem assigned_eq_map_runs (slots : Slots) : slots.assigned = slots.runs.map (·.context) := by
  rw [assigned, runs, List.map_map]
  rfl

theorem length_assigned (slots : Slots) : slots.assigned.length = slots.workers.length :=
  List.length_map _

@[simp]
theorem assigned_cancel (ticket : Ticket) (slots : Slots) :
    (slots.cancel ticket).assigned = slots.assigned := by
  rw [assigned_eq_map_runs, assigned_eq_map_runs, runs_cancel]

@[simp]
theorem assigned_report (run : Nat) (slots : Slots) :
    (slots.report run).assigned = slots.assigned := by
  refine List.ext_getElem? fun n ↦ ?_
  rw [assigned, assigned, List.getElem?_map, List.getElem?_map, getElem?_workers_report,
    Option.map_map]
  congr 1
  funext w
  by_cases hn : run = n <;> simp [hn]

/-- Contexts in later slots: runs keep theirs, and what was created or destroyed stays so. -/
structure Advances (slots slots' : Slots) : Prop where
  assigned : slots.assigned <+: slots'.assigned
  created : slots.created ≤ slots'.created
  destroyed : slots.destroyed <+: slots'.destroyed

namespace Advances

theorem refl (slots : Slots) : slots.Advances slots :=
  ⟨List.prefix_rfl, Nat.le_refl _, List.prefix_rfl⟩

theorem trans (h : slots.Advances slots') (h' : slots'.Advances slots'') : slots.Advances slots'' :=
  ⟨h.assigned.trans h'.assigned, Nat.le_trans h.created h'.created,
    h.destroyed.trans h'.destroyed⟩

/-- A run keeps the context it was given. -/
theorem getElem?_assigned (h : slots.Advances slots') {n context : Nat}
    (hcontext : slots.assigned[n]? = some context) : slots'.assigned[n]? = some context := by
  obtain ⟨added, hadded⟩ := h.assigned
  rw [← hadded, List.getElem?_append_left (List.getElem?_eq_some_iff.1 hcontext).1, hcontext]

theorem mem_destroyed (h : slots.Advances slots') {context : Nat}
    (hcontext : context ∈ slots.destroyed) : context ∈ slots'.destroyed :=
  h.destroyed.subset hcontext

end Advances

theorem mem_destroyed_discard (a : ActiveRun) (slots : Slots) :
    a.context ∈ (slots.discard a).destroyed :=
  List.mem_append_right _ (List.mem_singleton_self _)

theorem discard_advances (a : ActiveRun) (slots : Slots) : slots.Advances (slots.discard a) where
  assigned := by simp [assigned_eq_map_runs]
  created := Nat.le_refl _
  destroyed := List.prefix_append _ _

theorem abort_advances (generation : Nat) (slots : Slots) :
    slots.Advances (slots.abort generation) := by
  rw [abort]
  split
  · exact .refl slots
  · split
    · exact discard_advances _ slots
    · exact .refl slots

theorem finish_advances (ticket : Ticket) (reusable : Bool) (slots : Slots) :
    slots.Advances (slots.finish ticket reusable) := by
  rw [finish]
  split
  · exact .refl slots
  · rename_i active _
    split
    · exact .refl slots
    · split
      · refine ⟨?_, Nat.le_refl _, List.prefix_rfl⟩
        rw [assigned_cancel]
        exact List.prefix_rfl
      · exact discard_advances active slots

theorem shutdown_advances (slots : Slots) : slots.Advances slots.shutdown := by
  have hdiscard : slots.Advances (slots.active.elim slots slots.discard) := by
    cases slots.active with
    | none => exact .refl slots
    | some a => exact discard_advances a slots
  rw [shutdown]
  split
  · exact hdiscard
  · exact hdiscard.trans ⟨List.prefix_rfl, Nat.le_refl _, List.prefix_append _ _⟩

/-! ### The context of a run that is started -/

/-- The context to work with is the idle one, or the next that is created. -/
theorem takeContext_cases {context : Nat} (htake : slots.takeContext = (.ok context, slots')) :
    (slots.idle = some context ∨ slots.idle = none ∧ context = slots.created) ∧
      slots'.workers = slots.workers ∧ slots.created ≤ slots'.created ∧
      slots'.destroyed = slots.destroyed := by
  rw [takeContext] at htake
  split at htake
  · rename_i hidle
    obtain ⟨rfl, rfl⟩ : _ ∧ _ := by simpa using htake
    exact ⟨.inl hidle, rfl, Nat.le_refl _, rfl⟩
  · rename_i hidle
    split at htake
    · simp at htake
    · obtain ⟨rfl, rfl⟩ : _ ∧ _ := by simpa using htake
      exact ⟨.inr ⟨hidle, rfl⟩, rfl, Nat.le_succ _, rfl⟩

/-- A run that is started is given the context to work with; no run before it changes. -/
theorem start_ok_cases {request : Request} (hstart : slots.start request = (.ok (), slots')) :
    ∃ context, (slots.idle = some context ∨ slots.idle = none ∧ context = slots.created) ∧
      slots'.assigned = slots.assigned ++ [context] ∧ slots.created ≤ slots'.created ∧
      slots'.destroyed = slots.destroyed := by
  rw [start] at hstart
  split at hstart
  · simp at hstart
  · rename_i context taken htake
    obtain ⟨hcontext, hworkers, hcreated, hdestroyed⟩ := takeContext_cases htake
    rw [launch] at hstart
    split at hstart
    · simp at hstart
    · obtain ⟨-, rfl⟩ := Prod.mk.inj hstart
      exact ⟨context, hcontext, by simp [assigned, hworkers], hcreated, hdestroyed⟩

theorem start_advances (request : Request) (slots : Slots) :
    slots.Advances (slots.start request).2 := by
  rw [start]
  split
  · rename_i htake
    rw [takeContext_error htake]
    exact ⟨List.prefix_rfl, Nat.le_refl _, List.prefix_rfl⟩
  · rename_i context taken htake
    obtain ⟨-, hworkers, hcreated, hdestroyed⟩ := takeContext_cases htake
    rw [launch]
    split <;> refine ⟨?_, hcreated, hdestroyed ▸ List.prefix_rfl⟩
    · simp [assigned, hworkers]
    · simp [assigned, hworkers]

/-- The context to work with is not destroyed. -/
theorem Accounted.not_mem_destroyed (h : slots.Accounted) {context : Nat}
    (hcontext : slots.idle = some context ∨ slots.idle = none ∧ context = slots.created) :
    context ∉ slots.destroyed := by
  rcases hcontext with hidle | ⟨-, rfl⟩
  · exact h.not_destroyed_of_idle hidle
  · exact fun hmem ↦ Nat.lt_irrefl _ (h.exists_holds_iff.1 ⟨.destroyed, hmem⟩)

end Slots

/-! ### What operations and events do to contexts -/

namespace Runner

variable {r r' : Runner} {n context : Nat} {a : ActiveRun}

theorem Move.advances (hmove : Move r r') : r.slots.Advances r'.slots := by
  cases hmove with
  | keeps | rests => exact .refl r.slots
  | @refuses session slots request error before start after =>
    have hadvances := Slots.start_advances request r.slots
    rwa [start] at hadvances
  | @starts session slots mode source before start after generation =>
    have hadvances := Slots.start_advances (r.session.requestFor mode source) r.slots
    rwa [start] at hadvances
  | retires => exact Slots.abort_advances _ r.slots
  | finishes => exact Slots.finish_advances _ _ r.slots
  | empties => exact Slots.shutdown_advances r.slots

theorem Moves.advances (hmoves : Moves r r') : r.slots.Advances r'.slots := by
  induction hmoves with
  | refl => exact .refl r.slots
  | tail _ hmove ih => exact ih.trans hmove.advances

/-- An operation that answers that a run was started has started one in the slots, while no run was
in flight. -/
theorem start_of_starts {call : Call} (hstarts : call.starts r = true) :
    r.session.flight = none ∧
      ∃ request, r.slots.start request = (.ok (), (r.perform call).slots) := by
  have hdispatched (session : Session) {mode : RunMode} {source : String}
      {result : Except SessionError Nat × Session × Slots}
      (h : Session.Dispatched Slots.host mode source session r.slots result)
      (hok : result.1.isOk = true) :
      session.flight = none ∧ ∃ request, r.slots.start request = (.ok (), result.2.2) := by
    cases h with
    | running | blank | refused => simp [Except.isOk, Except.toBool] at hok
    | started before slots start => exact ⟨before, _, start⟩
  cases call with
  | dispatch mode source =>
    exact hdispatched r.session (Session.dispatched Slots.host mode source _ r.slots) hstarts
  | runProgram =>
    exact hdispatched r.session (Session.dispatched Slots.host .program _ _ r.slots) hstarts
  | runLine line =>
    rw [Call.starts, runLine, withSession] at hstarts
    rw [perform, runLine, withSession_snd]
    rcases Session.runLine_cases Slots.host line r.session r.slots with ⟨error, heq⟩ | heq
    · simp [heq, Except.isOk, Except.toBool] at hstarts
    · rw [heq] at hstarts ⊢
      exact hdispatched { r.session with history := r.session.history.record line }
        (Session.dispatched Slots.host .terminal line _ r.slots) hstarts
  | abort | shutdown | clear | openProgram | clearProgram | setProgramText | markSaved | submit
  | previous | next => simp [Call.starts] at hstarts

namespace Coherent

/-- The context of the run in flight is the one in the active slot. -/
theorem exists_active_of_inFlight (h : r.Coherent) (hin : r.InFlight n)
    (hcontext : r.slots.assigned[n]? = some context) :
    ∃ a worker, r.slots.active = some a ∧ a.context = context ∧
      r.slots.workers[n]? = some worker ∧ worker.ticket = a.ticket := by
  obtain ⟨-, worker, hworker, hactive⟩ := hin
  obtain ⟨a, ha, hticket⟩ := Slots.isActive_iff.1 hactive
  obtain ⟨m, last, -, hlast, hlastTicket, hlastContext⟩ := h.slots.exists_last_of_active ha
  obtain rfl := h.slots.eq_of_ticket_eq hworker hlast (hticket.symm.trans hlastTicket.symm)
  obtain rfl := Option.some.inj (hworker.symm.trans hlast)
  rw [Slots.assigned, List.getElem?_map, hworker] at hcontext
  exact ⟨a, worker, ha, hlastContext.symm.trans (Option.some.inj hcontext), hworker, hticket.symm⟩

/-- Aborting discards the active run. -/
theorem slots_abort (h : r.Coherent) (ha : r.slots.active = some a) :
    r.abort.2.slots = r.slots.discard a := by
  obtain ⟨flight, hflight, -⟩ := h.exists_flight ha
  rw [Runner.abort, withSession_snd, Session.abort_of_flight hflight]
  exact h.abort_slots_eq ha hflight

theorem slots_openProgram (h : r.Coherent) (ha : r.slots.active = some a) (program : Program) :
    (r.openProgram program).slots = r.slots.discard a := by
  obtain ⟨flight, hflight, -⟩ := h.exists_flight ha
  rw [Runner.openProgram, Session.openProgram_of_flight program hflight]
  exact h.abort_slots_eq ha hflight

/-- A response for the active run makes its context the idle one. -/
theorem idle_apply_completed (h : r.Coherent) (ha : r.slots.active = some a) (now : String)
    (response : Response) :
    (r.apply now (.completed a.ticket response)).slots.idle = some a.context := by
  have hactive : r.slots.isActive a.ticket = true := Slots.isActive_of_active ha
  obtain ⟨mode, haccepting⟩ := h.exists_accepting ha
  rw [Runner.apply.eq_def, if_pos (by exact hactive)]
  simp [Session.complete, haccepting, Slots.finish, ha, h.slots.idle_eq_none ha, Slots.cancel]

/-- Any other event about the active run discards it. -/
theorem slots_apply_of_ne_completed (h : r.Coherent) (ha : r.slots.active = some a) (now : String)
    {event : RunEvent} (hticket : event.ticket = a.ticket)
    (hne : ∀ ticket response, event ≠ .completed ticket response) :
    (r.apply now event).slots = r.slots.discard a := by
  have hactive : r.slots.isActive event.ticket = true := by
    rw [hticket]
    exact Slots.isActive_of_active ha
  obtain ⟨mode, haccepting⟩ := h.exists_accepting ha
  rw [Runner.apply.eq_def, if_pos hactive]
  cases event with
  | completed ticket response => exact absurd rfl (hne ticket response)
  | failed ticket message =>
    obtain rfl : ticket = a.ticket := hticket
    simp [Session.fail, haccepting, Slots.finish, ha]
  | timedOut ticket => exact h.slots_abort ha

end Coherent

end Runner

namespace World

variable {w : World} {n context : Nat} {a : Act}

/-! ### Single acts -/

theorem advances_act (w : World) (a : Act) : w.runner.slots.Advances (w.act a).runner.slots := by
  have hacted := acted w a
  generalize w.act a = w' at hacted ⊢
  cases hacted with
  | rests | returns | looks | takes => exact .refl _
  | calls call => exact (Runner.perform_moves call w.runner).advances
  | applies => exact (Runner.apply_moves _ _ w.runner).advances
  | alarms =>
    rw [Runner.slots_post]
    exact .refl _
  | reports =>
    rw [Runner.slots_report]
    exact ⟨by simp, Nat.le_refl _, List.prefix_rfl⟩

theorem advances_after (w : World) (acts : List Act) :
    w.runner.slots.Advances (w.after acts).runner.slots := by
  induction acts generalizing w with
  | nil => exact .refl _
  | cons a acts ih => exact (advances_act w a).trans (ih (w.act a))

/-- In this act the response that the execution of a run returned takes effect. -/
def Completes (w : World) (a : Act) (n : Nat) : Prop :=
  ∃ thread now ticket response, a = .applies thread now ∧
    w.held thread = some (.completed ticket response) ∧ w.Sent n (.completed ticket response)

theorem Completes.outcome (h : w.Completes a n) :
    ∃ response, w.outcome? n = some (.responded response) := by
  obtain ⟨thread, now, ticket, response, -, -, hsent⟩ := h
  exact ⟨response, hsent.outcome_of_completed⟩

namespace Sound

/-- An act gives a context to at most one run, and that is the idle context or a new one, and it is
not destroyed. -/
theorem assigned_act (h : w.Sound) (a : Act) :
    ¬w.Starts a ∧ (w.act a).runner.slots.assigned = w.runner.slots.assigned ∨
      w.Starts a ∧ w.runner.session.isRunning = false ∧
        ∃ context, (w.act a).runner.slots.assigned = w.runner.slots.assigned ++ [context] ∧
          context ∉ w.runner.slots.destroyed ∧
          (w.runner.slots.idle = some context ∨ context = w.runner.slots.created) := by
  rcases h.act_cases a with ⟨hnot, hlength⟩ | ⟨hstarts, hrunning, -, -⟩
  · refine .inl ⟨hnot, ((advances_act w a).assigned.eq_of_length ?_).symm⟩
    rw [Slots.length_assigned, Slots.length_assigned, hlength]
  · obtain ⟨call, rfl, hcall⟩ := hstarts
    obtain ⟨-, request, hstart⟩ := Runner.start_of_starts hcall
    obtain ⟨context, hcontext, hassigned, -⟩ := Slots.start_ok_cases hstart
    exact .inr ⟨⟨call, rfl, hcall⟩, hrunning, context, hassigned,
      h.coherent.slots.not_mem_destroyed hcontext, hcontext.imp_right And.right⟩

/-- When a run is settled by the response that it returned, its context becomes the idle one; when
it is settled in any other way, its context is destroyed. -/
theorem settled_context (h : w.Sound) (hcontext : w.runner.slots.assigned[n]? = some context)
    (hsettles : w.Settles a n) :
    w.Completes a n ∧ (w.act a).runner.slots.idle = some context ∨
      ¬w.Completes a n ∧ context ∈ (w.act a).runner.slots.destroyed := by
  obtain ⟨hin, hends⟩ := h.settles_iff.1 hsettles
  obtain ⟨active, worker, ha, rfl, hworker, hworkerTicket⟩ :=
    h.coherent.exists_active_of_inFlight hin hcontext
  have hdiscarded := Slots.mem_destroyed_discard active w.runner.slots
  cases hends with
  | abort =>
    refine .inr ⟨by simp [Completes], ?_⟩
    rw [World.act, Runner.perform, h.coherent.slots_abort ha]
    exact hdiscarded
  | openProgram program =>
    refine .inr ⟨by simp [Completes], ?_⟩
    rw [World.act, Runner.perform, h.coherent.slots_openProgram ha]
    exact hdiscarded
  | shutdown =>
    refine .inr ⟨by simp [Completes], ?_⟩
    rw [World.act, Runner.perform, Runner.shutdown, h.coherent.slots_abort ha]
    exact (Slots.shutdown_advances _).mem_destroyed hdiscarded
  | @event thread now event holds own =>
    have hticket : event.ticket = active.ticket := by
      obtain ⟨run, hrun, hticket⟩ := own.ticket_eq
      rw [Slots.getElem?_runs, hworker, Option.map_some, Option.some.injEq] at hrun
      rw [hticket, ← hrun, ← hworkerTicket]
      rfl
    rw [act_applies now holds]
    by_cases hcompleted : ∃ ticket response, event = .completed ticket response
    · obtain ⟨ticket, response, rfl⟩ := hcompleted
      obtain rfl : ticket = active.ticket := hticket
      exact .inl ⟨⟨thread, now, _, response, rfl, holds, own⟩,
        h.coherent.idle_apply_completed ha now response⟩
    · have hne : ∀ ticket response, event ≠ .completed ticket response :=
        fun ticket response heq ↦ hcompleted ⟨ticket, response, heq⟩
      refine .inr ⟨?_, ?_⟩
      · rintro ⟨thread', now', ticket, response, heq, holds', -⟩
        obtain ⟨rfl, -⟩ := Act.applies.inj heq
        exact hne ticket response (Option.some.inj (holds.symm.trans holds'))
      · rw [h.coherent.slots_apply_of_ne_completed ha now hticket hne]
        exact hdiscarded

/-- A context that is destroyed is given to no run any more. -/
theorem not_assigned_again (h : w.Sound) (hdestroyed : context ∈ w.runner.slots.destroyed)
    (acts : List Act) {m : Nat} (hm : w.runner.slots.assigned.length ≤ m) :
    (w.after acts).runner.slots.assigned[m]? ≠ some context := by
  induction acts generalizing w with
  | nil =>
    rw [after_nil, List.getElem?_eq_none hm]
    simp
  | cons a acts ih =>
    have hlater := (advances_act w a).mem_destroyed hdestroyed
    rw [after_cons]
    rcases h.assigned_act a with ⟨-, hassigned⟩ | ⟨-, -, added, hassigned, halive, -⟩
    · exact ih (h.act a) hlater (hassigned ▸ hm)
    · rcases Nat.eq_or_lt_of_le hm with rfl | hm
      · -- The act gives a context to this run, and it is another one.
        intro heq
        have hadded : (w.act a).runner.slots.assigned[w.runner.slots.assigned.length]? =
            some added := by
          rw [hassigned, List.getElem?_concat_length]
        have hkept := (advances_after (w.act a) acts).getElem?_assigned hadded
        obtain rfl := Option.some.inj (hkept.symm.trans heq)
        exact halive hdestroyed
      · refine ih (h.act a) hlater ?_
        rw [hassigned, List.length_append, List.length_singleton]
        exact hm

end Sound

/-! ### Schedules -/

section Schedules

variable (policy : CommitPolicy) (supply : Supply) (hasWaker : Bool) {acts : List Act} {m : Nat}

/-- A run that is not in flight any more was settled in some act of the schedule. Unless that was
the act in which its response took effect, its context is destroyed; in any case its context was
created. -/
theorem exists_completes_or_destroyed :
    let start := new policy supply hasWaker
    (start.after acts).runner.slots.assigned[n]? = some context →
    ¬(start.after acts).runner.InFlight n →
    context < (start.after acts).runner.slots.created ∧
      (context ∈ (start.after acts).runner.slots.destroyed ∨
        ∃ pre a, pre ++ [a] <+: acts ∧ (start.after pre).Settles a n ∧
          (start.after pre).Completes a n) := by
  intro start hcontext hout
  have hlt := (List.getElem?_eq_some_iff.1 hcontext).1
  rw [Slots.length_assigned] at hlt
  obtain ⟨pre, a, hpre, hsettles⟩ := exists_settles policy supply hasWaker hlt hout
  have hsound : (start.after pre).Sound := sound_after policy supply hasWaker pre
  -- The run had its context already when it was settled.
  obtain ⟨rest, rfl⟩ := hpre
  have hlater : start.after (pre ++ [a] ++ rest) = ((start.after pre).act a).after rest := by
    rw [after_append, after_append, after_cons, after_nil]
  have hadvances := advances_after ((start.after pre).act a) rest
  obtain ⟨context', hcontext'⟩ : ∃ context', (start.after pre).runner.slots.assigned[n]? =
      some context' := by
    obtain ⟨-, worker, hworker, -⟩ := hsettles.1
    exact ⟨worker.context, by rw [Slots.assigned, List.getElem?_map, hworker, Option.map_some]⟩
  have hkept := (advances_act _ a).trans hadvances |>.getElem?_assigned hcontext'
  rw [hlater] at hcontext ⊢
  obtain rfl := Option.some.inj (hkept.symm.trans hcontext)
  have hslots := (hsound.act a).coherent.slots
  rcases hsound.settled_context hcontext' hsettles with ⟨hcompletes, hidle⟩ | ⟨-, hdestroyed⟩
  · refine ⟨Nat.lt_of_lt_of_le (hslots.exists_holds_iff.1 ⟨.idle, hidle⟩) hadvances.created,
      .inr ?_⟩
    exact ⟨pre, a, List.prefix_append _ _, hsettles, hcompletes⟩
  · refine ⟨Nat.lt_of_lt_of_le (hslots.exists_holds_iff.1 ⟨.destroyed, hdestroyed⟩)
      hadvances.created, .inl (hadvances.mem_destroyed hdestroyed)⟩

/-- A run whose response has taken effect has returned. -/
theorem outcome_of_completes {pre : List Act} (hpre : pre ++ [a] <+: acts)
    (hcompletes : ((new policy supply hasWaker).after pre).Completes a n) :
    ∃ response, ((new policy supply hasWaker).after acts).outcome? n =
      some (.responded response) := by
  obtain ⟨response, houtcome⟩ := hcompletes.outcome
  obtain ⟨rest, rfl⟩ := hpre
  have hgrows := grows_after (sound_after policy supply hasWaker pre) ([a] ++ rest)
  rw [← after_append, ← List.append_assoc] at hgrows
  exact ⟨response, hgrows.outcome houtcome⟩

/-- A run that had the context of a later run was settled by its response. -/
theorem exists_completes_of_reuse :
    let start := new policy supply hasWaker
    n < m → (start.after acts).runner.slots.assigned[n]? = some context →
    (start.after acts).runner.slots.assigned[m]? = some context →
    ∃ pre a, pre ++ [a] <+: acts ∧ (start.after pre).Settles a n ∧
      (start.after pre).Completes a n := by
  intro start
  induction acts using List.reverseRecOn with
  | nil => simp [start, new, Runner.new, Slots.assigned]
  | append_singleton acts a ih =>
    rw [after_append, after_cons, after_nil]
    intro hlt hn hm
    have hsound : (start.after acts).Sound := sound_after policy supply hasWaker acts
    have hprefix {pre : List Act} {b : Act} (h : pre ++ [b] <+: acts) :
        pre ++ [b] <+: acts ++ [a] :=
      h.trans (List.prefix_append _ _)
    rcases hsound.assigned_act a with
      ⟨-, hassigned⟩ | ⟨-, hrunning, added, hassigned, halive, -⟩
    · rw [hassigned] at hn hm
      obtain ⟨pre, b, hpre, hsettled⟩ := ih hlt hn hm
      exact ⟨pre, b, hprefix hpre, hsettled⟩
    · have hlength := (List.getElem?_eq_some_iff.1 hm).1
      rw [hassigned, List.length_append, List.length_singleton] at hlength
      rw [hassigned, List.getElem?_append_left (by omega)] at hn
      by_cases hold : m < (start.after acts).runner.slots.assigned.length
      · rw [hassigned, List.getElem?_append_left hold] at hm
        obtain ⟨pre, b, hpre, hsettled⟩ := ih hlt hn hm
        exact ⟨pre, b, hprefix hpre, hsettled⟩
      · -- The act started the later run, so the earlier one was not in flight any more.
        obtain rfl : m = (start.after acts).runner.slots.assigned.length := by omega
        rw [hassigned, List.getElem?_concat_length, Option.some.injEq] at hm
        subst hm
        have hout : ¬(start.after acts).runner.InFlight n := fun hin ↦ by
          simp [hin.1] at hrunning
        rcases (exists_completes_or_destroyed policy supply hasWaker hn hout).2 with
          hdestroyed | ⟨pre, b, hpre, hsettled⟩
        · exact absurd hdestroyed halive
        · exact ⟨pre, b, hprefix hpre, hsettled⟩

end Schedules

/-- Contexts are handed on safely, under every schedule. In the order of the statement: after a
schedule,

* an act either gives no context to a run, or starts one run, with a context that is not destroyed
  and in which every execution has returned;
* of the executions that have not returned, no two are in one context;
* when a run is settled by the response that its execution returned, its context becomes the idle
  one. When it is settled in any other way, because it broke, panicked, took too long or was given
  up, its context is destroyed in the same act and given to no run after it, whatever follows;
* a run whose context was given to a later one was settled by its response. -/
theorem contexts_handed_on (policy : CommitPolicy) (supply : Supply) (hasWaker : Bool)
    (acts : List Act) :
    let start := new policy supply hasWaker
    let w := start.after acts
    (∀ a, ¬w.Starts a ∧ (w.act a).runner.slots.assigned = w.runner.slots.assigned ∨
        w.Starts a ∧
          ∃ context, (w.act a).runner.slots.assigned = w.runner.slots.assigned ++ [context] ∧
            context ∉ w.runner.slots.destroyed ∧
            ∀ n, w.runner.slots.assigned[n]? = some context → w.outcome? n ≠ none) ∧
      (∀ n m context, w.runner.slots.assigned[n]? = some context →
        w.runner.slots.assigned[m]? = some context → w.outcome? n = none → w.outcome? m = none →
        n = m) ∧
      (∀ a n context, w.runner.slots.assigned[n]? = some context → w.Settles a n →
        w.Completes a n ∧ (w.act a).runner.slots.idle = some context ∨
          ¬w.Completes a n ∧ context ∈ (w.act a).runner.slots.destroyed ∧
            ∀ acts' m, n < m →
              ((w.act a).after acts').runner.slots.assigned[m]? ≠ some context) ∧
      ∀ n m context, n < m → w.runner.slots.assigned[n]? = some context →
        w.runner.slots.assigned[m]? = some context →
        ∃ pre a, pre ++ [a] <+: acts ∧ (start.after pre).Settles a n ∧
          (start.after pre).Completes a n := by
  intro start w
  have hw : w.Sound := sound_after policy supply hasWaker acts
  have hreuse (n m context : Nat) (hlt : n < m)
      (hn : w.runner.slots.assigned[n]? = some context)
      (hm : w.runner.slots.assigned[m]? = some context) : w.outcome? n ≠ none := by
    obtain ⟨pre, a, hpre, -, hcompletes⟩ :=
      exists_completes_of_reuse policy supply hasWaker hlt hn hm
    obtain ⟨response, houtcome⟩ := outcome_of_completes policy supply hasWaker hpre hcompletes
    exact Option.ne_none_iff_exists'.2 ⟨_, houtcome⟩
  refine ⟨fun a ↦ ?_, fun n m context hn hm hnone hnone' ↦ ?_, fun a n context hn hsettles ↦ ?_,
    fun n m context hlt hn hm ↦ exists_completes_of_reuse policy supply hasWaker hlt hn hm⟩
  · refine (hw.assigned_act a).imp_right ?_
    rintro ⟨hstarts, hrunning, context, hassigned, halive, htaken⟩
    refine ⟨hstarts, context, hassigned, halive, fun n hn ↦ ?_⟩
    -- No run is in flight, so the runs that had this context were settled.
    have hout : ¬w.runner.InFlight n := fun hin ↦ by simp [hin.1] at hrunning
    obtain ⟨-, hdestroyed | ⟨pre, b, hpre, -, hcompletes⟩⟩ :=
      exists_completes_or_destroyed policy supply hasWaker hn hout
    · exact absurd hdestroyed halive
    · obtain ⟨response, houtcome⟩ := outcome_of_completes policy supply hasWaker hpre hcompletes
      exact Option.ne_none_iff_exists'.2 ⟨_, houtcome⟩
  · rcases Nat.lt_trichotomy n m with hlt | heq | hlt
    · exact absurd hnone (hreuse n m context hlt hn hm)
    · exact heq
    · exact absurd hnone' (hreuse m n context hlt hm hn)
  · refine (hw.settled_context hn hsettles).imp_right fun ⟨hnot, hdestroyed⟩ ↦
      ⟨hnot, hdestroyed, fun acts' m hlt ↦ ?_⟩
    -- The settled run was the last one.
    obtain ⟨-, worker, hworker, hactive⟩ := hsettles.1
    have hlast := hw.coherent.slots.eq_last_of_isActive hworker hactive
    have hlength : (w.act a).runner.slots.assigned.length ≤ m := by
      rcases hw.assigned_act a with ⟨-, hassigned⟩ | ⟨-, hrunning, -⟩
      · rw [hassigned, Slots.length_assigned]
        omega
      · simp [hsettles.1.1] at hrunning
    exact (hw.act a).not_assigned_again hdestroyed acts' hlength

end World

end Workbench
