import Workbench.Proofs.Runner.Alike
import Workbench.Proofs.Runner.Pending

/-!
# Events that come too late

An event about a run that is not in the active slot is *dropped*: it takes effect without changing
anything. That is so by definition for the moment in which it happens, but such an event also sits
in the queue before, keeps a thread busy, and is what its sender has sent. This module shows that
nothing of this matters: from every schedule, all that is about some dropped events can be deleted,
down to their having been sent (`World.prune`), and session and slots go through the same states
(`World.Shadows.after`).

The comparison of the two schedules rests on two facts: runners that differ in reports and queue
only behave alike, and an event takes effect at most once (`World.Sound.applies_once`), so that an
event that is dropped at some time was not needed at another.
-/

namespace Workbench.World

variable {w v : World} {gone : List RunEvent} {event : RunEvent}

/-- In this act an event takes effect. -/
def Applies (w : World) (a : Act) (event : RunEvent) : Prop :=
  ∃ thread now, a = .applies thread now ∧ w.held thread = some event

/-- The event that is dropped in an act, if it is one. -/
def drop? (w : World) : Act → Option RunEvent
  | .applies thread _ => (w.held thread).filter fun event ↦ !w.runner.slots.isActive event.ticket
  | _ => none

/-- The events that are dropped in a schedule. -/
def dropped : World → List Act → List RunEvent
  | _, [] => []
  | w, a :: acts => (w.drop? a).toList ++ dropped (w.act a) acts

/-- The event that an act is about: what a worker or a watchdog sends or has sent, or what a thread
takes off the queue or holds. -/
def subject? (w : World) : Act → Option RunEvent
  | .reports run =>
    match w.runner.slots.workers[run]?, w.outcome? run with
    | some worker, some outcome => some (outcome.event worker.ticket)
    | _, _ => none
  | .alarms run => w.runner.slots.workers[run]?.map fun worker ↦ .timedOut worker.ticket
  | .takes thread => w.held thread <|> w.runner.queue.head?
  | .applies thread _ => w.held thread
  | .call _ | .returns _ _ | .looks _ _ => none

/-- A schedule without the acts that are about some events. -/
def prune (gone : List RunEvent) : World → List Act → List Act
  | _, [] => []
  | w, a :: acts =>
    if (w.subject? a).any (· ∈ gone) then prune gone (w.act a) acts
    else a :: prune gone (w.act a) acts

/-! ### Taking effect once -/

theorem drop?_eq_some_iff {a : Act} :
    w.drop? a = some event ↔
      w.Applies a event ∧ w.runner.slots.isActive event.ticket = false := by
  cases a with
  | applies thread now => simp [drop?, Applies, Option.filter_eq_some_iff]
  | call | returns | reports | looks | alarms | takes => simp [drop?, Applies]

theorem mem_dropped_iff {acts : List Act} :
    event ∈ w.dropped acts ↔ ∃ pre a, pre ++ [a] <+: acts ∧ (w.after pre).Applies a event ∧
      (w.after pre).runner.slots.isActive event.ticket = false := by
  induction acts generalizing w with
  | nil => simp [dropped]
  | cons b acts ih =>
    rw [dropped, List.mem_append, Option.mem_toList, drop?_eq_some_iff, ih]
    constructor
    · rintro (hfirst | ⟨pre, a, hpre, hdrop⟩)
      · exact ⟨[], b, by simp, hfirst⟩
      · exact ⟨b :: pre, a, by simpa using hpre, hdrop⟩
    · rintro ⟨pre, a, hpre, hdrop⟩
      cases pre with
      | nil =>
        obtain rfl : a = b := by simpa using hpre
        exact .inl hdrop
      | cons c pre =>
        rw [List.cons_append, List.cons_prefix_cons] at hpre
        obtain ⟨rfl, hpre⟩ := hpre
        exact .inr ⟨pre, a, hpre, hdrop⟩

/-- After an event took effect it is not held by anyone. -/
theorem Sound.not_applies_twice (hw : w.Sound) {a b : Act} (ha : w.Applies a event)
    (acts : List Act) : ¬(w.after (a :: acts)).Applies b event := by
  obtain ⟨thread, now, rfl, holds⟩ := ha
  rintro ⟨thread', now', -, holds'⟩
  exact ((hw.spent now holds).after (hw.act _) acts).2 (.inr ⟨thread', holds'⟩)

/-- An event takes effect at most once in a schedule. -/
theorem Sound.applies_once (hw : w.Sound) {acts pre pre' : List Act} {a a' : Act}
    (hpre : pre ++ [a] <+: acts) (hpre' : pre' ++ [a'] <+: acts)
    (ha : (w.after pre).Applies a event) (ha' : (w.after pre').Applies a' event) : pre = pre' := by
  -- The shorter one continues with its own act, which spends the event.
  have hshorter {pre pre' : List Act} {a a' : Act} (hpre : pre ++ [a] <+: acts)
      (hpre' : pre' ++ [a'] <+: acts) (ha : (w.after pre).Applies a event)
      (ha' : (w.after pre').Applies a' event) (hlength : pre.length ≤ pre'.length) :
      pre = pre' := by
    have hprefix := (List.prefix_append pre [a]).trans hpre
    have hprefix' := (List.prefix_append pre' [a']).trans hpre'
    rcases Nat.eq_or_lt_of_le hlength with heq | hlt
    · exact (List.prefix_of_prefix_length_le hprefix hprefix' hlength).eq_of_length heq
    · obtain ⟨rest, rfl⟩ := List.prefix_of_prefix_length_le hpre hprefix' (by
        rw [List.length_append]
        exact hlt)
      rw [List.append_assoc, List.singleton_append, after_append] at ha'
      exact absurd ha' ((hw.after pre).not_applies_twice ha rest)
  rcases Nat.le_total pre.length pre'.length with hle | hle
  · exact hshorter hpre hpre' ha ha' hle
  · exact (hshorter hpre' hpre ha' ha hle).symm

/-! ### The schedule and what is left of it -/

/-- The worker of a run has returned with what makes one of these events. -/
def Silenced (gone : List RunEvent) (w : World) (n : Nat) : Prop :=
  ∃ run outcome, w.runner.slots.runs[n]? = some run ∧ w.outcome? n = some outcome ∧
    outcome.event run.ticket ∈ gone

/-- The alarm about a run is one of these events. -/
def Disarmed (gone : List RunEvent) (w : World) (n : Nat) : Prop :=
  ∃ run, w.runner.slots.runs[n]? = some run ∧ .timedOut run.ticket ∈ gone

theorem Silenced.grows {n : Nat} {w' : World} (h : w.Silenced gone n) (hgrows : w.Grows w') :
    w'.Silenced gone n := by
  obtain ⟨run, outcome, hrun, houtcome, hmem⟩ := h
  obtain ⟨run', hrun', hticket, -⟩ := hgrows.run hrun
  exact ⟨run', outcome, hrun', hgrows.outcome houtcome, hticket ▸ hmem⟩

theorem Disarmed.grows {n : Nat} {w' : World} (h : w.Disarmed gone n) (hgrows : w.Grows w') :
    w'.Disarmed gone n := by
  obtain ⟨run, hrun, hmem⟩ := h
  obtain ⟨run', hrun', hticket, -⟩ := hgrows.run hrun
  exact ⟨run', hrun', hticket ▸ hmem⟩

/-- How the world after a schedule looks when everything about some events was deleted from it: the
events are nowhere, and their senders have not sent them. -/
structure Shadows (gone : List RunEvent) (w v : World) : Prop where
  /-- Session and slots are the same, up to reports. -/
  alike : w.runner.Alike v.runner
  /-- The other events wait in the same order. -/
  queue : v.runner.queue = w.runner.queue.filter (· ∉ gone)
  /-- The other events are held by the same threads. -/
  held : ∀ thread, v.held thread = (w.held thread).filter (· ∉ gone)
  /-- The executions returned the same. -/
  outcome : v.outcome? = w.outcome?
  /-- The same workers have reported, those aside that would have sent one of the events. -/
  reported : ∀ n, v.runner.slots.reports[n]? = w.runner.slots.reports[n]? ∨ w.Silenced gone n
  /-- The watchdogs are as far, those aside that would have sent one of the events. -/
  watch : ∀ n, v.watch n = w.watch n ∨
    v.watch n = .late ∧ w.watch n = .alarmed ∧ w.Disarmed gone n

/-- Nothing has happened yet. -/
theorem shadows_new (gone : List RunEvent) (policy : CommitPolicy) (supply : Supply)
    (hasWaker : Bool) :
    Shadows gone (new policy supply hasWaker) (new policy supply hasWaker) where
  alike := .refl _
  queue := rfl
  held _ := rfl
  outcome := rfl
  reported _ := .inl rfl
  watch _ := .inl rfl

namespace Shadows

/-- What is said of workers stays true when something more is sent. -/
theorem reported_grows (h : Shadows gone w v) {w' : World} (hgrows : w.Grows w') (n : Nat) :
    v.runner.slots.reports[n]? = w.runner.slots.reports[n]? ∨ w'.Silenced gone n :=
  (h.reported n).imp_right fun hsilenced ↦ hsilenced.grows hgrows

/-- And so does what is said of watchdogs. -/
theorem watch_grows (h : Shadows gone w v) {w' : World} (hgrows : w.Grows w') (n : Nat) :
    v.watch n = w.watch n ∨ v.watch n = .late ∧ w.watch n = .alarmed ∧ w'.Disarmed gone n := by
  rcases h.watch n with heq | ⟨hlate, halarmed, hdisarmed⟩
  · exact .inl heq
  · exact .inr ⟨hlate, halarmed, hdisarmed.grows hgrows⟩

/-- Moves that the runners of both worlds make in step. -/
theorem moved (h : Shadows gone w v) (hw : w.Sound) (hv : v.Sound) {r r' : Runner}
    (hmoves : Runner.Moves w.runner r) (hmoves' : Runner.Moves v.runner r')
    (halike : r.Alike r') : Shadows gone { w with runner := r } { v with runner := r' } := by
  have hfollows := hw.coherent.follows hmoves
  have hfollows' := hv.coherent.follows hmoves'
  have hgrows := grows_of_follows hfollows w.held
  refine ⟨halike, ?_, h.held, h.outcome, fun n ↦ ?_, h.watch_grows hgrows⟩
  · exact hmoves'.queue_eq.trans (h.queue.trans (by rw [hmoves.queue_eq]))
  · refine (h.reported_grows hgrows n).imp_left fun heq ↦ ?_
    -- The runs that were added are as many in both worlds, and none has reported.
    have hlength : v.runner.slots.reports.length = w.runner.slots.reports.length := by
      simpa [Slots.reports] using h.alike.length_workers_eq
    show r'.slots.reports[n]? = r.slots.reports[n]?
    rw [hfollows.reports_eq, hfollows'.reports_eq, halike.length_workers_eq,
      h.alike.length_workers_eq, List.getElem?_append, List.getElem?_append, hlength, heq]

/-- An act that is about one of the events is no act of the other world. -/
theorem skip (h : Shadows gone w v) (hw : w.Sound) {a : Act} (hsubject : w.subject? a = some event)
    (hgone : event ∈ gone)
    (hstale : w.Applies a event → w.runner.slots.isActive event.ticket = false) :
    Shadows gone (w.act a) v := by
  have hgrows := grows_act hw.coherent a
  have hacted := acted w a
  generalize w.act a = w' at hacted hgrows ⊢
  have hwatch (n : Nat) (hn : w'.watch n = w.watch n) : v.watch n = w'.watch n ∨
      v.watch n = .late ∧ w'.watch n = .alarmed ∧ w'.Disarmed gone n := by
    rw [hn]
    exact h.watch_grows hgrows n
  cases hacted with
  | rests => exact h
  | calls | returns | looks => simp [subject?] at hsubject
  | @reports n outcome worker started returned before =>
    obtain rfl : outcome.event worker.ticket = event := by
      simpa [subject?, started, returned] using hsubject
    have hsilenced : w.Silenced gone n :=
      ⟨worker.core, outcome, by rw [Slots.getElem?_runs, started, Option.map_some], returned, hgone⟩
    refine ⟨⟨?_, ?_⟩, ?_, h.held, h.outcome, fun m ↦ ?_, fun m ↦ hwatch m rfl⟩
    · rw [Runner.session_report, h.alike.session]
    · rw [Runner.slots_report, Slots.silent_report, h.alike.slots]
    · rw [Runner.queue_report, h.queue, List.filter_append]
      simp [hgone]
    · by_cases hm : n = m
      · exact .inr (hm ▸ hsilenced.grows hgrows)
      · refine (h.reported_grows hgrows m).imp_left fun heq ↦ heq.trans ?_
        simp [Slots.getElem?_reports_report, hm]
  | @alarms n worker started before =>
    obtain rfl : .timedOut worker.ticket = event := by simpa [subject?, started] using hsubject
    have hdisarmed : w.Disarmed gone n :=
      ⟨worker.core, by rw [Slots.getElem?_runs, started, Option.map_some], hgone⟩
    refine ⟨⟨?_, ?_⟩, ?_, h.held, h.outcome, fun m ↦ ?_, fun m ↦ ?_⟩
    · rw [Runner.session_post, h.alike.session]
    · rw [Runner.slots_post, h.alike.slots]
    · rw [Runner.queue_post, h.queue, List.filter_append]
      simp [hgone]
    · refine (h.reported_grows hgrows m).imp_left fun heq ↦ heq.trans ?_
      rw [Runner.slots_post]
    · by_cases hm : m = n
      · subst hm
        have hlate : v.watch m = .late := (h.watch m).elim (fun heq ↦ heq.trans before) (·.1)
        exact .inr ⟨hlate, Function.update_self .., hdisarmed.grows hgrows⟩
      · exact hwatch m (Function.update_of_ne hm ..)
  | @takes thread first rest free queue =>
    obtain rfl : first = event := by simpa [subject?, free, queue] using hsubject
    refine ⟨⟨h.alike.session, h.alike.slots⟩, ?_, fun t ↦ ?_, h.outcome, h.reported, h.watch⟩
    · rw [h.queue, queue]
      exact List.filter_cons_of_neg (by simpa using hgone)
    · rw [h.held]
      by_cases ht : t = thread
      · simp [ht, free, hgone, Option.filter]
      · simp [Function.update_of_ne ht]
  | @applies thread now held holds =>
    obtain rfl : held = event := Option.some.inj (holds.symm.trans hsubject)
    rw [Runner.apply_of_not_isActive now (by simp [hstale ⟨thread, now, rfl, holds⟩])]
    refine ⟨h.alike, h.queue, fun t ↦ ?_, h.outcome, h.reported, h.watch⟩
    rw [h.held]
    by_cases ht : t = thread
    · simp [ht, holds, hgone, Option.filter]
    · simp [Function.update_of_ne ht]

/-! ### Acts of both worlds -/

theorem keep_returns (h : Shadows gone w v) (n : Nat) (outcome : Outcome) :
    Shadows gone (w.act (.returns n outcome)) (v.act (.returns n outcome)) := by
  rw [act, act, h.outcome]
  rcases h.alike.worker_cases n with ⟨worker, reported, hworker, hworker'⟩ | ⟨hworker, hworker'⟩
  · rw [hworker, hworker']
    cases houtcome : w.outcome? n with
    | some outcome => exact h
    | none =>
      have hgrows : w.Grows { w with outcome? := Function.update w.outcome? n (some outcome) } :=
        grows_returns houtcome
      exact ⟨h.alike, h.queue, h.held, rfl, h.reported_grows hgrows, h.watch_grows hgrows⟩
  · rw [hworker, hworker']
    exact h

/-- Another event is added to the queue in both worlds. -/
theorem pushed (h : Shadows gone w v) {r r' : Runner} (halike : r.Alike r') (hgone : event ∉ gone)
    (hqueue : r.queue = w.runner.queue ++ [event])
    (hqueue' : r'.queue = v.runner.queue ++ [event]) (hgrows : w.Grows { w with runner := r })
    (hreports : ∀ n : Nat, v.runner.slots.reports[n]? = w.runner.slots.reports[n]? →
      r'.slots.reports[n]? = r.slots.reports[n]?) :
    Shadows gone { w with runner := r } { v with runner := r' } where
  alike := halike
  queue := by
    dsimp only
    rw [hqueue', hqueue, h.queue, List.filter_append]
    simp [hgone]
  held := h.held
  outcome := h.outcome
  reported n := (h.reported_grows hgrows n).imp_left (hreports n)
  watch := h.watch_grows hgrows

/-- A worker that does not send one of the events has reported in both worlds or in neither. -/
theorem reported_eq (h : Shadows gone w v) {n : Nat} {worker : Worker} {reported : Bool}
    {outcome : Outcome} (hworker : w.runner.slots.workers[n]? = some worker)
    (hworker' : v.runner.slots.workers[n]? = some { worker with reported })
    (houtcome : w.outcome? n = some outcome) (hgone : outcome.event worker.ticket ∉ gone) :
    reported = worker.reported := by
  rcases h.reported n with heq | ⟨run, outcome', hrun, houtcome', hmem⟩
  · simpa [Slots.reports, hworker, hworker'] using heq
  · rw [Slots.getElem?_runs, hworker, Option.map_some, Option.some.injEq] at hrun
    obtain rfl := Option.some.inj (houtcome'.symm.trans houtcome)
    rw [← hrun] at hmem
    exact absurd hmem hgone

theorem keep_reports (h : Shadows gone w v) {n : Nat}
    (hsubject : ∀ event, w.subject? (.reports n) = some event → event ∉ gone) :
    Shadows gone (w.act (.reports n)) (v.act (.reports n)) := by
  rw [act, act]
  rcases h.alike.worker_cases n with ⟨worker, reported, hworker, hworker'⟩ | ⟨hworker, hworker'⟩
  · have houtcome' : v.outcome? n = w.outcome? n := congrFun h.outcome n
    rw [hworker, hworker', houtcome']
    cases houtcome : w.outcome? n with
    | none => exact h
    | some outcome =>
      have hgone := hsubject (outcome.event worker.ticket) (by simp [subject?, hworker, houtcome])
      obtain rfl := h.reported_eq hworker hworker' houtcome hgone
      dsimp only
      split
      · exact h
      · refine h.pushed ⟨?_, ?_⟩ hgone (Runner.queue_report ..) (Runner.queue_report ..)
          (grows_report w n _) fun m heq ↦ ?_
        · rw [Runner.session_report, Runner.session_report, h.alike.session]
        · rw [Runner.slots_report, Runner.slots_report, Slots.silent_report, Slots.silent_report,
            h.alike.slots]
        · rw [Runner.slots_report, Runner.slots_report, Slots.getElem?_reports_report,
            Slots.getElem?_reports_report, heq]
  · rw [hworker, hworker']
    exact h

/-- A watchdog gets further in both worlds. -/
theorem watched (h : Shadows gone w v) {n : Nat} {old new : Watch} (before : w.watch n = old)
    (hne : old ≠ .alarmed) :
    Shadows gone { w with watch := Function.update w.watch n new }
      { v with watch := Function.update v.watch n new } := by
  have hgrows : w.Grows { w with watch := Function.update w.watch n new } :=
    grows_watch rfl before hne
  refine ⟨h.alike, h.queue, h.held, h.outcome, h.reported, fun m ↦ ?_⟩
  by_cases hm : m = n
  · subst hm
    exact .inl (by simp)
  · dsimp only
    rw [Function.update_of_ne hm, Function.update_of_ne hm]
    exact h.watch_grows hgrows m

theorem keep_looks (h : Shadows gone w v) (n : Nat) (late : Bool) :
    Shadows gone (w.act (.looks n late)) (v.act (.looks n late)) := by
  by_cases hwaiting : w.watch n = .waiting
  · have hwaiting' : v.watch n = .waiting := by
      rcases h.watch n with heq | ⟨-, halarmed, -⟩
      · exact heq.trans hwaiting
      · simp [hwaiting] at halarmed
    rw [act, act, hwaiting, hwaiting']
    rcases h.alike.worker_cases n with ⟨worker, reported, hworker, hworker'⟩ | ⟨hworker, hworker'⟩
    · rw [hworker, hworker']
      dsimp only
      split
      · exact h.watched hwaiting (by simp)
      · split
        · exact h.watched hwaiting (by simp)
        · exact h
    · rw [hworker, hworker']
      exact h
  · have hwaiting' : v.watch n ≠ .waiting := by
      rcases h.watch n with heq | ⟨hlate, -⟩
      · rwa [heq]
      · simp [hlate]
    rw [act_looks_of_ne late hwaiting, act_looks_of_ne late hwaiting']
    exact h

theorem keep_alarms (h : Shadows gone w v) {n : Nat}
    (hsubject : ∀ event, w.subject? (.alarms n) = some event → event ∉ gone) :
    Shadows gone (w.act (.alarms n)) (v.act (.alarms n)) := by
  rcases h.alike.worker_cases n with ⟨worker, reported, hworker, hworker'⟩ | ⟨hworker, hworker'⟩
  · have hgone := hsubject (.timedOut worker.ticket) (by simp [subject?, hworker])
    have hwatch : v.watch n = w.watch n := by
      rcases h.watch n with heq | ⟨-, -, run, hrun, hmem⟩
      · exact heq
      · rw [Slots.getElem?_runs, hworker, Option.map_some, Option.some.injEq] at hrun
        rw [← hrun] at hmem
        exact absurd hmem hgone
    by_cases hlate : w.watch n = .late
    · rw [act, act, hworker, hworker', hwatch, hlate]
      refine (h.watched hlate (by simp)).pushed ⟨?_, ?_⟩ hgone (Runner.queue_post ..)
        (Runner.queue_post ..) (.of_runs_eq ?_ (fun h ↦ h) fun h ↦ h) fun m heq ↦ ?_
      · rw [Runner.session_post, Runner.session_post, h.alike.session]
      · rw [Runner.slots_post, Runner.slots_post, h.alike.slots]
      · rw [Runner.slots_post]
      · rw [Runner.slots_post, Runner.slots_post]
        exact heq
    · rw [act_alarms_of_ne hlate, act_alarms_of_ne (by rwa [hwatch])]
      exact h
  · have hrests : w.act (.alarms n) = w := by rw [act, hworker]
    have hrests' : v.act (.alarms n) = v := by rw [act, hworker']
    rw [hrests, hrests']
    exact h

theorem keep_takes (h : Shadows gone w v) {thread : Nat}
    (hsubject : ∀ event, w.subject? (.takes thread) = some event → event ∉ gone) :
    Shadows gone (w.act (.takes thread)) (v.act (.takes thread)) := by
  have hheld := h.held thread
  cases holds : w.held thread with
  | some event =>
    have hgone := hsubject event (by simp [subject?, holds])
    have holds' : v.held thread = some event := by simp [hheld, holds, hgone, Option.filter]
    rw [act_takes_of_held holds, act_takes_of_held holds']
    exact h
  | none =>
    have holds' : v.held thread = none := by simp [hheld, holds]
    have hqueue := h.queue
    cases queue : w.runner.queue with
    | nil =>
      have queue' : v.runner.queue = [] := by simp [hqueue, queue]
      rw [act_takes_of_nil holds queue, act_takes_of_nil holds' queue']
      exact h
    | cons event rest =>
      have hgone := hsubject event (by simp [subject?, holds, queue])
      have queue' : v.runner.queue = event :: rest.filter (· ∉ gone) := by
        simp [hqueue, queue, hgone]
      rw [act_takes holds queue, act_takes holds' queue']
      refine ⟨⟨h.alike.session, h.alike.slots⟩, rfl, fun t ↦ ?_, h.outcome, h.reported, h.watch⟩
      by_cases ht : t = thread
      · simp [ht, hgone, Option.filter]
      · simp [Function.update_of_ne ht, h.held t]

theorem keep_applies (h : Shadows gone w v) (hw : w.Sound) (hv : v.Sound) {thread : Nat}
    (now : String)
    (hsubject : ∀ event, w.subject? (.applies thread now) = some event → event ∉ gone) :
    Shadows gone (w.act (.applies thread now)) (v.act (.applies thread now)) := by
  have hheld := h.held thread
  cases holds : w.held thread with
  | none =>
    have holds' : v.held thread = none := by simp [hheld, holds]
    rw [act_applies_of_free now holds, act_applies_of_free now holds']
    exact h
  | some event =>
    have hgone := hsubject event holds
    have holds' : v.held thread = some event := by simp [hheld, holds, hgone, Option.filter]
    have hmoved := h.moved hw hv (Runner.apply_moves now event _) (Runner.apply_moves now event _)
      (h.alike.apply now event)
    rw [act_applies now holds, act_applies now holds']
    refine ⟨hmoved.alike, hmoved.queue, fun t ↦ ?_, hmoved.outcome, hmoved.reported, hmoved.watch⟩
    by_cases ht : t = thread
    · simp [ht]
    · simp [Function.update_of_ne ht, h.held t]

/-- An act that is about none of the events happens in both worlds. -/
theorem keep (h : Shadows gone w v) (hw : w.Sound) (hv : v.Sound) {a : Act}
    (hsubject : ∀ event, w.subject? a = some event → event ∉ gone) :
    Shadows gone (w.act a) (v.act a) := by
  cases a with
  | call call =>
    exact h.moved hw hv (Runner.perform_moves call _) (Runner.perform_moves call _)
      (h.alike.perform call)
  | returns n outcome => exact h.keep_returns n outcome
  | reports n => exact h.keep_reports hsubject
  | looks n late => exact h.keep_looks n late
  | alarms n => exact h.keep_alarms hsubject
  | takes thread => exact h.keep_takes hsubject
  | applies thread now => exact h.keep_applies hw hv now hsubject

/-- An event that takes effect in the other world is not dropped there, since it is not one of the
events that were deleted. -/
theorem drop?_eq_none (h : Shadows gone w v) {a : Act}
    (hsubject : ∀ event, w.subject? a = some event → event ∉ gone)
    (hgone : ∀ event, w.Applies a event → w.runner.slots.isActive event.ticket = false →
      event ∈ gone) : v.drop? a = none := by
  rw [Option.eq_none_iff_forall_ne_some]
  intro event hdrop
  obtain ⟨⟨thread, now, rfl, holds'⟩, hstale⟩ := drop?_eq_some_iff.1 hdrop
  rw [h.held, Option.filter_eq_some_iff] at holds'
  obtain ⟨holds, -⟩ := holds'
  rw [h.alike.isActive_eq] at hstale
  exact hsubject event holds (hgone event ⟨thread, now, rfl, holds⟩ hstale)

/-- If the events are those that are dropped in a schedule, then what is left of it leads to the
shadow of where the schedule leads, and nothing is dropped in it. -/
theorem after (h : Shadows gone w v) (hw : w.Sound) (hv : v.Sound) {acts : List Act}
    (hgone : ∀ pre a event, pre ++ [a] <+: acts → (w.after pre).Applies a event →
      (event ∈ gone ↔ (w.after pre).runner.slots.isActive event.ticket = false)) :
    Shadows gone (w.after acts) (v.after (prune gone w acts)) ∧
      v.dropped (prune gone w acts) = [] := by
  induction acts generalizing w v with
  | nil => exact ⟨h, rfl⟩
  | cons a acts ih =>
    have hfirst (event : RunEvent) : w.Applies a event →
        (event ∈ gone ↔ w.runner.slots.isActive event.ticket = false) :=
      hgone [] a event (by simp)
    have hlater (pre : List Act) (b : Act) (event : RunEvent) (hpre : pre ++ [b] <+: acts) :
        ((w.act a).after pre).Applies b event →
          (event ∈ gone ↔ ((w.act a).after pre).runner.slots.isActive event.ticket = false) :=
      hgone (a :: pre) b event ((List.prefix_cons_inj a).2 hpre)
    rw [prune]
    split
    · -- The act is about one of the events, so if that takes effect, it is dropped.
      rename_i hany
      obtain ⟨event, hsubject, hmem⟩ := (Option.any_eq_true _ _).1 hany
      have hmem := of_decide_eq_true hmem
      have hskip := h.skip hw hsubject hmem fun happlies ↦ (hfirst event happlies).1 hmem
      exact ih hskip (hw.act a) hv hlater
    · rename_i hany
      have hsubject (event : RunEvent) (hsubject : w.subject? a = some event) : event ∉ gone :=
        fun hmem ↦ hany ((Option.any_eq_true _ _).2 ⟨event, hsubject, decide_eq_true hmem⟩)
      obtain ⟨hshadows, hdropped⟩ := ih (h.keep hw hv hsubject) (hw.act a) (hv.act a) hlater
      refine ⟨hshadows, ?_⟩
      rw [dropped, hdropped,
        h.drop?_eq_none hsubject fun event happlies ↦ (hfirst event happlies).2]
      rfl

end Shadows

/-- An event that takes effect in a schedule is one of those that are dropped in it exactly if it is
dropped right then, for it takes effect at no other time. -/
theorem Sound.mem_dropped_iff_of_applies (hw : w.Sound) {acts pre : List Act} {a : Act}
    (hpre : pre ++ [a] <+: acts) (happlies : (w.after pre).Applies a event) :
    event ∈ w.dropped acts ↔ (w.after pre).runner.slots.isActive event.ticket = false := by
  rw [mem_dropped_iff]
  constructor
  · rintro ⟨pre', a', hpre', happlies', hstale⟩
    rwa [hw.applies_once hpre hpre' happlies happlies']
  · exact fun hstale ↦ ⟨pre, a, hpre, happlies, hstale⟩

/-- Deleting all that is about the events that are dropped in a schedule leaves a schedule in which
none is, and which goes through the same states of session and slots. -/
theorem prune_dropped (policy : CommitPolicy) (supply : Supply) (hasWaker : Bool)
    (acts : List Act) :
    let start := new policy supply hasWaker
    (∀ pre, pre <+: acts →
      Shadows (start.dropped acts) (start.after pre)
        (start.after (prune (start.dropped acts) start pre))) ∧
      start.dropped (prune (start.dropped acts) start acts) = [] := by
  intro start
  have hstart : start.Sound := sound_new policy supply hasWaker
  have hshadows := shadows_new (start.dropped acts) policy supply hasWaker
  refine ⟨fun pre hpre ↦ (hshadows.after hstart hstart fun pre' a event hpre' ↦ ?_).1,
    (hshadows.after hstart hstart fun pre' a event hpre' ↦ ?_).2⟩
  · exact hstart.mem_dropped_iff_of_applies (hpre'.trans hpre)
  · exact hstart.mem_dropped_iff_of_applies hpre'

/-- The alarm about a run that has ended is dropped, though the next run is of the same
generation. -/
example :
    let start := new .always {} true
    let acts : List Act := [.call .runProgram, .looks 0 true, .returns 0 .panicked, .reports 0,
      .takes 0, .applies 0 "", .alarms 0, .call .runProgram, .takes 0, .applies 0 ""]
    start.dropped acts = [.timedOut ⟨0, 1⟩] ∧
      (start.after acts).runner.slots.active = some ⟨⟨0, 2⟩, 1⟩ := by
  decide

end Workbench.World
