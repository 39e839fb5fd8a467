import Workbench.Proofs.Runner.Coherent
import Workbench.Proofs.Session.Hosts

/-!
# Runners that behave alike

Whether a run has reported is noted in the slots for the one who reports, and is read by nobody
else. Two runners with the same session and with slots that differ in nothing but these notes stay
like that under all operations and events, whatever is in their queues (`Runner.Alike`).
-/

namespace Workbench

namespace Slots

/-- The slots without what they know about reports. -/
def silent (slots : Slots) : Slots :=
  { slots with workers := slots.workers.map fun w ↦ { w with reported := false } }

/-- Which runs have reported. -/
def reports (slots : Slots) : List Bool :=
  slots.workers.map Worker.reported

variable {slots : Slots}

@[simp]
theorem silent_report (run : Nat) (slots : Slots) : (slots.report run).silent = slots.silent := by
  have hworkers : (slots.report run).silent.workers = slots.silent.workers := by
    refine List.ext_getElem? fun n ↦ ?_
    rw [silent, silent, List.getElem?_map, List.getElem?_map, getElem?_workers_report,
      Option.map_map]
    congr 1
    funext w
    by_cases hn : run = n <;> simp [hn]
  exact congrArg (fun workers ↦ { slots with workers }) hworkers

theorem getElem?_reports_report (run : Nat) (slots : Slots) (n : Nat) :
    (slots.report run).reports[n]? =
      slots.reports[n]?.map fun reported ↦ decide (run = n) || reported := by
  rw [reports, reports, List.getElem?_map, List.getElem?_map, getElem?_workers_report,
    Option.map_map, Option.map_map]
  congr 1
  funext w
  by_cases hn : run = n <;> simp [hn]

/-! ### Operations on slots do not look at reports -/

theorem cancel_silent (ticket : Ticket) (slots : Slots) :
    slots.silent.cancel ticket = (slots.cancel ticket).silent := by
  simp only [cancel, silent, List.map_map, mk.injEq, true_and]
  refine List.map_congr_left fun w _ ↦ ?_
  by_cases hw : w.ticket = ticket <;> simp [hw]

theorem discard_silent (active : ActiveRun) (slots : Slots) :
    slots.silent.discard active = (slots.discard active).silent := by
  have hcancel := cancel_silent active.ticket { slots with active := none }
  exact congrArg (destroy active.context) hcancel

theorem abort_silent (generation : Nat) (slots : Slots) :
    slots.silent.abort generation = (slots.abort generation).silent := by
  rw [abort, abort, show slots.silent.active = slots.active from rfl]
  cases slots.active with
  | none => rfl
  | some a =>
    dsimp only
    split
    · exact discard_silent a slots
    · rfl

theorem finish_silent (ticket : Ticket) (reusable : Bool) (slots : Slots) :
    slots.silent.finish ticket reusable = (slots.finish ticket reusable).silent := by
  rw [finish, finish, show slots.silent.active = slots.active from rfl,
    show slots.silent.idle = slots.idle from rfl]
  cases slots.active with
  | none => rfl
  | some a =>
    by_cases hticket : a.ticket ≠ ticket
    · simp only [if_pos hticket]
    · simp only [if_neg hticket]
      split
      · exact cancel_silent ticket { slots with active := none, idle := some a.context }
      · exact discard_silent a slots

theorem shutdown_silent (slots : Slots) : slots.silent.shutdown = slots.shutdown.silent := by
  have hdiscard : slots.silent.active.elim slots.silent slots.silent.discard =
      (slots.active.elim slots slots.discard).silent := by
    rw [show slots.silent.active = slots.active from rfl]
    cases slots.active with
    | none => rfl
    | some a => exact discard_silent a slots
  rw [shutdown, shutdown, hdiscard]
  generalize slots.active.elim slots slots.discard = slots'
  rw [show slots'.silent.idle = slots'.idle from rfl]
  cases slots'.idle <;> rfl

theorem takeContext_silent (slots : Slots) :
    slots.silent.takeContext = slots.takeContext.map id silent := by
  rw [takeContext, takeContext, show slots.silent.idle = slots.idle from rfl]
  cases slots.idle with
  | some context => rfl
  | none =>
    dsimp only
    rw [show slots.silent.supply.refusal slots.silent.attempts =
      slots.supply.refusal slots.attempts from rfl]
    cases slots.supply.refusal slots.attempts <;> rfl

theorem launch_silent (context : Nat) (request : Request) (slots : Slots) :
    slots.silent.launch context request = (slots.launch context request).map id silent := by
  rw [launch, launch, show slots.silent.supply.spawnFailure slots.silent.spawns =
    slots.supply.spawnFailure slots.spawns from rfl]
  cases slots.supply.spawnFailure slots.spawns with
  | some message => rfl
  | none => simp [silent]

theorem start_silent (request : Request) (slots : Slots) :
    slots.silent.start request = (slots.start request).map id silent := by
  rw [start, start, takeContext_silent]
  cases slots.takeContext with
  | mk answer taken =>
    cases answer with
    | error error => rfl
    | ok context => exact launch_silent context request taken

/-- As a host, slots do not look at reports. -/
theorem host_follows_silent (flight? : Option Flight) (slots : Slots) :
    host.Follows host silent flight? slots where
  start _ request := start_silent request slots
  abort flight _ := abort_silent flight.generation slots

end Slots

namespace Runner

/-- The sessions of two runners are the same, and their slots up to what they know about
reports. -/
structure Alike (r r' : Runner) : Prop where
  session : r'.session = r.session
  slots : r'.slots.silent = r.slots.silent

namespace Alike

variable {r r' : Runner}

theorem refl (r : Runner) : Alike r r :=
  ⟨rfl, rfl⟩

theorem active_eq (h : Alike r r') : r'.slots.active = r.slots.active :=
  congrArg (fun slots ↦ slots.active) h.slots

theorem idle_eq (h : Alike r r') : r'.slots.idle = r.slots.idle :=
  congrArg (fun slots ↦ slots.idle) h.slots

theorem isActive_eq (h : Alike r r') (ticket : Ticket) :
    r'.slots.isActive ticket = r.slots.isActive ticket := by
  rw [Slots.isActive, h.active_eq]
  rfl

theorem length_workers_eq (h : Alike r r') :
    r'.slots.workers.length = r.slots.workers.length := by
  have hlength := congrArg (fun slots ↦ slots.workers.length) h.slots
  simpa only [Slots.silent, List.length_map] using hlength

/-- The runs are the same up to their reports. -/
theorem worker_cases (h : Alike r r') (n : Nat) :
    (∃ worker reported, r.slots.workers[n]? = some worker ∧
        r'.slots.workers[n]? = some { worker with reported }) ∨
      r.slots.workers[n]? = none ∧ r'.slots.workers[n]? = none := by
  have hworkers := congrArg (fun slots ↦ slots.workers[n]?) h.slots
  simp only [Slots.silent, List.getElem?_map] at hworkers
  cases hworker : r.slots.workers[n]? with
  | none =>
    rw [hworker, Option.map_none, Option.map_eq_none_iff] at hworkers
    exact .inr ⟨rfl, hworkers⟩
  | some worker =>
    rw [hworker, Option.map_some, Option.map_eq_some_iff] at hworkers
    obtain ⟨worker', hworker', heq⟩ := hworkers
    refine .inl ⟨worker, worker'.reported, rfl, ?_⟩
    rw [hworker']
    simp only [Worker.mk.injEq] at heq
    obtain ⟨hticket, hcontext, hrequest, hcancelled, -⟩ := heq
    rw [← hticket, ← hcontext, ← hrequest, ← hcancelled]

/-! ### Operations and events -/

theorem withSession {α : Type} {act : Session → Slots → α × Session × Slots} (h : Alike r r')
    (hact : ∀ slots, act r.session slots.silent =
      (act r.session slots).map id (Prod.map id Slots.silent)) :
    Alike (r.withSession act).2 (r'.withSession act).2 := by
  have hboth : (act r.session r'.slots).map id (Prod.map id Slots.silent) =
      (act r.session r.slots).map id (Prod.map id Slots.silent) := by
    rw [← hact, ← hact, h.slots]
  rw [withSession_snd, withSession_snd, h.session]
  exact ⟨congrArg (·.2.1) hboth, congrArg (·.2.2) hboth⟩

theorem onSession {α : Type} (act : Session → α × Session) (h : Alike r r') :
    Alike (r.onSession act).2 (r'.onSession act).2 := by
  rw [onSession_snd, onSession_snd, h.session]
  exact ⟨rfl, h.slots⟩

theorem abort (h : Alike r r') : Alike r.abort.2 r'.abort.2 :=
  h.withSession fun slots ↦ Session.abort_map (Slots.host_follows_silent _ slots)

theorem openProgram (program : Program) (h : Alike r r') :
    Alike (r.openProgram program) (r'.openProgram program) := by
  have hopen (slots : Slots) := Session.openProgram_map
    (Slots.host_follows_silent r.session.flight slots) program
  have hboth : (r.session.openProgram Slots.host program r'.slots).map id Slots.silent =
      (r.session.openProgram Slots.host program r.slots).map id Slots.silent := by
    rw [← hopen, ← hopen, h.slots]
  rw [Runner.openProgram, Runner.openProgram, h.session]
  exact ⟨congrArg (·.1) hboth, congrArg (·.2) hboth⟩

theorem shutdown (h : Alike r r') : Alike r.shutdown r'.shutdown where
  session := h.abort.session
  slots := by
    have hslots := congrArg Slots.shutdown h.abort.slots
    rwa [Slots.shutdown_silent, Slots.shutdown_silent] at hslots

/-- Every operation leaves runners alike. -/
theorem perform (call : Call) (h : Alike r r') : Alike (r.perform call) (r'.perform call) := by
  cases call with
  | dispatch mode source =>
    exact h.withSession fun slots ↦
      Session.dispatch_map (Slots.host_follows_silent _ slots) mode source
  | runLine line =>
    exact h.withSession fun slots ↦ Session.runLine_map (Slots.host_follows_silent _ slots) line
  | runProgram =>
    exact h.withSession fun slots ↦ Session.runProgram_map (Slots.host_follows_silent _ slots)
  | abort => exact h.abort
  | shutdown => exact h.shutdown
  | openProgram program => exact h.openProgram program
  | clear => exact h.onSession _
  | setProgramText text => exact h.onSession _
  | submit line => exact h.onSession _
  | previous => exact h.onSession _
  | next => exact h.onSession _
  | clearProgram => exact ⟨congrArg Session.clearProgram h.session, h.slots⟩
  | markSaved => exact ⟨congrArg Session.markSaved h.session, h.slots⟩

theorem finish (ticket : Ticket) (reusable : Bool) (session : Session) (h : Alike r r') :
    Alike { r with session, slots := r.slots.finish ticket reusable }
      { r' with session, slots := r'.slots.finish ticket reusable } where
  session := rfl
  slots := by
    have hslots := congrArg (Slots.finish ticket reusable) h.slots
    rwa [Slots.finish_silent, Slots.finish_silent] at hslots

/-- Every event that takes effect leaves runners alike. -/
theorem apply (now : String) (event : RunEvent) (h : Alike r r') :
    Alike (r.apply now event) (r'.apply now event) := by
  by_cases hactive : r.slots.isActive event.ticket = true
  · have hactive' : r'.slots.isActive event.ticket = true := by rw [h.isActive_eq, hactive]
    rw [Runner.apply.eq_def, Runner.apply.eq_def, if_pos hactive, if_pos hactive', h.session]
    cases event with
    | completed ticket response =>
      dsimp only
      split
      · exact h.finish ticket true _
      · exact ⟨rfl, h.slots⟩
    | failed ticket message =>
      dsimp only
      split
      · exact h.finish ticket false _
      · exact ⟨rfl, h.slots⟩
    | timedOut ticket => exact h.abort
  · have hactive' : ¬r'.slots.isActive event.ticket = true := by rwa [h.isActive_eq]
    rw [apply_of_not_isActive now hactive, apply_of_not_isActive now hactive']
    exact h

end Alike

/-- Moves note no reports, and runs that are added have none. -/
theorem Follows.reports_eq {r r' : Runner} (h : Follows r r') :
    r'.slots.reports = r.slots.reports ++
      List.replicate (r'.slots.workers.length - r.slots.workers.length) false := by
  have hreports (slots : Slots) : slots.reports = slots.runs.map Worker.reported := by
    rw [Slots.reports, Slots.runs, List.map_map]
    rfl
  obtain ⟨added, hruns, hunreported, -⟩ := h
  have hlength : r'.slots.workers.length - r.slots.workers.length = added.length := by
    rw [← Slots.length_runs, ← Slots.length_runs, hruns, List.length_append,
      Nat.add_sub_cancel_left]
  rw [hreports, hreports, hruns, List.map_append, hlength]
  congr 1
  exact List.eq_replicate_iff.2 ⟨List.length_map _, by simpa using hunreported⟩

end Runner

end Workbench
