import Mathlib.Data.List.Basic
import Workbench.Runner.Slots

/-!
# What the slots keep in order

Two bodies of facts about slots hold from the start and survive every operation, and neither knows
of the other:

* `Slots.Numbered`: the runs are numbered without gaps, so their tickets differ; the active slot
  holds the last run that was started; and a run was told to stop exactly when it is not the one in
  the active slot.
* `Slots.Accounted`: the contexts in the active slot, in the idle one and among the destroyed ones
  are together the contexts that were created, each once, and the two slots are never both taken.

A run is started only while the active slot is free and given up or finished only while it is taken,
so each operation is treated under the one of the two hypotheses that its callers meet. That they
do meet it is shown where the session comes in.
-/

namespace Workbench

/-- A run without whether it was told to stop. -/
def Worker.core (w : Worker) : Worker :=
  { w with cancelled := false }

namespace Slots

variable {slots slots' : Slots}

/-- Where the contexts are: in the active slot, in the idle one, or destroyed. -/
def contexts (slots : Slots) : List Nat :=
  (slots.active.map (·.context)).toList ++ slots.idle.toList ++ slots.destroyed

/-- The runs that were started, whether or not they were told to stop. -/
def runs (slots : Slots) : List Worker :=
  slots.workers.map Worker.core

@[simp]
theorem length_runs (slots : Slots) : slots.runs.length = slots.workers.length :=
  List.length_map _

theorem getElem?_runs (slots : Slots) (n : Nat) :
    slots.runs[n]? = slots.workers[n]?.map Worker.core :=
  List.getElem?_map

theorem isActive_iff {ticket : Ticket} :
    slots.isActive ticket = true ↔ ∃ a, slots.active = some a ∧ a.ticket = ticket := by
  simp [isActive]

theorem isActive_of_active {a : ActiveRun} (ha : slots.active = some a) :
    slots.isActive a.ticket = true :=
  isActive_iff.2 ⟨a, ha, rfl⟩

theorem isActive_of_none (ha : slots.active = none) (ticket : Ticket) :
    slots.isActive ticket = false := by
  simp [isActive, ha]

/-! ### Numbered runs -/

/-- The runs are numbered, and the active slot and the signals to stop agree with the numbers. -/
structure Numbered (slots : Slots) : Prop where
  /-- The next sequence number is the first that no run has. -/
  nextSeq_eq : slots.nextSeq = slots.workers.length + 1
  /-- Sequence numbers count the runs from one. -/
  seq_eq : ∀ {n : Nat} {w : Worker}, slots.workers[n]? = some w → w.ticket.seq = n + 1
  /-- The active slot holds the last run. -/
  active_eq : ∀ {a : ActiveRun}, slots.active = some a →
    ∃ w, slots.workers.getLast? = some w ∧ w.ticket = a.ticket ∧ w.context = a.context
  /-- A run was told to stop exactly if it is not in the active slot. -/
  cancelled_iff : ∀ {w : Worker}, w ∈ slots.workers →
    (w.cancelled = true ↔ slots.isActive w.ticket = false)

namespace Numbered

/-- Tickets identify runs. -/
theorem eq_of_ticket_eq (h : slots.Numbered) {n m : Nat} {v w : Worker}
    (hv : slots.workers[n]? = some v) (hw : slots.workers[m]? = some w)
    (ht : v.ticket = w.ticket) : n = m := by
  have hn := h.seq_eq hv
  have hm := h.seq_eq hw
  rw [ht] at hn
  omega

/-- The run in the active slot has the last number. -/
theorem exists_last_of_active (h : slots.Numbered) {a : ActiveRun} (ha : slots.active = some a) :
    ∃ n w, slots.workers.length = n + 1 ∧ slots.workers[n]? = some w ∧ w.ticket = a.ticket ∧
      w.context = a.context := by
  obtain ⟨w, hlast, hticket, hcontext⟩ := h.active_eq ha
  have hne : slots.workers ≠ [] := by
    rintro hnil
    simp [hnil] at hlast
  have hpos := List.length_pos_iff.2 hne
  refine ⟨slots.workers.length - 1, w, by omega, ?_, hticket, hcontext⟩
  rw [← List.getLast?_eq_getElem?, hlast]

/-- A run whose ticket is in the active slot is the last one. -/
theorem eq_last_of_isActive (h : slots.Numbered) {n : Nat} {w : Worker}
    (hw : slots.workers[n]? = some w) (hactive : slots.isActive w.ticket = true) :
    slots.workers.length = n + 1 := by
  obtain ⟨a, ha, hticket⟩ := isActive_iff.1 hactive
  obtain ⟨m, v, hlen, hv, hvt, -⟩ := h.exists_last_of_active ha
  rw [h.eq_of_ticket_eq hw hv (hticket.symm.trans hvt.symm)]
  exact hlen

/-- Sequence numbers count the runs from one, whether or not they were told to stop. -/
theorem seq_of_run (h : slots.Numbered) {n : Nat} {run : Worker}
    (hrun : slots.runs[n]? = some run) :
    run.ticket.seq = n + 1 := by
  rw [getElem?_runs] at hrun
  obtain ⟨w, hw, rfl⟩ := Option.map_eq_some_iff.1 hrun
  have hseq := h.seq_eq hw
  exact hseq

/-- The numbers do not depend on the contexts that wait or were destroyed. -/
theorem congr (h : slots.Numbered) (hactive : slots'.active = slots.active)
    (hseq : slots'.nextSeq = slots.nextSeq) (hworkers : slots'.workers = slots.workers) :
    slots'.Numbered where
  nextSeq_eq := by rw [hseq, hworkers, h.nextSeq_eq]
  seq_eq hw := h.seq_eq (hworkers ▸ hw)
  active_eq ha := by
    rw [hworkers]
    exact h.active_eq (hactive ▸ ha)
  cancelled_iff hw := by
    rw [hworkers] at hw
    rw [isActive, hactive]
    exact h.cancelled_iff hw

end Numbered

/-! ### Accounted contexts -/

/-- Each context that was created is in one place, and at most one slot is taken. -/
structure Accounted (slots : Slots) : Prop where
  /-- The idle slot is free while a run is active. -/
  idle_eq_none : ∀ {a : ActiveRun}, slots.active = some a → slots.idle = none
  /-- The places together hold each context once. -/
  perm : slots.contexts.Perm (List.range slots.created)

/-- Slots that are in order. -/
structure Valid (slots : Slots) : Prop extends slots.Numbered, slots.Accounted

/-- Slots that nothing has been done with. -/
theorem valid_init (supply : Supply) : Valid { supply } where
  nextSeq_eq := rfl
  seq_eq hw := by simp at hw
  active_eq ha := by simp at ha
  cancelled_iff hw := by simp at hw
  idle_eq_none _ := rfl
  perm := .refl _

/-! ### Telling a run to stop -/

@[simp]
theorem runs_cancel (ticket : Ticket) (slots : Slots) :
    (slots.cancel ticket).runs = slots.runs := by
  rw [runs, runs, cancel, List.map_map]
  refine List.map_congr_left fun w _ ↦ ?_
  by_cases hw : w.ticket = ticket <;> simp [Worker.core, hw]

/-- A run after some run was told to stop. -/
theorem getElem?_workers_cancel (ticket : Ticket) (slots : Slots) (n : Nat) :
    (slots.cancel ticket).workers[n]? = slots.workers[n]?.map fun w ↦
      if w.ticket = ticket then { w with cancelled := true } else w :=
  List.getElem?_map

/-- A free active slot stays in order when the run that was in it has been told to stop. -/
theorem Numbered.release (h : slots.Numbered) {a : ActiveRun} (ha : slots.active = some a)
    (hactive : slots'.active = none) (hseq : slots'.nextSeq = slots.nextSeq)
    (hworkers : slots'.workers = (slots.cancel a.ticket).workers) : slots'.Numbered where
  nextSeq_eq := by
    rw [hseq, hworkers, h.nextSeq_eq]
    simp [cancel]
  seq_eq hw := by
    rw [hworkers, getElem?_workers_cancel] at hw
    obtain ⟨v, hv, rfl⟩ := Option.map_eq_some_iff.1 hw
    rw [← h.seq_eq hv]
    split <;> rfl
  active_eq ha' := by simp [hactive] at ha'
  cancelled_iff hw := by
    rw [hworkers] at hw
    obtain ⟨v, hv, rfl⟩ := List.mem_map.1 hw
    rw [isActive_of_none hactive]
    split
    · simp
    · rename_i hne
      -- Another run than the active one was told to stop before.
      have hother : slots.isActive v.ticket = false := by
        simpa [isActive, ha] using fun heq ↦ hne heq.symm
      simp [(h.cancelled_iff hv).2 hother]

/-! ### Giving a run up -/

/-- Taking the run out of the active slot and destroying its context keeps the slots in order. -/
theorem Valid.discard (h : slots.Valid) {a : ActiveRun} (ha : slots.active = some a) :
    (slots.discard a).Valid where
  toNumbered := h.toNumbered.release ha rfl rfl rfl
  idle_eq_none ha' := by simp [Slots.discard, destroy, cancel] at ha'
  perm := by
    -- The context moves from the front of the list to its end.
    refine List.Perm.trans ?_ h.perm
    simp only [contexts, Slots.discard, destroy, cancel, ha, Option.map_none, Option.toList_none,
      List.nil_append, Option.map_some, Option.toList_some, List.cons_append]
    rw [← List.append_assoc]
    exact List.perm_append_singleton _ _

@[simp]
theorem runs_discard (a : ActiveRun) (slots : Slots) : (slots.discard a).runs = slots.runs :=
  runs_cancel a.ticket { slots with active := none }

/-- Giving up the generation of the active run discards that run. -/
theorem abort_of_active {a : ActiveRun} {generation : Nat} (ha : slots.active = some a)
    (hgeneration : a.ticket.generation = generation) :
    slots.abort generation = slots.discard a := by
  simp [abort, ha, hgeneration]

/-! ### Finishing a run -/

/-- Finishing the active run keeps the slots in order and frees the active slot. The context of a
run that ended well waits for the next one; any other is destroyed. -/
theorem Valid.finish (h : slots.Valid) {ticket : Ticket} (hactive : slots.isActive ticket = true)
    (reusable : Bool) :
    (slots.finish ticket reusable).Valid ∧ (slots.finish ticket reusable).active = none ∧
      (slots.finish ticket reusable).runs = slots.runs := by
  obtain ⟨a, ha, rfl⟩ := isActive_iff.1 hactive
  have hidle := h.idle_eq_none ha
  cases reusable with
  | false =>
    have heq : slots.finish a.ticket false = slots.discard a := by simp [Slots.finish, ha]
    rw [heq]
    exact ⟨h.discard ha, rfl, runs_discard a slots⟩
  | true =>
    have heq : slots.finish a.ticket true =
        { slots with active := none, idle := some a.context }.cancel a.ticket := by
      simp [Slots.finish, ha, hidle]
    rw [heq]
    refine ⟨⟨h.toNumbered.release ha rfl rfl rfl, ?_, ?_⟩, rfl, runs_cancel _ _⟩
    · intro a' ha'
      simp [cancel] at ha'
    · refine List.Perm.trans ?_ h.perm
      simp [contexts, cancel, ha, hidle]

/-! ### Reporting a run -/

/-- The slots after the worker of a run has reported. -/
def report (run : Nat) (slots : Slots) : Slots :=
  { slots with workers := slots.workers.modify run fun w ↦ { w with reported := true } }

theorem getElem?_workers_report (run : Nat) (slots : Slots) (n : Nat) :
    (slots.report run).workers[n]? =
      slots.workers[n]?.map fun w ↦ if run = n then { w with reported := true } else w := by
  rw [report, List.getElem?_modify]
  by_cases hn : run = n <;> simp [hn]

theorem getElem?_runs_report (run : Nat) (slots : Slots) (n : Nat) :
    (slots.report run).runs[n]? =
      slots.runs[n]?.map fun w ↦ if run = n then { w with reported := true } else w := by
  rw [getElem?_runs, getElem?_runs, getElem?_workers_report, Option.map_map, Option.map_map]
  congr 1
  funext w
  by_cases hn : run = n <;> simp [Worker.core, hn]

theorem getLast?_workers_report (run : Nat) (slots : Slots) :
    (slots.report run).workers.getLast? = slots.workers.getLast?.map fun w ↦
      if run = slots.workers.length - 1 then { w with reported := true } else w := by
  rw [List.getLast?_eq_getElem?, List.getLast?_eq_getElem?, getElem?_workers_report, report,
    List.length_modify]

/-- Whether a run has reported matters neither for the numbers nor for the contexts. -/
theorem Valid.report (h : slots.Valid) (run : Nat) : (slots.report run).Valid where
  nextSeq_eq := by simp [Slots.report, h.nextSeq_eq]
  seq_eq hw := by
    rw [getElem?_workers_report] at hw
    obtain ⟨v, hv, rfl⟩ := Option.map_eq_some_iff.1 hw
    rw [← h.seq_eq hv]
    split <;> rfl
  active_eq ha := by
    obtain ⟨w, hw, hticket, hcontext⟩ := h.active_eq ha
    rw [getLast?_workers_report, hw]
    refine ⟨_, rfl, ?_, ?_⟩
    · rw [← hticket]
      split <;> rfl
    · rw [← hcontext]
      split <;> rfl
  cancelled_iff hw := by
    obtain ⟨n, hn⟩ := List.getElem?_of_mem hw
    rw [getElem?_workers_report] at hn
    obtain ⟨v, hv, rfl⟩ := Option.map_eq_some_iff.1 hn
    have hold := h.cancelled_iff (List.mem_of_getElem? hv)
    split <;> exact hold
  idle_eq_none := h.idle_eq_none
  perm := h.perm

/-! ### Emptying the slots -/

/-- Slots that are emptied have no context in either slot: all are destroyed. -/
theorem Valid.shutdown (h : slots.Valid) (ha : slots.active = none) :
    slots.shutdown.Valid ∧ slots.shutdown.active = none ∧ slots.shutdown.idle = none ∧
      slots.shutdown.workers = slots.workers := by
  cases hidle : slots.idle with
  | none =>
    have heq : slots.shutdown = slots := by simp [Slots.shutdown, ha, hidle]
    rw [heq]
    exact ⟨h, ha, hidle, rfl⟩
  | some context =>
    have heq : slots.shutdown = { slots with idle := none }.destroy context := by
      simp [Slots.shutdown, ha, hidle]
    rw [heq]
    refine ⟨⟨h.toNumbered.congr rfl rfl rfl, fun _ ↦ rfl, ?_⟩, ha, rfl, rfl⟩
    refine List.Perm.trans ?_ h.perm
    simp [contexts, destroy, ha, hidle, List.perm_append_singleton]

/-! ### Runs that stay as they are -/

theorem length_workers_of_runs_eq (h : slots'.runs = slots.runs) :
    slots'.workers.length = slots.workers.length := by
  rw [← length_runs, h, length_runs]

theorem runs_abort (generation : Nat) (slots : Slots) :
    (slots.abort generation).runs = slots.runs := by
  rw [abort]
  split
  · rfl
  · split
    · exact runs_discard _ _
    · rfl

theorem runs_finish (ticket : Ticket) (reusable : Bool) (slots : Slots) :
    (slots.finish ticket reusable).runs = slots.runs := by
  rw [Slots.finish]
  split
  · rfl
  · split
    · rfl
    · split
      · exact runs_cancel _ _
      · exact runs_discard _ _

theorem runs_shutdown (slots : Slots) : slots.shutdown.runs = slots.runs := by
  have hdiscard : (slots.active.elim slots slots.discard).runs = slots.runs := by
    cases slots.active with
    | none => rfl
    | some a => exact runs_discard a slots
  rw [Slots.shutdown]
  split
  · exact hdiscard
  · exact hdiscard

/-! ### Starting a run -/

/-- What `takeContext` changes while no run is active: the context it hands out is in none of the
places, and with it each context is there once. -/
theorem takeContext_ok (h : slots.Valid) (ha : slots.active = none) {context : Nat}
    (htake : slots.takeContext = (.ok context, slots')) :
    slots'.active = none ∧ slots'.idle = none ∧ slots'.nextSeq = slots.nextSeq ∧
      slots'.workers = slots.workers ∧
      (context :: slots'.destroyed).Perm (List.range slots'.created) := by
  have hperm := h.perm
  rw [takeContext] at htake
  split at htake
  · rename_i hidle
    obtain ⟨rfl, rfl⟩ : _ ∧ _ := by simpa using htake
    simp only [contexts, ha, hidle, Option.map_none, Option.toList_none, List.nil_append,
      Option.toList_some, List.cons_append] at hperm
    exact ⟨ha, rfl, rfl, rfl, hperm⟩
  · rename_i hidle
    split at htake
    · simp at htake
    · obtain ⟨rfl, rfl⟩ : _ ∧ _ := by simpa using htake
      simp only [contexts, ha, hidle, Option.map_none, Option.toList_none, List.nil_append]
        at hperm
      refine ⟨ha, hidle, rfl, rfl, ?_⟩
      rw [List.range_succ]
      exact (hperm.cons _).trans (List.perm_append_singleton _ _).symm

/-- What `takeContext` changes when it fails. -/
theorem takeContext_error {error : SessionError}
    (htake : slots.takeContext = (.error error, slots')) :
    slots' = { slots with attempts := slots.attempts + 1 } := by
  rw [takeContext] at htake
  split at htake
  · simp at htake
  · split at htake
    · simpa using (Prod.mk.inj htake).2.symm
    · simp at htake

/-- A run that cannot be started leaves the slots in order and the active slot free: no context is
lost, whether creating one failed or setting it to work did. -/
theorem Valid.start_error (h : slots.Valid) (ha : slots.active = none) {request : Request}
    {error : SessionError} (hstart : slots.start request = (.error error, slots')) :
    slots'.Valid ∧ slots'.active = none ∧ slots'.workers = slots.workers := by
  rw [start] at hstart
  split at hstart
  · rename_i htake
    obtain ⟨-, rfl⟩ := Prod.mk.inj hstart
    rw [takeContext_error htake]
    exact ⟨⟨h.toNumbered.congr rfl rfl rfl, h.idle_eq_none, h.perm⟩, ha, rfl⟩
  · rename_i context taken htake
    obtain ⟨hactive, hidle, hseq, hworkers, hperm⟩ := takeContext_ok h ha htake
    rw [launch] at hstart
    split at hstart
    · obtain ⟨-, rfl⟩ := Prod.mk.inj hstart
      refine ⟨⟨h.toNumbered.congr (hactive.trans ha.symm) hseq hworkers, ?_, ?_⟩, hactive, hworkers⟩
      · intro a ha'
        simp [hactive] at ha'
      · simpa [contexts, hactive] using hperm
    · simp at hstart

/-- The run that a successful start adds. -/
def fresh (slots : Slots) (request : Request) (context : Nat) : Worker :=
  { ticket := ⟨request.generation, slots.nextSeq⟩, context, request }

/-- A run added behind the others under the next number, and put into the free active slot. -/
theorem Numbered.append (h : slots.Numbered) (ha : slots.active = none) {w : Worker}
    (hticket : w.ticket.seq = slots.nextSeq) (hcancelled : w.cancelled = false)
    (hactive : slots'.active = some ⟨w.ticket, w.context⟩)
    (hseq : slots'.nextSeq = slots.nextSeq + 1) (hworkers : slots'.workers = slots.workers ++ [w]) :
    slots'.Numbered where
  nextSeq_eq := by
    rw [hseq, hworkers, h.nextSeq_eq]
    simp
  seq_eq {n v} hv := by
    rw [hworkers, List.getElem?_append] at hv
    split at hv
    · exact h.seq_eq hv
    · obtain ⟨hn, rfl⟩ := List.getElem?_eq_some_iff.1 hv
      have hlen : n = slots.workers.length := by
        simp only [List.length_singleton] at hn
        omega
      simp [hticket, h.nextSeq_eq, hlen]
  active_eq ha' := by
    rw [hactive, Option.some.injEq] at ha'
    subst ha'
    exact ⟨w, by simp [hworkers], rfl, rfl⟩
  cancelled_iff {v} hv := by
    rw [hworkers, List.mem_append, List.mem_singleton] at hv
    rcases hv with hv | rfl
    · -- An earlier run has a smaller number than the new one, and was told to stop already.
      obtain ⟨n, hn⟩ := List.getElem?_of_mem hv
      have hlt : n < slots.workers.length := (List.getElem?_eq_some_iff.1 hn).1
      have hne : w.ticket ≠ v.ticket := by
        intro heq
        have := h.seq_eq hn
        rw [← heq, hticket, h.nextSeq_eq] at this
        omega
      have hold := (h.cancelled_iff hv).2 (isActive_of_none ha v.ticket)
      simp [isActive, hactive, hne, hold]
    · simp [isActive, hactive, hcancelled]

/-- A run that is started is the last one and occupies the active slot, with the slots in order. -/
theorem Valid.start_ok (h : slots.Valid) (ha : slots.active = none) {request : Request}
    (hstart : slots.start request = (.ok (), slots')) :
    slots'.Valid ∧ ∃ context, slots'.workers = slots.workers ++ [slots.fresh request context] ∧
      slots'.active = some ⟨⟨request.generation, slots.nextSeq⟩, context⟩ := by
  rw [start] at hstart
  split at hstart
  · simp at hstart
  · rename_i context taken htake
    obtain ⟨hactive, hidle, hseq, hworkers, hperm⟩ := takeContext_ok h ha htake
    rw [launch] at hstart
    split at hstart
    · simp at hstart
    · obtain ⟨-, rfl⟩ := Prod.mk.inj hstart
      have hnumbered := h.toNumbered.congr (hactive.trans ha.symm) hseq hworkers
      refine ⟨⟨hnumbered.append hactive rfl rfl rfl rfl rfl, fun _ ↦ hidle, ?_⟩, context, ?_, ?_⟩
      · simpa [contexts, hidle] using hperm
      · simp [hworkers, fresh, hseq]
      · simp [hseq]

end Slots

end Workbench
