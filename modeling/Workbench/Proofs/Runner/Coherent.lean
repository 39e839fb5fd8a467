import Workbench.Proofs.Runner.Moves

/-!
# Session and slots agree

That a run is in flight is noted twice: by the session, and by the active slot. `Runner.Coherent`
says that the two notes agree, on the generation and on what was asked to be run, and that the slots
are in order. Every move keeps it (`Coherent.move`), so whoever finds a runner between two
operations finds it coherent, and can use the consequences listed here: a session without a run in
flight leaves the active slot free, a result for the active run is accepted, and giving up the run
in flight always finds it in the active slot.

`Runner.Follows` says what moves do to the list of runs, and is all that the threads around a runner
have to know of its operations.
-/

namespace Workbench.Runner

variable {r r' : Runner}

/-- Session and slots tell of the same run, and the slots are in order. -/
structure Coherent (r : Runner) : Prop where
  /-- The slots are in order. -/
  slots : r.slots.Valid
  /-- The generation of the run in flight is that of the active slot. -/
  generation_eq : r.session.runningGeneration? = r.slots.active.map (·.ticket.generation)
  /-- The run in flight is of the current generation. -/
  current : ∀ {flight : Flight}, r.session.flight = some flight →
    flight.generation = r.session.generation
  /-- The run in flight is the last that was started, and its context was asked to run it. -/
  request_eq : ∀ {flight : Flight}, r.session.flight = some flight →
    ∃ w, r.slots.workers.getLast? = some w ∧ w.request.generation = flight.generation ∧
      w.request.wholeProgram = decide (flight.mode = .program) ∧ w.request.source = flight.source

/-- A new runner is coherent. -/
theorem coherent_new (policy : CommitPolicy) (supply : Supply) (hasWaker : Bool) :
    (Runner.new policy supply hasWaker).Coherent where
  slots := Slots.valid_init supply
  generation_eq := rfl
  current hflight := by simp [new] at hflight
  request_eq hflight := by simp [new] at hflight

namespace Coherent

/-! ### What coherence is good for -/

theorem active_eq_none (h : r.Coherent) (hidle : r.session.flight = none) :
    r.slots.active = none := by
  have hgeneration := h.generation_eq
  rw [Session.runningGeneration?, hidle] at hgeneration
  exact Option.map_eq_none_iff.1 hgeneration.symm

theorem exists_active (h : r.Coherent) {flight : Flight}
    (hflight : r.session.flight = some flight) :
    ∃ a, r.slots.active = some a ∧ a.ticket.generation = flight.generation := by
  have hgeneration := h.generation_eq
  rw [Session.runningGeneration?_of_flight hflight] at hgeneration
  exact Option.map_eq_some_iff.1 hgeneration.symm

theorem exists_flight (h : r.Coherent) {a : ActiveRun} (ha : r.slots.active = some a) :
    ∃ flight, r.session.flight = some flight ∧ flight.generation = a.ticket.generation := by
  have hgeneration := h.generation_eq
  rw [ha, Option.map_some] at hgeneration
  exact Option.map_eq_some_iff.1 hgeneration

theorem isRunning_iff (h : r.Coherent) :
    r.session.isRunning = true ↔ ∃ a, r.slots.active = some a := by
  rw [Session.isRunning_iff]
  constructor
  · rintro ⟨flight, hflight⟩
    obtain ⟨a, ha, -⟩ := h.exists_active hflight
    exact ⟨a, ha⟩
  · rintro ⟨a, ha⟩
    obtain ⟨flight, hflight, -⟩ := h.exists_flight ha
    exact ⟨flight, hflight⟩

/-- Results for the run in the active slot are accepted. -/
theorem exists_accepting (h : r.Coherent) {a : ActiveRun} (ha : r.slots.active = some a) :
    ∃ mode, r.session.accepting? a.ticket.generation = some mode := by
  obtain ⟨flight, hflight, hgeneration⟩ := h.exists_flight ha
  rw [← hgeneration]
  exact ⟨_, Session.accepting?_of_flight hflight (h.current hflight)⟩

/-- Giving up the run in flight discards the run in the active slot. -/
theorem abort_slots_eq (h : r.Coherent) {a : ActiveRun} {flight : Flight}
    (ha : r.slots.active = some a) (hflight : r.session.flight = some flight) :
    r.slots.abort flight.generation = r.slots.discard a := by
  obtain ⟨flight', hflight', hgeneration⟩ := h.exists_flight ha
  obtain rfl : flight' = flight := Option.some.inj (hflight'.symm.trans hflight)
  exact Slots.abort_of_active ha hgeneration.symm

/-! ### Moves -/

/-- A runner with a free active slot and no run in flight is coherent if its slots are in order. -/
theorem of_idle (hslots : r.slots.Valid) (ha : r.slots.active = none)
    (hidle : r.session.flight = none) : r.Coherent where
  slots := hslots
  generation_eq := by rw [ha, Session.runningGeneration?, hidle]; rfl
  current hflight := by simp [hidle] at hflight
  request_eq hflight := by simp [hidle] at hflight

/-- Every move keeps session and slots in agreement. -/
theorem move (h : r.Coherent) (hmove : Move r r') : r'.Coherent := by
  cases hmove with
  | keeps flight generation =>
    refine ⟨h.slots, ?_, fun hflight ↦ ?_, fun hflight ↦ h.request_eq (flight ▸ hflight)⟩
    · rw [← h.generation_eq, Session.runningGeneration?, flight]
      rfl
    · exact (h.current (flight ▸ hflight)).trans generation.symm
  | rests before after => exact of_idle h.slots (h.active_eq_none before) after
  | refuses before start after =>
    obtain ⟨hslots, ha, -⟩ := h.slots.start_error (h.active_eq_none before) start
    exact of_idle hslots ha after
  | @starts session slots mode source before start after generation =>
    obtain ⟨hslots, context, hworkers, ha⟩ := h.slots.start_ok (h.active_eq_none before) start
    refine ⟨hslots, ?_, fun hflight ↦ ?_, fun hflight ↦ ?_⟩
    · rw [Session.runningGeneration?_of_flight after, ha]
      rfl
    · obtain rfl := Option.some.inj (after.symm.trans hflight)
      exact generation.symm
    · obtain rfl := Option.some.inj (after.symm.trans hflight)
      exact ⟨r.slots.fresh (r.session.requestFor mode source) context, by simp [hworkers], rfl, rfl,
        rfl⟩
  | @retires session flight before after =>
    obtain ⟨a, ha, -⟩ := h.exists_active before
    rw [h.abort_slots_eq ha before]
    exact of_idle (h.slots.discard ha) rfl after
  | @finishes session ticket reusable active after =>
    obtain ⟨hslots, ha, -⟩ := h.slots.finish active reusable
    exact of_idle hslots ha after
  | empties before =>
    obtain ⟨hslots, ha, -⟩ := h.slots.shutdown (h.active_eq_none before)
    exact of_idle hslots ha before

theorem moves (h : r.Coherent) (hmoves : Moves r r') : r'.Coherent := by
  induction hmoves with
  | refl => exact h
  | tail _ hmove ih => exact ih.move hmove

theorem apply (h : r.Coherent) (now : String) (event : RunEvent) : (r.apply now event).Coherent :=
  h.moves (apply_moves now event r)

/-- The queue and the wakes have no part in coherence. -/
theorem congr (h : r.Coherent) (hsession : r'.session = r.session) (hslots : r'.slots = r.slots) :
    r'.Coherent where
  slots := hslots ▸ h.slots
  generation_eq := by rw [hsession, hslots, h.generation_eq]
  current hflight := by
    rw [hsession] at hflight ⊢
    exact h.current hflight
  request_eq hflight := by
    rw [hsession] at hflight
    rw [hslots]
    exact h.request_eq hflight

/-! ### Ends of runs -/

/-- An event about the active run ends it: the session has no run in flight afterwards and the
active slot is free. -/
theorem apply_of_isActive (h : r.Coherent) (now : String) {event : RunEvent}
    (hactive : r.slots.isActive event.ticket = true) :
    (r.apply now event).session.flight = none ∧ (r.apply now event).slots.active = none := by
  have hidle : (r.apply now event).session.flight = none := by
    obtain ⟨a, ha, hticket⟩ := Slots.isActive_iff.1 hactive
    obtain ⟨mode, haccepting⟩ := h.exists_accepting ha
    rw [hticket] at haccepting
    have happlied := applied now event r
    generalize r.apply now event = r' at happlied ⊢
    cases happlied with
    -- The run is in the active slot, and the session accepts it.
    | dropped stale => simp [hactive, haccepting] at stale
    | completed | failed => rfl
    | timedOut => exact flight_abort r
  exact ⟨hidle, (h.apply now event).active_eq_none hidle⟩

end Coherent

/-! ### What moves do to the runs -/

/-- Some runs were added behind the others, none of which has reported; the active slot holds the
run that it held before, an added one, or none; and without an added run nothing is in flight that
was not before. -/
def Follows (r r' : Runner) : Prop :=
  ∃ added : List Worker, r'.slots.runs = r.slots.runs ++ added ∧
    (∀ w ∈ added, w.reported = false) ∧
    (∀ a, r'.slots.active = some a → r.slots.active = some a ∨ ∃ w ∈ added, w.ticket = a.ticket) ∧
    (added = [] → r'.session.isRunning = true → r.session.isRunning = true)

/-- Without an added run, only what the session says of runs in flight can have changed. -/
theorem Follows.of_runs_eq (hruns : r'.slots.runs = r.slots.runs)
    (hactive : ∀ a, r'.slots.active = some a → r.slots.active = some a)
    (hrunning : r'.session.isRunning = true → r.session.isRunning = true) : Follows r r' :=
  ⟨[], by simp [hruns], by simp, fun a ha ↦ .inl (hactive a ha), fun _ ↦ hrunning⟩

theorem Follows.refl (r : Runner) : Follows r r :=
  .of_runs_eq rfl (fun _ ha ↦ ha) fun hrunning ↦ hrunning

theorem Follows.trans {r'' : Runner} (h : Follows r r') (h' : Follows r' r'') :
    Follows r r'' := by
  obtain ⟨added, hruns, hreported, hactive, hrunning⟩ := h
  obtain ⟨added', hruns', hreported', hactive', hrunning'⟩ := h'
  refine ⟨added ++ added', by rw [hruns', hruns, List.append_assoc], ?_, fun a ha ↦ ?_, ?_⟩
  · intro w hw
    exact (List.mem_append.1 hw).elim (hreported w) (hreported' w)
  · rcases hactive' a ha with ha | ⟨w, hw, hticket⟩
    · rcases hactive a ha with ha | ⟨w, hw, hticket⟩
      · exact .inl ha
      · exact .inr ⟨w, List.mem_append_left _ hw, hticket⟩
    · exact .inr ⟨w, List.mem_append_right _ hw, hticket⟩
  · intro hnil hrun
    obtain ⟨hadded, hadded'⟩ := List.append_eq_nil_iff.1 hnil
    exact hrunning hadded (hrunning' hadded' hrun)

/-- A run that was there before is in the active slot only if it was: a run that was added has
another ticket. -/
theorem Follows.isActive_of_isActive (hfollows : Follows r r') (h : r'.Coherent) {n : Nat}
    {run : Worker} (hrun : r.slots.runs[n]? = some run)
    (hactive : r'.slots.isActive run.ticket = true) : r.slots.isActive run.ticket = true := by
  obtain ⟨added, hruns, -, hslot, -⟩ := hfollows
  obtain ⟨a, ha, hticket⟩ := Slots.isActive_iff.1 hactive
  rcases hslot a ha with ha | ⟨v, hv, hvticket⟩
  · exact Slots.isActive_iff.2 ⟨a, ha, hticket⟩
  · obtain ⟨i, hi⟩ := List.getElem?_of_mem hv
    have hlt := (List.getElem?_eq_some_iff.1 hrun).1
    have hv' : r'.slots.runs[r.slots.runs.length + i]? = some v := by
      rw [hruns, List.getElem?_append_right (Nat.le_add_right _ _), Nat.add_sub_cancel_left, hi]
    have hrun' : r'.slots.runs[n]? = some run := by
      rw [hruns, List.getElem?_append_left hlt, hrun]
    have hseq := h.slots.seq_of_run hrun'
    have hseq' := h.slots.seq_of_run hv'
    rw [hvticket, hticket] at hseq'
    omega

theorem Coherent.follows_of_move (h : r.Coherent) (hmove : Move r r') : Follows r r' := by
  -- A run that was in the active slot may be gone, and that is all unless one is started.
  have ended {r' : Runner} (hruns : r'.slots.runs = r.slots.runs)
      (ha : r'.slots.active = none) (hidle : r'.session.flight = none) : Follows r r' :=
    .of_runs_eq hruns (by simp [ha]) (by simp [Session.isRunning, hidle])
  cases hmove with
  | keeps flight generation =>
    exact .of_runs_eq rfl (fun _ ha ↦ ha) (by simp [Session.isRunning, flight])
  | rests before after => exact ended rfl (h.active_eq_none before) after
  | refuses before start after =>
    obtain ⟨-, ha, hworkers⟩ := h.slots.start_error (h.active_eq_none before) start
    exact ended (by simp [Slots.runs, hworkers]) ha after
  | @starts session slots mode source before start after generation =>
    obtain ⟨-, context, hworkers, ha⟩ := h.slots.start_ok (h.active_eq_none before) start
    refine ⟨[(r.slots.fresh (r.session.requestFor mode source) context).core], ?_, ?_, ?_, by simp⟩
    · simp [Slots.runs, hworkers]
    · simp [Worker.core, Slots.fresh]
    · intro a ha'
      obtain rfl := Option.some.inj (ha.symm.trans ha')
      exact .inr ⟨_, List.mem_singleton.2 rfl, rfl⟩
  | @retires session flight before after =>
    obtain ⟨a, ha, -⟩ := h.exists_active before
    rw [h.abort_slots_eq ha before]
    exact ended (Slots.runs_discard a r.slots) rfl after
  | finishes active after =>
    obtain ⟨-, ha, hruns⟩ := h.slots.finish active _
    exact ended hruns ha after
  | empties before =>
    obtain ⟨-, ha, -, hworkers⟩ := h.slots.shutdown (h.active_eq_none before)
    exact ended (by simp [Slots.runs, hworkers]) ha before

theorem Coherent.follows (h : r.Coherent) (hmoves : Moves r r') : Follows r r' := by
  induction hmoves with
  | refl => exact .refl r
  | tail hmoves hmove ih => exact ih.trans ((h.moves hmoves).follows_of_move hmove)

end Workbench.Runner
