import Workbench.Proofs.Session.Trace

/-!
# Generations

The generation of a session is a clock that only giving a run up and dropping the transcript move
on; `Op.advance` says how far, operation by operation. A run in flight was started in the current
generation (`Current`), so a run that is over cannot be taken for a later one by its generation once
the clock has moved: results of the past, and of generations not reached yet, are dropped for good.

For results to be dropped it is enough that they are not of the current generation, or that no run
is in flight; that a run in flight carries the current generation is what lets them be accepted.
-/

namespace Workbench

namespace Session

variable {η : Type} {host : ContextHost η} {s : Session} {h : η}

/-- How far an operation moves the generation on, with a run in flight or without. -/
def Op.advance (running : Bool) : Op → Nat
  | .abort => if running then 1 else 0
  | .clear => if running then 0 else 1
  | .openProgram _ => if running then 2 else 1
  | _ => 0

/-- The generation of the run that an operation offers a result of. -/
def Op.offers? : Op → Option Nat
  | .complete _ generation _ => some generation
  | .fail generation _ => some generation
  | _ => none

/-! ### The clock -/

theorem generation_of_dispatched {mode : RunMode} {source : String}
    {result : Except SessionError Nat × Session × η}
    (hresult : Dispatched host mode source s h result) : result.2.1.generation = s.generation := by
  cases hresult <;> rfl

theorem generation_runLine (host : ContextHost η) (line : String) (s : Session) (h : η) :
    (s.runLine host line h).2.1.generation = s.generation := by
  rcases runLine_cases host line s h with ⟨error, heq⟩ | heq
  · rw [heq]
  · rw [heq]
    exact (generation_of_dispatched (dispatched host .terminal line
      { s with history := s.history.record line } h)).trans rfl

theorem generation_complete (now : String) (generation : Nat) (response : Response) (s : Session) :
    (s.complete now generation response).2.generation = s.generation := by
  obtain ⟨-, heq⟩ | ⟨mode, -, heq⟩ := complete_cases now generation response s
  · rw [heq]
  · rw [heq]
    rfl

theorem generation_fail (generation : Nat) (message : String) (s : Session) :
    (s.fail generation message).2.generation = s.generation := by
  obtain ⟨-, heq⟩ | ⟨mode, -, heq⟩ := fail_cases generation message s
  · rw [heq]
  · rw [heq]
    rfl

/-- Every operation moves the generation on by what `Op.advance` says. -/
theorem generation_perform (host : ContextHost η) (op : Op) (s : Session) (h : η) :
    (s.perform host op h).2.1.generation = s.generation + op.advance s.isRunning := by
  cases op with
  | dispatch mode source => exact generation_of_dispatched (dispatched host mode source s h)
  | runLine line => exact generation_runLine host line s h
  | runProgram => exact generation_of_dispatched (dispatched host .program s.program.text s h)
  | complete now generation response => exact generation_complete now generation response s
  | fail generation message => exact generation_fail generation message s
  | abort =>
    cases hflight : s.flight with
    | none => simp [perform, abort_of_idle hflight, Op.advance, isRunning, hflight]
    | some flight => simp [perform, abort_of_flight hflight, Op.advance, isRunning, hflight, log]
  | clear =>
    rcases clear_cases s with ⟨flight, hflight, heq⟩ | ⟨hidle, heq⟩
    · simp [perform, heq, Op.advance, isRunning, hflight]
    · simp [perform, heq, Op.advance, isRunning, hidle, reset]
  | openProgram program =>
    cases hflight : s.flight with
    | none =>
      simp [perform, openProgram_of_idle program hflight, Op.advance, isRunning, hflight, reset]
    | some flight =>
      simp [perform, openProgram_of_flight program hflight, Op.advance, isRunning, hflight, reset]
  | submit line =>
    rcases submit_cases line s with heq | heq <;> simp [perform, heq, Op.advance]
  | previous | next | setProgramText | clearProgram | markSaved => rfl

theorem Chronicle.generation_step (host : ContextHost η) (c : Chronicle η) (op : Op) :
    (c.step host op).session.generation =
      c.session.generation + op.advance c.session.isRunning :=
  generation_perform host.recorded op c.session (c.host, [])

theorem Chronicle.generation_le_after (host : ContextHost η) (c : Chronicle η) (ops : List Op) :
    c.session.generation ≤ (c.after host ops).session.generation := by
  induction ops generalizing c with
  | nil => exact Nat.le_refl _
  | cons op ops ih =>
    calc c.session.generation
        ≤ (c.step host op).session.generation := by
          rw [generation_step]
          exact Nat.le_add_right _ _
      _ ≤ (c.after host (op :: ops)).session.generation := ih (c.step host op)

/-! ### The run in flight -/

/-- A run in flight is of the current generation. -/
def Current (s : Session) : Prop :=
  ∀ flight, s.flight = some flight → flight.generation = s.generation

/-- Every step keeps the run in flight current: only a start puts a run in flight, and the clock
moves only while there is none or when it is given up. -/
theorem Current.step {news : List News} {s s' : Session} (hcurrent : Current s)
    (hstepped : Stepped s news s') : Current s' := by
  cases hstepped with
  | quiet | forgot => exact hcurrent
  | refused idle mode source error history =>
    intro flight hflight
    simp [log, idle] at hflight
  | started idle mode source history =>
    intro flight hflight
    obtain rfl := Option.some.inj hflight
    rfl
  | cleared idle =>
    intro flight hflight
    simp [reset, idle] at hflight
  | responded | broke | aborted | opened =>
    intro flight hflight
    simp [log, reset] at hflight

/-! ### Results that come too late or too early -/

theorem accepting?_eq_none {generation : Nat}
    (hstale : s.flight = none ∨ generation ≠ s.generation) : s.accepting? generation = none := by
  rw [accepting?]
  cases hflight : s.flight with
  | none => rfl
  | some flight =>
    have hne : generation ≠ s.generation := hstale.resolve_left (by simp [hflight])
    exact if_neg fun haccepting ↦ hne haccepting.2

/-- A result that no run in flight is waiting for is answered as stale, and changes nothing. -/
theorem perform_of_stale (host : ContextHost η) (h : η) {op : Op} {generation : Nat}
    (hoffers : op.offers? = some generation)
    (hstale : s.flight = none ∨ generation ≠ s.generation) :
    s.perform host op h = (.offered .stale, s, h) := by
  have hnone := accepting?_eq_none hstale
  cases op with
  | complete now generation' response =>
    obtain rfl : generation' = generation := Option.some.inj hoffers
    rw [perform, complete, hnone]
  | fail generation' message =>
    obtain rfl : generation' = generation := Option.some.inj hoffers
    rw [perform, fail, hnone]
  | _ => simp [Op.offers?] at hoffers

/-- After all sequences of operations, with any host and any results offered:

* the generation moves on by one when a run in flight is aborted or an idle session is cleared, by
  one or two when another program is taken, and by nothing else;
* a run in flight is of the current generation;
* from then on the generation never falls, and a result of a generation that has passed by now is
  stale at every later moment, as is one that is offered without a run in flight or for a generation
  not reached yet: the session, the host and its state are left as they are, and the host is not
  called. -/
theorem generations_retire (host : ContextHost η) (policy : CommitPolicy) (h : η) (ops : List Op) :
    let c := (Chronicle.new policy h).after host ops
    (∀ op, (c.step host op).session.generation =
        c.session.generation + op.advance c.session.isRunning) ∧
      (∀ flight, c.session.flight = some flight → flight.generation = c.session.generation) ∧
      ∀ later, let d := c.after host later
        c.session.generation ≤ d.session.generation ∧
          ∀ op generation, op.offers? = some generation →
            generation < c.session.generation ∨ d.session.flight = none ∨
              d.session.generation < generation →
            (d.see host op).answer = .offered .stale ∧ (d.see host op).calls = [] ∧
              (d.step host op).session = d.session ∧ (d.step host op).host = d.host := by
  intro c
  refine ⟨fun op ↦ c.generation_step host op, ?_,
    fun later ↦ ⟨c.generation_le_after host later, ?_⟩⟩
  · have hstart : Current { policy } := fun flight hflight ↦ by simp at hflight
    exact @Chronicle.after_induction _ host policy h (fun _ s ↦ Current s) hstart Current.step ops
  · intro op generation hoffers htime
    have hpassed := c.generation_le_after host later
    have hstale : (c.after host later).session.flight = none ∨
        generation ≠ (c.after host later).session.generation := by
      rcases htime with hbefore | hidle | hahead
      · exact .inr (by omega)
      · exact .inl hidle
      · exact .inr (by omega)
    have hperform := perform_of_stale host.recorded ((c.after host later).host, []) hoffers hstale
    simp [Chronicle.see, Chronicle.step, hperform]

end Session

end Workbench
