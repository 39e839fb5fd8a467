import Mathlib.Data.List.TakeWhile
import Workbench.Snippet.Run

/-!
# Runs that were cancelled before they began

A run looks whether it was cancelled only where it would wait: at a `sleep` or at `spin`. So if it
was cancelled from the start, it does what any run does up to the first statement that waits, and
there it breaks. It gets there exactly if its source has such a statement and all statements before
the first one succeed (`ReachesWait`). If not, it ends as if nobody had cancelled it: it has no
statement that waits, or one in front of it fails, and neither run waits for anything.

Which statements wait is a matter of how they are read: a `sleep` without a proper count is an
assignment or an expression, and does not look.
-/

namespace Workbench.Snippet

open Context (Signals Ending)

variable {s : Statement} {p : Progress}

/-! ### Statements that wait -/

/-- Whether a statement waits: for some time, or for the run to be cancelled. -/
def Statement.waits : Statement → Bool
  | .sleep _ | .spin => true
  | .print _ | .fail _ | .assign .. | .expr _ => false

/-- The signals of a run that is cancelled before it begins. -/
def cancelled : Signals where
  stopAt := some 0

theorem Statement.run_cancelled (hwaits : s.waits = true) : s.run cancelled p = .stopped := by
  cases s with
  | sleep millis =>
    have hstopped : cancelled.stopped (p.clock + millis) = true :=
      decide_eq_true (Nat.zero_le (p.clock + millis))
    rw [run, if_pos hstopped]
  | spin => rfl
  | print | fail | assign | expr => simp [waits] at hwaits

/-- A statement that does not wait does not look at the signals. -/
theorem Statement.run_of_not_waits (hwaits : s.waits = false) (signals signals' : Signals)
    (p : Progress) : s.run signals p = s.run signals' p := by
  cases s with
  | sleep | spin => simp [waits] at hwaits
  | print | fail | assign | expr => rfl

/-- A statement that does not wait succeeds or fails. -/
theorem Statement.next_or_failed (hwaits : s.waits = false) (signals : Signals) (p : Progress) :
    (∃ p', s.run signals p = .next p') ∨ ∃ message, s.run signals p = .failed message := by
  have hvalue (value : Except EvalError Json) (use : Json → Progress) :
      (∃ p', Step.ofValue value use = .next p') ∨
        ∃ message, Step.ofValue value use = .failed message := by
    cases value with
    | ok x => exact .inl ⟨use x, rfl⟩
    | error e => exact .inr ⟨e.message, rfl⟩
  cases s with
  | sleep | spin => simp [waits] at hwaits
  | fail message => exact .inr ⟨message, rfl⟩
  | print | assign | expr => exact hvalue _ _

/-! ### Reaching the first one -/

/-- The statements before the first one that waits. -/
def untilWait (statements : List Statement) : List Statement :=
  statements.takeWhile fun s ↦ !s.waits

/-- A run gets to a statement that waits: there is one, and all before the first one succeed. -/
def Reaches (statements : List Statement) (p : Progress) : Prop :=
  (∃ s ∈ statements, s.waits = true) ∧ ∃ p', runAll {} (untilWait statements) p = .finished p'

theorem reaches_of_waits (hwaits : s.waits = true) (rest : List Statement) (p : Progress) :
    Reaches (s :: rest) p := by
  refine ⟨⟨s, List.mem_cons_self, hwaits⟩, p, ?_⟩
  rw [untilWait, List.takeWhile_cons_of_neg (by simp [hwaits]), runAll]

theorem reaches_cons_iff (hwaits : s.waits = false) {rest : List Statement} :
    Reaches (s :: rest) p ↔ ∃ p', s.run {} p = .next p' ∧ Reaches rest p' := by
  have huntil : untilWait (s :: rest) = s :: untilWait rest :=
    List.takeWhile_cons_of_pos (by simp [hwaits])
  have hexists : (∃ t ∈ s :: rest, t.waits = true) ↔ ∃ t ∈ rest, t.waits = true := by
    simp [hwaits]
  rw [Reaches, huntil, hexists, runAll]
  cases s.run {} p with
  | next p' => simp [Reaches]
  | failed | stopped | endless => simp

/-- What becomes of a run that is cancelled before it begins, beside the same run left alone: it
stops at the first statement that waits, or it does not get there and is that run, which ends. -/
theorem runAll_cancelled (statements : List Statement) (p : Progress) :
    Reaches statements p ∧ runAll cancelled statements p = .stopped ∨
      ¬Reaches statements p ∧ runAll cancelled statements p = runAll {} statements p ∧
        ∃ response, (runAll {} statements p).ending = .responded response := by
  induction statements generalizing p with
  | nil =>
    refine .inr ⟨?_, rfl, _, rfl⟩
    rintro ⟨⟨s, hs, -⟩, -⟩
    simp at hs
  | cons s rest ih =>
    cases hwaits : s.waits with
    | true =>
      refine .inl ⟨reaches_of_waits hwaits rest p, ?_⟩
      rw [runAll, Statement.run_cancelled hwaits]
    | false =>
      rw [reaches_cons_iff hwaits, runAll, runAll, s.run_of_not_waits hwaits cancelled {} p]
      rcases s.next_or_failed hwaits {} p with ⟨p', hnext⟩ | ⟨message, hfailed⟩
      · simpa [hnext] using ih p'
      · simp [hfailed, Outcome.ending]

/-- A run of the request gets to a statement that waits: its source has one, and all statements
before the first one succeed. -/
def ReachesWait (request : Request) : Prop :=
  Reaches (statements request.source) { bindings := request.bindings }

/-- A run that was cancelled before it began, in a context that is not destroyed, breaks exactly if
it gets to a statement that waits. If it does not, it ends with the response with which the same run
ends that nobody cancels. In a context that was destroyed before, every run breaks for that reason,
cancelled or not. -/
theorem cancelled_at_first_wait (request : Request) :
    (execute cancelled request = .broke "execution cancelled" ↔ ReachesWait request) ∧
      (¬ReachesWait request →
        execute cancelled request = execute {} request ∧
          ∃ response, execute {} request = .responded response) ∧
      ∀ stopAt, execute { destroyed := true, stopAt } request =
        .broke "execution context destroyed" := by
  have hcancelled : execute cancelled request =
      (runAll cancelled (statements request.source) { bindings := request.bindings }).ending := rfl
  have hleft : execute {} request =
      (runAll {} (statements request.source) { bindings := request.bindings }).ending := rfl
  rw [ReachesWait, hcancelled, hleft]
  rcases runAll_cancelled (statements request.source) { bindings := request.bindings } with
    ⟨hreaches, hstopped⟩ | ⟨hnot, hsame, response, hresponse⟩
  · rw [hstopped]
    exact ⟨iff_of_true rfl hreaches, fun hnot ↦ absurd hreaches hnot, fun _ ↦ rfl⟩
  · rw [hsame, hresponse]
    exact ⟨iff_of_false (by simp) hnot, fun _ ↦ ⟨rfl, response, rfl⟩, fun _ ↦ rfl⟩

/-- A source in which the only proper `sleep` comes behind a statement that fails. -/
theorem cancelled_at_first_wait_failing :
    let request : Request := ⟨0, false, "sleep = 1; sleep 5 s; sleep 5", ∅⟩
    ¬ReachesWait request ∧
      execute cancelled request = .responded
        (.failure "invalid expression: sleep 5 s" (seconds 0)
          (Bindings.empty.insert "sleep" (.ofInt 1))) ∧
      execute {} request = execute cancelled request := by
  intro request
  have hnot : ¬ReachesWait request := by
    have hfailed : runAll {} (untilWait (statements request.source)) { bindings := ∅ } =
        .failed { bindings := Bindings.empty.insert "sleep" (.ofInt 1), lastValue := some "1" }
          "invalid expression: sleep 5 s" := by
      decide +kernel
    rintro ⟨-, p, hfinished⟩
    simp [request, hfailed] at hfinished
  exact ⟨hnot, by decide +kernel, ((cancelled_at_first_wait request).2.1 hnot).1.symm⟩

end Workbench.Snippet
