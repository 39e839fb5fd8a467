import Workbench.Snippet.Run

/-!
# One text behind another

Running two texts with a newline between them is running the first, and then the second on what the
first has left. Three things have to fit together for this: the text is split where the newline is
(`statements_append`), statements run one after the other (`runAll_append`), and no statement looks
at what has been written or at the last value, so that a run behind another one is that run from
scratch with the earlier output in front of its own (`runAll_behind`).

The last of these needs signals that do not change: a run that comes later may be asked to stop
where the same run from scratch is not. The time that a run takes is left out of the comparison, as
seconds do not add up exactly.
-/

namespace Workbench

namespace Text

variable {sep : Char → Bool}

theorem pieces_ne_nil (sep : Char → Bool) (s : List Char) : pieces sep s ≠ [] := by
  induction s with
  | nil => simp [pieces]
  | cons c rest ih =>
    rw [pieces]
    split
    · simp
    · simpa [List.modifyHead_eq_nil_iff] using ih

/-- A separator splits a text into the pieces before it and the pieces behind it. -/
theorem pieces_append {c : Char} (hsep : sep c = true) (s t : List Char) :
    pieces sep (s ++ c :: t) = pieces sep s ++ pieces sep t := by
  induction s with
  | nil => simp [pieces, hsep]
  | cons d s ih =>
    rw [List.cons_append, pieces, pieces, ih]
    split
    · rw [List.cons_append]
    · obtain ⟨piece, found, heq⟩ := List.exists_cons_of_ne_nil (pieces_ne_nil sep s)
      rw [heq]
      rfl

end Text

namespace Context

/-- The signals say the same at every moment. -/
def Signals.Constant (signals : Signals) : Prop :=
  ∀ moment, signals.stopped moment = signals.stopped 0

/-- The ending, but for the time it took. -/
def Ending.untimed : Ending → Ending
  | .responded response => .responded { response with seconds := 0 }
  | .broke message => .broke message
  | .never => .never

theorem Ending.untimed_success (output : String) (x y : Float) (bindings : Bindings)
    (lastValue : Option String) :
    (responded (.success output x bindings lastValue)).untimed =
      (responded (.success output y bindings lastValue)).untimed :=
  rfl

end Context

/-- The response of a run behind one that succeeded with the response `first`. -/
def Response.behind (first response : Response) : Response where
  ok := response.ok
  output := first.output ++ response.output
  seconds := response.seconds
  bindings := response.bindings
  lastValue := if response.ok then response.lastValue <|> first.lastValue else response.lastValue

theorem Response.behind_success (first : Response) (output : String) (x : Float)
    (bindings : Bindings) (lastValue : Option String) :
    first.behind (.success output x bindings lastValue) =
      .success (first.output ++ output) x bindings (lastValue <|> first.lastValue) :=
  rfl

namespace Context.Ending

/-- The ending of a run behind one that succeeded with the response `first`. -/
def behind (first : Response) : Ending → Ending
  | responded response => responded (first.behind response)
  | broke message => broke message
  | never => never

/-- The ending of two runs, the second of which goes on from the bindings that the first has left,
if that succeeds. -/
def andThen (second : Bindings → Ending) : Ending → Ending
  | responded first =>
    if first.ok then (second first.bindings).behind first else responded first
  | broke message => broke message
  | never => never

end Context.Ending

namespace Snippet

open Context (Signals Ending)

/-! ### The statements of two texts -/

theorem statementTexts_append_of_isSeparator {c : Char} (hsep : isSeparator c = true)
    (s t : List Char) :
    statementTexts (s ++ c :: t) = statementTexts s ++ statementTexts t := by
  rw [statementTexts, Text.pieces_append hsep, List.map_append, List.filter_append,
    statementTexts, statementTexts]

theorem statementTexts_append (s t : List Char) :
    statementTexts (s ++ '\n' :: t) = statementTexts s ++ statementTexts t :=
  statementTexts_append_of_isSeparator rfl s t

theorem statements_append (s t : String) :
    statements (s ++ "\n" ++ t) = statements s ++ statements t := by
  have htext : (s ++ "\n" ++ t).toList = s.toList ++ '\n' :: t.toList := by simp
  rw [statements, htext, statementTexts_append, List.map_append, statements, statements]

/-! ### Running statements one after the other -/

/-- Goes on from where a run has finished. -/
def Outcome.andThen (next : Progress → Outcome) : Outcome → Outcome
  | finished p => next p
  | failed p message => failed p message
  | stopped => stopped
  | endless => endless

theorem runAll_append (signals : Signals) (first second : List Statement) (p : Progress) :
    runAll signals (first ++ second) p =
      (runAll signals first p).andThen (runAll signals second) := by
  induction first generalizing p with
  | nil => rfl
  | cons s rest ih =>
    rw [List.cons_append, runAll, runAll]
    cases s.run signals p with
    | next p => exact ih p
    | failed message | stopped | endless => rfl

/-! ### A run behind another one -/

namespace Progress

/-- What has been done in all when `p` was done on the bindings that `earlier` had left. -/
def behind (earlier p : Progress) : Progress where
  bindings := p.bindings
  output := earlier.output ++ p.output
  lastValue := p.lastValue <|> earlier.lastValue
  clock := earlier.clock + p.clock

theorem behind_start (earlier : Progress) :
    earlier.behind { bindings := earlier.bindings } = earlier := by
  simp [behind]

end Progress

/-- A step of a run behind another one. -/
def Step.behind (earlier : Progress) : Step → Step
  | next p => next (earlier.behind p)
  | failed message => failed message
  | stopped => stopped
  | endless => endless

theorem Step.ofValue_behind (earlier : Progress) (value : Except EvalError Json)
    (use : Json → Progress) :
    (ofValue value use).behind earlier = ofValue value fun x ↦ earlier.behind (use x) := by
  cases value <;> rfl

/-- What a statement does depends on the bindings only. -/
theorem Statement.run_behind {signals : Signals} (hconstant : signals.Constant)
    (earlier p : Progress) (s : Statement) :
    s.run signals (earlier.behind p) = (s.run signals p).behind earlier := by
  cases s with
  | print text =>
    rw [run, run, Step.ofValue_behind]
    simp [Progress.behind, String.append_assoc]
  | fail message => rfl
  | sleep millis =>
    rw [run, run, hconstant ((earlier.behind p).clock + millis), hconstant (p.clock + millis)]
    split
    · rfl
    · simp [Step.behind, Progress.behind, Nat.add_assoc]
  | spin =>
    rw [run, run]
    split <;> rfl
  | assign name text =>
    rw [run, run, Step.ofValue_behind]
    simp [Progress.behind]
  | expr text =>
    rw [run, run, Step.ofValue_behind]
    simp [Progress.behind]

/-- The outcome of a run behind another one. -/
def Outcome.behind (earlier : Progress) : Outcome → Outcome
  | finished p => finished (earlier.behind p)
  | failed p message => failed (earlier.behind p) message
  | stopped => stopped
  | endless => endless

theorem runAll_behind {signals : Signals} (hconstant : signals.Constant) (earlier : Progress)
    (statements : List Statement) (p : Progress) :
    runAll signals statements (earlier.behind p) =
      (runAll signals statements p).behind earlier := by
  induction statements generalizing p with
  | nil => rfl
  | cons s rest ih =>
    rw [runAll, runAll, Statement.run_behind hconstant]
    cases s.run signals p with
    | next p => exact ih p
    | failed message | stopped | endless => rfl

/-! ### Endings -/

/-- An outcome behind a run that finished is, but for the time, an ending behind its response. -/
theorem ending_behind (earlier : Progress) (outcome : Outcome) :
    (outcome.behind earlier).ending.untimed =
      (outcome.ending.behind (.success earlier.output (seconds earlier.clock) earlier.bindings
        earlier.lastValue)).untimed := by
  cases outcome with
  | finished p =>
    -- The two times are not to be compared, so they are left out by name and not by computing.
    rw [Outcome.behind, Outcome.ending, Outcome.ending, Ending.behind, Response.behind_success]
    exact Ending.untimed_success ..
  | failed p message =>
    simp [Outcome.behind, Outcome.ending, Ending.behind, Ending.untimed, Response.behind,
      Response.failure, Response.success, Progress.behind, String.append_assoc]
  | stopped | endless => rfl

/-- A text behind another one, with a newline between them, ends as the first one does if that fails
or breaks, and otherwise as the second one does on what the first has left. -/
theorem execute_append {signals : Signals} (hconstant : signals.Constant) (request : Request)
    (s t : String) :
    (execute signals { request with source := s ++ "\n" ++ t }).untimed =
      ((execute signals { request with source := s }).andThen fun bindings ↦
        execute signals { request with source := t, bindings }).untimed := by
  rw [execute, execute]
  split
  · rfl
  · rename_i halive
    rw [statements_append, runAll_append]
    cases runAll signals (statements s) { bindings := request.bindings } with
    | finished p =>
      have hsecond : runAll signals (statements t) p =
          (runAll signals (statements t) { bindings := p.bindings }).behind p := by
        rw [← runAll_behind hconstant, Progress.behind_start]
      rw [Outcome.andThen, hsecond, ending_behind]
      simp [Outcome.ending, Ending.andThen, Response.success, execute, halive]
    | failed p message => rfl
    | stopped | endless => rfl

end Snippet

end Workbench
