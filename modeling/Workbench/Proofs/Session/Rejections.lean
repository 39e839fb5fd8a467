import Workbench.Proofs.Session.Trace
import Workbench.Runner.Slots

/-!
# What is left behind by an operation that fails

A session rejects an operation before it does anything about it: because a run is in flight, or
because there is nothing to run. `Op.rejection?` says when and why, from the operation and the
session alone, and `perform_of_rejection` that nothing has changed then. An operation that is not
rejected can still fail, when the host cannot start the run (`perform_of_allowed`); that leaves a
banner in the transcript, and a line that was submitted stays in the history.

Submitting a line and running it is one operation made of two, each of which has its own checks. The
second one sees the history that the first one has written, so it must not reject what the first one
has let pass. It cannot, since the checks do not look at the history.

An error tells which of the two happened only if the host does not answer a rejection itself
(`ContextHost.NeverRejects`). The slots of a runner never do (`neverRejects_slots`).
-/

namespace Workbench

variable {η : Type}

/-- What a host answers if it cannot start a run is no rejection. -/
def ContextHost.NeverRejects (host : ContextHost η) : Prop :=
  ∀ request h error, (host.start request h).1 = .error error → error.isRejection = false

namespace Session

/-! ### Rejections -/

/-- The error that an operation answered. -/
def Answer.error? : Answer → Option SessionError
  | .dispatched (.error error) => some error
  | .cleared (.error error) => some error
  | .submitted (.error error) => some error
  | _ => none

/-- Whether an operation is possible only while no run is in flight. -/
def Op.needsIdle : Op → Bool
  | .dispatch _ _ | .runLine _ | .runProgram | .submit _ | .clear => true
  | _ => false

/-- The line that an operation is given to run or to note. -/
def Op.line? : Op → Option String
  | .dispatch .terminal line => some line
  | .runLine line => some line
  | .submit line => some line
  | _ => none

/-- The line that an operation notes in the history. -/
def Op.noted? : Op → Option String
  | .runLine line => some line
  | .submit line => some line
  | _ => none

/-- Why an operation is rejected, if it is. That a run is in flight is looked at first. -/
def Op.rejection? (s : Session) (op : Op) : Option SessionError :=
  if op.needsIdle = true ∧ s.isRunning = true then some .runInFlight
  else if op.line?.any Text.allBlank = true then some .emptyInput
  else none

theorem needsIdle_of_line? {op : Op} {line : String} (h : op.line? = some line) :
    op.needsIdle = true := by
  cases op with
  | dispatch | runLine | submit => rfl
  | _ => simp [Op.line?] at h

variable {host : ContextHost η} {s : Session} {h : η} {op : Op} {error : SessionError}

/-- The two ways an operation can be rejected. The check for a run in flight comes first, so a line
is looked at only if there is none. -/
theorem rejection?_eq_some_iff :
    op.rejection? s = some error ↔
      .runInFlight = error ∧ op.needsIdle = true ∧ s.isRunning = true ∨
        .emptyInput = error ∧ s.isRunning = false ∧
          ∃ line, op.line? = some line ∧ Text.allBlank line = true := by
  have hline : op.line?.any Text.allBlank = true ↔
      ∃ line, op.line? = some line ∧ Text.allBlank line = true := by
    cases op.line? <;> simp
  rw [Op.rejection?]
  split
  · rename_i hrunning
    simp [hrunning]
  · rename_i hallowed
    by_cases hblank : op.line?.any Text.allBlank = true
    · obtain ⟨line, hasks, hline⟩ := hline.1 hblank
      have hidle : s.isRunning = false :=
        Bool.eq_false_iff.2 fun hrunning ↦ hallowed ⟨needsIdle_of_line? hasks, hrunning⟩
      simp [hidle, hasks, hline]
    · have hnone : ¬∃ line, op.line? = some line ∧ Text.allBlank line = true :=
        fun hexists ↦ hblank (hline.2 hexists)
      simp only [hblank, hnone, hallowed, and_false, or_self, iff_false]
      simp

theorem isRejection_of_rejection? (hrejected : op.rejection? s = some error) :
    error.isRejection = true := by
  rcases rejection?_eq_some_iff.1 hrejected with ⟨rfl, -⟩ | ⟨rfl, -⟩ <;> rfl

theorem idle_of_allowed (hallowed : op.rejection? s = none) (hneeds : op.needsIdle = true) :
    s.flight = none := by
  cases hflight : s.flight with
  | none => rfl
  | some flight =>
    have hrunning : s.isRunning = true := isRunning_of_flight hflight
    rw [rejection?_eq_some_iff.2 (.inl ⟨rfl, hneeds, hrunning⟩)] at hallowed
    simp at hallowed

theorem not_allBlank_of_allowed {line : String} (hallowed : op.rejection? s = none)
    (hline : op.line? = some line) : ¬Text.allBlank line = true := by
  intro hblank
  have hidle : s.isRunning = false :=
    Bool.eq_false_iff.2 (not_isRunning_iff.2 (idle_of_allowed hallowed (needsIdle_of_line? hline)))
  rw [rejection?_eq_some_iff.2 (.inr ⟨rfl, hidle, line, hline, hblank⟩)] at hallowed
  simp at hallowed

/-! ### A rejection changes nothing -/

theorem dispatch_of_rejection {mode : RunMode} {source : String}
    (hrejected : (Op.dispatch mode source).rejection? s = some error) :
    s.dispatch host mode source h = (.error error, s, h) := by
  rw [dispatch]
  rcases rejection?_eq_some_iff.1 hrejected with
    ⟨rfl, -, hrunning⟩ | ⟨rfl, hidle, line, hline, hblank⟩
  · rw [if_pos hrunning]
  · cases mode with
    | program => simp [Op.line?] at hline
    | terminal =>
      obtain rfl := Option.some.inj hline
      simp [hidle, hblank]

theorem submit_of_rejection {line : String}
    (hrejected : (Op.submit line).rejection? s = some error) :
    s.submit line = (.error error, s) := by
  rw [submit]
  rcases rejection?_eq_some_iff.1 hrejected with
    ⟨rfl, -, hrunning⟩ | ⟨rfl, hidle, line, hline, hblank⟩
  · rw [if_pos hrunning]
  · obtain rfl := Option.some.inj hline
    simp [hidle, hblank]

theorem submit_of_allowed {line : String} (hallowed : (Op.submit line).rejection? s = none) :
    s.submit line = (.ok line, { s with history := s.history.record line }) := by
  have hidle : ¬s.isRunning = true := not_isRunning_iff.2 (idle_of_allowed hallowed rfl)
  have hline : ¬Text.allBlank line = true := not_allBlank_of_allowed hallowed rfl
  rw [submit, if_neg hidle, if_neg hline]

/-- The error of an operation that is rejected is its answer, and session and host stay as they
are. -/
theorem perform_of_rejection (host : ContextHost η) (h : η)
    (hrejected : op.rejection? s = some error) :
    (s.perform host op h).1.error? = some error ∧ (s.perform host op h).2 = (s, h) := by
  cases op with
  | dispatch mode source =>
    rw [perform, dispatch_of_rejection hrejected]
    exact ⟨rfl, rfl⟩
  | runProgram =>
    have hdispatch : (Op.dispatch .program s.program.text).rejection? s = some error := hrejected
    rw [perform, runProgram, dispatch_of_rejection hdispatch]
    exact ⟨rfl, rfl⟩
  | runLine line =>
    have hsubmit : (Op.submit line).rejection? s = some error := hrejected
    rw [perform, runLine, submit_of_rejection hsubmit]
    exact ⟨rfl, rfl⟩
  | submit line =>
    rw [perform, submit_of_rejection hrejected]
    exact ⟨rfl, rfl⟩
  | clear =>
    have hrunning : s.isRunning = true ∧ .runInFlight = error := by
      simpa [Op.rejection?, Op.needsIdle, Op.line?] using hrejected
    rw [perform, clear, if_pos hrunning.1, ← hrunning.2]
    exact ⟨rfl, rfl⟩
  | complete | fail | abort | previous | next | setProgramText | clearProgram | markSaved
  | openProgram => simp [Op.rejection?, Op.needsIdle, Op.line?] at hrejected

/-! ### Failing without being rejected -/

/-- The history after an operation that is not rejected. -/
def Op.recall (op : Op) (history : History) : History :=
  match op with
  | .previous => history.previous.2
  | .next => history.next.2
  | op => op.noted?.elim history history.record

/-- What an operation that failed, and was not rejected, has left: no run was in flight, the host
refused to start one, and there is a banner about that. -/
structure Failed (host : ContextHost η) (s : Session) (h : η) (history : History)
    (error : SessionError) (s' : Session) (h' : η) : Prop where
  idle : s.flight = none
  refused : ∃ request, host.start request h = (.error error, h')
  session : s' = { s with
    transcript := s.transcript ++ [.banner ("Run failed to start: " ++ error.message)]
    history }

/-- A dispatch that is not rejected, in a session that differs from `s` at most in its history. -/
theorem Dispatched.allowed {history : History} {mode : RunMode} {source : String}
    {result : Except SessionError Nat × Session × η}
    (hresult : Dispatched host mode source { s with history } h result)
    (hallowed : (Op.dispatch mode source).rejection? s = none) :
    result.2.1.history = history ∧
      ∀ error, (Answer.dispatched result.1).error? = some error →
        Failed host s h history error result.2.1 result.2.2 := by
  cases hresult with
  | running flight before =>
    have hflight : s.flight = some flight := before
    simp [idle_of_allowed hallowed rfl] at hflight
  | blank before mode_eq source_blank =>
    subst mode_eq
    exact absurd source_blank (not_allBlank_of_allowed hallowed rfl)
  | refused before cause h' start =>
    refine ⟨rfl, fun error herror ↦ ?_⟩
    obtain rfl : cause = error := Option.some.inj herror
    exact ⟨before, ⟨_, start⟩, rfl⟩
  | started before h' start => exact ⟨rfl, fun error herror ↦ by simp [Answer.error?] at herror⟩

/-- An operation that is not rejected does with the history what it is for, and if it fails, then
because the host refused to start a run. -/
theorem perform_of_allowed (host : ContextHost η) (h : η)
    (hallowed : op.rejection? s = none) :
    (s.perform host op h).2.1.history = op.recall s.history ∧
      ∀ error, (s.perform host op h).1.error? = some error →
        Failed host s h (op.noted?.elim s.history s.history.record) error
          (s.perform host op h).2.1 (s.perform host op h).2.2 := by
  cases op with
  | dispatch mode source =>
    have hdispatched : Dispatched host mode source { s with history := s.history } h
        (s.dispatch host mode source h) := dispatched host mode source s h
    exact hdispatched.allowed hallowed
  | runProgram =>
    have hdispatch : (Op.dispatch .program s.program.text).rejection? s = none := hallowed
    have hdispatched : Dispatched host .program s.program.text { s with history := s.history } h
        (s.runProgram host h) := dispatched host .program s.program.text s h
    exact hdispatched.allowed hdispatch
  | runLine line =>
    -- The line is in the history by now, which none of the checks looks at.
    have hnoted : s.runLine host line h =
        { s with history := s.history.record line }.dispatch host .terminal line h := by
      rw [runLine, submit_of_allowed hallowed]
    have hdispatch : (Op.dispatch .terminal line).rejection? s = none := hallowed
    have hdispatched := dispatched host .terminal line { s with history := s.history.record line } h
    rw [← hnoted] at hdispatched
    exact hdispatched.allowed hdispatch
  | submit line =>
    have hsubmit := submit_of_allowed hallowed
    simp only [perform, hsubmit]
    exact ⟨rfl, fun error herror ↦ by simp [Answer.error?] at herror⟩
  | clear =>
    simp only [perform]
    rcases clear_cases s with ⟨flight, hflight, -⟩ | ⟨-, hclear⟩
    · simp [idle_of_allowed hallowed rfl] at hflight
    · rw [hclear]
      exact ⟨rfl, fun error herror ↦ by simp [Answer.error?] at herror⟩
  | abort =>
    simp only [perform]
    refine ⟨?_, fun error herror ↦ by simp [Answer.error?] at herror⟩
    cases hflight : s.flight with
    | none => rw [abort_of_idle hflight]; rfl
    | some flight => rw [abort_of_flight hflight]; rfl
  | openProgram program =>
    refine ⟨?_, fun error herror ↦ by simp [perform, Answer.error?] at herror⟩
    simp only [perform]
    cases hflight : s.flight with
    | none => rw [openProgram_of_idle program hflight]; rfl
    | some flight => rw [openProgram_of_flight program hflight]; rfl
  | complete now generation response =>
    refine ⟨?_, fun error herror ↦ by simp [perform, Answer.error?] at herror⟩
    rcases complete_cases now generation response s with ⟨-, heq⟩ | ⟨mode, -, heq⟩ <;>
      simp only [perform, heq] <;> rfl
  | fail generation message =>
    refine ⟨?_, fun error herror ↦ by simp [perform, Answer.error?] at herror⟩
    rcases fail_cases generation message s with ⟨-, heq⟩ | ⟨mode, -, heq⟩ <;>
      simp only [perform, heq] <;> rfl
  | previous | next | setProgramText | clearProgram | markSaved =>
    exact ⟨rfl, fun error herror ↦ by simp [perform, Answer.error?] at herror⟩

/-! ### All failures -/

/-- The slots of a runner fail to start a run because no context can be created, or because it
cannot be set to work. -/
theorem neverRejects_slots : Slots.host.NeverRejects := by
  intro request slots error hstart
  simp only [Slots.host, Slots.start] at hstart
  split at hstart
  · rename_i failure taken htake
    obtain rfl := Except.error.inj hstart
    rw [Slots.takeContext] at htake
    split at htake
    · simp at htake
    · split at htake
      · obtain rfl := Except.error.inj (Prod.mk.inj htake).1
        rfl
      · simp at htake
  · rw [Slots.launch] at hstart
    split at hstart
    · obtain rfl := Except.error.inj hstart
      rfl
    · simp at hstart

/-- What is left behind by an operation that failed, as it was seen. -/
theorem Chronicle.failed (hhost : host.NeverRejects) {c : Chronicle η}
    (hallowed : op.rejection? c.session = none)
    (herror : (c.see host op).answer.error? = some error) :
    error.isRejection = false ∧ c.session.flight = none ∧
      (∃ request, (c.see host op).calls = [.refused request error]) ∧
      (c.step host op).session = { c.session with
        transcript := c.session.transcript ++
          [.banner ("Run failed to start: " ++ error.message)]
        history := op.noted?.elim c.session.history c.session.history.record } := by
  have hfailed := (perform_of_allowed host.recorded (c.host, []) hallowed).2
    error herror
  obtain ⟨request, hstart⟩ := hfailed.refused
  have hunwatched := (follows_recorded host none (c.host, [])).start rfl request
  rw [hstart] at hunwatched
  refine ⟨?_, hfailed.idle, ⟨request, recorded_start_error hstart⟩, hfailed.session⟩
  exact hhost request c.host error (congrArg Prod.fst hunwatched)

/-- The answer is a rejection exactly if the operation is rejected. -/
theorem Chronicle.rejected_iff (hhost : host.NeverRejects) {c : Chronicle η}
    (hrejection : error.isRejection = true) :
    (c.see host op).answer.error? = some error ↔ op.rejection? c.session = some error := by
  cases hrejected : op.rejection? c.session with
  | some cause =>
    have hanswer : (c.see host op).answer.error? = some cause :=
      (perform_of_rejection _ _ hrejected).1
    rw [hanswer]
  | none =>
    refine iff_of_false (fun herror ↦ ?_) (by simp)
    have hown := (failed hhost hrejected herror).1
    simp [hrejection] at hown

/-- In every session, whatever has happened to it before:

* the five operations that need the session to be idle answer that a run is in flight exactly if one
  is, and the operations that are given a line answer that there is nothing to run exactly if no run
  is in flight and the line is blank;
* after a rejection session and host are what they were, and the host was asked nothing;
* an operation that fails otherwise has asked the host, and leaves the session idle and as it was
  but for one more banner, which has the wording of the error, and for the line in the history that
  was submitted.

This is said of hosts that do not answer a rejection themselves, as the slots of a runner. -/
theorem errors_leave_session :
    Slots.host.NeverRejects ∧
      ∀ {η : Type} (host : ContextHost η), host.NeverRejects → ∀ (c : Chronicle η) (op : Op),
        let seen := c.see host op
        let after := c.step host op
        (seen.answer.error? = some .runInFlight ↔
            op.needsIdle = true ∧ c.session.isRunning = true) ∧
          (seen.answer.error? = some .emptyInput ↔
            c.session.isRunning = false ∧
              ∃ line, op.line? = some line ∧ Text.allBlank line = true) ∧
          ∀ error, seen.answer.error? = some error →
            (error.isRejection = true →
              after.session = c.session ∧ after.host = c.host ∧ seen.calls = []) ∧
            (error.isRejection = false →
              c.session.flight = none ∧ (∃ request, seen.calls = [.refused request error]) ∧
                after.session = { c.session with
                  transcript := c.session.transcript ++
                    [.banner ("Run failed to start: " ++ error.message)]
                  history := op.noted?.elim c.session.history c.session.history.record }) := by
  refine ⟨neverRejects_slots, fun {η} host hhost c op ↦ ?_⟩
  intro seen after
  refine ⟨?_, ?_, fun error herror ↦ ⟨fun hrejection ↦ ?_, fun hown ↦ ?_⟩⟩
  · rw [Chronicle.rejected_iff hhost rfl, rejection?_eq_some_iff]
    simp
  · rw [Chronicle.rejected_iff hhost rfl, rejection?_eq_some_iff]
    simp
  · have hrejected := (Chronicle.rejected_iff hhost hrejection).1 herror
    have hsame : (c.session.perform host.recorded op (c.host, [])).2 = (c.session, c.host, []) :=
      (perform_of_rejection _ _ hrejected).2
    exact ⟨congrArg Prod.fst hsame, congrArg (fun left ↦ left.2.1) hsame,
      congrArg (fun left ↦ left.2.2) hsame⟩
  · have hallowed : op.rejection? c.session = none := by
      cases hrejected : op.rejection? c.session with
      | none => rfl
      | some cause =>
        have hanswer : seen.answer.error? = some cause := (perform_of_rejection _ _ hrejected).1
        obtain rfl := Option.some.inj (hanswer.symm.trans herror)
        simp [isRejection_of_rejection? hrejected] at hown
    exact (Chronicle.failed hhost hallowed herror).2

/-- A line that is submitted where no context can be created: the answer is an error of the host,
and the line is in the history. -/
theorem errors_leave_session_unavailable :
    let supply : Supply := { refusal := fun _ ↦ some "none left" }
    let c := Chronicle.new .always { supply : Slots }
    let error : SessionError := .contextUnavailable "none left"
    (Slots.host.NeverRejects ∧ (c.see Slots.host (.runLine "x = 1")).answer.error? = some error ∧
        error.isRejection = false) ∧
      (c.step Slots.host (.runLine "x = 1")).session = { c.session with
        transcript :=
          [.banner "Run failed to start: failed to create execution context: none left"]
        history := History.empty.record "x = 1" } := by
  intro supply c error
  have herror : (c.see Slots.host (.runLine "x = 1")).answer.error? = some error := by
    decide +kernel
  have hleft := (errors_leave_session.2 Slots.host neverRejects_slots c (.runLine "x = 1")).2.2
    error herror
  exact ⟨⟨neverRejects_slots, herror, rfl⟩, (hleft.2 rfl).2.2⟩

end Session

end Workbench
