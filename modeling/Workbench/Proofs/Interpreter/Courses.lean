import Workbench.Interpreter.Exchange

/-!
# The courses an exchange can take

What an exchange with an interpreter comes to depends on six things, which it looks at in a fixed
order (`Check.inOrder`): whether the context was destroyed before, whether the process can be
started, whether a signal is seen while the process runs, whether the process can be polled to its
end, its exit status, and its output. A `Course` says how all of them go. Signals may be raised and
taken back at any moment: a course says what is seen of them each time the exchange looks.

Whatever happens in an exchange is one of the courses, as far as the exchange sees it, or else it
goes on for ever (`exists_course`, `Attempt.RunsOn`). The exchange ends with the error of the first
check that fails, and with the response if none does. What it does to the process is played back by
`Standing.replay`, which refuses an act that has no process to act on: in the end a process that was
started has been waited for.
-/

namespace Workbench.Interpreter

open Context (Ending)

/-! ### Exchanges -/

/-- What an exchange comes to when waiting for its process has come to this. -/
def Waited.ending (output errors : List UInt8) : Waited → Ending
  | .exited status => answer status output errors
  | .stopped => .broke Context.cancelledText
  | .failed message => .broke (waitFailure message)
  | .unfinished => .never

section Exchanges

variable {attempt : Attempt}

theorem exchange_of_destroyed (program : String) (h : attempt.destroyed = true) :
    exchange program attempt = (.broke Context.destroyedText, []) := by
  rw [exchange, if_pos h]

theorem exchange_of_launchError (program : String) (hentry : attempt.destroyed = false)
    {error : String} (h : attempt.launchError = some error) :
    exchange program attempt = (.broke (launchFailure program error), []) := by
  rw [exchange, if_neg (by simp [hentry]), h]

/-- From the start of its process on an exchange is about waiting for it. -/
theorem exchange_of_launched (program : String) (hentry : attempt.destroyed = false)
    (hlaunch : attempt.launchError = none) :
    exchange program attempt =
      ((await attempt.turns).1.ending attempt.output attempt.errors,
        .launch :: (await attempt.turns).2) := by
  rw [exchange, if_neg (by simp [hentry]), hlaunch]
  refine Prod.ext ?_ rfl
  cases hwaited : (await attempt.turns).1 <;> simp [hwaited, Waited.ending]

end Exchanges

/-! ### Courses -/

/-- How an exchange goes, as far as it can see. -/
structure Course where
  /-- The context was destroyed before. -/
  destroyedBefore : Bool := false
  /-- The error of starting the process, if it cannot be started. -/
  launchError : Option String := none
  /-- Whether the run is seen to be cancelled, by how often the exchange has looked before. -/
  cancelled : Nat → Bool := fun _ ↦ false
  /-- Whether the context is seen to be destroyed, by how often the exchange has looked before. -/
  destroyed : Nat → Bool := fun _ ↦ false
  /-- How many polls find the process running. -/
  waits : Nat := 0
  /-- What the poll behind them finds: how the process ended, or an error of polling it. -/
  last : Except String ExitStatus
  /-- What the process writes to its output. -/
  output : List UInt8 := []
  /-- What the process writes to its error stream. -/
  errors : List UInt8 := []

/-- What the last poll of a process finds. -/
def lastPoll : Except String ExitStatus → Poll
  | .ok status => .exited status
  | .error message => .failed message

/-- What waiting for a process comes to with its last poll. -/
def lastWaited : Except String ExitStatus → Waited
  | .ok status => .exited status
  | .error message => .failed message

/-- The turns that are there to be taken: in each of them the exchange looks at the signals, then
polls. So many polls find the process running, and one behind them finds what there is to find. -/
def turnsTo (last : Except String ExitStatus) (asked : Nat → Bool) : (waits : Nat) → List Turn
  | 0 => [{ stop := asked 0, poll := lastPoll last }]
  | waits + 1 =>
    { stop := asked 0, poll := .running } :: turnsTo last (fun i ↦ asked (i + 1)) waits

namespace Course

/-- Whether the exchange is asked to stop when it looks. -/
def asked (c : Course) (i : Nat) : Bool :=
  c.cancelled i || c.destroyed i

/-- What happens in an exchange that takes a course. -/
def attempt (c : Course) : Attempt where
  destroyed := c.destroyedBefore
  launchError := c.launchError
  turns := turnsTo c.last c.asked c.waits
  output := c.output
  errors := c.errors

end Course

/-! ### Waiting -/

section Waiting

variable {last : Except String ExitStatus} {asked : Nat → Bool} {waits : Nat}

/-- Whoever looks once more before the last poll and sees a signal has stopped. -/
theorem await_of_asked (h : ∃ i ≤ waits, asked i = true) :
    (await (turnsTo last asked waits)).1 = .stopped := by
  induction waits generalizing asked with
  | zero =>
    obtain ⟨i, hi, hasked⟩ := h
    obtain rfl := Nat.le_zero.1 hi
    rw [turnsTo, await, if_pos hasked]
  | succ waits ih =>
    rw [turnsTo, await]
    split
    · rfl
    · rename_i hfirst
      refine ih ?_
      obtain ⟨i, hi, hasked⟩ := h
      cases i with
      | zero => exact absurd hasked hfirst
      | succ i => exact ⟨i, Nat.le_of_succ_le_succ hi, hasked⟩

/-- Without a signal it is the last poll that counts. -/
theorem await_of_not_asked (h : ∀ i ≤ waits, asked i = false) :
    (await (turnsTo last asked waits)).1 = lastWaited last := by
  induction waits generalizing asked with
  | zero =>
    have hfirst : ¬asked 0 = true := by simp [h 0 (Nat.le_refl 0)]
    rw [turnsTo, await, if_neg hfirst]
    cases last <;> rfl
  | succ waits ih =>
    have hfirst : ¬asked 0 = true := by simp [h 0 (Nat.zero_le _)]
    rw [turnsTo, await, if_neg hfirst]
    exact ih fun i hi ↦ h (i + 1) (Nat.succ_le_succ hi)

/-- Waiting that comes to an end goes through turns of this kind, up to what is seen in the last of
them. -/
theorem exists_turnsTo {turns : List Turn} (h : (await turns).1 ≠ .unfinished) :
    ∃ last asked waits, await turns = await (turnsTo last asked waits) := by
  induction turns with
  | nil => exact absurd rfl h
  | cons turn rest ih =>
    obtain ⟨stop, poll⟩ := turn
    cases hstop : stop with
    | true => exact ⟨.error "", fun _ ↦ true, 0, rfl⟩
    | false =>
      cases poll with
      | exited status => exact ⟨.ok status, fun _ ↦ false, 0, rfl⟩
      | failed message => exact ⟨.error message, fun _ ↦ false, 0, rfl⟩
      | running =>
        have hrest : (await rest).1 ≠ .unfinished := by
          simpa [await, hstop] using h
        obtain ⟨last, asked, waits, heq⟩ := ih hrest
        refine ⟨last, fun | 0 => false | i + 1 => asked i, waits + 1, ?_⟩
        simp [turnsTo, await, heq]

/-- Only turns that all find the process running, and see no signal, are no end of waiting. -/
theorem forall_of_unfinished {turns : List Turn} (h : (await turns).1 = .unfinished) :
    ∀ turn ∈ turns, turn.stop = false ∧ turn.poll = .running := by
  induction turns with
  | nil => exact List.forall_mem_nil _
  | cons turn rest ih =>
    obtain ⟨stop, poll⟩ := turn
    cases stop with
    | true => cases h
    | false =>
      cases poll with
      | exited status => cases h
      | failed message => cases h
      | running => exact List.forall_mem_cons.2 ⟨⟨rfl, rfl⟩, ih h⟩

end Waiting

/-! ### What is looked at -/

/-- What an exchange depends on. -/
inductive Check where
  /-- That the context was not destroyed before. -/
  | entry
  /-- That the process can be started. -/
  | launch
  /-- That no signal is seen. -/
  | signals
  /-- That the process can be polled until it exits. -/
  | polls
  /-- That the process did what it was to do. -/
  | status
  /-- That the output is a response. -/
  | answer
  deriving DecidableEq, Repr

/-- The order in which an exchange looks. -/
def Check.inOrder : List Check :=
  [.entry, .launch, .signals, .polls, .status, .answer]

namespace Course

variable {program : String} {c : Course}

/-- Whether a signal is seen before the last poll. -/
def isStopped (c : Course) : Bool :=
  (List.range (c.waits + 1)).any c.asked

/-- The error of a check, if it fails. -/
def error? (program : String) (c : Course) : Check → Option String
  | .entry => if c.destroyedBefore then some Context.destroyedText else none
  | .launch => c.launchError.map (launchFailure program)
  | .signals => if c.isStopped then some Context.cancelledText else none
  | .polls => match c.last with
    | .ok _ => none
    | .error message => some (waitFailure message)
  | .status => match c.last with
    | .ok status => if status.isSuccess then none else some (exitFailure status c.errors)
    | .error _ => none
  | .answer => match Response.ofSymbols (Text.symbols c.output) with
    | .ok _ => none
    | .error fault => some (answerFailure c.output fault)

theorem isStopped_iff : c.isStopped = true ↔ ∃ i ≤ c.waits, c.asked i = true := by
  simp only [isStopped, List.any_eq_true, List.mem_range, Nat.lt_succ_iff]

theorem not_isStopped_iff :
    c.isStopped = false ↔ ∀ i ≤ c.waits, c.cancelled i = false ∧ c.destroyed i = false := by
  simp only [isStopped, asked, List.any_eq_false, List.mem_range, Nat.lt_succ_iff,
    Bool.not_eq_true, Bool.or_eq_false_iff]

/-- What waiting comes to. -/
theorem await_turns (c : Course) :
    (await c.attempt.turns).1 = if c.isStopped then .stopped else lastWaited c.last := by
  show (await (turnsTo c.last c.asked c.waits)).1 = _
  split
  · rename_i hstopped
    exact await_of_asked (isStopped_iff.1 hstopped)
  · rename_i hstopped
    have hasked : ∀ i ≤ c.waits, c.asked i = false := by
      simpa [isStopped_iff] using hstopped
    exact await_of_not_asked hasked

/-- That an exchange answers with a response: none of the checks fails, and this is what the output
is read as. -/
structure Answers (c : Course) (response : Response) : Prop where
  entry : c.destroyedBefore = false
  launch : c.launchError = none
  signals : ∀ i ≤ c.waits, c.cancelled i = false ∧ c.destroyed i = false
  exit : ∃ status, c.last = .ok status ∧ status.isSuccess = true
  output : Response.ofSymbols (Text.symbols c.output) = .ok response

theorem Answers.findSome?_error? {response : Response} (h : c.Answers response) :
    Check.inOrder.findSome? (c.error? program) = none := by
  obtain ⟨status, hlast, hstatus⟩ := h.exit
  have hstopped := not_isStopped_iff.2 h.signals
  simp [Check.inOrder, error?, h.entry, h.launch, hstopped, hlast, hstatus, h.output]

/-- The first check that fails has its error returned; if none does, there is a response. -/
theorem ending_cases (program : String) (c : Course) :
    (∃ message, Check.inOrder.findSome? (c.error? program) = some message ∧
        (exchange program c.attempt).1 = .broke message) ∨
      ∃ response, Check.inOrder.findSome? (c.error? program) = none ∧ c.Answers response ∧
        (exchange program c.attempt).1 = .responded response := by
  cases hentry : c.destroyedBefore with
  | true =>
    refine .inl ⟨Context.destroyedText, by simp [Check.inOrder, error?, hentry], ?_⟩
    rw [exchange_of_destroyed program hentry]
  | false =>
  cases hlaunch : c.launchError with
  | some error =>
    refine .inl ⟨launchFailure program error, ?_, ?_⟩
    · simp [Check.inOrder, error?, hentry, hlaunch]
    · rw [exchange_of_launchError program hentry hlaunch]
  | none =>
  rw [exchange_of_launched program hentry hlaunch, await_turns]
  cases hstopped : c.isStopped with
  | true =>
    refine .inl ⟨Context.cancelledText, ?_, rfl⟩
    simp [Check.inOrder, error?, hentry, hlaunch, hstopped]
  | false =>
  cases hlast : c.last with
  | error message =>
    refine .inl ⟨waitFailure message, ?_, rfl⟩
    simp [Check.inOrder, error?, hentry, hlaunch, hstopped, hlast]
  | ok status =>
  have hending : (if false = true then Waited.stopped else lastWaited (.ok status)).ending
      c.attempt.output c.attempt.errors = answer status c.output c.errors := rfl
  rw [hending, answer]
  cases hstatus : status.isSuccess with
  | false =>
    refine .inl ⟨exitFailure status c.errors, ?_, rfl⟩
    simp [Check.inOrder, error?, hentry, hlaunch, hstopped, hlast, hstatus]
  | true =>
  cases houtput : Response.ofSymbols (Text.symbols c.output) with
  | error fault =>
    refine .inl ⟨answerFailure c.output fault, ?_, rfl⟩
    simp [Check.inOrder, error?, hentry, hlaunch, hstopped, hlast, hstatus, houtput]
  | ok response =>
    refine .inr ⟨response, ?_, ?_, rfl⟩
    · simp [Check.inOrder, error?, hentry, hlaunch, hstopped, hlast, hstatus, houtput]
    · exact ⟨hentry, hlaunch, not_isStopped_iff.1 hstopped, ⟨status, hlast, hstatus⟩, houtput⟩

end Course

/-- Nothing ends an exchange: its process is started, and in all the turns that there are it runs
and no signal is seen. -/
structure Attempt.RunsOn (attempt : Attempt) : Prop where
  entry : attempt.destroyed = false
  launch : attempt.launchError = none
  turns : ∀ turn ∈ attempt.turns, turn.stop = false ∧ turn.poll = .running

/-- An exchange that something ends takes one of the courses. -/
theorem exists_course (program : String) {attempt : Attempt} (h : ¬attempt.RunsOn) :
    ∃ c : Course, exchange program attempt = exchange program c.attempt := by
  obtain ⟨destroyed, launchError, turns, output, errors⟩ := attempt
  cases destroyed with
  | true =>
    -- What would come later is not looked at, so a course may say anything of it.
    exact ⟨{ destroyedBefore := true, last := .error "" }, rfl⟩
  | false =>
  cases launchError with
  | some error => exact ⟨{ launchError := some error, last := .error "" }, rfl⟩
  | none =>
    have hturns : (await turns).1 ≠ .unfinished := fun hunfinished ↦
      h ⟨rfl, rfl, forall_of_unfinished hunfinished⟩
    obtain ⟨last, asked, waits, heq⟩ := exists_turnsTo hturns
    let c : Course := { cancelled := asked, waits, last, output, errors }
    have hasked : c.asked = asked := by
      funext i
      exact Bool.or_false _
    refine ⟨c, ?_⟩
    rw [exchange_of_launched program rfl rfl, exchange_of_launched program rfl rfl]
    simp only [Course.attempt, hasked, heq, c]

/-! ### The process -/

/-- How it stands with the process of an exchange. -/
inductive Standing where
  /-- There has been none. -/
  | absent
  /-- It may run or not, and has not been waited for. -/
  | started
  /-- It has been killed, and has not been waited for. -/
  | killed
  /-- It has been waited for, and its number may belong to another process now. -/
  | reaped
  deriving DecidableEq, Repr

namespace Standing

/-- How it stands with the process after an act, if there is a process to act on; `poll` is what a
poll finds. -/
def act? (poll : Poll) : Standing → Act → Option Standing
  | absent, .launch => some started
  | started, .poll => match poll with
    | .exited _ => some reaped
    | _ => some started
  | started, .kill => some killed
  | started, .wait | killed, .wait => some reaped
  | _, _ => none

/-- How it stands with the process after some acts, with what the polls among them find. -/
def replay (standing : Standing) : List Poll → List Act → Option Standing
  | _, [] => some standing
  | poll :: polls, .poll :: acts => (standing.act? poll .poll).bind (replay · polls acts)
  | [], .poll :: _ => none
  | polls, act :: acts => (standing.act? .running act).bind (replay · polls acts)

/-- What waiting does to a process is done to one that has not been waited for, and afterwards it
has been, unless there are too few turns to see the end. -/
theorem replay_await (turns : List Turn) :
    started.replay (turns.map (·.poll)) (await turns).2 =
      some (if (await turns).1 = .unfinished then started else reaped) := by
  induction turns with
  | nil => rfl
  | cons turn rest ih =>
    obtain ⟨stop, poll⟩ := turn
    cases stop with
    | true => rfl
    | false =>
      cases poll with
      | exited status => rfl
      | failed message => rfl
      | running =>
        show (started.replay (rest.map (·.poll)) (await rest).2) = _
        exact ih

/-- An exchange that comes to an end leaves no process behind: it starts none, or the one that it
starts has been waited for. -/
theorem replay_exchange {program : String} {attempt : Attempt}
    (h : (exchange program attempt).1 ≠ .never) :
    absent.replay (attempt.turns.map (·.poll)) (exchange program attempt).2 =
      some (if Act.launch ∈ (exchange program attempt).2 then reaped else absent) := by
  cases hentry : attempt.destroyed with
  | true =>
    rw [exchange_of_destroyed program hentry]
    simp [replay]
  | false =>
  cases hlaunch : attempt.launchError with
  | some error =>
    rw [exchange_of_launchError program hentry hlaunch]
    simp [replay]
  | none =>
    have hfinished : (await attempt.turns).1 ≠ .unfinished := by
      intro hunfinished
      rw [exchange_of_launched program hentry hlaunch, hunfinished] at h
      exact h rfl
    rw [exchange_of_launched program hentry hlaunch]
    have hawait := replay_await attempt.turns
    rw [if_neg hfinished] at hawait
    simp [replay, act?, hawait]

end Standing

theorem launch_mem_exchange_iff (program : String) (c : Course) :
    Act.launch ∈ (exchange program c.attempt).2 ↔
      c.destroyedBefore = false ∧ c.launchError = none := by
  cases hentry : c.destroyedBefore with
  | true =>
    have hexchange : exchange program c.attempt = _ := exchange_of_destroyed program hentry
    simp [hexchange]
  | false =>
  cases hlaunch : c.launchError with
  | some error =>
    have hexchange : exchange program c.attempt = _ :=
      exchange_of_launchError program hentry hlaunch
    simp [hexchange]
  | none =>
    have hexchange : exchange program c.attempt = _ := exchange_of_launched program hentry hlaunch
    simp [hexchange]

/-- Whatever the system and the process do, and whenever the signals are raised, the exchange takes
a course, unless nothing ever ends it. On every course:

* the exchange ends with a response exactly if the context was not destroyed before, the process
  could be started, no signal was seen up to the last poll, the process exited with success, and its
  output is read as this response;
* it ends with an error exactly if it is that of the first of these checks that fails, and it ends;
* a process is started exactly if the first two checks pass, and it has been waited for then: all
  that is done to it is done before that, so nothing is done to another process;
* in particular a process that failed or was killed never answers, and a signal that is seen before
  the first poll ends the exchange, however the process went.
-/
theorem exchange_ends_with_first_failure (program : String) :
    (∀ attempt : Attempt, attempt.RunsOn ∨
        ∃ c : Course, exchange program attempt = exchange program c.attempt) ∧
      ∀ c : Course,
        let result := exchange program c.attempt
        ((∀ response, result.1 = .responded response ↔ c.Answers response) ∧
            (∀ message, result.1 = .broke message ↔
              Check.inOrder.findSome? (c.error? program) = some message) ∧
            result.1 ≠ .never) ∧
          ((Act.launch ∈ result.2 ↔ c.destroyedBefore = false ∧ c.launchError = none) ∧
            Standing.absent.replay (c.attempt.turns.map (·.poll)) result.2 =
              some (if Act.launch ∈ result.2 then .reaped else .absent)) ∧
          (∀ status, c.last = .ok status → status.isSuccess = false →
            ∀ response, result.1 ≠ .responded response) ∧
          (c.destroyedBefore = false → c.launchError = none →
            c.cancelled 0 = true ∨ c.destroyed 0 = true →
            result = (.broke Context.cancelledText, [.launch, .kill, .wait])) := by
  refine ⟨fun attempt ↦ Classical.or_iff_not_imp_left.2 (exists_course program), ?_⟩
  intro c result
  have hresponded : ∀ response, result.1 = .responded response ↔ c.Answers response := by
    intro response
    obtain ⟨message, hfirst, hending⟩ | ⟨answered, -, hanswers, hending⟩ := c.ending_cases program
    · have hfails : ¬c.Answers response := by
        intro hanswers
        rw [hanswers.findSome?_error?] at hfirst
        contradiction
      refine iff_of_false ?_ hfails
      simp [result, hending]
    · constructor
      · intro heq
        obtain rfl := Ending.responded.inj (hending.symm.trans heq)
        exact hanswers
      · intro hanswers'
        obtain rfl := Except.ok.inj (hanswers.output.symm.trans hanswers'.output)
        exact hending
  have hbroke : ∀ message, result.1 = .broke message ↔
      Check.inOrder.findSome? (c.error? program) = some message := by
    intro message
    obtain ⟨first, hfirst, hending⟩ | ⟨answered, hnone, -, hending⟩ := c.ending_cases program
    · simp [result, hending, hfirst]
    · simp [result, hending, hnone]
  have hends : result.1 ≠ .never := by
    obtain ⟨message, -, hending⟩ | ⟨answered, -, -, hending⟩ := c.ending_cases program
    · simp [result, hending]
    · simp [result, hending]
  refine ⟨⟨hresponded, hbroke, hends⟩,
    ⟨launch_mem_exchange_iff program c, Standing.replay_exchange hends⟩, ?_, ?_⟩
  · intro status hlast hfailed response heq
    obtain ⟨status', hlast', hsuccess⟩ := ((hresponded response).1 heq).exit
    obtain rfl := Except.ok.inj (hlast.symm.trans hlast')
    rw [hfailed] at hsuccess
    contradiction
  · intro hentry hlaunch hsignal
    have hasked : c.asked 0 = true := by simpa [Course.asked] using hsignal
    -- The first turn is the last one, whether there are polls to come or not.
    have hawait : await c.attempt.turns = (.stopped, [.kill, .wait]) := by
      show await (turnsTo c.last c.asked c.waits) = _
      cases c.waits with
      | zero => rw [turnsTo, await, if_pos hasked]
      | succ waits => rw [turnsTo, await, if_pos hasked]
    show exchange program c.attempt = _
    rw [exchange_of_launched program hentry hlaunch, hawait]
    rfl

end Workbench.Interpreter
