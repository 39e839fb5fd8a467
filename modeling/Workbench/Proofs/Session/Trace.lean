import Workbench.Proofs.Session.Hosts
import Workbench.Session.Recorded

/-!
# What is seen of a session

A session can be watched without looking into it: there are the operations that are called, what
they answer, and what the host is asked to do meanwhile. `Chronicle` is a session with its host and
all that was seen of it; nothing is assumed about the host. `Seen.news` reads off what has happened
to runs and resets, again from nothing but what was seen. Watching changes nothing
(`Chronicle.perform_eq`).

`Session.Stepped` says what the session has become for each piece of news, and `stepped` is the only
place where the operations are gone through: what holds after all sequences of operations is shown
for each piece of news, and carried along a chronicle by `Chronicle.after_holds`.

What was seen is kept latest first, since statements about a session ask what happened last.
-/

namespace Workbench

/-- Whether the whole program is to be run, or one line. -/
def Request.mode (request : Request) : RunMode :=
  if request.wholeProgram then .program else .terminal

/-- The request that a host was asked to start a run for. -/
def HostCall.request? : HostCall → Option Request
  | .started request => some request
  | .refused request _ => some request
  | .aborted _ => none

namespace Session

variable {η : Type}

/-- An operation on a session. -/
inductive Op where
  | dispatch (mode : RunMode) (source : String)
  | runLine (line : String)
  | runProgram
  | complete (now : String) (generation : Nat) (response : Response)
  | fail (generation : Nat) (message : String)
  | abort
  | clear
  | submit (line : String)
  | previous
  | next
  | setProgramText (text : String)
  | clearProgram
  | markSaved
  | openProgram (program : Program)

/-- What an operation answers. -/
inductive Answer where
  | dispatched (answer : Except SessionError Nat)
  | offered (answer : Completion)
  | stopped (answer : Bool)
  | cleared (answer : Except SessionError Unit)
  | submitted (answer : Except SessionError String)
  | recalled (line? : Option String)
  | edited (answer : Bool)
  | done

/-- What an operation answers, and the session and the host after it. -/
def perform (host : ContextHost η) (op : Op) (s : Session) (h : η) : Answer × Session × η :=
  match op with
  | .dispatch mode source => (s.dispatch host mode source h).map .dispatched id
  | .runLine line => (s.runLine host line h).map .dispatched id
  | .runProgram => (s.runProgram host h).map .dispatched id
  | .complete now generation response =>
    (.offered (s.complete now generation response).1, (s.complete now generation response).2, h)
  | .fail generation message =>
    (.offered (s.fail generation message).1, (s.fail generation message).2, h)
  | .abort => (s.abort host h).map .stopped id
  | .clear => (.cleared s.clear.1, s.clear.2, h)
  | .submit line => (.submitted (s.submit line).1, (s.submit line).2, h)
  | .previous => (.recalled s.previous.1, s.previous.2, h)
  | .next => (.recalled s.next.1, s.next.2, h)
  | .setProgramText text => (.edited (s.setProgramText text).1, (s.setProgramText text).2, h)
  | .clearProgram => (.done, s.clearProgram, h)
  | .markSaved => (.done, s.markSaved, h)
  | .openProgram program => (.done, s.openProgram host program h)

/-! ### Chronicles -/

/-- What can be seen of an operation. -/
structure Seen where
  op : Op
  answer : Answer
  /-- What the host was asked to do. -/
  calls : List HostCall

/-- A session, its host, and what was seen of them, latest first. -/
structure Chronicle (η : Type) where
  session : Session
  host : η
  past : List Seen := []

namespace Chronicle

/-- A new session, of which nothing was seen. -/
def new (policy : CommitPolicy) (h : η) : Chronicle η where
  session := { policy }
  host := h

/-- What is seen of an operation. -/
def see (host : ContextHost η) (op : Op) (c : Chronicle η) : Seen :=
  let result := c.session.perform host.recorded op (c.host, [])
  ⟨op, result.1, result.2.2.2⟩

/-- The chronicle after an operation. -/
def step (host : ContextHost η) (c : Chronicle η) (op : Op) : Chronicle η :=
  let result := c.session.perform host.recorded op (c.host, [])
  { session := result.2.1, host := result.2.2.1, past := c.see host op :: c.past }

/-- The chronicle after some operations. -/
def after (host : ContextHost η) (c : Chronicle η) (ops : List Op) : Chronicle η :=
  ops.foldl (step host) c

end Chronicle

theorem follows_recorded (host : ContextHost η) (flight? : Option Flight)
    (h : η × List HostCall) : host.Follows host.recorded Prod.fst flight? h where
  start _ request := by
    dsimp only [ContextHost.recorded]
    split
    · assumption
    · assumption
  abort _ _ := rfl

/-- An operation with a host is the operation with the watched host, but for what was noted. -/
theorem perform_recorded (host : ContextHost η) (op : Op) (s : Session) (h : η × List HostCall) :
    s.perform host op h.1 = (s.perform host.recorded op h).map id (Prod.map id Prod.fst) := by
  have hfollows := follows_recorded host s.flight h
  cases op with
  | dispatch mode source =>
    rw [perform, perform, dispatch_map hfollows]
    rfl
  | runLine line =>
    rw [perform, perform, runLine_map hfollows]
    rfl
  | runProgram =>
    rw [perform, perform, runProgram_map hfollows]
    rfl
  | abort =>
    rw [perform, perform, abort_map hfollows]
    rfl
  | openProgram program =>
    rw [perform, perform, openProgram_map hfollows]
    rfl
  | complete | fail | clear | submit | previous | next | setProgramText | clearProgram
  | markSaved => rfl

/-- Watching changes nothing: a step of a chronicle is the operation itself. -/
theorem Chronicle.perform_eq (host : ContextHost η) (op : Op) (c : Chronicle η) :
    c.session.perform host op c.host =
      ((c.see host op).answer, (c.step host op).session, (c.step host op).host) :=
  perform_recorded host op c.session (c.host, [])

/-! ### News -/

/-- Something that happened to a run, or a reset. -/
inductive News where
  /-- The host started a run. -/
  | started (request : Request)
  /-- The host refused to start a run. -/
  | refused (request : Request) (error : SessionError)
  /-- A response was accepted as the result of a run. -/
  | responded (now : String) (response : Response)
  /-- An error was accepted as the result of a run. -/
  | broke (message : String)
  /-- A run was aborted. -/
  | aborted
  /-- The session was cleared, or took another program. -/
  | reset
  /-- The program was emptied, and the bindings with it. -/
  | forgot

namespace News

/-- What a host call tells. That a run was given up is told by the operation, not by the call. -/
def ofCall? : HostCall → Option News
  | .started request => some (started request)
  | .refused request error => some (refused request error)
  | .aborted _ => none

/-- What the answer to an operation tells. -/
def ofAnswer : Op → Answer → List News
  | .complete now _ response, .offered .applied => [responded now response]
  | .fail _ message, .offered .applied => [broke message]
  | .abort, .stopped true => [aborted]
  | .clear, .cleared (.ok ()) => [reset]
  | .openProgram _, _ => [reset]
  | .clearProgram, _ => [forgot]
  | _, _ => []

/-- What is told by an answer, each with the operation that was answered. -/
inductive Answers : News → Op → Answer → Prop where
  | responded (now : String) (generation : Nat) (response : Response) :
      Answers (.responded now response) (.complete now generation response) (.offered .applied)
  | broke (generation : Nat) (message : String) :
      Answers (.broke message) (.fail generation message) (.offered .applied)
  | aborted : Answers .aborted .abort (.stopped true)
  | cleared : Answers .reset .clear (.cleared (.ok ()))
  | opened (program : Program) (answer : Answer) : Answers .reset (.openProgram program) answer
  | forgot (answer : Answer) : Answers .forgot .clearProgram answer

theorem answers_of_mem_ofAnswer {new : News} {op : Op} {answer : Answer}
    (h : new ∈ ofAnswer op answer) : Answers new op answer := by
  rw [ofAnswer.eq_def] at h
  split at h
  case h_7 => simp at h
  all_goals
    obtain rfl := List.mem_singleton.1 h
    constructor

end News

/-- What is new after an operation was seen. -/
def Seen.news (seen : Seen) : List News :=
  seen.calls.filterMap News.ofCall? ++ News.ofAnswer seen.op seen.answer

theorem Seen.news_of_ofAnswer {seen : Seen} (h : News.ofAnswer seen.op seen.answer = []) :
    seen.news = seen.calls.filterMap News.ofCall? := by
  rw [Seen.news, h, List.append_nil]

/-- Starts are told by the host, and all else by the answer. -/
theorem Seen.answers_of_mem_news {seen : Seen} {new : News} (h : new ∈ seen.news)
    (hstarted : ∀ request, new ≠ .started request)
    (hrefused : ∀ request error, new ≠ .refused request error) :
    News.Answers new seen.op seen.answer := by
  rcases List.mem_append.1 h with hcall | hanswer
  · obtain ⟨call, -, heq⟩ := List.mem_filterMap.1 hcall
    cases call with
    | started request => exact absurd (Option.some.inj heq).symm (hstarted request)
    | refused request error => exact absurd (Option.some.inj heq).symm (hrefused request error)
    | aborted generation => simp [News.ofCall?] at heq
  · exact News.answers_of_mem_ofAnswer hanswer

/-- Of the operation that is seen next, all news but those of starts is told by its answer. -/
theorem Chronicle.answers_of_mem_news (host : ContextHost η) {op : Op} {c : Chronicle η}
    {new : News} (h : new ∈ (c.see host op).news) (hstarted : ∀ request, new ≠ .started request)
    (hrefused : ∀ request error, new ≠ .refused request error) :
    News.Answers new op (c.session.perform host.recorded op (c.host, [])).1 :=
  Seen.answers_of_mem_news h hstarted hrefused

/-- All news, latest first. -/
def Chronicle.news (c : Chronicle η) : List News :=
  c.past.flatMap fun seen ↦ seen.news.reverse

theorem Chronicle.news_step (host : ContextHost η) (op : Op) (c : Chronicle η) :
    (c.step host op).news = (c.see host op).news.reverse ++ c.news :=
  rfl

/-! ### What the session becomes -/

/-- What becomes of a session, by the news after an operation. Lines are noted in the history and
programs are edited without further notice. -/
inductive Stepped (s : Session) : List News → Session → Prop where
  | quiet (history : History) (program : Program) : Stepped s [] { s with history, program }
  | refused (idle : s.flight = none) (mode : RunMode) (source : String) (error : SessionError)
      (history : History) :
      Stepped s [.refused (s.requestFor mode source) error]
        { s.log (startFailure error) with history }
  | started (idle : s.flight = none) (mode : RunMode) (source : String) (history : History) :
      Stepped s [.started (s.requestFor mode source)]
        { s.logAll (opening mode source) with
          flight := some ⟨s.generation, mode, source⟩
          history }
  | responded {flight : Flight} (running : s.flight = some flight) (now : String)
      (response : Response) :
      Stepped s [.responded now response]
        { s.logAll (closing now flight.mode response) with
          bindings := s.bindingsAfter flight.mode response
          flight := none }
  | broke {flight : Flight} (running : s.flight = some flight) (message : String) :
      Stepped s [.broke message] { s.logAll (breakdown flight.mode message) with flight := none }
  | aborted {flight : Flight} (running : s.flight = some flight) :
      Stepped s [.aborted]
        ({ s with generation := s.generation + 1, flight := none }.log Entry.aborted)
  | cleared (idle : s.flight = none) : Stepped s [.reset] s.reset
  | opened (generation : Nat) (program : Program) :
      Stepped s [.reset] { s with flight := none, generation, program }.reset
  | forgot : Stepped s [.forgot] s.clearProgram

section Steps

variable {host : ContextHost η} {s : Session} {h : η} {generation : Nat}

theorem recorded_start_ok {request : Request} {h' : η × List HostCall}
    (hstart : host.recorded.start request (h, []) = (.ok (), h')) :
    h'.2 = [.started request] := by
  simp only [ContextHost.recorded, List.nil_append] at hstart
  split at hstart
  · rw [← (Prod.mk.inj hstart).2]
  · simp at hstart

theorem recorded_start_error {request : Request} {error : SessionError} {h' : η × List HostCall}
    (hstart : host.recorded.start request (h, []) = (.error error, h')) :
    h'.2 = [.refused request error] := by
  simp only [ContextHost.recorded, List.nil_append] at hstart
  split at hstart
  · simp at hstart
  · obtain ⟨heq, rfl⟩ := Prod.mk.inj hstart
    rw [← Except.error.inj heq]

/-- Dispatching in a session that differs from `s` at most in its history. -/
theorem dispatched_stepped {history : History} {mode : RunMode} {source : String}
    {result : Except SessionError Nat × Session × η × List HostCall}
    (h : Dispatched host.recorded mode source { s with history } (h, []) result) :
    Stepped s (result.2.2.2.filterMap News.ofCall?) result.2.1 := by
  cases h with
  | running | blank => exact .quiet history s.program
  | refused before error h' start =>
    have hidle : s.flight = none := before
    rw [recorded_start_error start]
    exact .refused hidle mode source error history
  | started before h' start =>
    have hidle : s.flight = none := before
    rw [recorded_start_ok start]
    exact .started hidle mode source history

theorem runLine_stepped (line : String) :
    Stepped s ((s.runLine host.recorded line (h, [])).2.2.2.filterMap News.ofCall?)
      (s.runLine host.recorded line (h, [])).2.1 := by
  rcases runLine_cases host.recorded line s (h, []) with ⟨error, heq⟩ | heq
  · rw [heq]
    exact .quiet s.history s.program
  · rw [heq]
    exact dispatched_stepped (dispatched host.recorded .terminal line _ (h, []))

/-- Results are accepted for the run in flight only. -/
theorem exists_flight_of_accepting {mode : RunMode} (h : s.accepting? generation = some mode) :
    ∃ flight, s.flight = some flight ∧ flight.mode = mode ∧ flight.generation = generation := by
  rw [accepting?] at h
  split at h
  · simp at h
  · rename_i flight hflight
    split at h
    · rename_i hcurrent
      exact ⟨flight, hflight, Option.some.inj h, hcurrent.1⟩
    · simp at h

theorem complete_stepped (now : String) (response : Response) :
    Stepped s
      (News.ofAnswer (.complete now generation response)
        (.offered (s.complete now generation response).1))
      (s.complete now generation response).2 := by
  rcases complete_cases now generation response s with ⟨-, heq⟩ | ⟨mode, haccepting, heq⟩
  · rw [heq]
    exact .quiet s.history s.program
  · obtain ⟨flight, hflight, rfl, -⟩ := exists_flight_of_accepting haccepting
    rw [heq]
    exact .responded hflight now response

theorem fail_stepped (message : String) :
    Stepped s
      (News.ofAnswer (.fail generation message) (.offered (s.fail generation message).1))
      (s.fail generation message).2 := by
  rcases fail_cases generation message s with ⟨-, heq⟩ | ⟨mode, haccepting, heq⟩
  · rw [heq]
    exact .quiet s.history s.program
  · obtain ⟨flight, hflight, rfl, -⟩ := exists_flight_of_accepting haccepting
    rw [heq]
    exact .broke hflight message

/-- The session after an operation, by what was seen of it. -/
theorem stepped (host : ContextHost η) (op : Op) (c : Chronicle η) :
    Stepped c.session (c.see host op).news (c.step host op).session := by
  obtain ⟨s, h, past⟩ := c
  cases op with
  | dispatch mode source =>
    rw [Seen.news_of_ofAnswer rfl]
    exact dispatched_stepped (dispatched host.recorded mode source s (h, []))
  | runProgram =>
    rw [Seen.news_of_ofAnswer rfl]
    exact dispatched_stepped (dispatched host.recorded .program s.program.text s (h, []))
  | runLine line =>
    rw [Seen.news_of_ofAnswer rfl]
    exact runLine_stepped line
  | complete now generation response => exact complete_stepped now response
  | fail generation message => exact fail_stepped message
  | abort =>
    simp only [Chronicle.see, Chronicle.step, perform]
    cases hflight : s.flight with
    | none =>
      rw [abort_of_idle hflight]
      exact .quiet s.history s.program
    | some flight =>
      rw [abort_of_flight hflight]
      exact .aborted hflight
  | clear =>
    simp only [Chronicle.see, Chronicle.step, perform]
    rcases clear_cases s with ⟨flight, -, heq⟩ | ⟨hidle, heq⟩
    · rw [heq]
      exact .quiet s.history s.program
    · rw [heq]
      exact .cleared hidle
  | openProgram program =>
    simp only [Chronicle.see, Chronicle.step, perform]
    cases hflight : s.flight with
    | none =>
      have hsame : { s with program } = { s with flight := none, program } := by rw [← hflight]
      rw [openProgram_of_idle program hflight, hsame]
      exact .opened s.generation program
    | some flight =>
      rw [openProgram_of_flight program hflight]
      exact .opened (s.generation + 1) program
  | submit line =>
    simp only [Chronicle.see, Chronicle.step, perform]
    rcases submit_cases line s with heq | heq
    · rw [heq]
      exact .quiet s.history s.program
    · rw [heq]
      exact .quiet (s.history.record line) s.program
  | previous => exact .quiet s.history.previous.2 s.program
  | next => exact .quiet s.history.next.2 s.program
  | setProgramText text => exact .quiet s.history (s.program.setText text)
  | markSaved => exact .quiet s.history s.program.markSaved
  | clearProgram => exact .forgot

end Steps

/-- What is kept by every step holds after all operations, if it holds before. -/
theorem Chronicle.after_holds (host : ContextHost η) {Holds : List News → Session → Prop}
    (step : ∀ {past news : List News} {s s' : Session}, Holds past s → Stepped s news s' →
      Holds (news.reverse ++ past) s') (ops : List Op) {c : Chronicle η}
    (hc : Holds c.news c.session) : Holds (c.after host ops).news (c.after host ops).session := by
  induction ops generalizing c with
  | nil => exact hc
  | cons op ops ih =>
    refine ih (c := c.step host op) ?_
    rw [news_step]
    exact step hc (stepped host op c)

/-- What holds of a new session without news, and is kept by every step, holds after all sequences
of operations. -/
theorem Chronicle.after_induction (host : ContextHost η) (policy : CommitPolicy) (h : η)
    {Holds : List News → Session → Prop} (start : Holds [] { policy })
    (step : ∀ {past news : List News} {s s' : Session}, Holds past s → Stepped s news s' →
      Holds (news.reverse ++ past) s') (ops : List Op) :
    Holds ((new policy h).after host ops).news ((new policy h).after host ops).session :=
  after_holds host step ops start

end Session

end Workbench
