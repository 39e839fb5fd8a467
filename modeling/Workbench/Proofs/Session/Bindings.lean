import Workbench.Proofs.Session.Trace

/-!
# The bindings that a run starts from

The bindings of a session are what the last run of a line left, if the policy of the session keeps
what such a run leaves, and none after a reset. `keptBindings` looks for the one or the other in the
news, from the latest on; it needs to know for a response whether it came from a run of a line, and
finds that further back, where the run was started. Nothing else has a part in the bindings: runs of
the program neither read nor leave any.

`requests_see` says exactly which requests an operation puts before the host.
-/

namespace Workbench

namespace Session

variable {η : Type}

/-! ### Requests -/

/-- What an operation asks to be run. -/
def Op.asks? (s : Session) : Op → Option (RunMode × String)
  | .dispatch mode source => some (mode, source)
  | .runLine line => some (.terminal, line)
  | .runProgram => some (.program, s.program.text)
  | _ => none

/-- The requests that were put before the host. -/
def Seen.requests (seen : Seen) : List Request :=
  seen.calls.filterMap HostCall.request?

section Requests

variable (host : ContextHost η) (s : Session) (h : η)

/-- A dispatch puts a request before the host unless it is rejected. -/
theorem requests_dispatch (mode : RunMode) (source : String) :
    (s.dispatch host.recorded mode source (h, [])).2.2.2.filterMap HostCall.request? =
      if s.isRunning = true ∨ mode = .terminal ∧ Text.allBlank source = true then []
      else [s.requestFor mode source] := by
  rw [dispatch]
  by_cases hrunning : s.isRunning = true
  · rw [if_pos hrunning, if_pos (.inl hrunning)]
    rfl
  · by_cases hblank : mode = .terminal ∧ Text.allBlank source = true
    · rw [if_neg hrunning, if_pos hblank, if_pos (.inr hblank)]
      rfl
    · rw [if_neg hrunning, if_neg hblank, if_neg (not_or.2 ⟨hrunning, hblank⟩)]
      cases hstart : host.recorded.start (s.requestFor mode source) (h, []) with
      | mk answer h' =>
        cases answer with
        | ok =>
          simp only [recorded_start_ok hstart]
          rfl
        | error error =>
          simp only [recorded_start_error hstart]
          rfl

theorem requests_runLine (line : String) :
    (s.runLine host.recorded line (h, [])).2.2.2.filterMap HostCall.request? =
      if s.isRunning = true ∨ RunMode.terminal = .terminal ∧ Text.allBlank line = true then []
      else [s.requestFor .terminal line] := by
  rw [runLine, submit]
  by_cases hrunning : s.isRunning = true
  · rw [if_pos hrunning, if_pos (.inl hrunning)]
    rfl
  · by_cases hblank : Text.allBlank line = true
    · rw [if_neg hrunning, if_pos hblank, if_pos (.inr ⟨rfl, hblank⟩)]
      rfl
    · rw [if_neg hrunning, if_neg hblank]
      -- The line is in the history by now, which no request depends on.
      exact requests_dispatch host { s with history := s.history.record line } h .terminal line

end Requests

/-- An operation that asks for something to be run puts that before the host, unless it is rejected;
no other operation puts anything before it. -/
theorem requests_see (host : ContextHost η) (op : Op) (c : Chronicle η) :
    (c.see host op).requests =
      match op.asks? c.session with
      | none => []
      | some (mode, source) =>
        if c.session.isRunning = true ∨ mode = .terminal ∧ Text.allBlank source = true then []
        else [c.session.requestFor mode source] := by
  cases op with
  | dispatch mode source => exact requests_dispatch host c.session c.host mode source
  | runLine line => exact requests_runLine host c.session c.host line
  | runProgram => exact requests_dispatch host c.session c.host .program c.session.program.text
  | abort =>
    simp only [Seen.requests, Chronicle.see, perform]
    cases hflight : c.session.flight with
    | none =>
      rw [abort_of_idle hflight]
      rfl
    | some flight =>
      rw [abort_of_flight hflight]
      rfl
  | openProgram program =>
    simp only [Seen.requests, Chronicle.see, perform]
    cases hflight : c.session.flight with
    | none =>
      rw [openProgram_of_idle program hflight]
      rfl
    | some flight =>
      rw [openProgram_of_flight program hflight]
      rfl
  | complete | fail | clear | submit | previous | next | setProgramText | clearProgram
  | markSaved => rfl

/-! ### Bindings -/

/-- Whether the run that was started last is one of the program, or of a line. -/
def lastMode? (past : List News) : Option RunMode :=
  past.findSome? fun
    | .started request => some request.mode
    | _ => none

/-- What the last run of a line left that the policy keeps, or nothing after a reset, whichever came
later. -/
def keptBindings (policy : CommitPolicy) : List News → Bindings
  | [] => ∅
  | .reset :: _ => ∅
  | .forgot :: _ => ∅
  | .responded _ response :: past =>
    if lastMode? past = some .terminal ∧ policy.commits response.ok = true then response.bindings
    else keptBindings policy past
  | .started _ :: past => keptBindings policy past
  | .refused _ _ :: past => keptBindings policy past
  | .broke _ :: past => keptBindings policy past
  | .aborted :: past => keptBindings policy past

/-- The session has the bindings that the news tell of, and the run in flight is the one that was
started last. -/
structure Keeps (policy : CommitPolicy) (past : List News) (s : Session) : Prop where
  policy_eq : s.policy = policy
  bindings_eq : s.bindings = keptBindings policy past
  mode_eq : ∀ {flight : Flight}, s.flight = some flight → lastMode? past = some flight.mode

namespace Keeps

variable {policy : CommitPolicy} {past news : List News} {s s' : Session}

theorem start (policy : CommitPolicy) : Keeps policy [] { policy } where
  policy_eq := rfl
  bindings_eq := rfl
  mode_eq running := by simp at running

/-- Every step keeps bindings and news together. -/
theorem step (h : Keeps policy past s) (hstepped : Stepped s news s') :
    Keeps policy (news.reverse ++ past) s' := by
  cases hstepped with
  | quiet history program => exact ⟨h.policy_eq, h.bindings_eq, h.mode_eq⟩
  | refused idle mode source error history =>
    refine ⟨h.policy_eq, h.bindings_eq, fun running ↦ ?_⟩
    simp [log, idle] at running
  | started idle mode source history =>
    refine ⟨h.policy_eq, h.bindings_eq, fun running ↦ ?_⟩
    obtain rfl := Option.some.inj running
    cases mode <;> rfl
  | @responded flight running now response =>
    refine ⟨h.policy_eq, ?_, fun hflight ↦ by simp at hflight⟩
    have hlast := h.mode_eq running
    cases hmode : flight.mode with
    | program =>
      rw [hmode] at hlast
      simp [keptBindings, hlast, bindingsAfter, h.bindings_eq]
    | terminal =>
      rw [hmode] at hlast
      simp [keptBindings, hlast, bindingsAfter, h.policy_eq, h.bindings_eq]
  | broke => exact ⟨h.policy_eq, h.bindings_eq, fun hflight ↦ by simp at hflight⟩
  | aborted => exact ⟨h.policy_eq, h.bindings_eq, fun hflight ↦ by simp [log] at hflight⟩
  | cleared idle => exact ⟨h.policy_eq, rfl, fun hflight ↦ by simp [reset, idle] at hflight⟩
  | opened => exact ⟨h.policy_eq, rfl, fun hflight ↦ by simp [reset] at hflight⟩
  | forgot => exact ⟨h.policy_eq, rfl, h.mode_eq⟩

end Keeps

/-- An operation leaves the bindings alone unless it resets the session, empties the program, or
offers a response for the run of a line that is accepted and that the policy keeps. -/
theorem bindings_step_cases (host : ContextHost η) (op : Op) (c : Chronicle η) :
    (c.step host op).session.bindings = c.session.bindings ∨
      (op = .clear ∧ c.session.clear.1 = .ok ()) ∨ op = .clearProgram ∨
      (∃ program, op = .openProgram program) ∨
      ∃ now generation response flight, op = .complete now generation response ∧
        (c.session.complete now generation response).1 = .applied ∧
        c.session.flight = some flight ∧ flight.mode = .terminal ∧
        c.session.policy.commits response.ok = true := by
  have hstepped := stepped host op c
  generalize hnews : (c.see host op).news = news at hstepped
  generalize (c.step host op).session = s' at hstepped
  have htold {new : News} (hmem : new ∈ news) := Chronicle.answers_of_mem_news host (hnews ▸ hmem)
  cases hstepped with
  | quiet | refused | started | broke | aborted => exact .inl rfl
  | cleared | opened =>
    have hanswers := htold (List.mem_singleton_self _) (by simp) (by simp)
    generalize hanswer : (c.session.perform host.recorded op (c.host, [])).1 = answer at hanswers
    cases hanswers with
    | cleared => exact .inr (.inl ⟨rfl, Answer.cleared.inj hanswer⟩)
    | opened program => exact .inr (.inr (.inr (.inl ⟨program, rfl⟩)))
  | forgot =>
    have hanswers := htold (List.mem_singleton_self _) (by simp) (by simp)
    cases hanswers
    exact .inr (.inr (.inl rfl))
  | @responded flight running now response =>
    have hanswers := htold (List.mem_singleton_self _) (by simp) (by simp)
    generalize hanswer : (c.session.perform host.recorded op (c.host, [])).1 = answer at hanswers
    cases hanswers with
    | responded _ generation =>
      have happlied := Answer.offered.inj hanswer
      cases hmode : flight.mode with
      | program => exact .inl rfl
      | terminal =>
        cases hcommits : c.session.policy.commits response.ok with
        | false =>
          refine .inl ?_
          simp [bindingsAfter, hcommits]
        | true =>
          exact .inr (.inr (.inr (.inr
            ⟨now, generation, response, flight, rfl, happlied, running, hmode, hcommits⟩)))

/-- After all sequences of operations, with any policy, any host and any results offered:

* an operation that asks for something to be run, and is not rejected, puts one request before the
  host, and no other operation does. The request carries the source as it was given and the current
  generation. A run of the program starts without bindings; a run of a line starts with what the
  last run of a line left that the policy keeps, or without any after a reset, whichever came later;
* these are the bindings of the session;
* and they are changed by nothing but resets, and the accepted responses of runs of lines. -/
theorem requests_carry_bindings (host : ContextHost η) (policy : CommitPolicy) (h : η)
    (ops : List Op) :
    let c := (Chronicle.new policy h).after host ops
    (∀ op, (c.see host op).requests =
        match op.asks? c.session with
        | none => []
        | some (mode, source) =>
          if c.session.isRunning = true ∨ mode = .terminal ∧ Text.allBlank source = true then []
          else [{
            generation := c.session.generation
            wholeProgram := decide (mode = .program)
            source
            bindings :=
              match mode with
              | .program => ∅
              | .terminal => keptBindings policy c.news }]) ∧
      c.session.bindings = keptBindings policy c.news ∧
      ∀ op, (c.step host op).session.bindings = c.session.bindings ∨
        (op = .clear ∧ c.session.clear.1 = .ok ()) ∨ op = .clearProgram ∨
        (∃ program, op = .openProgram program) ∨
        ∃ now generation response flight, op = .complete now generation response ∧
          (c.session.complete now generation response).1 = .applied ∧
          c.session.flight = some flight ∧ flight.mode = .terminal ∧
          policy.commits response.ok = true := by
  intro c
  have hkeeps : Keeps policy c.news c.session :=
    Chronicle.after_induction host policy h (Keeps.start policy) Keeps.step ops
  refine ⟨fun op ↦ ?_, hkeeps.bindings_eq, fun op ↦ ?_⟩
  · have hrequest (mode : RunMode) (source : String) : c.session.requestFor mode source =
        { generation := c.session.generation
          wholeProgram := decide (mode = .program)
          source
          bindings :=
            match mode with
            | .program => ∅
            | .terminal => keptBindings policy c.news } := by
      rw [requestFor, ← hkeeps.bindings_eq]
      cases mode <;> rfl
    rw [requests_see]
    cases op.asks? c.session with
    | none => rfl
    | some asked =>
      obtain ⟨mode, source⟩ := asked
      dsimp only
      rw [hrequest]
  · have hcases := bindings_step_cases host op c
    rwa [hkeeps.policy_eq] at hcases

end Session

end Workbench
