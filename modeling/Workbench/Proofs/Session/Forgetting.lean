import Workbench.Proofs.Session.Bindings

/-!
# What is left of the bindings once the program was emptied

Emptying the program forgets the bindings, but it gives no run up, and it does not move the
generation on. A run of a line that is in flight by then was started with the bindings of before,
and its response is accepted as that of any other run: what it leaves are the bindings again.
`bindings_return_after_clearProgram` is such a session. This is the only way past the reset:
`requests_after_clearProgram` says that all other bindings a line is run with later on were left by
a line that was started later, too.

A chronicle that begins when the program was emptied (`Chronicle.anew`) tells the two apart. A
response in its news with no start further back is one of the run that was in flight.
-/

namespace Workbench

namespace Session

variable {η : Type}

/-- The same session and host, of which nothing was seen so far. -/
def Chronicle.anew (c : Chronicle η) : Chronicle η :=
  { c with past := [] }

/-- The bindings that accepted responses left, each with the mode of the run that was started last
before it. -/
def leavings : List News → List (Option RunMode × Bindings)
  | [] => []
  | .responded _ response :: past => (lastMode? past, response.bindings) :: leavings past
  | _ :: past => leavings past

theorem leavings_suffix (news past : List News) : leavings past <:+ leavings (news ++ past) := by
  induction news with
  | nil => exact List.suffix_rfl
  | cons new news ih =>
    cases new with
    | responded now response => exact ih.trans (List.suffix_cons _ _)
    | _ => exact ih

/-- Bindings that a session can have since it had none and the run `flight?` was in flight. -/
inductive Regained (flight? : Option Flight) (news : List News) (bindings : Bindings) : Prop where
  | nothing (h : bindings = ∅)
  /-- A run of a line that was started since then left them. -/
  | since (h : (some .terminal, bindings) ∈ leavings news)
  /-- The run of a line that was in flight already left them. -/
  | before {flight : Flight} (running : flight? = some flight) (mode : flight.mode = .terminal)
      (h : (none, bindings) ∈ leavings news)

theorem Regained.append {flight? : Option Flight} {past : List News} {bindings : Bindings}
    (h : Regained flight? past bindings) (news : List News) :
    Regained flight? (news ++ past) bindings := by
  have hsubset := (leavings_suffix news past).subset
  cases h with
  | nothing h => exact .nothing h
  | since h => exact .since (hsubset h)
  | before running mode h => exact .before running mode (hsubset h)

/-- The bindings are regained ones, and the run in flight is the one that was started last, or that
was in flight at first. -/
structure Regains (flight? : Option Flight) (news : List News) (s : Session) : Prop where
  bindings : Regained flight? news s.bindings
  flight : ∀ {flight : Flight}, s.flight = some flight →
    lastMode? news = some flight.mode ∨ lastMode? news = none ∧ flight? = some flight

namespace Regains

variable {flight? : Option Flight} {past news : List News} {s s' : Session}

/-- The response of a run of a line in flight leaves regained bindings. -/
theorem responded (h : Regains flight? past s) {flight : Flight} (running : s.flight = some flight)
    (mode : flight.mode = .terminal) (now : String) (response : Response) :
    Regained flight? (.responded now response :: past) response.bindings := by
  rcases h.flight running with hlast | ⟨hlast, rfl⟩
  · refine .since ?_
    rw [leavings, hlast, mode]
    exact List.mem_cons_self
  · refine .before rfl mode ?_
    rw [leavings, hlast]
    exact List.mem_cons_self

/-- Every step keeps the bindings regained. -/
theorem step (h : Regains flight? past s) (hstepped : Stepped s news s') :
    Regains flight? (news.reverse ++ past) s' := by
  cases hstepped with
  | quiet history program => exact ⟨h.bindings, h.flight⟩
  | refused idle mode source error history =>
    refine ⟨h.bindings.append [_], fun running ↦ ?_⟩
    simp [log, idle] at running
  | started idle mode source history =>
    refine ⟨h.bindings.append [_], fun running ↦ ?_⟩
    obtain rfl := Option.some.inj running
    cases mode <;> exact .inl rfl
  | @responded flight running now response =>
    refine ⟨?_, fun hflight ↦ by simp at hflight⟩
    cases hmode : flight.mode with
    | program => exact h.bindings.append [_]
    | terminal =>
      simp only [bindingsAfter]
      split
      · exact h.responded running hmode now response
      · exact h.bindings.append [_]
  | broke => exact ⟨h.bindings.append [_], fun hflight ↦ by simp at hflight⟩
  | aborted => exact ⟨h.bindings.append [_], fun hflight ↦ by simp [log] at hflight⟩
  | cleared idle => exact ⟨.nothing rfl, fun hflight ↦ by simp [reset, idle] at hflight⟩
  | opened => exact ⟨.nothing rfl, fun hflight ↦ by simp [reset] at hflight⟩
  | forgot => exact ⟨.nothing rfl, h.flight⟩

end Regains

/-- An operation puts no request before the host but one with the bindings of the session, if a line
is to be run. -/
theorem bindings_of_mem_requests {host : ContextHost η} {op : Op} {c : Chronicle η}
    {request : Request} (h : request ∈ (c.see host op).requests)
    (hmode : request.mode = .terminal) : request.bindings = c.session.bindings := by
  rw [requests_see] at h
  split at h
  · simp at h
  · rename_i mode source hasks
    split at h
    · simp at h
    · obtain rfl := List.mem_singleton.1 h
      cases mode with
      | terminal => rfl
      | program => simp [Request.mode, requestFor] at hmode

/-- After the program was emptied, in any session that some operations lead to, with a run in flight
or without, and after all operations and results that follow, a line is run without bindings, or
with those that a line left which was started since then, unless the run of a line was in flight
when the program was emptied: what the response of that run left is taken as well. -/
theorem requests_after_clearProgram (host : ContextHost η) (policy : CommitPolicy) (h : η)
    (before ops : List Op) (op : Op) (request : Request) :
    let c := (Chronicle.new policy h).after host before
    let later := (c.step host .clearProgram).anew.after host ops
    request ∈ (later.see host op).requests → request.mode = .terminal →
      request.bindings = ∅ ∨ (some .terminal, request.bindings) ∈ leavings later.news ∨
        ∃ flight, c.session.flight = some flight ∧ flight.mode = .terminal ∧
          (none, request.bindings) ∈ leavings later.news := by
  intro c later hmem hmode
  have hregains : Regains c.session.flight later.news later.session :=
    Chronicle.after_holds host Regains.step ops ⟨.nothing rfl, fun running ↦ .inr ⟨rfl, running⟩⟩
  rw [bindings_of_mem_requests hmem hmode]
  cases hregains.bindings with
  | nothing h => exact .inl h
  | since h => exact .inr (.inl h)
  | before running mode h => exact .inr (.inr ⟨_, running, mode, h⟩)

/-- A line that was started since leaves the bindings of the next one, and the one that was given up
in between leaves none. -/
theorem requests_after_clearProgram_restarted :
    let left : Bindings := .ofList [("y", .number (.whole 2))]
    let request : Request := ⟨1, false, "print y", left⟩
    let c := (Chronicle.new .always none).after .compliant [.runLine "x = 1"]
    let later := (c.step .compliant .clearProgram).anew.after .compliant
      [.abort, .runLine "y = 2", .complete "" 1 (.success "" 0 left none)]
    (request ∈ (later.see .compliant (.runLine "print y")).requests ∧ request.mode = .terminal) ∧
      (request.bindings = ∅ ∨ (some .terminal, request.bindings) ∈ leavings later.news ∨
        ∃ flight, c.session.flight = some flight ∧ flight.mode = .terminal ∧
          (none, request.bindings) ∈ leavings later.news) := by
  intro left request c later
  have hmem : request ∈ (later.see .compliant (.runLine "print y")).requests := by decide +kernel
  have hmode : request.mode = .terminal := rfl
  exact ⟨⟨hmem, hmode⟩, requests_after_clearProgram .compliant .always none [.runLine "x = 1"]
    [.abort, .runLine "y = 2", .complete "" 1 (.success "" 0 left none)] (.runLine "print y")
    request hmem hmode⟩

/-- The response of a line that binds a name is accepted after the program was emptied: the next
line starts with that name bound, though no line was started since. -/
theorem bindings_return_after_clearProgram :
    let left : Bindings := .ofList [("x", .number (.whole 1))]
    let c := (Chronicle.new .always none).after .compliant [.runLine "x = 1"]
    let later := (c.step .compliant .clearProgram).anew.after .compliant
      [.complete "" 0 (.success "" 0 left none)]
    (later.see .compliant (.runLine "print x")).requests =
        [{ generation := 0, wholeProgram := false, source := "print x", bindings := left }] ∧
      left ≠ ∅ ∧ (some .terminal, left) ∉ leavings later.news := by
  decide +kernel

end Session

end Workbench
