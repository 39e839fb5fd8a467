import Workbench.Proofs.Session.Trace

/-!
# The order in which a host is called

A host has resources to look after, and relies on being called in order: it is asked to start a run,
and if it does, that run ends before it is asked again, by a result that the session accepts or by
the call that gives the run up. `Dealing` is what a host and a session have to do with each other,
and `Cycle` one round of it; the dealings of a session, whatever is asked of it and whatever the
host answers, are rounds one after the other, and at most the last one is not complete
(`called_in_cycles`).

`Dealt` says what one operation contributes, by the run in flight before and after it.
-/

namespace Workbench

/-- What concerns a host: a call to it, or that a result of a run it started was accepted. -/
inductive Dealing where
  | call (call : HostCall)
  | settled (generation : Nat)

namespace Dealing

/-- Whether a dealing is a call to start a run, answered either way. -/
def IsStart : Dealing → Prop
  | call (.started _) | call (.refused _ _) => True
  | _ => False

/-- The generation of the run that ends by a dealing. -/
def ends? : Dealing → Option Nat
  | settled generation => some generation
  | call (.aborted generation) => some generation
  | _ => none

end Dealing

/-- A round of dealings. -/
inductive Cycle where
  /-- The host refuses to start a run. -/
  | refused (request : Request) (error : SessionError)
  /-- It starts a run, and a result of it is accepted. -/
  | answered (request : Request)
  /-- It starts a run, and has to give it up. -/
  | abandoned (request : Request)

/-- The dealings of a round. -/
def Cycle.dealings : Cycle → List Dealing
  | refused request error => [.call (.refused request error)]
  | answered request => [.call (.started request), .settled request.generation]
  | abandoned request => [.call (.started request), .call (.aborted request.generation)]

/-- Where a dealing may stand: a call to start a run where no run is open, and the end of a run
right behind its start. -/
def Dealing.Placed (before : List Dealing) (dealing : Dealing) : Prop :=
  (dealing.IsStart ∧ ∀ request, before.getLast? ≠ some (.call (.started request))) ∨
    ∃ earlier request, before = earlier ++ [.call (.started request)] ∧
      dealing.ends? = some request.generation

/-- What comes first of all only matters if nothing else comes before. -/
theorem Dealing.Placed.cons {before : List Dealing} {first dealing : Dealing}
    (h : dealing.Placed before)
    (hfirst : before = [] → ∀ request, first ≠ .call (.started request)) :
    dealing.Placed (first :: before) := by
  rcases h with ⟨hstart, hlast⟩ | ⟨earlier, request, rfl, hends⟩
  · refine .inl ⟨hstart, fun request ↦ ?_⟩
    cases before with
    | nil => simpa using hfirst rfl request
    | cons second before => simpa using hlast request
  · exact .inr ⟨first :: earlier, request, rfl, hends⟩

theorem Cycle.placed {cycles : List Cycle} {before : List Dealing} {dealing : Dealing}
    (h : before ++ [dealing] <+: cycles.flatMap Cycle.dealings) : dealing.Placed before := by
  induction cycles generalizing before with
  | nil => simp at h
  | cons cycle cycles ih =>
    -- Either the dealing is one of the first round, or that round is over before it.
    cases cycle with
    | refused request error =>
      simp only [List.flatMap_cons, Cycle.dealings, List.cons_append, List.nil_append] at h
      cases before with
      | nil =>
        obtain ⟨rfl, -⟩ := List.cons_prefix_cons.1 h
        exact .inl ⟨trivial, by simp⟩
      | cons first before =>
        obtain ⟨rfl, hbefore⟩ := List.cons_prefix_cons.1 h
        exact (ih hbefore).cons (by simp)
    | answered request | abandoned request =>
      simp only [List.flatMap_cons, Cycle.dealings, List.cons_append, List.nil_append] at h
      rcases before with - | ⟨first, - | ⟨second, before⟩⟩
      · obtain ⟨rfl, -⟩ := List.cons_prefix_cons.1 h
        exact .inl ⟨trivial, by simp⟩
      · obtain ⟨hfirst, hrest⟩ := List.cons_prefix_cons.1 h
        obtain ⟨rfl, -⟩ := List.cons_prefix_cons.1 hrest
        exact .inr ⟨[], request, congrArg (· :: []) hfirst, rfl⟩
      · obtain ⟨-, hrest⟩ := List.cons_prefix_cons.1 h
        obtain ⟨rfl, hbefore⟩ := List.cons_prefix_cons.1 hrest
        exact ((ih hbefore).cons (by simp)).cons (by simp)

namespace Session

variable {η : Type} {host : ContextHost η} {s : Session} {h : η}

/-- The result that was accepted. -/
def Seen.settled (seen : Seen) : List Dealing :=
  match seen.op, seen.answer with
  | .complete _ generation _, .offered .applied => [.settled generation]
  | .fail generation _, .offered .applied => [.settled generation]
  | _, _ => []

/-- The dealings of one operation. -/
def Seen.dealings (seen : Seen) : List Dealing :=
  seen.calls.map .call ++ seen.settled

/-- All dealings, in order. -/
def Chronicle.dealings (c : Chronicle η) : List Dealing :=
  c.past.reverse.flatMap Seen.dealings

theorem Chronicle.dealings_step (host : ContextHost η) (op : Op) (c : Chronicle η) :
    (c.step host op).dealings = c.dealings ++ (c.see host op).dealings := by
  rw [dealings, step, List.reverse_cons, List.flatMap_append, List.flatMap_singleton, dealings]

/-! ### One operation -/

/-- The dealings of an operation, and the run that is in flight after it. -/
inductive Dealt (s : Session) : List Dealing → Option Flight → Prop where
  | nothing : Dealt s [] s.flight
  | refused (idle : s.flight = none) (request : Request) (error : SessionError) :
      Dealt s [.call (.refused request error)] none
  | started (idle : s.flight = none) (mode : RunMode) (source : String) :
      Dealt s [.call (.started (s.requestFor mode source))] (some ⟨s.generation, mode, source⟩)
  | settled {flight : Flight} (running : s.flight = some flight) :
      Dealt s [.settled flight.generation] none
  | abandoned {flight : Flight} (running : s.flight = some flight) :
      Dealt s [.call (.aborted flight.generation)] none

/-- Dispatching in a session that differs from `s` at most in its history. -/
theorem dealt_of_dispatched {history : History} {mode : RunMode} {source : String}
    {result : Except SessionError Nat × Session × η × List HostCall}
    (hresult : Dispatched host.recorded mode source { s with history } (h, []) result) :
    Dealt s (result.2.2.2.map .call) result.2.1.flight := by
  cases hresult with
  | running | blank => exact .nothing
  | refused before error h' start =>
    have hidle : s.flight = none := before
    have hflight : ({ s with history }.log (startFailure error)).flight = none := before
    rw [recorded_start_error start, hflight]
    exact .refused hidle _ error
  | started before h' start =>
    have hidle : s.flight = none := before
    rw [recorded_start_ok start]
    exact .started hidle mode source

theorem runLine_dealt (line : String) :
    Dealt s ((s.runLine host.recorded line (h, [])).2.2.2.map .call)
      (s.runLine host.recorded line (h, [])).2.1.flight := by
  rcases runLine_cases host.recorded line s (h, []) with ⟨error, heq⟩ | heq
  · rw [heq]
    exact .nothing
  · rw [heq]
    exact dealt_of_dispatched (dispatched host.recorded .terminal line _ (h, []))

theorem complete_dealt (now : String) (generation : Nat) (response : Response) :
    Dealt s
      (Seen.settled ⟨.complete now generation response,
        .offered (s.complete now generation response).1, []⟩)
      (s.complete now generation response).2.flight := by
  rcases complete_cases now generation response s with ⟨-, heq⟩ | ⟨mode, haccepting, heq⟩
  · rw [heq]
    exact .nothing
  · obtain ⟨flight, hflight, -, rfl⟩ := exists_flight_of_accepting haccepting
    rw [heq]
    exact .settled hflight

theorem fail_dealt (generation : Nat) (message : String) :
    Dealt s
      (Seen.settled ⟨.fail generation message, .offered (s.fail generation message).1, []⟩)
      (s.fail generation message).2.flight := by
  rcases fail_cases generation message s with ⟨-, heq⟩ | ⟨mode, haccepting, heq⟩
  · rw [heq]
    exact .nothing
  · obtain ⟨flight, hflight, -, rfl⟩ := exists_flight_of_accepting haccepting
    rw [heq]
    exact .settled hflight

theorem Seen.dealings_of_settled {seen : Seen} (hsettled : seen.settled = []) :
    seen.dealings = seen.calls.map .call := by
  rw [dealings, hsettled, List.append_nil]

/-- The dealings of an operation, by what was seen of it. -/
theorem dealt (host : ContextHost η) (op : Op) (c : Chronicle η) :
    Dealt c.session (c.see host op).dealings (c.step host op).session.flight := by
  obtain ⟨s, h, past⟩ := c
  cases op with
  | dispatch mode source =>
    rw [Seen.dealings_of_settled rfl]
    exact dealt_of_dispatched (dispatched host.recorded mode source s (h, []))
  | runProgram =>
    rw [Seen.dealings_of_settled rfl]
    exact dealt_of_dispatched (dispatched host.recorded .program s.program.text s (h, []))
  | runLine line =>
    rw [Seen.dealings_of_settled rfl]
    exact runLine_dealt line
  | complete now generation response => exact complete_dealt now generation response
  | fail generation message => exact fail_dealt generation message
  | abort =>
    rw [Seen.dealings_of_settled rfl]
    simp only [Chronicle.see, Chronicle.step, perform]
    cases hflight : s.flight with
    | none =>
      rw [abort_of_idle hflight]
      exact .nothing
    | some flight =>
      rw [abort_of_flight hflight]
      exact .abandoned hflight
  | openProgram program =>
    rw [Seen.dealings_of_settled rfl]
    simp only [Chronicle.see, Chronicle.step, perform]
    cases hflight : s.flight with
    | none =>
      rw [openProgram_of_idle program hflight]
      exact .nothing
    | some flight =>
      rw [openProgram_of_flight program hflight]
      exact .abandoned hflight
  | clear =>
    rw [Seen.dealings_of_settled rfl]
    simp only [Chronicle.see, Chronicle.step, perform]
    rcases clear_cases s with ⟨flight, -, heq⟩ | ⟨-, heq⟩ <;> rw [heq] <;> exact .nothing
  | submit line =>
    rw [Seen.dealings_of_settled rfl]
    simp only [Chronicle.see, Chronicle.step, perform]
    rcases submit_cases line s with heq | heq <;> rw [heq] <;> exact .nothing
  | previous | next | setProgramText | clearProgram | markSaved => exact .nothing

/-! ### All operations -/

/-- The dealings are complete rounds, and behind them the start of the run in flight, if there is
one. -/
def InCycles (dealings : List Dealing) : Option Flight → Prop
  | none => ∃ cycles : List Cycle, dealings = cycles.flatMap Cycle.dealings
  | some flight => ∃ (cycles : List Cycle) (request : Request),
      request.generation = flight.generation ∧
        dealings = cycles.flatMap Cycle.dealings ++ [.call (.started request)]

namespace InCycles

variable {past new : List Dealing} {flight? : Option Flight}

/-- A round of a single dealing is added, or one that completes the round of the run in flight. -/
theorem snoc {cycles : List Cycle} (cycle : Cycle) :
    cycles.flatMap Cycle.dealings ++ cycle.dealings =
      (cycles ++ [cycle]).flatMap Cycle.dealings := by
  rw [List.flatMap_append, List.flatMap_singleton]

theorem step (hpast : InCycles past s.flight) (hdealt : Dealt s new flight?) :
    InCycles (past ++ new) flight? := by
  cases hdealt with
  | nothing => rwa [List.append_nil]
  | refused idle request error =>
    rw [idle] at hpast
    obtain ⟨cycles, rfl⟩ := hpast
    exact ⟨cycles ++ [.refused request error], snoc (.refused request error)⟩
  | started idle mode source =>
    rw [idle] at hpast
    obtain ⟨cycles, rfl⟩ := hpast
    exact ⟨cycles, s.requestFor mode source, rfl, rfl⟩
  | settled running =>
    rw [running] at hpast
    obtain ⟨cycles, request, hgeneration, rfl⟩ := hpast
    refine ⟨cycles ++ [.answered request], ?_⟩
    rw [← snoc, List.append_assoc, ← hgeneration]
    rfl
  | abandoned running =>
    rw [running] at hpast
    obtain ⟨cycles, request, hgeneration, rfl⟩ := hpast
    refine ⟨cycles ++ [.abandoned request], ?_⟩
    rw [← snoc, List.append_assoc, ← hgeneration]
    rfl

/-- A run in flight can be thought of as answered. -/
theorem exists_prefix (hpast : InCycles past flight?) :
    ∃ cycles : List Cycle, past <+: cycles.flatMap Cycle.dealings := by
  cases flight? with
  | none =>
    obtain ⟨cycles, rfl⟩ := hpast
    exact ⟨cycles, List.prefix_rfl⟩
  | some flight =>
    obtain ⟨cycles, request, -, rfl⟩ := hpast
    refine ⟨cycles ++ [.answered request], ?_⟩
    rw [← snoc, List.prefix_append_right_inj]
    exact List.prefix_append [Dealing.call (.started request)] _

end InCycles

theorem Chronicle.inCycles_after (host : ContextHost η) (c : Chronicle η)
    (hc : InCycles c.dealings c.session.flight) (ops : List Op) :
    InCycles (c.after host ops).dealings (c.after host ops).session.flight := by
  induction ops generalizing c with
  | nil => exact hc
  | cons op ops ih =>
    refine ih (c.step host op) ?_
    rw [dealings_step]
    exact hc.step (dealt host op c)

/-- After all sequences of operations, with any host and any results offered:

* the dealings with the host are rounds one after the other, in each of which the host refuses to
  start a run, or starts one that a result of its generation or the call to give up its generation
  ends; at most the last round is not complete;
* it is not exactly if a run is in flight, whose start is then the last dealing;
* so wherever a run is asked for, no run is open, and what ends a run comes right behind its start:
  no run ends twice, and none is given up that was not started;
* in terms of the session: an operation that calls the host to start a run finds no run in flight,
  and one that ends a run finds the run of this generation in flight, and leaves none. -/
theorem called_in_cycles (host : ContextHost η) (policy : CommitPolicy) (h : η) (ops : List Op) :
    let c := (Chronicle.new policy h).after host ops
    (∃ cycles : List Cycle, c.dealings <+: cycles.flatMap Cycle.dealings) ∧
      (match c.session.flight with
        | none => ∃ cycles : List Cycle, c.dealings = cycles.flatMap Cycle.dealings
        | some flight => ∃ (cycles : List Cycle) (request : Request),
            request.generation = flight.generation ∧
              c.dealings = cycles.flatMap Cycle.dealings ++ [.call (.started request)]) ∧
      (∀ before dealing, before ++ [dealing] <+: c.dealings →
        (dealing.IsStart ∧ ∀ request, before.getLast? ≠ some (.call (.started request))) ∨
          ∃ earlier request, before = earlier ++ [.call (.started request)] ∧
            dealing.ends? = some request.generation) ∧
      ∀ op, ∀ dealing ∈ (c.see host op).dealings,
        (dealing.IsStart ∧ c.session.flight = none) ∨
          ∃ flight, c.session.flight = some flight ∧ dealing.ends? = some flight.generation ∧
            (c.step host op).session.flight = none := by
  intro c
  have hcycles : InCycles c.dealings c.session.flight :=
    Chronicle.inCycles_after host (.new policy h) ⟨[], rfl⟩ ops
  obtain ⟨cycles, hprefix⟩ := hcycles.exists_prefix
  refine ⟨⟨cycles, hprefix⟩, ?_, fun before dealing hbefore ↦ ?_, fun op dealing hmem ↦ ?_⟩
  · unfold InCycles at hcycles
    exact hcycles
  · exact Cycle.placed (hbefore.trans hprefix)
  · have hdealt := dealt host op c
    generalize (c.see host op).dealings = new at hdealt hmem
    generalize (c.step host op).session.flight = flight? at hdealt
    cases hdealt with
    | nothing => simp at hmem
    | refused idle | started idle =>
      obtain rfl := List.mem_singleton.1 hmem
      exact .inl ⟨trivial, idle⟩
    | settled running | abandoned running =>
      obtain rfl := List.mem_singleton.1 hmem
      exact .inr ⟨_, running, rfl, rfl⟩

end Session

end Workbench
