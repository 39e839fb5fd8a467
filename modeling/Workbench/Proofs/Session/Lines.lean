import Mathlib.Data.List.Basic
import Workbench.Proofs.Session.Trace
import Workbench.Proofs.Snippet.Sequence

/-!
# Lines, one after another

Lines that are run one after another, each to its end before the next, do together what one line
does that holds them all, separated by newlines: a user may type a program line by line. The session
hands the bindings on, and the transcript collects the outputs. If a line fails, what the lines
before it and its own first statements have bound stays, under the policy that keeps it, and so it
does in the one line, whose later statements are not run.

`Chronicle.runToEnd` is a line run to its end in a context for snippets, by what the host was asked
to start; `lines_run_as_one` compares the two ways for any session and any host that starts runs.
-/

namespace Workbench

/-- The host starts every run it is asked to start. -/
def ContextHost.Willing {η : Type} (host : ContextHost η) : Prop :=
  ∀ request h, (host.start request h).1 = .ok ()

namespace Session

open Context (Signals)

variable {η : Type} {host : ContextHost η} {signals : Signals} {now line : String}
  {c : Chronicle η}

/-! ### Running a line to its end -/

/-- The request that the host started a run for. -/
def Seen.started? (seen : Seen) : Option Request :=
  seen.calls.findSome? fun
    | .started request => some request
    | _ => none

namespace Chronicle

/-- The chronicle after the ending of the run of a generation was offered. -/
def offer (host : ContextHost η) (now : String) (generation : Nat) (c : Chronicle η) :
    Context.Ending → Chronicle η
  | .responded response => c.step host (.complete now generation response)
  | .broke message => c.step host (.fail generation message)
  | .never => c

/-- Runs a line in a context for snippets and waits for its ending. There is none if no run was
started. -/
def runToEnd (host : ContextHost η) (signals : Signals) (now line : String) (c : Chronicle η) :
    Option Context.Ending × Chronicle η :=
  let started := c.step host (.runLine line)
  match (c.see host (.runLine line)).started? with
  | none => (none, started)
  | some request =>
    let ending := Snippet.execute signals request
    (some ending, started.offer host now request.generation ending)

/-- Runs lines one after another, each to its end. -/
def runLines (host : ContextHost η) (signals : Signals) (now : String) :
    List String → Chronicle η → List (Option Context.Ending) × Chronicle η
  | [], c => ([], c)
  | line :: lines, c =>
    let first := c.runToEnd host signals now line
    let others := runLines host signals now lines first.2
    (first.1 :: others.1, others.2)

/-- A line is not started, for one of three reasons, and leaves the bindings; or it is started with
the bindings of the session, and is the run in flight. -/
theorem runLine_started (host : ContextHost η) (line : String) (c : Chronicle η) :
    ((c.see host (.runLine line)).started? = none ∧
        (c.step host (.runLine line)).session.bindings = c.session.bindings ∧
        (c.session.isRunning = true ∨ Text.allBlank line = true ∨ ¬host.Willing)) ∨
      Text.allBlank line = false ∧
        (c.see host (.runLine line)).started? = some (c.session.requestFor .terminal line) ∧
        (c.step host (.runLine line)).session =
          { c.session.logAll (opening .terminal line) with
            flight := some ⟨c.session.generation, .terminal, line⟩
            history := c.session.history.record line } := by
  simp only [see, step, perform]
  by_cases hrunning : c.session.isRunning = true
  · simp [runLine, submit, hrunning, Seen.started?]
  · by_cases hblank : Text.allBlank line = true
    · simp [runLine, submit, hrunning, hblank, Seen.started?]
    · have hnoted : c.session.runLine host.recorded line (c.host, []) =
          { c.session with history := c.session.history.record line }.dispatch host.recorded
            .terminal line (c.host, []) := by
        simp [runLine, submit, hrunning, hblank]
      have hdispatched := dispatched host.recorded .terminal line
        { c.session with history := c.session.history.record line } (c.host, [])
      rw [← hnoted] at hdispatched
      generalize c.session.runLine host.recorded line (c.host, []) = result at hdispatched
      cases hdispatched with
      | running flight before => exact absurd (isRunning_of_flight before) hrunning
      | blank before mode_eq source_blank => exact absurd source_blank hblank
      | refused before error h' start =>
        refine .inl ⟨?_, rfl, .inr (.inr fun hwilling ↦ ?_)⟩
        · simp [Seen.started?, recorded_start_error start]
        · have hfollows := follows_recorded host none (c.host, [])
          have hanswer := congrArg Prod.fst (hfollows.start rfl
            ({ c.session with history := c.session.history.record line }.requestFor .terminal line))
          rw [start, hwilling] at hanswer
          simp at hanswer
      | started before h' start =>
        refine .inr ⟨Bool.eq_false_iff.2 hblank, ?_, rfl⟩
        simp [Seen.started?, recorded_start_ok start]
        rfl

/-- A line that is not started leaves the bindings. One that is ends as its source does on the
bindings of the session, which become what a response has left if the policy keeps that. -/
theorem runToEnd_cases (host : ContextHost η) (signals : Signals) (now line : String)
    (c : Chronicle η) :
    ((c.runToEnd host signals now line).1 = none ∧
        (c.runToEnd host signals now line).2.session.bindings = c.session.bindings) ∨
      Text.allBlank line = false ∧
        (c.runToEnd host signals now line).1 =
          some (Snippet.execute signals (c.session.requestFor .terminal line)) ∧
        ∀ response, Snippet.execute signals (c.session.requestFor .terminal line) =
            .responded response →
          (c.runToEnd host signals now line).2.session =
            { c.session.logAll (opening .terminal line ++ closing now .terminal response) with
              bindings := c.session.bindingsAfter .terminal response
              flight := none
              history := c.session.history.record line } := by
  rw [runToEnd]
  rcases runLine_started host line c with ⟨hnone, hbindings, -⟩ | ⟨hblank, hstarted, hsession⟩
  · rw [hnone]
    exact .inl ⟨rfl, hbindings⟩
  · rw [hstarted]
    refine .inr ⟨hblank, rfl, fun response hresponse ↦ ?_⟩
    have hcomplete : ((c.step host (.runLine line)).step host
          (.complete now c.session.generation response)).session =
        ((c.step host (.runLine line)).session.complete now c.session.generation response).2 :=
      rfl
    have hgeneration : (c.session.requestFor .terminal line).generation = c.session.generation :=
      rfl
    simp only [hresponse, offer, hgeneration, hcomplete, hsession]
    simp [complete, accepting?, logAll, List.append_assoc]
    rfl

/-- A line that ends with a response leaves what the policy makes of it. -/
theorem runToEnd_responded {response : Response}
    (h : (c.runToEnd host signals now line).1 = some (.responded response)) :
    Snippet.execute signals (c.session.requestFor .terminal line) = .responded response ∧
      (c.runToEnd host signals now line).2.session =
        { c.session.logAll (opening .terminal line ++ closing now .terminal response) with
          bindings := c.session.bindingsAfter .terminal response
          flight := none
          history := c.session.history.record line } := by
  rcases runToEnd_cases host signals now line c with ⟨hnone, -⟩ | ⟨-, hending, hsession⟩
  · rw [hnone] at h
    simp at h
  · have hexecute := Option.some.inj (hending.symm.trans h)
    exact ⟨hexecute, hsession response hexecute⟩

/-- In an idle session, with a host that starts runs, a line that is not blank is run. -/
theorem runToEnd_of_idle (hwilling : host.Willing) (signals : Signals) (now : String)
    (hidle : c.session.flight = none) (hline : Text.allBlank line = false) :
    (c.runToEnd host signals now line).1 =
      some (Snippet.execute signals (c.session.requestFor .terminal line)) := by
  rw [runToEnd]
  rcases runLine_started host line c with ⟨-, -, hreason⟩ | ⟨-, hstarted, -⟩
  · rcases hreason with hrunning | hblank | hunwilling
    · exact absurd hidle fun hidle ↦ not_isRunning_iff.2 hidle hrunning
    · simp [hline] at hblank
    · exact absurd hwilling hunwilling
  · rw [hstarted]

/-- Run one after another, all lines succeed, with these responses. -/
def Succeeds (host : ContextHost η) (signals : Signals) (now : String) (c : Chronicle η)
    (lines : List String) (responses : List Response) : Prop :=
  (c.runLines host signals now lines).1 =
      responses.map (fun response ↦ some (Context.Ending.responded response)) ∧
    ∀ response ∈ responses, response.ok = true

theorem runLines_append (host : ContextHost η) (signals : Signals) (now : String)
    (before lines : List String) (c : Chronicle η) :
    c.runLines host signals now (before ++ lines) =
      ((c.runLines host signals now before).1 ++
          ((c.runLines host signals now before).2.runLines host signals now lines).1,
        ((c.runLines host signals now before).2.runLines host signals now lines).2) := by
  induction before generalizing c with
  | nil => rfl
  | cons line before ih =>
    rw [List.cons_append, runLines, ih]
    rfl

theorem policy_step (host : ContextHost η) (c : Chronicle η) (op : Op) :
    (c.step host op).session.policy = c.session.policy := by
  have hstepped := stepped host op c
  generalize (c.see host op).news = news at hstepped
  generalize (c.step host op).session = s at hstepped ⊢
  cases hstepped <;> rfl

theorem policy_runToEnd (host : ContextHost η) (signals : Signals) (now line : String)
    (c : Chronicle η) :
    (c.runToEnd host signals now line).2.session.policy = c.session.policy := by
  rw [runToEnd]
  split
  · exact policy_step host c (.runLine line)
  · rename_i request _
    cases Snippet.execute signals request with
    | responded | broke => exact (policy_step host _ _).trans (policy_step host c (.runLine line))
    | never => exact policy_step host c (.runLine line)

theorem policy_runLines (host : ContextHost η) (signals : Signals) (now : String)
    (lines : List String) (c : Chronicle η) :
    (c.runLines host signals now lines).2.session.policy = c.session.policy := by
  induction lines generalizing c with
  | nil => rfl
  | cons line lines ih => exact (ih _).trans (policy_runToEnd host signals now line c)

end Chronicle

/-! ### Lines that are run one after another -/

section Lines

variable {lines before after : List String} {responses : List Response} {last : Response}

theorem commits_of_ok (policy : CommitPolicy) : policy.commits true = true := by
  cases policy <;> rfl

/-- What an ending that differs at most in the time from a response is. -/
theorem exists_responded_of_untimed {ending : Context.Ending} {response : Response}
    (h : ending.untimed = (Context.Ending.responded response).untimed) :
    ∃ whole, ending = .responded whole ∧ whole.ok = response.ok ∧
      whole.output = response.output ∧ whole.bindings = response.bindings := by
  cases ending with
  | responded whole =>
    simp only [Context.Ending.untimed, Context.Ending.responded.injEq, Response.mk.injEq] at h
    exact ⟨whole, rfl, h.1, h.2.1, h.2.2.2.1⟩
  | broke | never => simp [Context.Ending.untimed] at h

/-- A line is blank exactly if all the lines it holds are. -/
theorem allBlank_intercalate (lines : List String) :
    Text.allBlank ("\n".intercalate lines) = lines.all Text.allBlank := by
  induction lines with
  | nil => rfl
  | cons line lines ih =>
    cases lines with
    | nil => simp
    | cons next lines =>
      have hnewline : Text.isBlank '\n' = true := by decide
      rw [String.intercalate_cons_cons, List.all_cons, ← ih]
      simp [Text.allBlank, hnewline]

/-- What a response has left, if the policy keeps it. -/
theorem bindingsAfter_of_commits {s : Session} {response : Response}
    (h : s.policy.commits response.ok = true) :
    s.bindingsAfter .terminal response = response.bindings :=
  if_pos h

/-- A line with more lines behind it, of which the first one ends with a response. -/
theorem execute_requestFor_append {s : Session} {first : Response} (hconstant : signals.Constant)
    (hfirst : Snippet.execute signals (s.requestFor .terminal line) = .responded first)
    (rest : String) :
    (Snippet.execute signals (s.requestFor .terminal (line ++ "\n" ++ rest))).untimed =
      (if first.ok then
        (Snippet.execute signals
          { s.requestFor .terminal rest with bindings := first.bindings }).behind first
      else .responded first).untimed := by
  have happend := Snippet.execute_append hconstant (s.requestFor .terminal line) line rest
  have hself : Snippet.execute signals { s.requestFor .terminal line with source := line } =
      .responded first := hfirst
  rw [hself] at happend
  exact happend

/-- One line that holds lines of which all succeed up to one, and then that one, and more only if it
fails: it ends as that one does, with the outputs of the others in front. -/
theorem execute_joined (hconstant : signals.Constant)
    (hbefore : c.Succeeds host signals now before responses)
    (hlast : Snippet.execute signals
      ((c.runLines host signals now before).2.session.requestFor .terminal line) = .responded last)
    (hafter : last.ok = true → after = []) :
    ∃ whole, Snippet.execute signals (c.session.requestFor .terminal
        ("\n".intercalate (before ++ line :: after))) = .responded whole ∧
      whole.ok = last.ok ∧ whole.output = String.join (responses.map (·.output)) ++ last.output ∧
      whole.bindings = last.bindings := by
  obtain ⟨hbefore, hok⟩ := hbefore
  induction before generalizing c responses with
  | nil =>
    obtain rfl : responses = [] := List.map_eq_nil_iff.1 hbefore.symm
    rw [Chronicle.runLines] at hlast
    cases after with
    | nil => exact ⟨last, by simpa using hlast, rfl, by simp, rfl⟩
    | cons next after =>
      have hfailed : last.ok = false := Bool.eq_false_iff.2 fun hok ↦ by simpa using hafter hok
      have happend := execute_requestFor_append hconstant hlast ("\n".intercalate (next :: after))
      rw [hfailed] at happend
      obtain ⟨whole, hwhole, hsame⟩ := exists_responded_of_untimed happend
      refine ⟨whole, ?_, by simpa [and_assoc] using hsame⟩
      rw [List.nil_append, String.intercalate_cons_cons]
      exact hwhole
  | cons first before ih =>
    obtain - | ⟨response, responses⟩ := responses
    · simp [Chronicle.runLines] at hbefore
    obtain ⟨hresponse, hbefore⟩ := List.cons.inj hbefore
    obtain ⟨hfirst, hok⟩ := List.forall_mem_cons.1 hok
    obtain ⟨hexecute, hsession⟩ := Chronicle.runToEnd_responded hresponse
    -- The lines behind the first one run as one line on what the first one has left.
    obtain ⟨others, hothers, hothersOk, hothersOutput, hothersBindings⟩ := ih hlast hbefore hok
    have hrest : Snippet.execute signals
        { c.session.requestFor .terminal ("\n".intercalate (before ++ line :: after)) with
          bindings := response.bindings } = .responded others := by
      rw [hsession, requestFor] at hothers
      simpa [requestFor, bindingsFor, bindingsAfter, logAll, hfirst, commits_of_ok] using hothers
    have happend := execute_requestFor_append hconstant hexecute
      ("\n".intercalate (before ++ line :: after))
    rw [if_pos hfirst, hrest] at happend
    obtain ⟨whole, hwhole, hok, houtput, hbindings⟩ := exists_responded_of_untimed happend
    refine ⟨whole, ?_, hok.trans hothersOk, ?_, hbindings.trans hothersBindings⟩
    · rw [List.cons_append, String.intercalate_cons_of_ne_nil (by simp)]
      exact hwhole
    · rw [houtput, Response.behind, hothersOutput, List.map_cons, String.join_cons,
        String.append_assoc]

/-- Empty outputs, which leave no entry in the transcript, make no difference. -/
theorem join_filter_ne_empty (outputs : List String) :
    String.join (outputs.filter (· ≠ "")) = String.join outputs := by
  induction outputs with
  | nil => rfl
  | cons output outputs ih =>
    by_cases hempty : output = ""
    · simpa [hempty] using ih
    · simpa [hempty] using ih

/-- One line that holds lines that are not blank is run. -/
theorem runToEnd_joined (hwilling : host.Willing) (signals : Signals) (now : String)
    (hidle : c.session.flight = none) (hne : lines ≠ [])
    (hlines : ∀ line ∈ lines, Text.allBlank line = false) :
    (c.runToEnd host signals now ("\n".intercalate lines)).1 =
      some (Snippet.execute signals (c.session.requestFor .terminal ("\n".intercalate lines))) := by
  refine Chronicle.runToEnd_of_idle hwilling signals now hidle ?_
  obtain ⟨first, others, rfl⟩ := List.exists_cons_of_ne_nil hne
  rw [allBlank_intercalate, List.all_cons, hlines first List.mem_cons_self, Bool.false_and]

/-- Lines that all succeed do what the one line does that holds them all. -/
theorem joined_of_succeeds (hconstant : signals.Constant) (hwilling : host.Willing)
    (hidle : c.session.flight = none) (hlines : ∀ line ∈ lines, Text.allBlank line = false)
    (hsucceeds : c.Succeeds host signals now lines responses) :
    let one := c.runToEnd host signals now ("\n".intercalate lines)
    one.2.session.bindings = (c.runLines host signals now lines).2.session.bindings ∧
      (lines = [] ∨ ∃ whole, one.1 = some (.responded whole) ∧ whole.ok = true ∧
        whole.bindings = one.2.session.bindings ∧
        whole.output = String.join ((responses.map (·.output)).filter (· ≠ ""))) := by
  intro one
  rcases List.eq_nil_or_concat' lines with rfl | ⟨before, line, rfl⟩
  · refine ⟨?_, .inl rfl⟩
    rcases c.runToEnd_cases host signals now "" with ⟨-, hbindings⟩ | ⟨hblank, -⟩
    · exact hbindings
    · simp [Text.allBlank] at hblank
  · obtain ⟨hendings, hok⟩ := hsucceeds
    rw [Chronicle.runLines_append] at hendings
    obtain ⟨earlier, latest, rfl, hearlier, hlatest⟩ := List.map_eq_append_iff.1 hendings.symm
    obtain ⟨last, rfl, hlast⟩ := List.map_eq_singleton_iff.1 hlatest
    have hlastOk : last.ok = true := hok last (by simp)
    have hbefore : c.Succeeds host signals now before earlier :=
      ⟨hearlier.symm, fun response hmem ↦ hok response (by simp [hmem])⟩
    obtain ⟨hexecute, hsession⟩ := Chronicle.runToEnd_responded hlast.symm
    obtain ⟨whole, hwhole, hwholeOk, houtput, hbindings⟩ :=
      execute_joined hconstant hbefore hexecute fun _ ↦ rfl
    have hone : one.1 = some (.responded whole) :=
      (runToEnd_joined hwilling signals now hidle (by simp) hlines).trans (congrArg some hwhole)
    have hkept : one.2.session.bindings = whole.bindings := by
      rw [(Chronicle.runToEnd_responded hone).2]
      refine bindingsAfter_of_commits ?_
      rw [hwholeOk, hlastOk, commits_of_ok]
    refine ⟨?_, .inr ⟨whole, hone, hwholeOk.trans hlastOk, hkept.symm, ?_⟩⟩
    · rw [hkept, hbindings, Chronicle.runLines_append]
      refine Eq.symm ?_
      rw [Chronicle.runLines, Chronicle.runLines, hsession]
      refine bindingsAfter_of_commits ?_
      rw [hlastOk, commits_of_ok]
    · rw [houtput, join_filter_ne_empty, List.map_append, String.join_append]
      simp

/-- If a line fails behind others that succeed, the one line that holds them, and possibly more,
fails, with the same bindings. -/
theorem joined_of_fails (hconstant : signals.Constant) (hwilling : host.Willing)
    (hidle : c.session.flight = none)
    (hlines : ∀ text ∈ before ++ line :: after, Text.allBlank text = false)
    (hsucceeds : c.Succeeds host signals now before responses)
    (hfails : ((c.runLines host signals now before).2.runToEnd host signals now line).1 =
      some (.responded last)) (hfailed : last.ok = false) (hpolicy : c.session.policy = .always) :
    let one := c.runToEnd host signals now ("\n".intercalate (before ++ line :: after))
    ∃ whole, one.1 = some (.responded whole) ∧ whole.ok = false ∧
      ((c.runLines host signals now before).2.runToEnd host signals now line).2.session.bindings =
        whole.bindings ∧ one.2.session.bindings = whole.bindings := by
  intro one
  obtain ⟨hexecute, hsession⟩ := Chronicle.runToEnd_responded hfails
  have hafter : last.ok = true → after = [] := fun hok ↦ by simp [hfailed] at hok
  obtain ⟨whole, hwhole, hok, -, hbindings⟩ :=
    execute_joined hconstant hsucceeds hexecute hafter
  have hone : one.1 = some (.responded whole) :=
    (runToEnd_joined hwilling signals now hidle (by simp) hlines).trans (congrArg some hwhole)
  refine ⟨whole, hone, hok.trans hfailed, ?_, ?_⟩
  · rw [hsession, hbindings]
    refine bindingsAfter_of_commits ?_
    rw [Chronicle.policy_runLines, hpolicy]
    rfl
  · rw [(Chronicle.runToEnd_responded hone).2]
    refine bindingsAfter_of_commits ?_
    rw [hpolicy]
    rfl

end Lines

/-- With signals that do not change:

* running a source behind another one, with a newline between them, ends, but for the time it takes,
  as the first one if that fails or breaks, and otherwise as the second one on the bindings that the
  first has left, with the output of the first in front, and with its last value if the second one
  succeeds without one;
* lines that are run one after another, in an idle session with a host that starts runs, and that
  all succeed, leave the session with the bindings that the one line leaves that holds them all, and
  their outputs make up the output of that line;
* and if one fails behind others that succeed, whatever lines come behind it, the one line fails,
  and leaves the bindings that the session has after the line that failed, if its policy keeps them.
-/
theorem lines_run_as_one {signals : Signals} (hconstant : signals.Constant) :
    (∀ (request : Request) (s t : String),
        (Snippet.execute signals { request with source := s ++ "\n" ++ t }).untimed =
          ((Snippet.execute signals { request with source := s }).andThen fun bindings ↦
            Snippet.execute signals { request with source := t, bindings }).untimed) ∧
      ∀ {η : Type} (host : ContextHost η) (now : String) (c : Chronicle η) (lines : List String),
        host.Willing → c.session.flight = none → (∀ line ∈ lines, Text.allBlank line = false) →
        let one := c.runToEnd host signals now ("\n".intercalate lines)
        (∀ responses, c.Succeeds host signals now lines responses →
          one.2.session.bindings = (c.runLines host signals now lines).2.session.bindings ∧
            (lines = [] ∨ ∃ whole, one.1 = some (.responded whole) ∧ whole.ok = true ∧
              whole.bindings = one.2.session.bindings ∧
              whole.output = String.join ((responses.map (·.output)).filter (· ≠ "")))) ∧
          ∀ before line after responses failure, lines = before ++ line :: after →
            c.Succeeds host signals now before responses →
            let failed := (c.runLines host signals now before).2.runToEnd host signals now line
            failed.1 = some (.responded failure) → failure.ok = false →
            c.session.policy = .always →
            ∃ whole, one.1 = some (.responded whole) ∧ whole.ok = false ∧
              failed.2.session.bindings = whole.bindings ∧
              one.2.session.bindings = whole.bindings := by
  refine ⟨Snippet.execute_append hconstant, ?_⟩
  intro η host now c lines hwilling hidle hlines one
  refine ⟨fun responses ↦ joined_of_succeeds hconstant hwilling hidle hlines, ?_⟩
  rintro before line after responses failure rfl hsucceeds failed
  exact joined_of_fails hconstant hwilling hidle hlines hsucceeds

/-- Two lines that succeed, in a new session, and the one line that holds them. -/
theorem lines_run_as_one_of_two :
    Signals.Constant {} ∧
      let host : ContextHost Unit := ⟨fun _ h ↦ (.ok (), h), fun _ h ↦ h⟩
      let c := Chronicle.new .always ()
      let bindings := (∅ : Bindings).insert "x" (.ofInt 2)
      (c.runLines host {} "now" ["x = 2", "print x"]).2.session.bindings = bindings ∧
        (c.runToEnd host {} "now" "x = 2\nprint x").2.session.bindings = bindings := by
  refine ⟨fun _ ↦ rfl, ?_⟩
  intro host c bindings
  let seconds := Snippet.seconds 0
  have hsucceeds : c.Succeeds host {} "now" ["x = 2", "print x"]
      [.success "" seconds bindings (some "2"), .success "2\n" seconds bindings none] :=
    ⟨by decide +kernel, by decide +kernel⟩
  have hlines : (c.runLines host {} "now" ["x = 2", "print x"]).2.session.bindings = bindings := by
    decide +kernel
  have hidle : c.session.flight = none := rfl
  have hconstant : Signals.Constant {} := fun _ ↦ rfl
  have hone := (lines_run_as_one hconstant).2 host "now" c ["x = 2", "print x"] (fun _ _ ↦ rfl)
    hidle (by decide +kernel)
  exact ⟨hlines, (hone.1 _ hsucceeds).1.trans hlines⟩

end Session

end Workbench
