import Workbench.Proofs.Session.Generations
import Workbench.Wire.Reader

/-!
# Failed runs in the transcript

A run ends badly with a response that is not `ok`, or because its context broke. What the transcript
then says has two parts: the text of the failure, styled as an error (`Op.complaint`), and for a
program the verdict that it failed (`RunMode.verdict`), which is an announcement and not an error.

A context that broke is complained about whatever its message is. A response is complained about
only if it has output, and the decoder takes a response with nothing in it but `ok`; so there are
failed runs that leave no error in the transcript, and failed lines that leave nothing at all.
-/

namespace Workbench

/-- What a run that ended badly is announced with. -/
def RunMode.verdict : RunMode → List Entry
  | .program => [Entry.failed]
  | .terminal => []

namespace Session

/-- What is said of the failure that an operation offers, if it offers one. -/
def Op.failure? : Op → Option String
  | .complete _ _ response => if response.ok then none else some response.output
  | .fail _ message => some message
  | _ => none

/-- Whether the failure that an operation offers has a text to be shown: the error of a context
always has, and a response has if there is output. -/
def Op.isVoiced : Op → Bool
  | .complete _ _ response => response.output ≠ ""
  | .fail _ _ => true
  | _ => false

/-- The entries for the text of the failure that an operation offers. -/
def Op.complaint (op : Op) (text : String) : List Entry :=
  if op.isVoiced then [.output false text] else []

variable {η : Type} {host : ContextHost η} {s : Session} {h : η}
  {op : Op} {generation : Nat} {text : String} {mode : RunMode}

theorem isError_of_mem_verdict {entry : Entry} (hmem : entry ∈ mode.verdict) :
    entry.isError = false := by
  cases mode with
  | program =>
    obtain rfl := List.mem_singleton.1 hmem
    rfl
  | terminal => simp [RunMode.verdict] at hmem

/-- The error entries are the complaint, whatever the verdict. -/
theorem exists_isError_iff :
    (∃ entry ∈ op.complaint text ++ mode.verdict, entry.isError = true) ↔ op.isVoiced = true := by
  constructor
  · rintro ⟨entry, hmem, herror⟩
    rcases List.mem_append.1 hmem with hcomplaint | hverdict
    · cases hvoiced : op.isVoiced with
      | true => rfl
      | false => simp [Op.complaint, hvoiced] at hcomplaint
    · rw [isError_of_mem_verdict hverdict] at herror
      contradiction
  · intro hvoiced
    refine ⟨.output false text, ?_, rfl⟩
    simp [Op.complaint, hvoiced]

theorem closing_of_failure {response : Response} (now : String) (hfailed : response.ok = false) :
    closing now mode response =
      (Op.complete now generation response).complaint response.output ++ mode.verdict := by
  have hcomplaint : (Op.complete now generation response).complaint response.output =
      if response.output = "" then [] else [.output false response.output] := by
    by_cases hempty : response.output = "" <;> simp [Op.complaint, Op.isVoiced, hempty]
  rw [hcomplaint]
  cases mode <;> simp [closing, hfailed, RunMode.verdict]

theorem breakdown_eq (message : String) :
    breakdown mode message = (Op.fail generation message).complaint message ++ mode.verdict := by
  cases mode <;> rfl

/-- A failure that is accepted ends the run; the complaint and the verdict are all that it adds to
the transcript. -/
theorem perform_of_failure (host : ContextHost η) (h : η) (hoffers : op.offers? = some generation)
    (hfailure : op.failure? = some text) (haccepting : s.accepting? generation = some mode) :
    ∃ bindings, s.perform host op h =
      (.offered .applied,
        { s.logAll (op.complaint text ++ mode.verdict) with bindings, flight := none }, h) := by
  cases op with
  | complete now generation' response =>
    obtain rfl : generation' = generation := Option.some.inj hoffers
    have hfailed : response.ok = false := by
      cases hok : response.ok with
      | false => rfl
      | true => simp [Op.failure?, hok] at hfailure
    obtain rfl : response.output = text := by simpa [Op.failure?, hfailed] using hfailure
    refine ⟨s.bindingsAfter mode response, ?_⟩
    rw [perform, complete, haccepting, ← closing_of_failure now hfailed]
  | fail generation' message =>
    obtain rfl : generation' = generation := Option.some.inj hoffers
    obtain rfl : message = text := Option.some.inj hfailure
    refine ⟨s.bindings, ?_⟩
    rw [perform, fail, haccepting, ← breakdown_eq]
    rfl
  | _ => simp [Op.offers?] at hoffers

/-- In every session that some operations lead to, with a run in flight, a failure is accepted
exactly if it is offered for that run. It then adds to the transcript and changes nothing that is
there, and what it adds

* holds an error exactly if the failure has a text to be shown, which is true of every error of a
  context, and of a response that is not `ok` exactly if it has output;
* holds the text then, and is no more than the verdict otherwise: nothing for a line, and an
  announcement for a program. -/
theorem failures_in_transcript (host : ContextHost η) (policy : CommitPolicy) (h : η)
    (ops : List Op) (op : Op) (flight : Flight) (generation : Nat) (text : String) :
    let c := (Chronicle.new policy h).after host ops
    let added := (c.step host op).session.transcript.since c.session.transcript.length
    c.session.flight = some flight → op.offers? = some generation → op.failure? = some text →
      ((c.see host op).answer = .offered .applied ↔ generation = flight.generation) ∧
        ((c.see host op).answer = .offered .applied →
          (c.step host op).session.transcript = c.session.transcript ++ added ∧
            ((∃ entry ∈ added, entry.isError = true) ↔ op.isVoiced = true) ∧
            (op.isVoiced = true → Entry.output false text ∈ added) ∧
            (op.isVoiced = false → added = flight.mode.verdict)) := by
  intro c added hflight hoffers hfailure
  have hstart : Current { policy } := fun flight hflight ↦ by simp at hflight
  have hcurrent : Current c.session :=
    @Chronicle.after_induction _ host policy h (fun _ s ↦ Current s) hstart Current.step ops
  by_cases hsame : generation = flight.generation
  · -- The run accepts the failure, and everything can be read off the session behind it.
    subst hsame
    have haccepting := accepting?_of_flight hflight (hcurrent flight hflight)
    obtain ⟨bindings, hperform⟩ :=
      perform_of_failure host.recorded (c.host, []) hoffers hfailure haccepting
    have happlied : (c.see host op).answer = .offered .applied := by
      rw [Chronicle.see, hperform]
    have htranscript : (c.step host op).session.transcript =
        c.session.transcript ++ (op.complaint text ++ flight.mode.verdict) := by
      rw [Chronicle.step, hperform]
      rfl
    have hadded : added = op.complaint text ++ flight.mode.verdict := by
      show Transcript.since _ _ = _
      rw [htranscript, Transcript.since, List.drop_left]
    refine ⟨iff_of_true happlied rfl, fun _ ↦ ⟨?_, ?_, ?_, ?_⟩⟩
    · rw [htranscript, hadded]
    · rw [hadded]
      exact exists_isError_iff
    · intro hvoiced
      simp [hadded, Op.complaint, hvoiced]
    · intro hsilent
      simp [hadded, Op.complaint, hsilent]
  · have hstale : c.session.flight = none ∨ generation ≠ c.session.generation :=
      .inr fun heq ↦ hsame (heq.trans (hcurrent flight hflight).symm)
    have hdropped : (c.see host op).answer = .offered .stale := by
      rw [Chronicle.see, perform_of_stale host.recorded (c.host, []) hoffers hstale]
    have hne : (c.see host op).answer ≠ .offered .applied := by
      rw [hdropped]
      simp
    exact ⟨iff_of_false hne hsame, fun happlied ↦ absurd happlied hne⟩

/-- A program fails with a response that shows what it printed. -/
theorem failures_in_transcript_division :
    let c := (Chronicle.new .always none).after .compliant [.runProgram]
    let op : Op := .complete "" 0 (.failure "division by zero" 0 ∅)
    let added := (c.step .compliant op).session.transcript.since c.session.transcript.length
    let flight : Flight := ⟨0, .program, ""⟩
    (c.session.flight = some flight ∧ op.offers? = some 0 ∧
        op.failure? = some "division by zero") ∧
      ((c.see .compliant op).answer = .offered .applied ↔ 0 = flight.generation) ∧
        ((c.see .compliant op).answer = .offered .applied →
          (c.step .compliant op).session.transcript = c.session.transcript ++ added ∧
            ((∃ entry ∈ added, entry.isError = true) ↔ op.isVoiced = true) ∧
            (op.isVoiced = true → Entry.output false "division by zero" ∈ added) ∧
            (op.isVoiced = false → added = flight.mode.verdict)) := by
  intro c op added flight
  have hflight : c.session.flight = some flight := by decide +kernel
  exact ⟨⟨hflight, rfl, rfl⟩, failures_in_transcript .compliant .always none [.runProgram] op flight
    0 "division by zero" hflight rfl rfl⟩

/-- The shortest response of a failed run is read from the wire and accepted, and there is no error
in what it adds to the transcript: nothing for a line, and an announcement for a program. -/
theorem silent_failure :
    let line := (Chronicle.new .always none).after .compliant [.runLine "x"]
    let program := (Chronicle.new .always none).after .compliant [.runProgram]
    ∃ response,
      (Response.ofSymbols (Text.symbolsOfText "\x7b\"ok\":false\x7d")).toOption = some response ∧
        response.ok = false ∧
        ((line.see .compliant (.complete "" 0 response)).answer = .offered .applied ∧
          (line.step .compliant (.complete "" 0 response)).session.transcript =
            line.session.transcript) ∧
        (program.see .compliant (.complete "" 0 response)).answer = .offered .applied ∧
          (program.step .compliant (.complete "" 0 response)).session.transcript =
            program.session.transcript ++ [Entry.failed] ∧
          Entry.failed.isError = false := by
  intro line program
  refine ⟨⟨false, "", 0, ∅, none⟩, ?_, rfl, ⟨rfl, ?_⟩, rfl, ?_, rfl⟩ <;> decide +kernel

end Session

end Workbench
