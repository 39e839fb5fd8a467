import Workbench.Proofs.Console.Commands
import Workbench.Proofs.Console.Handling
import Workbench.Proofs.Runner.Reuse
import Workbench.Proofs.Snippet.Sequence

/-!
# Programs made of appended lines

What is appended to a program begins on a line of its own: a newline is put in between unless the
program is empty or ends in one. A newline ends a statement whatever stands in front of it, also a
comment, and an empty line is none. So the statements of the new program are those of the old one
and then those of what was appended (`statementTexts_appended`), and a program that was made of
appended lines alone is run as these lines, one after the other (`appended_lines_run`).
-/

namespace Workbench

namespace Console

/-! ### The program with a line added -/

/-- What is put between a program and the line that is appended to it. -/
def lineBreak (text : String) : String :=
  if text ≠ "" ∧ text.toList.getLast? ≠ some '\n' then "\n" else ""

theorem appended_eq (text code : String) : appended text code = text ++ lineBreak text ++ code := by
  rw [appended, lineBreak]
  by_cases hempty : text = ""
  · simp [hempty]
  · by_cases hlast : text.toList.getLast? = some '\n'
    · simp [hlast]
    · simp [hempty, hlast]

theorem appended_ne {text code : String} (hcode : code ≠ "") : appended text code ≠ text := by
  intro heq
  have hlength := congrArg (·.toList.length) heq
  simp only [appended_eq, String.toList_append, List.length_append] at hlength
  have hnil : code.toList = [] := List.length_eq_zero_iff.1 (by omega)
  exact hcode (String.toList_eq_nil_iff.1 hnil)

/-- The statements of a program and of what is appended to it are not mixed up. -/
theorem statementTexts_appended (text code : String) :
    Snippet.statementTexts (appended text code).toList =
      Snippet.statementTexts text.toList ++ Snippet.statementTexts code.toList := by
  rw [appended]
  split
  · rename_i hready
    rw [String.toList_append]
    rcases hready with rfl | hlast
    · rfl
    · -- The newline is there already, and behind it there is nothing yet.
      obtain ⟨before, hbefore⟩ := List.getLast?_eq_some_iff.1 hlast
      have hold : Snippet.statementTexts (before ++ ['\n']) = Snippet.statementTexts before := by
        rw [Snippet.statementTexts_append]
        exact List.append_nil _
      rw [hbefore, hold, List.append_assoc]
      exact Snippet.statementTexts_append before code.toList
  · have htext : (text ++ "\n" ++ code).toList = text.toList ++ '\n' :: code.toList := by simp
    rw [htext, Snippet.statementTexts_append]

/-- The console with another text as its program, not saved. -/
def withText (text : String) (c : Console) : Console :=
  c.withSession { c.session with program := { c.session.program with text, dirty := true } }

theorem take_append {line code : String} (h : Command.ofLine? line = some (.append code))
    (now : String) (c : Console) :
    c.take now (.line line) =
      .done { console := c.withText (appended c.session.program.text code) } := by
  have hother : appended c.session.program.text code ≠ c.session.program.text :=
    appended_ne (Command.argument_of_ofLine? (.inr h)).1
  have htake : c.take now (.line line) = c.obey now (.append code) := by
    rw [take, takeLine, h]
  rw [htake, obey, Session.setProgramText, Program.setText, if_neg hother, withText]

/-! ### Lines that are appended one after another -/

/-- The console after some lines were appended to its program. -/
def withLines (codes : List String) (c : Console) : Console :=
  codes.foldl (fun c code ↦ c.withText (appended c.session.program.text code)) c

theorem statementTexts_withLines (codes : List String) (c : Console) :
    Snippet.statementTexts (c.withLines codes).session.program.text.toList =
      Snippet.statementTexts c.session.program.text.toList ++
        codes.flatMap fun code ↦ Snippet.statementTexts code.toList := by
  induction codes generalizing c with
  | nil => simp [withLines]
  | cons code codes ih =>
    rw [withLines, List.foldl_cons, ← withLines, ih, List.flatMap_cons, ← List.append_assoc]
    exact congrArg (· ++ _) (statementTexts_appended c.session.program.text code)

/-- Nothing but the program is changed. -/
theorem withLines_keeps (codes : List String) (c : Console) :
    (c.withLines codes).session.flight = c.session.flight ∧
      (c.withLines codes).runner.slots = c.runner.slots := by
  induction codes generalizing c with
  | nil => exact ⟨rfl, rfl⟩
  | cons code codes ih => exact ih (c.withText (appended c.session.program.text code))

theorem Loop.settle_of_open {loop : Loop} (hopen : loop.closed = false) (now : String) :
    loop.settle now = loop := by
  simp [settle, hopen]

/-- A loop takes lines that append, and goes on. -/
theorem Loop.takeAll_append {lines codes : List String}
    (hlines : lines.map Command.ofLine? = codes.map fun code ↦ some (.append code))
    (now : String) (inputs : List Input) (c : Console) :
    takeAll now (lines.map .line ++ inputs) { console := c } =
      takeAll now inputs { console := c.withLines codes } := by
  induction codes generalizing lines c with
  | nil =>
    obtain rfl := List.map_eq_nil_iff.1 hlines
    rfl
  | cons code codes ih =>
    obtain ⟨line, lines, rfl, hline, hlines⟩ := List.map_eq_cons_iff.1 hlines
    have htake : take now (.line line) { console := c } =
        .done { console := c.withText (appended c.session.program.text code) } := by
      rw [take, if_neg (by simp), if_neg (by simp), take_append hline]
      rfl
    rw [List.map_cons, List.cons_append, takeAll, htake, DiskTask.bind]
    exact ih hlines _

end Console

/-! ### The run -/

/-- The requests that runs were started for, in order. -/
def Slots.requests (slots : Slots) : List Request :=
  slots.workers.map (·.request)

theorem Slots.requests_eq_map_runs (slots : Slots) :
    slots.requests = slots.runs.map (·.request) := by
  rw [requests, runs, List.map_map]
  rfl

theorem Slots.requests_of_start {slots slots' : Slots} {request : Request}
    (hstart : slots.start request = (.ok (), slots')) :
    slots'.requests = slots.requests ++ [request] := by
  rw [start] at hstart
  split at hstart
  · simp at hstart
  · rename_i context taken htake
    obtain ⟨-, hworkers, -, -⟩ := takeContext_cases htake
    rw [launch] at hstart
    split at hstart
    · simp at hstart
    · obtain ⟨-, rfl⟩ := Prod.mk.inj hstart
      simp [requests, hworkers]

/-- Draining the queue starts no run. -/
theorem Runner.runs_flush (now : String) (r : Runner) :
    (r.flush now).2.slots.runs = r.slots.runs := by
  rw [flush]
  exact List.foldlRecOn (motive := fun r' : Runner ↦ r'.slots.runs = r.slots.runs) r.queue
    (fun r event ↦ r.apply now event) rfl fun r' h event _ ↦ (r'.runs_apply now event).trans h

namespace Console

/-- In an idle session, a line that asks for a run of the program starts one. -/
theorem take_run {line : String} (h : Command.ofLine? line = some .run) (now : String) (c : Console)
    (hidle : c.session.flight = none)
    (hstarts : ∀ request, (c.runner.slots.start request).1 = .ok ()) :
    ∃ reply, c.take now (.line line) = .done reply ∧
      reply.console.runner.slots.requests = c.runner.slots.requests ++
        [c.session.requestFor .program c.session.program.text] := by
  have htake : c.take now (.line line) = .done (c.report now c.runner.runProgram) := by
    rw [take, takeLine, h]
    rfl
  refine ⟨_, htake, ?_⟩
  have hflush : (c.report now c.runner.runProgram).console.runner.slots.requests =
      c.runner.runProgram.2.slots.requests := by
    have hrunner : (c.report now c.runner.runProgram).console.runner =
        (c.runner.runProgram.2.flush now).2 := rfl
    rw [hrunner, Slots.requests_eq_map_runs, Slots.requests_eq_map_runs, Runner.runs_flush]
  have hdispatched := Session.dispatched Slots.host .program c.session.program.text c.session
    c.runner.slots
  have hstart := hstarts (c.session.requestFor .program c.session.program.text)
  rw [hflush]
  show (c.session.dispatch Slots.host .program c.session.program.text c.runner.slots).2.2.requests =
    _
  generalize c.session.dispatch Slots.host .program c.session.program.text c.runner.slots = result
    at hdispatched ⊢
  cases hdispatched with
  | running flight before => simp [hidle] at before
  | blank _ mode_eq => simp at mode_eq
  | refused _ error slots start =>
    rw [show Slots.host.start = Slots.start from rfl] at start
    simp [start] at hstart
  | started _ slots start => exact Slots.requests_of_start start

/-- Obeying a line that appends puts its code behind the program text, on a line of its own, and
leaves the program to be saved; nothing else is changed. The statements of the new text are those of
the old one and those of the code.

So if a program that was empty is made of appended lines, and a run of it is started then, what is
run are the statements of these lines in order, whatever stands in them. -/
theorem appended_lines_run :
    (∀ (now line code : String) (c : Console), Command.ofLine? line = some (.append code) →
        let text := c.session.program.text
        let text' :=
          text ++ (if text ≠ "" ∧ text.toList.getLast? ≠ some '\n' then "\n" else "") ++ code
        c.take now (.line line) = .done
            { console := c.withSession
                { c.session with
                  program := { c.session.program with text := text', dirty := true } } } ∧
          text.toList <+: text'.toList ∧
          Snippet.statementTexts text'.toList =
            Snippet.statementTexts text.toList ++ Snippet.statementTexts code.toList) ∧
      ∀ (now line : String) (c : Console) (lines codes : List String),
        c.session.program = .scratch → c.session.flight = none →
        (∀ request, (c.runner.slots.start request).1 = .ok ()) →
        lines.map Command.ofLine? = codes.map (fun code ↦ some (.append code)) →
        Command.ofLine? line = some .run →
        ∃ (loop : Loop) (request : Request),
          Loop.takeAll now ((lines ++ [line]).map .line) { console := c } = .done loop ∧
          loop.console.runner.slots.requests = c.runner.slots.requests ++ [request] ∧
          Snippet.statementTexts request.source.toList =
            codes.flatMap (fun code ↦ Snippet.statementTexts code.toList) ∧
          ∀ signals, signals.destroyed = false →
            Snippet.execute signals request =
              (Snippet.runAll signals (codes.flatMap Snippet.statements)
                { bindings := ∅ }).ending := by
  refine ⟨fun now line code c hline ↦ ?_, fun now line c lines codes hscratch hidle hstarts hlines
    hline ↦ ?_⟩
  · intro text text'
    have htext : text' = appended text code := (appended_eq text code).symm
    refine ⟨?_, ?_, ?_⟩
    · rw [take_append hline, htext, withText]
    · simp [text', List.append_assoc]
    · rw [htext, statementTexts_appended]
  · obtain ⟨hflight, hslots⟩ := withLines_keeps codes c
    obtain ⟨reply, htake, hrequests⟩ := take_run hline now (c.withLines codes)
      (hflight.trans hidle) (by rwa [hslots])
    have htexts : Snippet.statementTexts (c.withLines codes).session.program.text.toList =
        codes.flatMap fun code ↦ Snippet.statementTexts code.toList := by
      rw [statementTexts_withLines, hscratch]
      rfl
    have hstatements : Snippet.statements (c.withLines codes).session.program.text =
        codes.flatMap Snippet.statements := by
      rw [Snippet.statements, htexts, List.map_flatMap]
      rfl
    refine ⟨(Loop.note { console := c.withLines codes } reply).settle now,
      (c.withLines codes).session.requestFor .program (c.withLines codes).session.program.text,
      ?_, ?_, htexts, fun signals halive ↦ ?_⟩
    · rw [List.map_append, Loop.takeAll_append hlines]
      simp [Loop.takeAll, Loop.take, htake, DiskTask.bind, DiskTask.map]
    · rw [Loop.settle_of_open rfl, ← hslots]
      exact hrequests
    · rw [Snippet.execute, if_neg (by simp [halive])]
      show (Snippet.runAll signals (Snippet.statements (c.withLines codes).session.program.text)
        { bindings := ∅ }).ending = _
      rw [hstatements]

/-- A comment is appended behind a statement, and a second line behind that. -/
theorem appended_lines_run_of_two :
    let c : Console := { runner := .new .always {}, exportDir := "" }
    let lines := [":append x = 1; # one", ":append  print x + 1 "]
    let codes := ["x = 1; # one", "print x + 1"]
    (c.session.program = .scratch ∧ c.session.flight = none ∧
        (∀ request, (c.runner.slots.start request).1 = .ok ()) ∧
        lines.map Command.ofLine? = codes.map (fun code ↦ some (.append code)) ∧
        Command.ofLine? ":run" = some .run) ∧
      ∃ (loop : Loop) (request : Request),
        Loop.takeAll "" ((lines ++ [":run"]).map .line) { console := c } = .done loop ∧
        loop.console.runner.slots.requests = [request] ∧
        Snippet.execute {} request = .responded (.success "2\n" (Snippet.seconds 0)
          (Bindings.empty.insert "x" (.ofInt 1)) (some "1")) := by
  intro c lines codes
  have hstarts : ∀ request, (c.runner.slots.start request).1 = .ok () := fun _ ↦ rfl
  have hlines : lines.map Command.ofLine? = codes.map (fun code ↦ some (.append code)) := by
    decide +kernel
  have hrun : Command.ofLine? ":run" = some .run := by decide +kernel
  obtain ⟨loop, request, htake, hrequests, -, hexecute⟩ :=
    appended_lines_run.2 "" ":run" c lines codes rfl rfl hstarts hlines hrun
  exact ⟨⟨rfl, rfl, hstarts, hlines, hrun⟩, loop, request, htake, hrequests,
    (hexecute {} rfl).trans (by decide +kernel)⟩

end Console

end Workbench
