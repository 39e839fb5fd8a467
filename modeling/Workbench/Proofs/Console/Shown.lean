import Workbench.Proofs.Console.Turned

/-!
# Every entry is shown once

A console knows what it has shown of the transcript by a count of entries. Entries are added behind
the others while the owner does what an input asks for and while it drains the queue; then the ones
past the count are shown. The transcript may also be dropped, and then the count starts again.

A `Screen` is a scene with the pieces that were shown *of the transcript* since it was dropped last:
what the owner adds to all that has been shown when it makes the step that shows the new entries
(`Scene.presented`). When the transcript is dropped is read off the input and the session
(`Console.drops`). At every moment these pieces are those of the first entries, as many as the
console counts (`Screen.Sound`), and between two inputs they are those of all entries.

Inputs come to the owner through the channel, or are handed to it directly while it is at rest
(`Step.hands`). So what is shown here holds for all sequences of inputs, also of inputs that follow
the one with which the user was done.
-/

namespace Workbench

/-! ### What becomes of a transcript -/

namespace Session

variable {η : Type} {host : ContextHost η} {s : Session} {h : η}

theorem Dispatched.transcript_grows {mode : RunMode} {source : String}
    {result : Except SessionError Nat × Session × η}
    (hdispatched : Dispatched host mode source s h result) :
    s.transcript <+: result.2.1.transcript := by
  cases hdispatched with
  | running | blank => exact List.prefix_rfl
  | refused | started => exact List.prefix_append _ _

theorem transcript_grows_runLine (line : String) :
    s.transcript <+: (s.runLine host line h).2.1.transcript := by
  rcases runLine_cases host line s h with ⟨error, heq⟩ | heq
  · simp only [heq, List.prefix_rfl]
  · rw [heq]
    exact (dispatched host .terminal line { s with history := s.history.record line }
      h).transcript_grows

theorem transcript_grows_abort : s.transcript <+: (s.abort host h).2.1.transcript := by
  cases hflight : s.flight with
  | none =>
    simp only [abort_of_idle hflight, List.prefix_rfl]
  | some flight =>
    rw [abort_of_flight hflight]
    exact List.prefix_append _ _

end Session

/-- An event adds entries to the transcript, or none. -/
theorem Runner.transcript_grows_apply (now : String) (event : RunEvent) (r : Runner) :
    r.session.transcript <+: (r.apply now event).session.transcript := by
  have happlied := applied now event r
  generalize r.apply now event = r' at happlied ⊢
  cases happlied with
  | dropped => exact List.prefix_rfl
  | completed | failed => exact List.prefix_append _ _
  | timedOut => exact Session.transcript_grows_abort

namespace Console

/-! ### Inputs and the count of shown entries -/

/-- Whether a command drops the transcript: the session is cleared unless a run is in flight, and
another program is taken if it can be read. -/
def dropsAt (answer : (request : DiskRequest) → request.Answer) (c : Console) : Command → Bool
  | .clear => !c.session.isRunning
  | .openFile path => ((answer (.read path)).bind DiskTask.decoded).toBool
  | _ => false

/-- Whether an input drops the transcript. -/
def drops (answer : (request : DiskRequest) → request.Answer) (c : Console) : Input → Bool
  | .line text => (Command.ofLine? text).any (c.dropsAt answer)
  | _ => false

/-- What the first part of handling an input does to the transcript and to the count: both start
again, or the count stays and entries come behind the others, but none unless the new entries are
shown next. -/
inductive Begun.Counts (c : Console) : (drops : Bool) → Begun → Prop where
  | restarts {begun : Begun} (printed : begun.reply.console.printed = 0)
      (transcript : begun.reply.console.session.transcript = []) : Counts c true begun
  | stays {begun : Begun} (printed : begun.reply.console.printed = c.printed)
      (grows : c.session.transcript <+: begun.reply.console.session.transcript)
      (same : begun.drains = false →
        begun.reply.console.session.transcript = c.session.transcript) : Counts c false begun

/-- A reply with the count and the transcript as they were. -/
theorem Begun.Counts.of_eq {c : Console} {begun : Begun}
    (hprinted : begun.reply.console.printed = c.printed)
    (htranscript : begun.reply.console.session.transcript = c.session.transcript) :
    begun.Counts c false :=
  .stays hprinted (htranscript ▸ List.prefix_rfl) fun _ ↦ htranscript

/-- A reply with the count as it was, after which the new entries are shown. -/
theorem Begun.Counts.of_drains {c : Console} {begun : Begun} (hdrains : begun.drains = true)
    (hprinted : begun.reply.console.printed = c.printed)
    (hgrows : c.session.transcript <+: begun.reply.console.session.transcript) :
    begun.Counts c false :=
  .stays hprinted hgrows fun hstays ↦ absurd (hdrains.symm.trans hstays) (by simp)

section Counts

variable (answer : (request : DiskRequest) → request.Answer) (now : String) (c : Console)

theorem counts_clear :
    Begun.Counts c (c.dropsAt answer .clear) { reply := (c.obey now .clear).result answer } := by
  rw [obey, Runner.clear, Runner.onSession, dropsAt]
  rcases Session.clear_cases c.runner.session with ⟨flight, hflight, heq⟩ | ⟨hidle, heq⟩
  · rw [heq, session, Session.isRunning_of_flight hflight]
    exact .of_eq rfl rfl
  · rw [heq, session, Session.isRunning, hidle]
    exact .restarts rfl rfl

theorem counts_openFile (path : String) :
    Begun.Counts c (c.dropsAt answer (.openFile path))
      { reply := (c.openFile path).result answer } := by
  rw [openFile, DiskTask.readText, DiskTask.read, DiskTask.result, dropsAt]
  cases (answer (.read path)).bind DiskTask.decoded with
  | error error => exact .of_eq rfl rfl
  | ok text => exact .restarts rfl rfl

theorem counts_save : Begun.Counts c false { reply := c.save.result answer } := by
  rw [save]
  split
  · exact .of_eq rfl rfl
  · split
    · exact .of_eq rfl rfl
    · rw [DiskTask.writeText, DiskTask.write, DiskTask.result]
      split
      · exact .of_eq rfl rfl
      · exact .of_eq rfl rfl

theorem counts_saveCopy : Begun.Counts c false { reply := c.saveCopy.result answer } := by
  rw [saveCopy, DiskTask.writeText, DiskTask.write, DiskTask.result]
  split
  · exact .of_eq rfl rfl
  · exact .of_eq rfl rfl

theorem result_beginCommand (command : Command) (hrun : command ≠ .run)
    (habort : command ≠ .abort) :
    (c.beginCommand now command).result answer =
      { reply := (c.obey now command).result answer } := by
  unfold beginCommand
  split
  · exact absurd rfl hrun
  · exact absurd rfl habort
  · exact DiskTask.result_map answer _ _

theorem counts_beginCommand (command : Command) :
    ((c.beginCommand now command).result answer).Counts c (c.dropsAt answer command) := by
  cases command with
  | run =>
    exact .of_drains rfl rfl (Session.dispatched Slots.host .program c.session.program.text
      c.session c.runner.slots).transcript_grows
  | abort => exact .of_drains rfl rfl Session.transcript_grows_abort
  | clear =>
    rw [result_beginCommand answer now c .clear (by simp) (by simp)]
    exact counts_clear answer now c
  | openFile path =>
    rw [result_beginCommand answer now c (.openFile path) (by simp) (by simp)]
    exact counts_openFile answer c path
  | save =>
    rw [result_beginCommand answer now c .save (by simp) (by simp)]
    exact counts_save answer c
  | saveCopy =>
    rw [result_beginCommand answer now c .saveCopy (by simp) (by simp)]
    exact counts_saveCopy answer c
  | append | newProgram | previous | next | showProgram | showHistory | showBindings | help | quit
  | missingArgument | unknown => exact .of_eq rfl rfl

theorem counts_begin (input : Input) :
    ((c.begin now input).result answer).Counts c (c.drops answer input) := by
  cases input with
  | line text =>
    rw [begin, beginLine, drops]
    cases Command.ofLine? text with
    | some command => exact counts_beginCommand answer now c command
    | none =>
      dsimp only
      split
      · exact .of_eq rfl rfl
      · exact .of_drains rfl rfl (Session.transcript_grows_runLine text)
  | interrupt => exact .of_drains rfl rfl Session.transcript_grows_abort
  | wake => exact .of_eq rfl rfl
  | endOfInput => exact .of_eq rfl rfl

end Counts

/-- Of a transcript that was shown up to the count, the entries past it are shown. -/
theorem chunks_present {c : Console} (hle : c.printed ≤ c.session.transcript.length) :
    c.present.chunks = (c.session.transcript.drop c.printed).map Chunk.ofEntry := by
  rw [present, if_neg (Nat.not_lt.2 hle), Transcript.since]

end Console

/-! ### Inputs that are handed to the owner -/

/-- Whether the owner is between two inputs. -/
def Stage.rests : Stage → Bool
  | waiting | checking | leaving => true
  | received _ | draining _ | showing _ | left | broken => false

/-- One step around a console. -/
inductive Step where
  | turn (t : Turn)
  /-- The owner is handed an input past the channel, if it is between two inputs. -/
  | hands (input : Console.Input)

namespace Scene

/-- The scene after one step. -/
def step (s : Scene) : Step → Scene
  | .turn t => s.turn t
  | .hands input => if s.stage.rests then { s with stage := .received input } else s

/-- Whether a step drops the transcript. -/
def drops (s : Scene) : Step → Bool
  | .turn (.advances _ answer) =>
    match s.stage with
    | .received input => s.loop.console.drops answer input
    | _ => false
  | _ => false

/-- What is added to all that was shown by a step that shows the new entries. -/
def presented (s s' : Scene) : List Chunk :=
  match s.stage with
  | .showing _ => s'.loop.shown.drop s.loop.shown.length
  | _ => []

variable {s s' : Scene}

theorem drops_of_ne {step : Step} (hstage : ∀ input, s.stage ≠ .received input) :
    s.drops step = false := by
  unfold drops
  split
  · split
    · rename_i input hreceived
      exact absurd hreceived (hstage input)
    · rfl
  · rfl

theorem presented_of_ne (hstage : ∀ last, s.stage ≠ .showing last) : s.presented s' = [] := by
  rw [presented]
  split
  · rename_i last hshowing
    exact absurd hshowing (hstage last)
  · rfl

theorem presented_of_shown_eq (hshown : s'.loop.shown = s.loop.shown) : s.presented s' = [] := by
  rw [presented, hshown]
  split
  · exact List.drop_length
  · rfl

/-- Nothing is done any more once something could not be shown. -/
theorem stage_step_of_broken (hbroken : s.stage = .broken) (next : Step) :
    (s.step next).stage = .broken := by
  cases next with
  | hands input =>
    rw [step, if_neg (by simp [hbroken, Stage.rests]), hbroken]
  | turn t =>
    have hturned := turned t s
    rw [step]
    generalize s.turn t = s' at hturned ⊢
    cases hturned with
    | beside other beside => exact beside.stage.trans hbroken
    | hangsUp stage => simp [hbroken] at stage
    | breaks => rfl
    | advances hadvanced =>
      cases hadvanced with
      | rests => exact hbroken
      | receives stage | ends stage | begins stage | takes stage | applies stage | finds stage
      | presents stage | stops stage | waits stage | leaves stage => simp [hbroken] at stage

end Scene

/-! ### The transcript on the screen -/

/-- A scene, and what was shown of the transcript since it was dropped last. -/
structure Screen where
  scene : Scene
  shown : List Chunk := []

namespace Screen

/-- A new console, of which nothing was shown. -/
def new (policy : CommitPolicy) (supply : Supply) (exportDir : String) : Screen where
  scene := .new policy supply exportDir

/-- The screen when the scene has become another, with the transcript dropped meanwhile or not. -/
def follow (screen : Screen) (drops : Bool) (s' : Scene) : Screen where
  scene := s'
  shown := if drops then [] else screen.shown ++ screen.scene.presented s'

/-- The screen after one step. -/
def step (screen : Screen) (step : Step) : Screen :=
  screen.follow (screen.scene.drops step) (screen.scene.step step)

/-- The screen after some steps. -/
def after (screen : Screen) (steps : List Step) : Screen :=
  steps.foldl step screen

/-- The transcript of the session. -/
def transcript (screen : Screen) : Transcript :=
  screen.scene.loop.console.session.transcript

/-- How many entries the console counts as shown. -/
def printed (screen : Screen) : Nat :=
  screen.scene.loop.console.printed

end Screen

/-- Whether an owner who is so far has shown all entries. -/
def Stage.HasShown : Stage → Prop
  | waiting | received _ | checking | leaving => True
  | draining _ | showing _ | left | broken => False

theorem Stage.hasShown_of_rests {stage : Stage} (hrests : stage.rests = true) : stage.HasShown := by
  cases stage with
  | waiting | checking | leaving => trivial
  | received | draining | showing | left | broken => simp [rests] at hrests

namespace Screen

/-- The entries that are counted are those on the screen, and if none is about to be shown they are
all that there are. -/
structure Sound (screen : Screen) : Prop where
  printed_le : screen.printed ≤ screen.transcript.length
  shown_eq : screen.shown = (screen.transcript.take screen.printed).map Chunk.ofEntry
  sublist : screen.shown.Sublist screen.scene.loop.shown
  all : screen.scene.stage.HasShown → screen.printed = screen.transcript.length

variable {screen screen' : Screen}

theorem sound_new (policy : CommitPolicy) (supply : Supply) (exportDir : String) :
    (new policy supply exportDir).Sound :=
  ⟨Nat.le_refl _, rfl, List.Sublist.refl _, fun _ ↦ rfl⟩

namespace Sound

variable (h : screen.Sound)

include h

/-- Entries come behind the others, and nothing is shown of the transcript. -/
theorem of_grows {s' : Scene} (hpresented : screen.scene.presented s' = [])
    (hprinted : s'.loop.console.printed = screen.printed)
    (hloop : screen.scene.loop.shown <+: s'.loop.shown)
    (hgrows : screen.transcript <+: s'.loop.console.session.transcript)
    (hall : s'.stage.HasShown → screen.scene.stage.HasShown ∧
      s'.loop.console.session.transcript = screen.transcript) : (screen.follow false s').Sound := by
  have hshown : (screen.follow false s').shown = screen.shown := by
    rw [follow, hpresented, List.append_nil]
    rfl
  have hcount : (screen.follow false s').printed = screen.printed := hprinted
  have hentries : screen.transcript <+: (screen.follow false s').transcript := hgrows
  refine ⟨?_, ?_, ?_, fun hstage ↦ ?_⟩
  · rw [hcount]
    exact Nat.le_trans h.printed_le hentries.length_le
  · obtain ⟨added, heq⟩ := hentries
    rw [hshown, h.shown_eq, hcount, ← heq, List.take_append_of_le_length h.printed_le]
  · rw [hshown]
    exact h.sublist.trans hloop.sublist
  · obtain ⟨hbefore, heq⟩ := hall hstage
    have hsame : (screen.follow false s').transcript = screen.transcript := heq
    rw [hcount, hsame, h.all hbefore]

/-- Nothing happens to the transcript. -/
theorem of_same {s' : Scene}
    (hsession : s'.loop.console.session = screen.scene.loop.console.session)
    (hprinted : s'.loop.console.printed = screen.printed)
    (hloop : s'.loop.shown = screen.scene.loop.shown)
    (hall : s'.stage.HasShown → screen.scene.stage.HasShown) : (screen.follow false s').Sound := by
  have htranscript : s'.loop.console.session.transcript = screen.transcript :=
    congrArg Session.transcript hsession
  refine h.of_grows (Scene.presented_of_shown_eq hloop) hprinted (hloop ▸ List.prefix_rfl)
    (htranscript ▸ List.prefix_rfl) fun hstage ↦ ⟨hall hstage, htranscript⟩

/-- The owner does what an input asks for. -/
theorem begins (now : String) (answer : (request : DiskRequest) → request.Answer)
    {input : Console.Input} (hstage : screen.scene.stage = .received input) :
    (screen.follow (screen.scene.loop.console.drops answer input)
      (screen.scene.begin ((screen.scene.loop.console.begin now input).result answer))).Sound := by
  have hall : screen.scene.stage.HasShown := by
    rw [hstage]
    trivial
  have hcounts := Console.counts_begin answer now screen.scene.loop.console input
  generalize screen.scene.loop.console.drops answer input = drops at hcounts ⊢
  generalize (screen.scene.loop.console.begin now input).result answer = begun at hcounts ⊢
  have hpresented : screen.scene.presented (screen.scene.begin begun) = [] :=
    Scene.presented_of_ne (by simp [hstage])
  cases hcounts with
  | restarts printed transcript =>
    have hprinted : (screen.follow true (screen.scene.begin begun)).printed = 0 := printed
    have htranscript : (screen.follow true (screen.scene.begin begun)).transcript = [] := transcript
    refine ⟨?_, ?_, List.nil_sublist _, fun _ ↦ ?_⟩
    · rw [hprinted]
      exact Nat.zero_le _
    · rw [hprinted]
      rfl
    · rw [hprinted, htranscript]
      rfl
  | stays printed grows same =>
    refine h.of_grows hpresented printed (List.prefix_append _ _) grows fun hshown ↦ ⟨hall, same ?_⟩
    -- An owner that goes on to drain the queue has not shown all entries.
    by_contra hdrains
    have hdraining : (screen.scene.begin begun).stage = .draining false :=
      if_pos (by simpa using hdrains)
    rw [hdraining] at hshown
    exact hshown

/-- The owner shows the entries that were not shown yet. -/
theorem presents {last : Bool} (hstage : screen.scene.stage = .showing last) :
    (screen.follow false (screen.scene.present last)).Sound := by
  have hchunks := Console.chunks_present h.printed_le
  have hloop : (screen.scene.present last).loop.shown =
      screen.scene.loop.shown ++ (screen.transcript.drop screen.printed).map Chunk.ofEntry := by
    rw [Scene.present, Console.Loop.note, hchunks]
    rfl
  have hpresented : screen.scene.presented (screen.scene.present last) =
      (screen.transcript.drop screen.printed).map Chunk.ofEntry := by
    rw [Scene.presented, hstage, hloop]
    exact List.drop_left
  have hshown : (screen.follow false (screen.scene.present last)).shown =
      screen.shown ++ (screen.transcript.drop screen.printed).map Chunk.ofEntry := by
    rw [← hpresented]
    rfl
  have hprinted : (screen.follow false (screen.scene.present last)).printed =
      screen.transcript.length := rfl
  have htranscript : (screen.follow false (screen.scene.present last)).transcript =
      screen.transcript := rfl
  refine ⟨Nat.le_refl _, ?_, ?_, fun _ ↦ rfl⟩
  · rw [hshown, hprinted, htranscript, List.take_length, h.shown_eq, ← List.map_append,
      List.take_append_drop]
  · rw [hshown]
    refine (h.sublist.append (List.Sublist.refl _)).trans ?_
    rw [← hloop]
    exact List.Sublist.refl _

/-- Every step of the owner keeps the screen sound. -/
theorem advances {now : String} {answer : (request : DiskRequest) → request.Answer} {s' : Scene}
    (hadvanced : Scene.Advanced now answer screen.scene s') :
    (screen.follow (screen.scene.drops (.turn (.advances now answer))) s').Sound := by
  have hdrops (hstage : ∀ input, screen.scene.stage ≠ .received input) :
      screen.scene.drops (.turn (.advances now answer)) = false := Scene.drops_of_ne hstage
  cases hadvanced with
  | rests stage =>
    rw [hdrops (by rcases stage with ⟨hstage, -⟩ | hstage | hstage <;> simp [hstage])]
    exact h.of_same rfl rfl rfl fun hshown ↦ hshown
  | receives stage | waits stage =>
    rw [hdrops (by simp [stage])]
    exact h.of_same rfl rfl rfl fun _ ↦ stage ▸ trivial
  | takes stage | finds stage | stops stage =>
    rw [hdrops (by simp [stage])]
    exact h.of_same rfl rfl rfl fun hshown ↦ by simp [stage, Stage.HasShown] at hshown
  | ends stage =>
    have hends : screen.scene.drops (.turn (.advances now answer)) = false := by
      rw [Scene.drops, stage]
      rfl
    rw [hends]
    exact h.of_same rfl rfl rfl fun _ ↦ stage ▸ trivial
  | begins stage other =>
    have hbegins {input : Console.Input} (hstage : screen.scene.stage = .received input) :
        screen.scene.drops (.turn (.advances now answer)) =
          screen.scene.loop.console.drops answer input := by
      rw [Scene.drops, hstage]
    rw [hbegins stage]
    exact h.begins now answer stage
  | applies stage holds =>
    rw [hdrops (by simp [stage])]
    exact h.of_grows (Scene.presented_of_shown_eq rfl) rfl List.prefix_rfl
      (Runner.transcript_grows_apply now _ screen.scene.runner)
      fun hshown ↦ by simp [stage, Stage.HasShown] at hshown
  | presents stage =>
    rw [hdrops (by simp [stage])]
    exact h.presents stage
  | leaves stage =>
    rw [hdrops (by simp [stage])]
    exact h.of_grows (Scene.presented_of_shown_eq rfl) rfl List.prefix_rfl
      Session.transcript_grows_abort fun hshown ↦ hshown.elim

/-- Every step keeps the screen sound, unless something cannot be shown. -/
theorem step (step : Step) :
    (screen.step step).Sound ∨ (screen.step step).scene.stage = .broken := by
  cases step with
  | hands input =>
    rw [Screen.step, Scene.step]
    split
    · rename_i hrests
      exact .inl (h.of_same rfl rfl rfl fun _ ↦ Stage.hasShown_of_rests hrests)
    · exact .inl (h.of_same rfl rfl rfl fun hshown ↦ hshown)
  | turn t =>
    have hturned := Scene.turned t screen.scene
    rw [Screen.step, Scene.step]
    generalize screen.scene.turn t = s' at hturned ⊢
    cases hturned with
    | beside other beside =>
      have hdrops : screen.scene.drops (.turn t) = false := by
        unfold Scene.drops
        split
        · rename_i now answer heq
          exact absurd (Step.turn.inj heq) (other now answer)
        · rfl
      rw [hdrops]
      exact .inl (h.of_same beside.session beside.printed beside.shown fun hshown ↦
        beside.stage ▸ hshown)
    | hangsUp stage => exact .inl (h.of_same rfl rfl rfl fun _ ↦ stage ▸ trivial)
    | advances hadvanced => exact .inl (h.advances hadvanced)
    | breaks => exact .inr rfl

end Sound

theorem sound_after (h : screen.Sound) (steps : List Step) :
    (screen.after steps).Sound ∨ (screen.after steps).scene.stage = .broken := by
  refine List.foldlRecOn (motive := fun screen ↦ screen.Sound ∨ screen.scene.stage = .broken) steps
    Screen.step (.inl h) fun screen hor step _ ↦ ?_
  rcases hor with h | hbroken
  · exact h.step step
  · exact .inr (Scene.stage_step_of_broken hbroken step)

end Screen

/-! ### What is on the two streams -/

/-- The pieces of some entries put the texts of those that belong there on a stream, one after
another. -/
theorem Chunk.textOn_map_ofEntry (stream : Stream) (entries : List Entry) :
    Chunk.textOn stream (entries.map Chunk.ofEntry) =
      String.join ((entries.filter fun entry ↦ (Chunk.ofEntry entry).stream = stream).map
        fun entry ↦ (Chunk.ofEntry entry).text) := by
  rw [Chunk.textOn, List.filter_map, List.map_map]
  rfl

theorem Chunk.stream_ofEntry_err (entry : Entry) :
    (Chunk.ofEntry entry).stream = .err ↔ entry.isError = true := by
  rw [Chunk.ofEntry]
  cases entry.isError <;> simp

theorem Chunk.stream_ofEntry_out (entry : Entry) :
    (Chunk.ofEntry entry).stream = .out ↔ entry.isError = false := by
  rw [Chunk.ofEntry]
  cases entry.isError <;> simp

namespace Screen

/-- After all steps of the owner and of the threads around it, with inputs handed to the owner in
between, and unless something could not be shown:

* what was shown of the transcript since it was dropped last is its first entries, as many as the
  console counts, in order and each once, and stands in this order among all that was shown;
* between two inputs these are all entries. The error stream has the texts of those that are errors,
  and the output those of all others. -/
theorem entries_shown_once (policy : CommitPolicy) (supply : Supply) (exportDir : String)
    (steps : List Step) :
    let screen := (new policy supply exportDir).after steps
    screen.scene.stage ≠ .broken →
      (screen.printed ≤ screen.transcript.length ∧
        screen.shown = (screen.transcript.take screen.printed).map Chunk.ofEntry ∧
        screen.shown.Sublist screen.scene.loop.shown) ∧
      (screen.scene.stage.rests = true →
        screen.printed = screen.transcript.length ∧
        screen.shown = screen.transcript.map Chunk.ofEntry ∧
        Chunk.textOn .err screen.shown =
          String.join ((screen.transcript.filter fun entry ↦ entry.isError).map
            fun entry ↦ (Chunk.ofEntry entry).text) ∧
        Chunk.textOn .out screen.shown =
          String.join ((screen.transcript.filter fun entry ↦ !entry.isError).map
            fun entry ↦ (Chunk.ofEntry entry).text)) := by
  intro screen hunbroken
  have h : screen.Sound := (sound_after (sound_new policy supply exportDir) steps).resolve_right
    hunbroken
  refine ⟨⟨h.printed_le, h.shown_eq, h.sublist⟩, fun hrests ↦ ?_⟩
  have hall := h.all (Stage.hasShown_of_rests hrests)
  have hshown : screen.shown = screen.transcript.map Chunk.ofEntry := by
    rw [h.shown_eq, hall, List.take_length]
  refine ⟨hall, hshown, ?_, ?_⟩
  · rw [hshown, Chunk.textOn_map_ofEntry]
    simp [Chunk.stream_ofEntry_err]
  · rw [hshown, Chunk.textOn_map_ofEntry]
    simp [Chunk.stream_ofEntry_out]

/-- A line whose context breaks before the transcript is cleared, and one whose context breaks
after. -/
theorem entries_shown_once_cleared :
    let advances := Step.turn (.advances "" fun _ ↦ .error .notFound)
    let breaks (run : Nat) (message : String) : List Step :=
      [.hands (.line message), advances, advances, advances, .turn (.returns run (.broke message)),
        .turn (.pushes (.worker run)), .hands .wake, advances, advances, advances, advances,
       advances]
    let screen := (new .always {} "").after
      (breaks 0 "1" ++ [.hands (.line ":clear"), advances] ++ breaks 1 "2")
    (screen.scene.stage ≠ .broken ∧ screen.scene.stage.rests = true) ∧
      screen.transcript = [Entry.running, .echo "2", .output false "2"] ∧
      screen.shown = screen.transcript.map Chunk.ofEntry := by
  intro advances breaks screen
  have hrests : screen.scene.stage.rests = true := by decide +kernel
  have hunbroken : screen.scene.stage ≠ .broken := by decide +kernel
  exact ⟨⟨hunbroken, hrests⟩, by decide +kernel,
    ((entries_shown_once _ _ _ _ hunbroken).2 hrests).2.1⟩

end Screen

end Workbench
