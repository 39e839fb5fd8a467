import Workbench.Proofs.Console.Shown
import Workbench.Proofs.Disk.Files

/-!
# No edit is lost

A console keeps the path of its program, and the program has the name it is stored under and a mark
for edits that are not saved. What the file holds is kept by nobody. A `Desk` is a scene together
with the files, which change only by what the console writes (`Desk.Does`).

The console `Agrees` with the files if the program is stored under the path that the console keeps,
and the file there holds its text unless it is marked as edited. Most steps change neither program
nor path. The commands that load, save and export a program are described one by one (`Opens`,
`Saves`); every other command that changes the program marks it. A copy may be written to the file
of the program, and then it is the text of the program that the file holds.
-/

namespace Workbench

/-! ### What becomes of a program -/

namespace Session

variable {η : Type} {host : ContextHost η} {s : Session} {h : η}

theorem Dispatched.program_eq {mode : RunMode} {source : String}
    {result : Except SessionError Nat × Session × η}
    (hdispatched : Dispatched host mode source s h result) : result.2.1.program = s.program := by
  cases hdispatched <;> rfl

theorem program_runLine (line : String) : (s.runLine host line h).2.1.program = s.program := by
  rcases runLine_cases host line s h with ⟨error, heq⟩ | heq
  · rw [heq]
  · rw [heq]
    exact (dispatched host .terminal line { s with history := s.history.record line } h).program_eq

theorem program_abort : (s.abort host h).2.1.program = s.program := by
  cases hflight : s.flight with
  | none => rw [abort_of_idle hflight]
  | some flight =>
    rw [abort_of_flight hflight]
    rfl

end Session

/-- An event leaves the program as it is. -/
theorem Runner.program_apply (now : String) (event : RunEvent) (r : Runner) :
    (r.apply now event).session.program = r.session.program := by
  have happlied := applied now event r
  generalize r.apply now event = r' at happlied ⊢
  cases happlied with
  | dropped | completed | failed => rfl
  | timedOut => exact Session.program_abort

namespace Console

/-- The program of a console is stored under the path that the console keeps, and what is read there
is the text of the program unless there are edits. -/
structure Agrees (c : Console) (f : Files) : Prop where
  fileId : c.session.program.fileId = c.path
  holds : ∀ path, c.path = some path → c.session.program.dirty = false →
    f path = some (Text.bytesOf c.session.program.text)

namespace Agrees

variable {c c' : Console} {f f' : Files}

theorem of_eq (h : c.Agrees f) (hprogram : c'.session.program = c.session.program)
    (hpath : c'.path = c.path) : c'.Agrees f := by
  refine ⟨?_, ?_⟩
  · rw [hprogram, hpath]
    exact h.fileId
  · rw [hprogram, hpath]
    exact h.holds

theorem of_dirty (h : c.Agrees f) (hfile : c'.session.program.fileId = c.session.program.fileId)
    (hpath : c'.path = c.path) (hdirty : c'.session.program.dirty = true) : c'.Agrees f :=
  ⟨by rw [hfile, hpath, h.fileId], fun _ _ hclean ↦ absurd (hdirty.symm.trans hclean) (by simp)⟩

/-- Wherever the text of the program is written, a file that held it still holds it. -/
theorem of_writes (h : c.Agrees f) {path : String} {result : Except DiskError Unit}
    (hwrites : f.Writes path (Text.bytesOf c.session.program.text) result f') : c.Agrees f' := by
  refine ⟨h.fileId, fun own hown hclean ↦ ?_⟩
  cases hwrites with
  | refused error => exact h.holds own hown hclean
  | done holds others =>
    rcases others own with heq | heq
    · rw [heq]
      exact h.holds own hown hclean
    · exact heq

end Agrees

/-! ### Loading, saving and exporting -/

section Tasks

variable (answer : (request : DiskRequest) → request.Answer) (c : Console) (f : Files)

/-- The title of a program that is loaded from a path. -/
def titleOf (path : String) : String :=
  (Path.fileName? path).getD ""

/-- What loading a program comes to. -/
inductive Opens (path : String) : Reply → Prop where
  | refused {error : DiskError} (unread : ∀ text, answer (.read path) ≠ .ok (Text.bytesOf text)) :
      Opens path { console := c, chunks := [.err s!"Failed to open {path}: {error.message}"] }
  | opened {text : String} (read : answer (.read path) = .ok (Text.bytesOf text))
      (holds : f path = some (Text.bytesOf text)) :
      Opens path
        { console := { c with
            runner := c.runner.openProgram (.loaded path (titleOf path) text)
            path := some path
            printed := 0 }
          chunks := [.out s!"Opened {titleOf path}."] }

/-- What saving the program comes to. -/
inductive Saves : Reply → Files → Prop where
  | nowhere (path : c.path = none) :
      Saves
        { console := c
          chunks := [.err "Nothing to save: the source was not opened from a file."] } f
  | unneeded {path : String} (path_eq : c.path = some path)
      (clean : c.session.program.canSave = false) :
      Saves { console := c, chunks := [.out "No unsaved changes."] } f
  | saved {path : String} {f' : Files} (path_eq : c.path = some path)
      (edited : c.session.program.canSave = true)
      (written : answer (.write path (Text.bytesOf c.session.program.text)) = .ok ())
      (holds : f' path = some (Text.bytesOf c.session.program.text)) :
      Saves { console := c.withSession c.session.markSaved, chunks := [.out s!"Saved {path}."] } f'
  | refused {path : String} {error : DiskError} (path_eq : c.path = some path)
      (edited : c.session.program.canSave = true)
      (unwritten : answer (.write path (Text.bytesOf c.session.program.text)) = .error error) :
      Saves { console := c, chunks := [.err s!"Failed to save {path}: {error.message}"] } f

variable {answer c f} {f' : Files}

theorem opens {path : String} (h : (c.openFile path).Leaves answer f f') :
    f' = f ∧ Opens answer c f path ((c.openFile path).result answer) := by
  obtain ⟨hholds, hnext⟩ := DiskTask.Leaves.of_readText h
  rw [openFile, DiskTask.readText, DiskTask.read, DiskTask.result]
  cases hread : (answer (.read path)).bind DiskTask.decoded with
  | error error =>
    rw [hread] at hnext
    refine ⟨hnext, .refused fun text heq ↦ ?_⟩
    rw [← DiskTask.bind_decoded_eq_ok_iff, hread] at heq
    cases heq
  | ok text =>
    rw [hread] at hnext
    exact ⟨hnext, .opened (DiskTask.bind_decoded_eq_ok_iff.1 hread) (hholds text hread)⟩

theorem saves (h : c.save.Leaves answer f f') : Saves answer c f (c.save.result answer) f' := by
  rw [save] at h ⊢
  cases hpath : c.path with
  | none =>
    simp only [hpath] at h ⊢
    obtain rfl : f' = f := h
    exact .nowhere hpath
  | some path =>
    simp only [hpath] at h ⊢
    cases hedited : c.session.program.canSave with
    | false =>
      simp only [hedited, Bool.not_false, if_true] at h ⊢
      obtain rfl : f' = f := h
      exact .unneeded hpath hedited
    | true =>
      simp only [hedited, Bool.not_true, Bool.false_eq_true, if_false] at h ⊢
      obtain ⟨f₁, hwrites, hnext⟩ := h
      rw [DiskTask.writeText, DiskTask.write, DiskTask.result]
      cases hanswer : answer (.write path (Text.bytesOf c.session.program.text)) with
      | ok =>
        rw [hanswer] at hwrites hnext
        obtain rfl : f' = f₁ := hnext
        cases hwrites with
        | done holds others => exact .saved hpath hedited hanswer holds
      | error error =>
        rw [hanswer] at hwrites hnext
        obtain rfl : f' = f₁ := hnext
        cases hwrites with
        | refused => exact .refused hpath hedited hanswer

/-- A program with a file that cannot be saved has no edits. -/
theorem Agrees.clean (h : c.Agrees f) {path : String} (hpath : c.path = some path)
    (hclean : c.session.program.canSave = false) : c.session.program.dirty = false := by
  rw [Program.canSave, h.fileId, hpath] at hclean
  exact hclean

namespace Saves

variable {reply : Reply}

/-- If there are said to be no unsaved changes, the file holds the text. -/
theorem holds_of_chunks (hsaves : Saves answer c f reply f') (h : c.Agrees f)
    (hchunks : reply.chunks = [.out "No unsaved changes."]) :
    ∃ path, c.path = some path ∧ f path = some (Text.bytesOf c.session.program.text) := by
  cases hsaves with
  | unneeded path_eq clean => exact ⟨_, path_eq, h.holds _ path_eq (h.clean path_eq clean)⟩
  | nowhere | refused => simp [Chunk.out, Chunk.err] at hchunks
  | saved path_eq edited written holds =>
    -- Two texts that begin with different letters.
    simp only [Chunk.out, List.cons.injEq, Chunk.mk.injEq, true_and, and_true] at hchunks
    have hfirst := congrArg (fun s : String ↦ s.toList.head?) hchunks
    simp [toString] at hfirst

/-- If the text can be written to the file, the file holds it afterwards, and there are no edits. -/
theorem of_written (hsaves : Saves answer c f reply f') (h : c.Agrees f) {path : String}
    (hpath : c.path = some path)
    (hwritten : answer (.write path (Text.bytesOf c.session.program.text)) = .ok ()) :
    reply.console.path = some path ∧
      reply.console.session.program.text = c.session.program.text ∧
      reply.console.session.program.dirty = false ∧
      f' path = some (Text.bytesOf c.session.program.text) := by
  cases hsaves with
  | nowhere path_eq => simp [hpath] at path_eq
  | unneeded path_eq clean =>
    have hclean := h.clean path_eq clean
    exact ⟨hpath, rfl, hclean, h.holds path hpath hclean⟩
  | saved path_eq edited written holds =>
    obtain rfl := Option.some.inj (path_eq.symm.trans hpath)
    exact ⟨hpath, rfl, rfl, holds⟩
  | refused path_eq edited unwritten =>
    obtain rfl := Option.some.inj (path_eq.symm.trans hpath)
    exact absurd (hwritten.symm.trans unwritten) (by simp)

/-- If there is no file, or the text cannot be written to it, nothing changes. -/
theorem of_unwritten (hsaves : Saves answer c f reply f')
    (hunwritten : ∀ path, c.path = some path →
      answer (.write path (Text.bytesOf c.session.program.text)) ≠ .ok ()) :
    reply.console = c ∧ f' = f := by
  cases hsaves with
  | nowhere | unneeded | refused => exact ⟨rfl, rfl⟩
  | saved path_eq edited written => exact absurd written (hunwritten _ path_eq)

end Saves

/-! ### What an input does -/

theorem agrees_openFile (h : c.Agrees f) {path : String}
    (hleaves : (c.openFile path).Leaves answer f f') :
    ((c.openFile path).result answer).console.Agrees f' := by
  obtain ⟨rfl, hopens⟩ := opens hleaves
  generalize (c.openFile path).result answer = reply at hopens ⊢
  cases hopens with
  | refused unread => exact h
  | opened read holds =>
    refine ⟨rfl, fun own hown _ ↦ ?_⟩
    obtain rfl : path = own := Option.some.inj hown
    exact holds

theorem agrees_save (h : c.Agrees f) (hleaves : c.save.Leaves answer f f') :
    (c.save.result answer).console.Agrees f' := by
  have hsaves := saves hleaves
  generalize c.save.result answer = reply at hsaves ⊢
  cases hsaves with
  | nowhere | unneeded | refused => exact h
  | saved path_eq edited written holds =>
    refine ⟨h.fileId, fun own hown _ ↦ ?_⟩
    obtain rfl := Option.some.inj (path_eq.symm.trans hown)
    exact holds

theorem agrees_saveCopy (h : c.Agrees f) (hleaves : c.saveCopy.Leaves answer f f') :
    (c.saveCopy.result answer).console.Agrees f' := by
  obtain ⟨f₁, hwrites, hnext⟩ := hleaves
  rw [saveCopy, DiskTask.writeText, DiskTask.write, DiskTask.result]
  -- The console stays as it is, so only the files matter: the copy may be the file of the program.
  split
  all_goals
    rename_i heq
    rw [heq] at hwrites hnext
    obtain rfl : f' = f₁ := hnext
    exact h.of_writes hwrites

theorem agrees_setText (h : c.Agrees f) (text : String) :
    (c.withSession (c.session.setProgramText text).2).Agrees f := by
  by_cases heq : text = c.session.program.text
  · refine h.of_eq ?_ rfl
    exact if_pos heq
  · have hset : (c.withSession (c.session.setProgramText text).2).session.program =
        { c.session.program with text, dirty := true } := if_neg heq
    exact h.of_dirty (by rw [hset]) rfl (by rw [hset])

theorem leaves_beginCommand (now : String) (command : Command) (hrun : command ≠ .run)
    (habort : command ≠ .abort) :
    (c.beginCommand now command).Leaves answer f f' ↔ (c.obey now command).Leaves answer f f' := by
  unfold beginCommand
  split
  · exact absurd rfl hrun
  · exact absurd rfl habort
  · exact DiskTask.leaves_map _ _

theorem agrees_beginCommand (h : c.Agrees f) {now : String} {command : Command}
    (hleaves : (c.beginCommand now command).Leaves answer f f') :
    ((c.beginCommand now command).result answer).reply.console.Agrees f' := by
  by_cases hrun : command = .run
  · subst hrun
    obtain rfl : f' = f := hleaves
    exact h.of_eq (Session.dispatched Slots.host .program c.session.program.text c.session
      c.runner.slots).program_eq rfl
  by_cases habort : command = .abort
  · subst habort
    obtain rfl : f' = f := hleaves
    exact h.of_eq Session.program_abort rfl
  rw [leaves_beginCommand now command hrun habort] at hleaves
  rw [result_beginCommand answer now c command hrun habort]
  cases command with
  | run => exact absurd rfl hrun
  | abort => exact absurd rfl habort
  | openFile path => exact agrees_openFile h hleaves
  | save => exact agrees_save h hleaves
  | saveCopy => exact agrees_saveCopy h hleaves
  | append code =>
    obtain rfl : f' = f := hleaves
    exact agrees_setText h _
  | newProgram =>
    obtain rfl : f' = f := hleaves
    exact h.of_dirty rfl rfl rfl
  | clear =>
    rw [obey, Runner.clear, Runner.onSession] at hleaves ⊢
    rcases Session.clear_cases c.runner.session with ⟨flight, -, heq⟩ | ⟨-, heq⟩
    · rw [heq] at hleaves ⊢
      obtain rfl : f' = f := hleaves
      exact h.of_eq rfl rfl
    · rw [heq] at hleaves ⊢
      obtain rfl : f' = f := hleaves
      exact h.of_eq rfl rfl
  | previous | next | showProgram | showHistory | showBindings | help | quit | missingArgument
  | unknown =>
    obtain rfl : f' = f := hleaves
    exact h.of_eq rfl rfl

theorem agrees_begin (h : c.Agrees f) {now : String} {input : Input}
    (hleaves : (c.begin now input).Leaves answer f f') :
    ((c.begin now input).result answer).reply.console.Agrees f' := by
  cases input with
  | line text =>
    rw [begin, beginLine] at hleaves ⊢
    generalize Command.ofLine? text = command?, Text.allBlank text = blank at hleaves ⊢
    cases command? with
    | some command => exact agrees_beginCommand h hleaves
    | none =>
      cases blank with
      | true =>
        obtain rfl : f' = f := hleaves
        exact h
      | false =>
        obtain rfl : f' = f := hleaves
        exact h.of_eq (Session.program_runLine text) rfl
  | interrupt =>
    obtain rfl : f' = f := hleaves
    exact h.of_eq Session.program_abort rfl
  | wake | endOfInput =>
    obtain rfl : f' = f := hleaves
    exact h

end Tasks

/-! ### One request for one input -/

theorem asksOnce_openFile (path : String) (c : Console) : (c.openFile path).AsksOnce := by
  intro answer
  dsimp only
  cases answer.bind DiskTask.decoded with
  | error => exact ⟨_, rfl⟩
  | ok => exact ⟨_, rfl⟩

theorem asksOnce_save (c : Console) : c.save.AsksOnce := by
  rw [save]
  split
  · trivial
  · split
    · trivial
    · intro answer
      cases answer with
      | error => exact ⟨_, rfl⟩
      | ok => exact ⟨_, rfl⟩

theorem asksOnce_saveCopy (c : Console) : c.saveCopy.AsksOnce := by
  intro answer
  cases answer with
  | error => exact ⟨_, rfl⟩
  | ok => exact ⟨_, rfl⟩

theorem asksOnce_beginCommand (now : String) (command : Command) (c : Console) :
    (c.beginCommand now command).AsksOnce := by
  unfold beginCommand
  split
  · trivial
  · trivial
  · refine .map ?_ _
    cases command with
    | openFile path => exact asksOnce_openFile path c
    | save => exact asksOnce_save c
    | saveCopy => exact asksOnce_saveCopy c
    | clear =>
      rw [obey]
      split <;> trivial
    | run | abort | append | newProgram | previous | next | showProgram | showHistory | showBindings
    | help | quit | missingArgument | unknown => trivial

/-- What a console does with an input takes at most one request. -/
theorem asksOnce_begin (now : String) (input : Input) (c : Console) :
    (c.begin now input).AsksOnce := by
  cases input with
  | line text =>
    rw [begin, beginLine]
    split
    · exact asksOnce_beginCommand now _ c
    · split <;> trivial
  | interrupt | wake | endOfInput => trivial

end Console

/-! ### Steps around a console -/

namespace Scene

variable {s : Scene} {now : String} {answer : (request : DiskRequest) → request.Answer}
  {f f' : Files}

/-- Whether a step of the owner can turn files into others: only what an input asks for is work on
files. -/
def Works (s : Scene) (now : String) (answer : (request : DiskRequest) → request.Answer)
    (f f' : Files) : Prop :=
  match s.stage with
  | .received input => (s.loop.console.begin now input).Leaves answer f f'
  | _ => f' = f

theorem works_of_received {input : Console.Input} (hstage : s.stage = .received input) :
    s.Works now answer f f' ↔ (s.loop.console.begin now input).Leaves answer f f' := by
  rw [Works, hstage]

theorem works_of_ne (hstage : ∀ input, s.stage ≠ .received input) :
    s.Works now answer f f' ↔ f' = f := by
  rw [Works]
  split
  · rename_i input heq
    exact absurd heq (hstage input)
  · rfl

/-- A step of the owner that fails does what it would have done, or there was nothing to do. -/
theorem loop_breaks (now : String) (answer : (request : DiskRequest) → request.Answer)
    (s : Scene) :
    (s.turn (.breaks now answer)).loop = (s.advance now answer).loop ∨
      (∀ input, s.stage ≠ .received input) ∧ (s.turn (.breaks now answer)).loop = s.loop := by
  rw [turn]
  split
  · exact .inl rfl
  · exact .inl rfl
  · rename_i hreceived _
    exact .inr ⟨hreceived, rfl⟩

/-- The owner does what an input asks for, whether that can be shown or not. -/
theorem loop_of_received {input : Console.Input} (hstage : s.stage = .received input)
    (hother : input ≠ .endOfInput) {t : Turn}
    (ht : t = .advances now answer ∨ t = .breaks now answer) :
    (s.turn t).loop = s.loop.note ((s.loop.console.begin now input).result answer).reply := by
  have hadvances : (s.advance now answer).loop =
      s.loop.note ((s.loop.console.begin now input).result answer).reply := by
    rw [advance, hstage]
    dsimp only
    rw [if_neg hother]
    rfl
  rcases ht with rfl | rfl
  · exact hadvances
  · rcases loop_breaks now answer s with heq | ⟨hne, -⟩
    · rw [heq, hadvances]
    · exact absurd hstage (hne input)

/-- Nobody but the owner changes the program, or the path that the console keeps. -/
theorem agrees_beside {t : Turn} (hadvances : ∀ now answer, t ≠ .advances now answer)
    (hbreaks : ∀ now answer, t ≠ .breaks now answer) (h : s.loop.console.Agrees f) :
    (s.turn t).loop.console.Agrees f := by
  have hpath : (s.turn t).loop.console.path = s.loop.console.path := by
    cases t with
    | advances now answer => exact absurd rfl (hadvances now answer)
    | breaks now answer => exact absurd rfl (hbreaks now answer)
    | returns | looks | pushes | sends => rfl
    | wakes | hangsUp =>
      rw [turn]
      split <;> rfl
  have hsession : (s.turn t).loop.console.session = s.loop.console.session := by
    have hturned := s.turned t
    generalize s.turn t = s' at hturned ⊢
    cases hturned with
    | beside other beside => exact beside.session
    | hangsUp => rfl
    | advances => exact absurd rfl (hadvances _ _)
    | breaks => exact absurd rfl (hbreaks _ _)
  exact h.of_eq (by rw [hsession]) hpath

theorem agrees_advance (h : s.loop.console.Agrees f) (hworks : s.Works now answer f f') :
    (s.advance now answer).loop.console.Agrees f' := by
  -- Between inputs the files stay as they are.
  have hsame (hstage : ∀ input, s.stage ≠ .received input) : s.loop.console.Agrees f' := by
    obtain rfl := (works_of_ne hstage).1 hworks
    exact h
  have hadvanced := s.advanced now answer
  generalize s.advance now answer = s' at hadvanced ⊢
  cases hadvanced with
  | begins stage other => exact Console.agrees_begin h ((works_of_received stage).1 hworks)
  | ends stage =>
    obtain rfl : f' = f := (works_of_received stage).1 hworks
    exact h.of_eq rfl rfl
  | applies stage =>
    exact (hsame (by simp [stage])).of_eq (Runner.program_apply now _ s.runner) rfl
  | leaves stage => exact (hsame (by simp [stage])).of_eq Session.program_abort rfl
  | rests stage =>
    exact hsame (by rcases stage with ⟨hstage, -⟩ | hstage | hstage <;> simp [hstage])
  | receives stage | takes stage | finds stage | presents stage | stops stage | waits stage =>
    exact (hsame (by simp [stage])).of_eq rfl rfl

end Scene

/-- A scene, and the files of its console. -/
structure Desk where
  scene : Scene
  files : Files

namespace Desk

/-- A new console, and any files. -/
def new (policy : CommitPolicy) (supply : Supply) (exportDir : String) (files : Files) : Desk where
  scene := .new policy supply exportDir
  files := files

/-- The console of a desk. -/
def console (d : Desk) : Console :=
  d.scene.loop.console

/-- The program of a desk. -/
def program (d : Desk) : Program :=
  d.console.session.program

/-- Whether a step around the console can make one desk of another. Nobody else writes the files. -/
def Does (d : Desk) (step : Step) (d' : Desk) : Prop :=
  d'.scene = d.scene.step step ∧
    match step with
    | .turn (.advances now answer) | .turn (.breaks now answer) =>
      d.scene.Works now answer d.files d'.files
    | _ => d'.files = d.files

/-- Some steps make one desk of another. -/
def Leads : Desk → Desk → Prop :=
  Relation.ReflTransGen fun d d' ↦ ∃ step, d.Does step d'

variable {d d' : Desk}

/-- Every step keeps the console and the files in agreement. -/
theorem Does.agrees {step : Step} (hdoes : d.Does step d') (h : d.console.Agrees d.files) :
    d'.console.Agrees d'.files := by
  obtain ⟨scene', files'⟩ := d'
  obtain ⟨hscene, hfiles⟩ := hdoes
  obtain rfl : scene' = d.scene.step step := hscene
  cases step with
  | hands input =>
    obtain rfl : files' = d.files := hfiles
    refine h.of_eq ?_ ?_
    all_goals
      rw [console, Scene.step]
      split <;> rfl
  | turn t =>
    cases t with
    | advances now answer => exact Scene.agrees_advance h hfiles
    | breaks now answer =>
      rw [console, Scene.step]
      rcases Scene.loop_breaks now answer d.scene with heq | ⟨hne, heq⟩
      · rw [heq]
        exact Scene.agrees_advance h hfiles
      · rw [heq]
        obtain rfl : files' = d.files := (Scene.works_of_ne hne).1 hfiles
        exact h
    | returns | looks | pushes | wakes | sends | hangsUp =>
      obtain rfl : files' = d.files := hfiles
      exact Scene.agrees_beside (by simp) (by simp) h

theorem agrees_new (policy : CommitPolicy) (supply : Supply) (exportDir : String) (files : Files) :
    (new policy supply exportDir files).console.Agrees files :=
  ⟨rfl, fun _ hpath ↦ by cases hpath⟩

theorem Leads.agrees (hleads : d.Leads d') (h : d.console.Agrees d.files) :
    d'.console.Agrees d'.files := by
  induction hleads with
  | refl => exact h
  | tail _ hdoes ih =>
    obtain ⟨step, hdoes⟩ := hdoes
    exact hdoes.agrees ih

section Commands

variable {line now : String} {answer : (request : DiskRequest) → request.Answer} {t : Turn}
  {command : Command}

/-- The owner obeys a command that does not drain the queue. -/
theorem Does.of_command (hdoes : d.Does (.turn t) d')
    (ht : t = .advances now answer ∨ t = .breaks now answer)
    (hstage : d.scene.stage = .received (.line line))
    (hcommand : Command.ofLine? line = some command) (hrun : command ≠ .run)
    (habort : command ≠ .abort) :
    (d.console.obey now command).Leaves answer d.files d'.files ∧
      d'.scene.loop = d.scene.loop.note ((d.console.obey now command).result answer) := by
  obtain ⟨hscene, hfiles⟩ := hdoes
  have hworks : d.scene.Works now answer d.files d'.files := by
    rcases ht with rfl | rfl
    · exact hfiles
    · exact hfiles
  have hbegin : d.console.begin now (.line line) = d.console.beginCommand now command := by
    rw [Console.begin, Console.beginLine, hcommand]
  have hleaves : (d.console.begin now (.line line)).Leaves answer d.files d'.files :=
    (Scene.works_of_received hstage).1 hworks
  have hloop : d'.scene.loop =
      d.scene.loop.note ((d.console.begin now (.line line)).result answer).reply := by
    rw [hscene]
    exact Scene.loop_of_received hstage (by simp) ht
  rw [hbegin, Console.leaves_beginCommand now command hrun habort] at hleaves
  rw [hbegin, Console.result_beginCommand answer now d.console command hrun habort] at hloop
  exact ⟨hleaves, hloop⟩

end Commands

/-! ### A console with files in memory -/

/-- A console whose files are in memory. -/
def ofTree (s : Scene) (t : Tree) : Desk where
  scene := s
  files := t.contents

/-- A step of an owner whose files are in memory. -/
def advanceTree (now : String) (s : Scene) (t : Tree) : Scene × Tree :=
  (s.advance now fun request ↦ (t.answer request).1,
    match s.stage with
    | .received input => ((s.loop.console.begin now input).onTree t).2
    | _ => t)

/-- A line is handed to an owner whose files are in memory. -/
theorem does_hands (line : String) (s : Scene) (t : Tree) :
    (ofTree s t).Does (.hands (.line line)) (ofTree (s.step (.hands (.line line))) t) :=
  ⟨rfl, rfl⟩

theorem does_ofTree (now : String) (s : Scene) (t : Tree) :
    (ofTree s t).Does (.turn (.advances now fun request ↦ (t.answer request).1))
      (ofTree (advanceTree now s t).1 (advanceTree now s t).2) := by
  refine ⟨rfl, ?_⟩
  change s.Works _ _ _ (advanceTree now s t).2.contents
  rw [Scene.Works, advanceTree]
  cases s.stage with
  | received input => exact (Console.asksOnce_begin now input s.loop.console).leaves_onTree t
  | waiting | draining | showing | checking | leaving | left | broken => rfl

/-! ### The program and its file -/

/-- Whatever steps are made around a new console, if its requests on files are answered by files
that nobody else writes, the program is stored under the path that the console keeps, or under none
if there is no path. The file at this path holds the text of the program unless the program has
edits that are not saved. When a line is obeyed after these steps,

* the answer to `:save` that there are no unsaved changes is right: the file holds the text;
* after a successful `:save` the file holds the text, and there are no edits;
* a `:save` that fails, and an `:open` of what is not a file of text, change neither the console nor
  the files. -/
theorem no_edit_lost (policy : CommitPolicy) (supply : Supply) (exportDir : String) (files : Files)
    (h : (new policy supply exportDir files).Leads d) :
    (d.program.fileId = d.console.path ∧
      ∀ path, d.console.path = some path → d.program.dirty = false →
        d.files path = some (Text.bytesOf d.program.text)) ∧
    ∀ (line now : String) (answer : (request : DiskRequest) → request.Answer) (t : Turn)
      (d' : Desk),
      d.scene.stage = .received (.line line) →
      (t = .advances now answer ∨ t = .breaks now answer) → d.Does (.turn t) d' →
      (Command.ofLine? line = some .save →
        (d'.scene.loop.shown = d.scene.loop.shown ++ [.out "No unsaved changes."] →
          ∃ path, d.console.path = some path ∧
            d.files path = some (Text.bytesOf d.program.text)) ∧
        (∀ path, d.console.path = some path →
          answer (.write path (Text.bytesOf d.program.text)) = .ok () →
          d'.console.path = some path ∧ d'.program.text = d.program.text ∧
            d'.program.dirty = false ∧ d'.files path = some (Text.bytesOf d.program.text)) ∧
        ((∀ path, d.console.path = some path →
            answer (.write path (Text.bytesOf d.program.text)) ≠ .ok ()) →
          d'.console = d.console ∧ d'.files = d.files)) ∧
      (∀ path, Command.ofLine? line = some (.openFile path) →
        (∀ text, answer (.read path) ≠ .ok (Text.bytesOf text)) →
        d'.console = d.console ∧ d'.files = d.files) := by
  have hagrees : d.console.Agrees d.files :=
    Leads.agrees h (agrees_new policy supply exportDir files)
  refine ⟨⟨hagrees.fileId, hagrees.holds⟩,
    fun line now answer t d' hstage ht hdoes ↦ ⟨fun hsave ↦ ?_, fun path hopen ↦ ?_⟩⟩
  · obtain ⟨hleaves, hloop⟩ := hdoes.of_command ht hstage hsave (by simp) (by simp)
    have hsaves := Console.saves hleaves
    have hconsole : d'.console = (d.console.save.result answer).console := by
      rw [console, hloop]
      rfl
    refine ⟨fun hshown ↦ ?_, fun path hpath hwritten ↦ ?_, fun hunwritten ↦ ?_⟩
    · rw [hloop] at hshown
      exact hsaves.holds_of_chunks hagrees (List.append_cancel_left hshown)
    · rw [program, hconsole]
      exact hsaves.of_written hagrees hpath hwritten
    · rw [hconsole]
      exact hsaves.of_unwritten hunwritten
  · obtain ⟨hleaves, hloop⟩ := hdoes.of_command ht hstage hopen (by simp) (by simp)
    obtain ⟨hfiles, hopens⟩ := Console.opens hleaves
    intro hunread
    refine ⟨?_, hfiles⟩
    rw [console, hloop]
    change ((d.console.openFile path).result answer).console = d.console
    generalize (d.console.openFile path).result answer = reply at hopens ⊢
    cases hopens with
    | refused => rfl
    | opened read => exact absurd read (hunread _)

/-- A program is opened, edited and saved, and saved again. -/
theorem no_edit_lost_saved_twice :
    let tree : Tree := { home := [], entries := [(["a"], .file (Text.bytesOf "1"))] }
    let takes (line : String) (p : Scene × Tree) : Scene × Tree :=
      advanceTree "" (p.1.step (.hands (.line line))) p.2
    let p := takes ":save" (takes ":append 2" (takes ":open a" (.new .always {} "", tree)))
    let d := ofTree (p.1.step (.hands (.line ":save"))) p.2
    let next : Turn := .advances "" fun request ↦ (p.2.answer request).1
    let d' := ofTree (takes ":save" p).1 (takes ":save" p).2
    ((new .always {} "" tree.contents).Leads d ∧ d.scene.stage = .received (.line ":save") ∧
      d.Does (.turn next) d' ∧ Command.ofLine? ":save" = some .save ∧
      d'.scene.loop.shown = d.scene.loop.shown ++ [.out "No unsaved changes."]) ∧
      d.console.path = some "a" ∧ d.program.text = "1\n2" ∧
      d.files "a" = some (Text.bytesOf "1\n2") := by
  intro tree takes p d next d'
  have htakes (line : String) (q : Scene × Tree) :
      (ofTree q.1 q.2).Leads (ofTree (takes line q).1 (takes line q).2) :=
    .tail (.single ⟨_, does_hands line q.1 q.2⟩) ⟨_, does_ofTree "" _ q.2⟩
  have hleads : (new .always {} "" tree.contents).Leads d :=
    (((htakes ":open a" (.new .always {} "", tree)).trans (htakes ":append 2" _)).trans
      (htakes ":save" _)).tail
      ⟨_, does_hands ":save" p.1 p.2⟩
  have hstage : d.scene.stage = .received (.line ":save") := by decide +kernel
  have hdoes : d.Does (.turn next) d' := does_ofTree "" d.scene p.2
  have hcommand : Command.ofLine? ":save" = some .save := by decide +kernel
  have hshown : d'.scene.loop.shown = d.scene.loop.shown ++ [.out "No unsaved changes."] := by
    decide +kernel
  have hpath : d.console.path = some "a" := by decide +kernel
  have htext : d.program.text = "1\n2" := by decide +kernel
  refine ⟨⟨hleads, hstage, hdoes, hcommand, hshown⟩, hpath, htext, ?_⟩
  obtain ⟨path, hsome, hholds⟩ :=
    (((no_edit_lost .always {} "" tree.contents hleads).2 ":save" "" _ next d' hstage (.inl rfl)
      hdoes).1 hcommand).1 hshown
  obtain rfl := Option.some.inj (hpath.symm.trans hsome)
  rw [← htext]
  exact hholds

end Desk

end Workbench
