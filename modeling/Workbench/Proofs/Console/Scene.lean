import Workbench.Proofs.Console.Handling
import Workbench.Proofs.Runner.Delivery

/-!
# A console at work, and the threads around it

One thread owns a console. It waits for inputs on a channel and handles them one after another, and
it alone calls operations of the runner, drains its queue and shows things. Around it are the
threads of the runs, as in a `World`; one that adds an event to an empty queue has to wake the owner
of the runner, and here that means that it sends the input `wake` on the channel. It does so after
it has let go of the queue, so anything may happen in between. Other threads send the other inputs.

A `Scene` is a moment between two steps of these threads, and a `Turn` is one step. What a turn does
to the runner and to the threads of the runs is what the acts of `World` do (`world_turn`), with the
owner of the console as the thread 0 that drains. The runner counts a wake-up when the event is
added; the thread that owes it is in `calling` until it has sent the input.

The owner makes its steps by `Scene.advance`. What an input asks for is one of them, although locks
are taken and released meanwhile: nobody else calls operations, and the queue is not looked at. From
then on every event is taken off the queue and applied by steps of their own. Left alone, the steps
make up `Console.Loop.take`, the function that runs (`leads_take`).
-/

namespace Workbench

/-- A thread that adds an event to the queue. -/
inductive Pusher where
  | worker (run : Nat)
  | watchdog (run : Nat)
  deriving DecidableEq, Repr

/-- The act by which it does so. -/
def Pusher.act : Pusher → Act
  | worker run => .reports run
  | watchdog run => .alarms run

/-- How far the owner of a console is. -/
inductive Stage where
  /-- It waits for the next input. -/
  | waiting
  /-- It has received an input. -/
  | received (input : Console.Input)
  /-- It drains the queue, for the `last` time if it takes no more inputs. -/
  | draining (last : Bool)
  /-- It has found the queue empty, and is about to show the entries that were not shown yet. -/
  | showing (last : Bool)
  /-- It is done with an input, and about to see whether it goes on. -/
  | checking
  /-- It takes no more inputs, and is about to shut the runner down. -/
  | leaving
  /-- It has shut the runner down. -/
  | left
  /-- It has given up because something could not be shown. -/
  | broken
  deriving DecidableEq, Repr

/-- A console at work, and how far the threads around it are. -/
structure Scene where
  loop : Console.Loop
  /-- How far the owner of the console is. -/
  stage : Stage := .waiting
  /-- The inputs that were sent and not received yet. -/
  channel : List Console.Input := []
  /-- The threads that have added an event to an empty queue, and not sent the wake-up yet. -/
  calling : List Pusher := []
  /-- What the execution of a run returned, once it has. -/
  outcome? : Nat → Option Outcome := fun _ ↦ none
  /-- The watchdog of a run. -/
  watch : Nat → Watch := fun _ ↦ .waiting
  /-- The event that a draining thread took off the queue and has not let take effect yet. -/
  held : Nat → Option RunEvent := fun _ ↦ none

/-- One step of one thread around a console. -/
inductive Turn where
  /-- The execution of a run returns to its worker. -/
  | returns (run : Nat) (outcome : Outcome)
  /-- The watchdog of a run looks whether the run was told to stop, with its time up or not. -/
  | looks (run : Nat) (late : Bool)
  /-- A thread of a run adds its event to the queue. -/
  | pushes (pusher : Pusher)
  /-- A thread of a run sends the wake-up that it owes. -/
  | wakes (pusher : Pusher)
  /-- Another thread sends an input. -/
  | sends (input : Console.Input)
  /-- Nobody can send an input any more. -/
  | hangsUp
  /-- The owner of the console makes a step, at the time `now`; its requests on files get these
  answers. -/
  | advances (now : String) (answer : (request : DiskRequest) → request.Answer)
  /-- The owner makes a step in which it shows something, and that fails. -/
  | breaks (now : String) (answer : (request : DiskRequest) → request.Answer)

namespace Scene

/-- A new console, and no threads around it. -/
def new (policy : CommitPolicy) (supply : Supply) (exportDir : String) : Scene where
  loop := { console := { runner := .new policy supply true, exportDir } }

/-- The runner of the console. -/
def runner (s : Scene) : Runner :=
  s.loop.console.runner

/-- The runner and the threads around it. -/
def world (s : Scene) : World where
  runner := s.runner
  outcome? := s.outcome?
  watch := s.watch
  held := s.held

/-- The same scene with another world. -/
def withWorld (w : World) (s : Scene) : Scene :=
  { s with
    loop.console.runner := w.runner
    outcome? := w.outcome?
    watch := w.watch
    held := w.held }

/-- What an act does in a scene. -/
def act (a : Act) (s : Scene) : Scene :=
  s.withWorld (s.world.act a)

/-! ### Steps of the owner -/

/-- The owner does what an input asks for. -/
def begin (begun : Console.Begun) (s : Scene) : Scene :=
  { s with
    loop := s.loop.note begun.reply
    stage :=
      if begun.drains then .draining false
      else if begun.reply.quits then .leaving
      else .checking }

/-- The owner takes an event off the queue, or lets the one it has take effect, or finds that there
is none left. -/
def drain (now : String) (last : Bool) (s : Scene) : Scene :=
  match s.held 0, s.runner.queue with
  | some _, _ => s.act (.applies 0 now)
  | none, _ :: _ => s.act (.takes 0)
  | none, [] => { s with stage := .showing last }

/-- The owner shows the entries that were not shown yet. -/
def present (last : Bool) (s : Scene) : Scene :=
  { s with
    loop := { s.loop.note s.loop.console.present with stopped := last }
    stage := if last then .leaving else .checking }

/-- The owner makes its next step, if it can. -/
def advance (now : String) (answer : (request : DiskRequest) → request.Answer) (s : Scene) :
    Scene :=
  match s.stage with
  | .waiting =>
    match s.channel with
    | [] => s
    | input :: rest => { s with stage := .received input, channel := rest }
  | .received input =>
    if input = .endOfInput then { s with loop.closed := true, stage := .checking }
    else s.begin ((s.loop.console.begin now input).result answer)
  | .draining last => s.drain now last
  | .showing last => s.present last
  | .checking =>
    if s.loop.closed && !s.loop.console.session.isRunning then { s with stage := .draining true }
    else { s with stage := .waiting }
  | .leaving => { s with loop := s.loop.close, stage := .left }
  | .left | .broken => s

/-! ### Turns -/

/-- A thread of a run adds its event to the queue. It owes a wake-up if the runner counted one. -/
def push (pusher : Pusher) (s : Scene) : Scene :=
  { s.act pusher.act with
    calling :=
      if s.runner.wakes < (s.act pusher.act).runner.wakes then s.calling ++ [pusher]
      else s.calling }

/-- The scene after one turn. -/
def turn (s : Scene) : Turn → Scene
  | .returns run outcome => s.act (.returns run outcome)
  | .looks run late => s.act (.looks run late)
  | .pushes pusher => s.push pusher
  | .wakes pusher =>
    if pusher ∈ s.calling then
      { s with calling := s.calling.erase pusher, channel := s.channel ++ [.wake] }
    else s
  | .sends input => { s with channel := s.channel ++ [input] }
  | .hangsUp => if s.stage = .waiting ∧ s.channel = [] then { s with stage := .leaving } else s
  | .advances now answer => s.advance now answer
  | .breaks now answer =>
    match s.stage with
    | .received _ | .showing _ => { s.advance now answer with stage := .broken }
    | _ => s

/-- The scene after some turns. -/
def after (s : Scene) (turns : List Turn) : Scene :=
  turns.foldl turn s

variable {s : Scene} {now : String} {answer : (request : DiskRequest) → request.Answer}

theorem act_takes {event : RunEvent} {rest : List RunEvent} (free : s.held 0 = none)
    (queue : s.runner.queue = event :: rest) :
    s.act (.takes 0) =
      { s with
        loop.console.runner.queue := rest
        held := Function.update s.held 0 (some event) } := by
  rw [act, World.act_takes free queue]
  rfl

theorem act_applies (now : String) {event : RunEvent} (holds : s.held 0 = some event) :
    s.act (.applies 0 now) =
      { s with
        loop.console.runner := s.runner.apply now event
        held := Function.update s.held 0 none } := by
  rw [act, World.act_applies now holds]
  rfl

/-! ### What a step of the owner can change -/

/-- The changes that a step of the owner can make, each with where it is made. -/
inductive Advanced (now : String) (answer : (request : DiskRequest) → request.Answer) (s : Scene) :
    Scene → Prop where
  | rests (stage : (s.stage = .waiting ∧ s.channel = []) ∨ s.stage = .left ∨ s.stage = .broken) :
      Advanced now answer s s
  | receives {input : Console.Input} {rest : List Console.Input} (stage : s.stage = .waiting)
      (channel : s.channel = input :: rest) :
      Advanced now answer s { s with stage := .received input, channel := rest }
  | ends (stage : s.stage = .received .endOfInput) :
      Advanced now answer s { s with loop.closed := true, stage := .checking }
  | begins {input : Console.Input} (stage : s.stage = .received input)
      (other : input ≠ .endOfInput) :
      Advanced now answer s (s.begin ((s.loop.console.begin now input).result answer))
  | takes {last : Bool} {event : RunEvent} {rest : List RunEvent} (stage : s.stage = .draining last)
      (free : s.held 0 = none) (queue : s.runner.queue = event :: rest) :
      Advanced now answer s
        { s with
          loop.console.runner.queue := rest
          held := Function.update s.held 0 (some event) }
  | applies {last : Bool} {event : RunEvent} (stage : s.stage = .draining last)
      (holds : s.held 0 = some event) :
      Advanced now answer s
        { s with
          loop.console.runner := s.runner.apply now event
          held := Function.update s.held 0 none }
  | finds {last : Bool} (stage : s.stage = .draining last) (free : s.held 0 = none)
      (queue : s.runner.queue = []) : Advanced now answer s { s with stage := .showing last }
  | presents {last : Bool} (stage : s.stage = .showing last) :
      Advanced now answer s (s.present last)
  | stops (stage : s.stage = .checking) (closed : s.loop.closed = true)
      (idle : s.loop.console.session.isRunning = false) :
      Advanced now answer s { s with stage := .draining true }
  | waits (stage : s.stage = .checking)
      (more : s.loop.closed = false ∨ s.loop.console.session.isRunning = true) :
      Advanced now answer s { s with stage := .waiting }
  | leaves (stage : s.stage = .leaving) :
      Advanced now answer s { s with loop := s.loop.close, stage := .left }

theorem advanced_drain {last : Bool} (hstage : s.stage = .draining last) :
    Advanced now answer s (s.drain now last) := by
  rw [drain]
  split
  · rename_i holds
    rw [act_applies now holds]
    exact .applies hstage holds
  · rename_i free queue
    rw [act_takes free queue]
    exact .takes hstage free queue
  · exact .finds hstage ‹_› ‹_›

theorem advanced (now : String) (answer : (request : DiskRequest) → request.Answer) (s : Scene) :
    Advanced now answer s (s.advance now answer) := by
  rw [advance]
  split
  · split
    · exact .rests (.inl ⟨‹_›, ‹_›⟩)
    · exact .receives ‹_› ‹_›
  · rename_i input hstage
    split
    · rename_i hend
      exact .ends (hend ▸ hstage)
    · exact .begins hstage ‹_›
  · exact advanced_drain ‹_›
  · exact .presents ‹_›
  · rename_i hstage
    split
    · rename_i hends
      obtain ⟨hclosed, hidle⟩ := Bool.and_eq_true_iff.1 hends
      exact .stops hstage hclosed (by simpa using hidle)
    · rename_i hmore
      refine .waits hstage ?_
      simpa [Classical.or_iff_not_imp_left] using hmore
  · exact .leaves ‹_›
  · exact .rests (.inr (.inl ‹_›))
  · exact .rests (.inr (.inr ‹_›))

/-! ### The world of a scene -/

/-- What is done with an input, until the queue is drained, is one operation to the runner, or
nothing. -/
theorem world_begin {begun : Console.Begun} (h : begun.reply.Operates s.loop.console) :
    ∃ acts, (s.begin begun).world = s.world.after acts := by
  rcases h with heq | ⟨call, heq⟩
  · refine ⟨[], ?_⟩
    rw [World.after_nil, world, world, runner, runner, begin, Console.Loop.note, heq]
  · refine ⟨[.call call], ?_⟩
    rw [World.after_cons, World.after_nil, world, runner, begin, Console.Loop.note, heq]
    rfl

theorem world_advance (now : String) (answer : (request : DiskRequest) → request.Answer)
    (s : Scene) : ∃ acts, (s.advance now answer).world = s.world.after acts := by
  have hadvanced := s.advanced now answer
  generalize s.advance now answer = s' at hadvanced ⊢
  cases hadvanced with
  | begins => exact world_begin (Console.operates_begin answer now s.loop.console _)
  | takes _ free queue => exact ⟨[.takes 0], congrArg world (act_takes free queue).symm⟩
  | applies _ holds => exact ⟨[.applies 0 now], congrArg world (act_applies now holds).symm⟩
  | leaves => exact ⟨[.call .shutdown], rfl⟩
  | rests | receives | ends | finds | presents | stops | waits => exact ⟨[], rfl⟩

/-- What a turn does to the runner and to the threads of the runs is what some acts do. -/
theorem world_turn (t : Turn) (s : Scene) : ∃ acts, (s.turn t).world = s.world.after acts := by
  cases t with
  | returns run outcome => exact ⟨[.returns run outcome], rfl⟩
  | looks run late => exact ⟨[.looks run late], rfl⟩
  | pushes pusher => exact ⟨[pusher.act], rfl⟩
  | wakes pusher =>
    rw [turn]
    split <;> exact ⟨[], rfl⟩
  | sends input => exact ⟨[], rfl⟩
  | hangsUp =>
    rw [turn]
    split <;> exact ⟨[], rfl⟩
  | advances now answer => exact world_advance now answer s
  | breaks now answer =>
    rw [turn]
    split
    · exact world_advance now answer s
    · exact world_advance now answer s
    · exact ⟨[], rfl⟩

/-! ### The owner left alone -/

/-- The owner gets from one scene to another by steps of its own, and nobody else makes one. -/
def Leads (now : String) (answer : (request : DiskRequest) → request.Answer) :
    Scene → Scene → Prop :=
  Relation.ReflTransGen fun s s' ↦ s.advance now answer = s'

theorem advance_draining {last : Bool} (hstage : s.stage = .draining last) :
    s.advance now answer = s.drain now last := by
  rw [advance, hstage]

theorem drain_of_held {event : RunEvent} (last : Bool) (holds : s.held 0 = some event) :
    s.drain now last = s.act (.applies 0 now) := by
  rw [drain, holds]

theorem drain_of_cons {event : RunEvent} {rest : List RunEvent} (last : Bool)
    (free : s.held 0 = none) (hqueue : s.runner.queue = event :: rest) :
    s.drain now last = s.act (.takes 0) := by
  rw [drain, free, hqueue]

theorem drain_of_nil (last : Bool) (free : s.held 0 = none) (hqueue : s.runner.queue = []) :
    s.drain now last = { s with stage := .showing last } := by
  rw [drain, free, hqueue]

/-- Left alone, the owner drains the queue as `Runner.flush` does. -/
theorem leads_drain {last : Bool} (free : s.held 0 = none) (hstage : s.stage = .draining last) :
    Leads now answer s
      { s with loop.console.runner := (s.runner.flush now).2, stage := .showing last } := by
  generalize hqueue : s.runner.queue = queue
  induction queue generalizing s with
  | nil =>
    have hflush : (s.runner.flush now).2 = s.runner := by
      rw [Runner.flush_snd, hqueue, List.foldl_nil, ← hqueue]
    refine .single ?_
    rw [advance_draining hstage, drain_of_nil last free hqueue, hflush]
    rfl
  | cons event rest ih =>
    have hholds : (s.act (.takes 0)).held 0 = some event := by
      simp only [act_takes free hqueue, Function.update_self]
    have htakes : s.advance now answer = s.act (.takes 0) := by
      rw [advance_draining hstage, drain_of_cons last free hqueue]
    have happlies : (s.act (.takes 0)).advance now answer =
        { s with loop.console.runner := { s.runner with queue := rest }.apply now event } := by
      rw [advance_draining (s := s.act _) hstage, drain_of_held last hholds]
      exact congrArg s.withWorld (World.act_takes_applies now free hqueue)
    have hrest := (Runner.apply_moves now event { s.runner with queue := rest }).queue_eq
    rw [Runner.flush_cons now hqueue]
    exact .head htakes (.head happlies (ih free hstage hrest))

/-- Left alone, the owner drains the queue and shows the new entries as `Console.showNew` does. -/
theorem leads_showNew {last : Bool} (free : s.held 0 = none) (hstage : s.stage = .draining last) :
    Leads now answer s
      { s with
        loop := { s.loop.note (s.loop.console.showNew now) with stopped := last }
        stage := if last then .leaving else .checking } := by
  rw [Console.showNew_eq]
  exact (leads_drain free hstage).tail rfl

/-- Left alone, the owner goes on or stops as `Loop.settle` does. -/
theorem leads_settle (free : s.held 0 = none) (hstage : s.stage = .checking)
    (hstopped : s.loop.stopped = false) :
    Leads now answer s
      { s with
        loop := s.loop.settle now
        stage := if (s.loop.settle now).stopped then .leaving else .waiting } := by
  by_cases hends : s.loop.closed && !s.loop.console.session.isRunning
  · have hsettle : s.loop.settle now =
        { s.loop.note (s.loop.console.showNew now) with stopped := true } := by
      rw [Console.Loop.settle, hstopped, if_pos (by simpa using hends)]
    have hchecks : s.advance now answer = { s with stage := .draining true } := by
      rw [advance, hstage]
      exact if_pos hends
    rw [hsettle]
    exact .head hchecks (leads_showNew (s := { s with stage := .draining true }) free rfl)
  · have hsettle : s.loop.settle now = s.loop := by
      rw [Console.Loop.settle, hstopped, if_neg (by simpa using hends)]
    have hchecks : s.advance now answer = { s with stage := .waiting } := by
      rw [advance, hstage]
      exact if_neg hends
    rw [hsettle, hstopped]
    exact .single hchecks

/-- Left alone, the owner does the rest of what an input asks for as `Begun.finish` does. -/
theorem leads_finish (free : s.held 0 = none) (begun : Console.Begun) :
    Leads now answer (s.begin begun)
      { s with
        loop := s.loop.note (begun.finish now)
        stage := if (begun.finish now).quits then .leaving else .checking } := by
  by_cases hdrains : begun.drains
  · have hstage : (s.begin begun).stage = .draining false := if_pos hdrains
    have hfinish : begun.finish now =
        (begun.reply.console.showNew now).after begun.reply.chunks := if_pos hdrains
    rw [hfinish, ← Console.Loop.note_note]
    exact leads_showNew (s := s.begin begun) free hstage
  · have hstage : (s.begin begun).stage = if begun.reply.quits then .leaving else .checking :=
      if_neg hdrains
    have hfinish : begun.finish now = begun.reply := if_neg hdrains
    rw [hfinish, ← hstage]
    exact .refl

/-- Left alone, the owner takes an input as `Loop.take` does, and waits for the next one unless that
stops the loop. -/
theorem leads_take {input : Console.Input} {rest : List Console.Input} (free : s.held 0 = none)
    (hstage : s.stage = .waiting) (hstopped : s.loop.stopped = false)
    (hchannel : s.channel = input :: rest) :
    Leads now answer s
      { s with
        loop := (s.loop.take now input).result answer
        stage := if ((s.loop.take now input).result answer).stopped then .leaving else .waiting
        channel := rest } := by
  have hreceives : s.advance now answer = { s with stage := .received input, channel := rest } := by
    rw [advance, hstage, hchannel]
  refine .head hreceives ?_
  by_cases hend : input = .endOfInput
  · have htake : (s.loop.take now input).result answer =
        { s.loop with closed := true }.settle now := by
      rw [Console.Loop.take, if_neg (by simp [hstopped]), if_pos hend]
      rfl
    have hends : { s with stage := .received input, channel := rest }.advance now answer =
        { s with loop.closed := true, stage := .checking, channel := rest } :=
      if_pos hend
    rw [htake]
    exact .head hends (leads_settle free rfl hstopped)
  · have htake : (s.loop.take now input).result answer =
        (s.loop.note (((s.loop.console.begin now input).result answer).finish now)).settle now := by
      rw [Console.Loop.take, if_neg (by simp [hstopped]), if_neg hend, Console.take_eq,
        DiskTask.result_map, DiskTask.result_map]
    have hbegins : { s with stage := .received input, channel := rest }.advance now answer =
        { s with channel := rest }.begin ((s.loop.console.begin now input).result answer) :=
      if_neg hend
    rw [htake]
    refine .head hbegins (.trans (leads_finish (s := { s with channel := rest }) free _) ?_)
    generalize ((s.loop.console.begin now input).result answer).finish now = reply
    by_cases hquits : reply.quits
    · have hsettle : (s.loop.note reply).settle now = s.loop.note reply := by
        rw [Console.Loop.settle, Console.Loop.note, hquits]
        rfl
      have hstays : (s.loop.note reply).stopped = true := hquits
      rw [hsettle, if_pos hquits, if_pos hstays]
    · rw [if_neg hquits]
      exact leads_settle
        (s := { s with loop := s.loop.note reply, stage := .checking, channel := rest })
        free rfl (Bool.eq_false_iff.2 hquits)

end Scene

end Workbench
