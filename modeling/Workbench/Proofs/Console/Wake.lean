import Workbench.Proofs.Console.Scene

/-!
# No wake-up is lost

A thread that adds an event to the queue of a runner sends a wake-up only if the queue was empty,
and only after it has let go of the queue. So the owner of a console may find the queue empty, wait
for its next input, and be woken later; and it may find an event for which the wake-up is still to
come. What may not happen is that it waits while events are in the queue and nothing is on its way.

The queue is not empty only as long as that has been *announced* (`Scene.Announced`): a wake-up is
in the channel, or some thread owes one, or the owner is about to drain the queue. Adding to an
empty queue makes a thread owe a wake-up, a wake-up that is received is followed by draining, and
draining ends with an empty queue.
-/

namespace Workbench

/-! ### Runners with a waker -/

namespace Runner

variable {r r' : Runner}

theorem Move.hasWaker_eq (h : Move r r') : r'.hasWaker = r.hasWaker := by
  cases h <;> rfl

theorem Moves.hasWaker_eq (h : Moves r r') : r'.hasWaker = r.hasWaker := by
  induction h with
  | refl => rfl
  | tail _ hmove ih => exact hmove.hasWaker_eq.trans ih

theorem hasWaker_post (event : RunEvent) (r : Runner) :
    (r.post event).hasWaker = r.hasWaker := by
  obtain ⟨wakes, heq⟩ := r.post_eq event
  rw [heq]

/-- Adding an event to an empty queue counts a wake-up. -/
theorem wakes_post_of_nil (event : RunEvent) (hqueue : r.queue = []) (hwaker : r.hasWaker = true) :
    (r.post event).wakes = r.wakes + 1 := by
  rw [post, enqueue, hqueue]
  exact congrArg wakes (if_pos hwaker)

end Runner

namespace World

variable {w : World}

theorem hasWaker_act (a : Act) (w : World) : (w.act a).runner.hasWaker = w.runner.hasWaker := by
  have hacted := acted w a
  generalize w.act a = w' at hacted ⊢
  cases hacted with
  | calls call => exact (Runner.perform_moves call w.runner).hasWaker_eq
  | applies => exact (Runner.apply_moves _ _ w.runner).hasWaker_eq
  | reports => exact Runner.hasWaker_post _ _
  | alarms => exact Runner.hasWaker_post _ _
  | rests | returns | looks | takes => rfl

theorem hasWaker_after (acts : List Act) (w : World) :
    (w.after acts).runner.hasWaker = w.runner.hasWaker := by
  induction acts generalizing w with
  | nil => rfl
  | cons a acts ih => exact (ih _).trans (hasWaker_act a w)

/-- If the queue is empty, a thread of a run leaves it so, or has a wake-up counted. -/
theorem wakes_act_of_nil (pusher : Pusher) (hqueue : w.runner.queue = [])
    (hwaker : w.runner.hasWaker = true) :
    (w.act pusher.act).runner.queue = [] ∨
      (w.act pusher.act).runner.wakes = w.runner.wakes + 1 := by
  have hacted := acted w pusher.act
  generalize hact : pusher.act = a at hacted ⊢
  generalize w.act a = w' at hacted ⊢
  cases hacted with
  | rests | returns | looks => exact .inl hqueue
  | reports => exact .inr (Runner.wakes_post_of_nil _ hqueue hwaker)
  | alarms => exact .inr (Runner.wakes_post_of_nil _ hqueue hwaker)
  | calls | takes | applies => cases pusher <;> exact Act.noConfusion hact

theorem queue_returns (run : Nat) (outcome : Outcome) (w : World) :
    (w.act (.returns run outcome)).runner.queue = w.runner.queue := by
  rw [act]
  split <;> rfl

theorem queue_looks (run : Nat) (late : Bool) (w : World) :
    (w.act (.looks run late)).runner.queue = w.runner.queue := by
  rw [act]
  split
  · split
    · rfl
    · split <;> rfl
  · rfl

/-- Only draining threads take events off the queue and hold them. -/
theorem held_act (a : Act) (hdrains : ∀ thread now, a ≠ .takes thread ∧ a ≠ .applies thread now) :
    (w.act a).held = w.held := by
  have hacted := acted w a
  generalize w.act a = w' at hacted ⊢
  cases hacted with
  | takes => exact absurd rfl (hdrains _ "").1
  | applies => exact absurd rfl (hdrains _ _).2
  | rests | calls | returns | reports | looks | alarms => rfl

end World

/-! ### Scenes with a wake-up on its way -/

/-- The owner is about to drain the queue, or takes no more inputs. -/
def Stage.Heeds : Stage → Prop
  | received input => input = .wake
  | draining _ | leaving | left | broken => True
  | waiting | showing _ | checking => False

namespace Scene

/-- The owner knows that there may be events in the queue, or will come to know. -/
def Announced (s : Scene) : Prop :=
  .wake ∈ s.channel ∨ s.calling ≠ [] ∨ s.stage.Heeds

/-- What is known of every scene that comes about. -/
structure Sound (s : Scene) : Prop where
  world : s.world.Sound
  hasWaker : s.runner.hasWaker = true
  /-- Only the owner takes events off the queue, and only when it drains it. -/
  drains : ∀ {thread event}, s.held thread = some event →
    thread = 0 ∧ ∃ last, s.stage = .draining last
  announced : s.runner.queue ≠ [] → s.Announced

variable {s s' : Scene}

theorem sound_new (policy : CommitPolicy) (supply : Supply) (exportDir : String) :
    (new policy supply exportDir).Sound where
  world := World.sound_after policy supply true []
  hasWaker := rfl
  drains holds := by cases holds
  announced hqueue := absurd rfl hqueue

/-! ### What keeps a wake-up on its way -/

/-- An announcement stays one if no wake-up leaves the channel, nobody's debt is forgotten, and the
owner does not cease to heed. -/
theorem Announced.mono (h : s.Announced) (hchannel : s.channel ⊆ s'.channel)
    (hcalling : s'.calling = s.calling) (hstage : s.stage.Heeds → s'.stage.Heeds) :
    s'.Announced := by
  rcases h with hwake | hcall | hheeds
  · exact .inl (hchannel hwake)
  · exact .inr (.inl (hcalling ▸ hcall))
  · exact .inr (.inr (hstage hheeds))

theorem announced_of_heeds (hheeds : s.stage.Heeds) : s.Announced :=
  .inr (.inr hheeds)

/-- Receiving an input takes it off the channel; if it is a wake-up, the owner heeds it. -/
theorem Announced.receive (h : s.Announced) {input : Console.Input} {rest : List Console.Input}
    (hstage : s.stage = .waiting) (hchannel : s.channel = input :: rest) :
    { s with stage := .received input, channel := rest }.Announced := by
  rcases h with hwake | hcall | hheeds
  · rw [hchannel] at hwake
    rcases List.mem_cons.1 hwake with rfl | hwake
    · exact announced_of_heeds rfl
    · exact .inl hwake
  · exact .inr (.inl hcall)
  · rw [hstage] at hheeds
    exact hheeds.elim

/-- A wake-up is followed by draining. -/
theorem Announced.begin (h : s.Announced) (now : String)
    (answer : (request : DiskRequest) → request.Answer) {input : Console.Input}
    (hstage : s.stage = .received input) :
    (s.begin ((s.loop.console.begin now input).result answer)).Announced := by
  by_cases hinput : input = .wake
  · subst hinput
    exact announced_of_heeds trivial
  · refine h.mono (List.Subset.refl _) rfl fun hheeds ↦ ?_
    rw [hstage] at hheeds
    exact absurd hheeds hinput

/-- A thread of a run that adds an event to an empty queue owes a wake-up. -/
theorem announced_push (h : s.Sound) (pusher : Pusher)
    (hqueue : (s.push pusher).runner.queue ≠ []) : (s.push pusher).Announced := by
  by_cases hempty : s.runner.queue = []
  · -- The runner has counted a wake-up, so the thread owes it now.
    have hwakes : s.runner.wakes < (s.act pusher.act).runner.wakes :=
      ((World.wakes_act_of_nil pusher hempty h.hasWaker).resolve_left hqueue).symm ▸
        Nat.lt_succ_self _
    refine .inr (.inl ?_)
    rw [push, if_pos hwakes]
    exact List.append_ne_nil_of_right_ne_nil _ (List.cons_ne_nil _ _)
  · -- What announced the events before announces this one, too.
    rcases h.announced hempty with hwake | hcall | hheeds
    · exact .inl hwake
    · refine .inr (.inl ?_)
      rw [push]
      split
      · exact List.append_ne_nil_of_left_ne_nil hcall _
      · exact hcall
    · exact .inr (.inr hheeds)

/-! ### Scenes stay sound -/

theorem queue_begin {begun : Console.Begun} (h : begun.reply.Operates s.loop.console) :
    (s.begin begun).runner.queue = s.runner.queue := by
  rcases h with heq | ⟨call, heq⟩
  · exact congrArg Runner.queue heq
  · exact (congrArg Runner.queue heq).trans (Runner.perform_moves call s.runner).queue_eq

/-- The owner takes events off the queue only when it drains it. -/
theorem held_advance (now : String) (answer : (request : DiskRequest) → request.Answer)
    (hstage : ∀ last, s.stage ≠ .draining last) : (s.advance now answer).held = s.held := by
  have hadvanced := s.advanced now answer
  generalize s.advance now answer = s' at hadvanced ⊢
  cases hadvanced with
  | takes hdraining | applies hdraining => exact absurd hdraining (hstage _)
  | rests | receives | ends | begins | finds | presents | stops | waits | leaves => rfl

namespace Sound

variable (h : s.Sound)

include h

/-- What turns do to the world leaves it sound. -/
theorem of_world (hworld : ∃ acts, s'.world = s.world.after acts)
    (hdrains : ∀ {thread event}, s'.held thread = some event →
      thread = 0 ∧ ∃ last, s'.stage = .draining last)
    (hannounced : s'.runner.queue ≠ [] → s'.Announced) : s'.Sound where
  world := by
    obtain ⟨acts, heq⟩ := hworld
    exact heq ▸ h.world.after acts
  hasWaker := by
    obtain ⟨acts, heq⟩ := hworld
    exact ((congrArg (fun w : World ↦ w.runner.hasWaker) heq).trans
      (World.hasWaker_after acts s.world)).trans h.hasWaker
  drains := hdrains
  announced := hannounced

/-- While the owner does not drain the queue, it holds no event. -/
theorem free (hstage : ∀ last, s.stage ≠ .draining last) (thread : Nat) :
    s.held thread = none := by
  cases holds : s.held thread with
  | none => rfl
  | some event =>
    obtain ⟨-, last, hdraining⟩ := h.drains holds
    exact absurd hdraining (hstage last)

/-- Whatever the owner takes or lets go of, no other thread holds an event. -/
theorem eq_zero_of_update {held? : Option RunEvent} {thread : Nat} {event : RunEvent}
    (holds : Function.update s.held 0 held? thread = some event) : thread = 0 := by
  by_contra hne
  exact hne (h.drains ((Function.update_of_ne hne _ _).symm.trans holds)).1

theorem drains_advance (now : String) (answer : (request : DiskRequest) → request.Answer)
    {thread : Nat} {event : RunEvent} (holds : (s.advance now answer).held thread = some event) :
    thread = 0 ∧ ∃ last, (s.advance now answer).stage = .draining last := by
  have hadvanced := s.advanced now answer
  generalize s.advance now answer = s' at hadvanced holds ⊢
  cases hadvanced with
  | rests => exact h.drains holds
  | takes hstage | applies hstage => exact ⟨h.eq_zero_of_update holds, _, hstage⟩
  | finds hstage free =>
    obtain ⟨rfl, -⟩ := h.drains holds
    exact absurd (holds.symm.trans free) (Option.some_ne_none _)
  | receives hstage | ends hstage | begins hstage | presents hstage | stops hstage
  | waits hstage | leaves hstage =>
    -- These steps are made by an owner that holds no event, and they give it none.
    obtain ⟨-, last, hdraining⟩ := h.drains holds
    rw [hstage] at hdraining
    cases hdraining

theorem announced_advance (now : String) (answer : (request : DiskRequest) → request.Answer)
    (hqueue : (s.advance now answer).runner.queue ≠ []) : (s.advance now answer).Announced := by
  have hadvanced := s.advanced now answer
  generalize s.advance now answer = s' at hadvanced hqueue ⊢
  cases hadvanced with
  | rests => exact h.announced hqueue
  | receives hstage hchannel => exact (h.announced hqueue).receive hstage hchannel
  | begins hstage =>
    rw [queue_begin (Console.operates_begin answer now s.loop.console _)] at hqueue
    exact (h.announced hqueue).begin now answer hstage
  | takes hstage => exact announced_of_heeds (show s.stage.Heeds from hstage ▸ trivial)
  | applies hstage => exact announced_of_heeds (show s.stage.Heeds from hstage ▸ trivial)
  | finds hstage free hempty => exact absurd hempty hqueue
  | stops | leaves => exact announced_of_heeds trivial
  | ends hstage | presents hstage | waits hstage =>
    -- The owner heeds no wake-up on either side, so the announcement is out of its hands.
    refine (h.announced hqueue).mono (List.Subset.refl _) rfl fun hheeds ↦ ?_
    rw [hstage] at hheeds
    cases hheeds

theorem advance (now : String) (answer : (request : DiskRequest) → request.Answer) :
    (s.advance now answer).Sound :=
  h.of_world (world_advance now answer s) (h.drains_advance now answer)
    (h.announced_advance now answer)

/-- A turn of another thread leaves the scene sound if it leaves the queue announced. -/
theorem of_stage (hworld : ∃ acts, s'.world = s.world.after acts) (hheld : s'.held = s.held)
    (hstage : s'.stage = s.stage) (hannounced : s'.runner.queue ≠ [] → s'.Announced) :
    s'.Sound := by
  refine h.of_world hworld (fun {thread event} holds ↦ ?_) hannounced
  rw [hheld] at holds
  rw [hstage]
  exact h.drains holds

/-- An act of a thread of a run that leaves the queue as it is. -/
theorem act_of_queue_eq {a : Act} (hheld : (s.world.act a).held = s.held)
    (hqueue : (s.world.act a).runner.queue = s.runner.queue) : (s.act a).Sound := by
  refine h.of_stage ⟨[a], rfl⟩ hheld rfl fun hne ↦ ?_
  exact (h.announced (hqueue ▸ hne)).mono (List.Subset.refl _) rfl fun hheeds ↦ hheeds

/-- The owner may give up or stop while it holds no event. -/
theorem stop (hfree : ∀ thread, s.held thread = none) {stage : Stage} (hheeds : stage.Heeds) :
    { s with stage }.Sound := by
  refine h.of_world ⟨[], rfl⟩ (fun {thread event} holds ↦ ?_) fun _ ↦ announced_of_heeds hheeds
  exact absurd (holds.symm.trans (hfree thread)) (Option.some_ne_none _)

theorem wake (pusher : Pusher) :
    { s with
      calling := s.calling.erase pusher
      channel := s.channel ++ [Console.Input.wake] }.Sound :=
  h.of_stage ⟨[], rfl⟩ rfl rfl fun _ ↦ .inl (by simp)

theorem send (input : Console.Input) : { s with channel := s.channel ++ [input] }.Sound :=
  h.of_stage ⟨[], rfl⟩ rfl rfl fun hqueue ↦
    (h.announced hqueue).mono (List.subset_append_left _ _) rfl fun hheeds ↦ hheeds

theorem giveUp (now : String) (answer : (request : DiskRequest) → request.Answer)
    (hstage : ∀ last, s.stage ≠ .draining last) :
    { s.advance now answer with stage := .broken }.Sound := by
  refine (h.advance now answer).stop (fun thread ↦ ?_) trivial
  rw [held_advance now answer hstage]
  exact h.free hstage thread

theorem turn (t : Turn) : (s.turn t).Sound := by
  cases t with
  | returns run outcome =>
    exact h.act_of_queue_eq (World.held_act _ (by simp)) (World.queue_returns run outcome s.world)
  | looks run late =>
    exact h.act_of_queue_eq (World.held_act _ (by simp)) (World.queue_looks run late s.world)
  | pushes pusher =>
    have hheld : (s.world.act pusher.act).held = s.held :=
      World.held_act _ (by cases pusher <;> simp [Pusher.act])
    exact h.of_stage ⟨[pusher.act], rfl⟩ hheld rfl (announced_push h pusher)
  | wakes pusher =>
    rw [Scene.turn]
    split
    · exact h.wake pusher
    · exact h
  | sends input => exact h.send input
  | hangsUp =>
    rw [Scene.turn]
    split
    · rename_i hwaiting
      exact h.stop (h.free (by simp [hwaiting.1])) trivial
    · exact h
  | advances now answer => exact h.advance now answer
  | breaks now answer =>
    rw [Scene.turn]
    split
    · rename_i hstage
      exact h.giveUp now answer (by simp [hstage])
    · rename_i hstage
      exact h.giveUp now answer (by simp [hstage])
    · exact h

theorem after (turns : List Turn) : (s.after turns).Sound := by
  induction turns generalizing s with
  | nil => exact h
  | cons t turns ih => exact ih (h.turn t)

end Sound

/-- While the owner waits for its next input, events are in the queue only if a wake-up is in the
channel or some thread owes one. So if the session runs while no wake-up is on its way, the worker
of its run has not reported yet. -/
theorem no_wake_lost (policy : CommitPolicy) (supply : Supply) (exportDir : String)
    (turns : List Turn) (waiting : ((new policy supply exportDir).after turns).stage = .waiting) :
    let s := (new policy supply exportDir).after turns
    (s.runner.queue ≠ [] → .wake ∈ s.channel ∨ s.calling ≠ []) ∧
      (s.runner.session.isRunning = true → .wake ∉ s.channel → s.calling = [] →
        ∃ worker ∈ s.runner.slots.workers,
          s.runner.slots.isActive worker.ticket = true ∧ worker.reported = false) := by
  intro s
  have hs : s.Sound := (sound_new policy supply exportDir).after turns
  have hstage : s.stage = .waiting := waiting
  have hpending (hqueue : s.runner.queue ≠ []) : .wake ∈ s.channel ∨ s.calling ≠ [] := by
    rcases hs.announced hqueue with hwake | hcall | hheeds
    · exact .inl hwake
    · exact .inr hcall
    · rw [hstage] at hheeds
      exact hheeds.elim
  refine ⟨hpending, fun hrunning hwake hcall ↦ ?_⟩
  have hqueue : s.runner.queue = [] := by
    by_contra hne
    rcases hpending hne with hin | howes
    · exact hwake hin
    · exact howes hcall
  exact hs.world.exists_unreported hrunning hqueue (hs.free (by simp [hstage]))

/-- A run that ended while the owner waits: its worker has reported, and owes the wake-up. -/
theorem no_wake_lost_of_reported :
    let advances := Turn.advances "" fun _ ↦ .error .notFound
    let turns : List Turn :=
      [.sends (.line "1"), advances, advances, advances, advances, advances,
        .returns 0 (.broke ""), .pushes (.worker 0)]
    let s := (new .always {} "").after turns
    s.stage = .waiting ∧ s.runner.queue ≠ [] ∧ (.wake ∈ s.channel ∨ s.calling ≠ []) := by
  intro advances turns s
  have hstage : s.stage = .waiting := by decide
  have hqueue : s.runner.queue ≠ [] := by decide
  exact ⟨hstage, hqueue, (no_wake_lost _ _ _ turns hstage).1 hqueue⟩

end Scene

end Workbench
