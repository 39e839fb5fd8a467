import Workbench.Proofs.Console.Scene

/-!
# What a turn can change

Most turns are made beside the owner of the console: they change the queue and what is known of the
threads of the runs, and put inputs on the channel (`Scene.puts`). Session and slots, what was shown
and how far the owner is stay as they are (`Beside`). `Turned` lists these turns and the steps of
the owner, so that what holds of all scenes can be shown without opening the threads of the runs
again.
-/

namespace Workbench

namespace World

/-- Only operations and events that take effect change the session. -/
theorem session_act {a : Act} (hcall : ∀ call, a ≠ .call call)
    (happlies : ∀ thread now, a ≠ .applies thread now) (w : World) :
    (w.act a).runner.session = w.runner.session := by
  have hacted := acted w a
  generalize w.act a = w' at hacted ⊢
  cases hacted with
  | calls => exact absurd rfl (hcall _)
  | applies => exact absurd rfl (happlies _ _)
  | reports => exact Runner.session_report _ _ _
  | alarms => exact Runner.session_post _ _
  | rests | returns | looks | takes => rfl

/-- Only operations and events that take effect move contexts. -/
theorem contexts_act {a : Act} (hcall : ∀ call, a ≠ .call call)
    (happlies : ∀ thread now, a ≠ .applies thread now) (w : World) :
    (w.act a).runner.slots.active = w.runner.slots.active ∧
      (w.act a).runner.slots.idle = w.runner.slots.idle := by
  have hacted := acted w a
  generalize w.act a = w' at hacted ⊢
  cases hacted with
  | calls => exact absurd rfl (hcall _)
  | applies => exact absurd rfl (happlies _ _)
  | reports =>
    rw [Runner.slots_report]
    exact ⟨rfl, rfl⟩
  | alarms =>
    rw [Runner.slots_post]
    exact ⟨rfl, rfl⟩
  | rests | returns | looks | takes => exact ⟨rfl, rfl⟩

end World

namespace Scene

/-- The inputs that a turn puts on the channel. -/
def puts (s : Scene) : Turn → List Console.Input
  | .sends input => [input]
  | .wakes pusher => if pusher ∈ s.calling then [.wake] else []
  | _ => []

/-- A turn beside the owner: what it leaves as it is, and what it puts on the channel. -/
structure Beside (t : Turn) (s s' : Scene) : Prop where
  session : s'.loop.console.session = s.loop.console.session
  active : s'.runner.slots.active = s.runner.slots.active
  idle : s'.runner.slots.idle = s.runner.slots.idle
  printed : s'.loop.console.printed = s.loop.console.printed
  shown : s'.loop.shown = s.loop.shown
  closed : s'.loop.closed = s.loop.closed
  stage : s'.stage = s.stage
  channel : s'.channel = s.channel ++ s.puts t

/-- What a turn can make of a scene. -/
inductive Turned (s : Scene) : Turn → Scene → Prop where
  | beside {t : Turn} {s' : Scene} (other : ∀ now answer, t ≠ .advances now answer)
      (h : Beside t s s') : Turned s t s'
  | hangsUp (stage : s.stage = .waiting) (channel : s.channel = []) :
      Turned s .hangsUp { s with stage := .leaving }
  | advances {now : String} {answer : (request : DiskRequest) → request.Answer} {s' : Scene}
      (h : Advanced now answer s s') : Turned s (.advances now answer) s'
  | breaks {now : String} {answer : (request : DiskRequest) → request.Answer} (s' : Scene) :
      Turned s (.breaks now answer) { s' with stage := .broken }

/-- An act of a thread of a run is one beside the owner, whatever becomes of the debts. -/
theorem beside_act {t : Turn} {a : Act} (hcall : ∀ call, a ≠ .call call)
    (happlies : ∀ thread now, a ≠ .applies thread now) (calling : List Pusher) (s : Scene)
    (hputs : s.puts t = []) : Beside t s { s.act a with calling } where
  session := World.session_act hcall happlies s.world
  active := (World.contexts_act hcall happlies s.world).1
  idle := (World.contexts_act hcall happlies s.world).2
  printed := rfl
  shown := rfl
  closed := rfl
  stage := rfl
  channel := by rw [hputs, List.append_nil]; rfl

/-- A scene to which nothing happens but that inputs are put on the channel. -/
theorem beside_of_channel {t : Turn} (calling : List Pusher) (s : Scene) :
    Beside t s { s with calling, channel := s.channel ++ s.puts t } :=
  ⟨rfl, rfl, rfl, rfl, rfl, rfl, rfl, rfl⟩

theorem beside_refl {t : Turn} {s : Scene} (hputs : s.puts t = []) : Beside t s s :=
  ⟨rfl, rfl, rfl, rfl, rfl, rfl, rfl, by rw [hputs, List.append_nil]⟩

theorem turned (t : Turn) (s : Scene) : Turned s t (s.turn t) := by
  cases t with
  | returns run outcome =>
    exact .beside (by simp) (beside_act (by simp) (by simp) s.calling s rfl)
  | looks run late => exact .beside (by simp) (beside_act (by simp) (by simp) s.calling s rfl)
  | pushes pusher =>
    refine .beside (by simp) (beside_act ?_ ?_ _ s rfl)
    · cases pusher <;> simp [Pusher.act]
    · cases pusher <;> simp [Pusher.act]
  | wakes pusher =>
    rw [turn]
    split
    · rename_i howes
      have hputs : s.puts (.wakes pusher) = [.wake] := if_pos howes
      rw [← hputs]
      exact .beside (by simp) (beside_of_channel _ s)
    · rename_i hfree
      exact .beside (by simp) (beside_refl (if_neg hfree))
  | sends input => exact .beside (by simp) (beside_of_channel s.calling s)
  | hangsUp =>
    rw [turn]
    split
    · rename_i hwaiting
      exact .hangsUp hwaiting.1 hwaiting.2
    · exact .beside (by simp) (beside_refl rfl)
  | advances now answer => exact .advances (advanced now answer s)
  | breaks now answer =>
    rw [turn]
    split
    · exact .breaks _
    · exact .breaks _
    · exact .beside (by simp) (beside_refl rfl)

end Scene

end Workbench
