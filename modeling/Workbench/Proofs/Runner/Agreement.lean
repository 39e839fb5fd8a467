import Workbench.Proofs.Runner.Pending
import Workbench.Proofs.Session.Hosts

/-!
# What the session and the slots can rely on

The slots do what they are asked without looking: a start puts a run into the active slot whatever
is in it, and giving up a run that is not there does nothing. `Slots.strictHost` is the host that
breaks down in these cases, for good. That session and slots agree means that nobody notices: after
every schedule, each operation with the strict host is the operation with the slots themselves.
-/

namespace Workbench

/-- The slots as a host that has broken down if its state is `none`: it breaks down when a run is to
be started while the active slot is taken, and when a run is to be given up that is not in it. -/
def Slots.strictHost : ContextHost (Option Slots) where
  start request
    | none => (.ok (), none)
    | some slots =>
      if slots.active = none then (slots.start request).map id some else (.ok (), none)
  abort generation slots? :=
    slots?.bind fun slots ↦ slots.active.bind fun a ↦
      if a.ticket.generation = generation then some (slots.discard a) else none

namespace Runner.Coherent

variable {r : Runner}

/-- The strict host does not break down. -/
theorem strictHost_follows (h : r.Coherent) :
    Slots.strictHost.Follows Slots.host some r.session.flight r.slots where
  start hidle request := by
    have ha := h.active_eq_none hidle
    exact if_pos ha
  abort flight hflight := by
    obtain ⟨a, ha, hgeneration⟩ := h.exists_active hflight
    have hdiscard : Slots.host.abort flight.generation r.slots = r.slots.discard a :=
      h.abort_slots_eq ha hflight
    rw [hdiscard]
    simp [Slots.strictHost, ha, hgeneration]

/-- A response for the active run is applied. -/
theorem complete_applied (h : r.Coherent) {a : ActiveRun} (ha : r.slots.active = some a)
    (now : String) (response : Response) :
    (r.session.complete now a.ticket.generation response).1 = .applied := by
  obtain ⟨mode, haccepting⟩ := h.exists_accepting ha
  rcases Session.complete_cases now a.ticket.generation response r.session with
    ⟨hnone, _⟩ | ⟨_, _, heq⟩
  · simp [hnone] at haccepting
  · rw [heq]

/-- An error of the active run is applied. -/
theorem fail_applied (h : r.Coherent) {a : ActiveRun} (ha : r.slots.active = some a)
    (message : String) : (r.session.fail a.ticket.generation message).1 = .applied := by
  obtain ⟨mode, haccepting⟩ := h.exists_accepting ha
  rcases Session.fail_cases a.ticket.generation message r.session with ⟨hnone, _⟩ | ⟨_, _, heq⟩
  · simp [hnone] at haccepting
  · rw [heq]

end Runner.Coherent

namespace World

/-- After every schedule, a run of some generation is in flight exactly if a run of that generation
is in the active slot, and then that is the current generation. So no start finds the active slot
taken and no run to be given up is missing from it: every operation goes as with the strict host,
the last two also as parts of a shutdown and of an event about a run that took too long. And what
is offered for the run in the active slot is applied. -/
theorem session_agrees_with_slots (policy : CommitPolicy) (supply : Supply) (hasWaker : Bool)
    (acts : List Act) :
    let r := ((new policy supply hasWaker).after acts).runner
    (∀ generation, r.session.runningGeneration? = some generation ↔
        ∃ a, r.slots.active = some a ∧ a.ticket.generation = generation) ∧
      (∀ generation, r.session.runningGeneration? = some generation →
        generation = r.session.generation) ∧
      (∀ mode source, r.session.dispatch Slots.strictHost mode source (some r.slots) =
        (r.session.dispatch Slots.host mode source r.slots).map id (Prod.map id some)) ∧
      (∀ line, r.session.runLine Slots.strictHost line (some r.slots) =
        (r.session.runLine Slots.host line r.slots).map id (Prod.map id some)) ∧
      r.session.runProgram Slots.strictHost (some r.slots) =
        (r.session.runProgram Slots.host r.slots).map id (Prod.map id some) ∧
      (∀ program, r.session.openProgram Slots.strictHost program (some r.slots) =
        (r.session.openProgram Slots.host program r.slots).map id some) ∧
      r.session.abort Slots.strictHost (some r.slots) =
        (r.session.abort Slots.host r.slots).map id (Prod.map id some) ∧
      ∀ a, r.slots.active = some a →
        (∀ now response,
          (r.session.complete now a.ticket.generation response).1 = .applied) ∧
        ∀ message, (r.session.fail a.ticket.generation message).1 = .applied := by
  intro r
  have hcoherent : r.Coherent := (sound_after policy supply hasWaker acts).coherent
  have hstrict := hcoherent.strictHost_follows
  refine ⟨fun generation ↦ ?_, fun generation hrunning ↦ ?_, Session.dispatch_map hstrict,
    Session.runLine_map hstrict, Session.runProgram_map hstrict, Session.openProgram_map hstrict,
    Session.abort_map hstrict, fun a ha ↦ ⟨hcoherent.complete_applied ha,
      hcoherent.fail_applied ha⟩⟩
  · rw [hcoherent.generation_eq, Option.map_eq_some_iff]
  · obtain ⟨flight, hflight, rfl⟩ := Option.map_eq_some_iff.1 hrunning
    exact hcoherent.current hflight

end World

end Workbench
