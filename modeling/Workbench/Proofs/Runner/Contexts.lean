import Workbench.Proofs.Runner.Pending

/-!
# Where the contexts are

A context that was created is in the active slot, in the idle one, or destroyed, and there is no
fourth place: refused runs, runs given up, runs that broke and runs that ended well all move it
between these three. That is what `Slots.Accounted` says in terms of one list that is a permutation
of all contexts; here it is read off place by place, for every schedule.
-/

namespace Workbench

namespace Slots

variable {slots : Slots} {context : Nat}

/-- Where a context can be. -/
inductive Place where
  | active
  | idle
  | destroyed
  deriving DecidableEq, Repr

/-- Whether a context is in a place. -/
def Holds (slots : Slots) (context : Nat) : Place → Prop
  | .active => slots.active.map (·.context) = some context
  | .idle => slots.idle = some context
  | .destroyed => context ∈ slots.destroyed

theorem mem_contexts_iff : context ∈ slots.contexts ↔ ∃ place, slots.Holds context place := by
  simp only [contexts, List.mem_append, Option.mem_toList]
  constructor
  · rintro ((hactive | hidle) | hdestroyed)
    · exact ⟨.active, hactive⟩
    · exact ⟨.idle, hidle⟩
    · exact ⟨.destroyed, hdestroyed⟩
  · rintro ⟨place, hplace⟩
    cases place with
    | active => exact .inl (.inl hplace)
    | idle => exact .inl (.inr hplace)
    | destroyed => exact .inr hplace

namespace Accounted

theorem nodup (h : slots.Accounted) : slots.contexts.Nodup :=
  h.perm.nodup_iff.2 List.nodup_range

/-- Nothing is kept or destroyed that was not created. -/
theorem exists_holds_iff (h : slots.Accounted) :
    (∃ place, slots.Holds context place) ↔ context < slots.created := by
  rw [← mem_contexts_iff, h.perm.mem_iff, List.mem_range]

/-- Contexts are destroyed at most once. -/
theorem nodup_destroyed (h : slots.Accounted) : slots.destroyed.Nodup :=
  h.nodup.of_append_right

theorem not_destroyed_of_active (h : slots.Accounted) (hactive : slots.Holds context .active) :
    ¬slots.Holds context .destroyed := fun hdestroyed ↦
  List.disjoint_of_nodup_append h.nodup
    (List.mem_append_left _ (Option.mem_toList.2 hactive)) hdestroyed

theorem not_destroyed_of_idle (h : slots.Accounted) (hidle : slots.Holds context .idle) :
    ¬slots.Holds context .destroyed := fun hdestroyed ↦
  List.disjoint_of_nodup_append h.nodup
    (List.mem_append_right _ (Option.mem_toList.2 hidle)) hdestroyed

/-- At most one of the slots is taken. -/
theorem active_or_idle (h : slots.Accounted) : slots.active = none ∨ slots.idle = none := by
  cases ha : slots.active with
  | none => exact .inl rfl
  | some a => exact .inr (h.idle_eq_none ha)

theorem not_idle_of_active (h : slots.Accounted) {context' : Nat}
    (hactive : slots.Holds context .active) : ¬slots.Holds context' .idle := by
  intro hidle
  rcases h.active_or_idle with hnone | hnone
  · simp [Holds, hnone] at hactive
  · simp [Holds, hnone] at hidle

/-- A context is in one place only. -/
theorem place_unique (h : slots.Accounted) {place place' : Place}
    (hplace : slots.Holds context place) (hplace' : slots.Holds context place') :
    place = place' := by
  cases place <;> cases place'
  case active.active | idle.idle | destroyed.destroyed => rfl
  case active.idle => exact absurd hplace' (h.not_idle_of_active hplace)
  case idle.active => exact absurd hplace (h.not_idle_of_active hplace')
  case active.destroyed => exact absurd hplace' (h.not_destroyed_of_active hplace)
  case destroyed.active => exact absurd hplace (h.not_destroyed_of_active hplace')
  case idle.destroyed => exact absurd hplace' (h.not_destroyed_of_idle hplace)
  case destroyed.idle => exact absurd hplace (h.not_destroyed_of_idle hplace')

theorem existsUnique_place (h : slots.Accounted) (hcreated : context < slots.created) :
    ∃! place, slots.Holds context place := by
  obtain ⟨place, hplace⟩ := h.exists_holds_iff.2 hcreated
  exact ⟨place, hplace, fun place' hplace' ↦ h.place_unique hplace' hplace⟩

/-- A context that lives on is the one in whichever slot is taken, so there is at most one. -/
theorem eq_of_alive (h : slots.Accounted) {context' : Nat} (hcreated : context < slots.created)
    (halive : context ∉ slots.destroyed) (hcreated' : context' < slots.created)
    (halive' : context' ∉ slots.destroyed) : context = context' := by
  obtain ⟨place, hplace⟩ := h.exists_holds_iff.2 hcreated
  obtain ⟨place', hplace'⟩ := h.exists_holds_iff.2 hcreated'
  cases place with
  | destroyed => exact absurd hplace halive
  | active =>
    cases place' with
    | destroyed => exact absurd hplace' halive'
    | active => exact Option.some.inj (hplace.symm.trans hplace')
    | idle => exact absurd hplace' (h.not_idle_of_active hplace)
  | idle =>
    cases place' with
    | destroyed => exact absurd hplace' halive'
    | active => exact absurd hplace (h.not_idle_of_active hplace')
    | idle => exact Option.some.inj (hplace.symm.trans hplace')

/-- With both slots free, all contexts are destroyed. -/
theorem destroyed_of_free (h : slots.Accounted) (ha : slots.active = none)
    (hidle : slots.idle = none) (hcreated : context < slots.created) :
    slots.destroyed.count context = 1 := by
  obtain ⟨place, hplace⟩ := h.exists_holds_iff.2 hcreated
  cases place with
  | active => simp [Holds, ha] at hplace
  | idle => simp [Holds, hidle] at hplace
  | destroyed => exact List.count_eq_one_of_mem h.nodup_destroyed hplace

end Accounted

end Slots

namespace Runner

variable {r : Runner}

/-- A shutdown ends the run in flight and frees both slots. -/
theorem Coherent.shutdown_free (h : r.Coherent) :
    r.shutdown.session.flight = none ∧ r.shutdown.slots.active = none ∧
      r.shutdown.slots.idle = none := by
  have hidle := flight_abort r
  have hcoherent := h.moves (abort_moves r)
  obtain ⟨-, hactive, hfree, -⟩ := hcoherent.slots.shutdown (hcoherent.active_eq_none hidle)
  exact ⟨hidle, hactive, hfree⟩

end Runner

namespace World

/-- After every schedule, each context that was created is in exactly one place, in none if it was
not created, and was destroyed at most once; the two slots are not both taken, so at most one
context lives; and exactly the runs outside the active slot were told to stop. A shutdown then ends
the run in flight and leaves every context destroyed, once. -/
theorem contexts_accounted (policy : CommitPolicy) (supply : Supply) (hasWaker : Bool)
    (acts : List Act) :
    let r := ((new policy supply hasWaker).after acts).runner
    (∀ context < r.slots.created, ∃! place, r.slots.Holds context place) ∧
      (∀ context place, r.slots.Holds context place → context < r.slots.created) ∧
      r.slots.destroyed.Nodup ∧
      (r.slots.active = none ∨ r.slots.idle = none) ∧
      (∀ context < r.slots.created, ∀ context' < r.slots.created,
        context ∉ r.slots.destroyed → context' ∉ r.slots.destroyed → context = context') ∧
      (∀ w ∈ r.slots.workers, w.cancelled = true ↔ r.slots.isActive w.ticket = false) ∧
      r.shutdown.session.isRunning = false ∧
      ∀ context < r.shutdown.slots.created, r.shutdown.slots.destroyed.count context = 1 := by
  intro r
  have hcoherent : r.Coherent := (sound_after policy supply hasWaker acts).coherent
  have hslots := hcoherent.slots
  obtain ⟨hflight, hactive, hidle⟩ := hcoherent.shutdown_free
  have hshutdown : r.shutdown.Coherent := hcoherent.moves (Runner.shutdown_moves r)
  refine ⟨fun _ ↦ hslots.existsUnique_place, fun _ place hplace ↦ ?_, hslots.nodup_destroyed,
    hslots.active_or_idle, ?_, fun _ hw ↦ hslots.cancelled_iff hw, ?_, fun _ hcreated ↦ ?_⟩
  · exact hslots.exists_holds_iff.1 ⟨place, hplace⟩
  · intro context hcreated context' hcreated' halive halive'
    exact hslots.eq_of_alive hcreated halive hcreated' halive'
  · exact Bool.eq_false_iff.2 (Session.not_isRunning_iff.2 hflight)
  · exact hshutdown.slots.destroyed_of_free hactive hidle hcreated

end World

end Workbench
