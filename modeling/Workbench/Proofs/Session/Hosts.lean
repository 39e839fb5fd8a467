import Workbench.Proofs.Session.Cases

/-!
# The same operation with another host

A session does not look into its host. Two hosts whose states are related by a function are
indistinguishable for it, and an operation with the one is the operation with the other, carried
along that function. `ContextHost.Follows` asks for that only where the session can notice: a start
while no run is in flight, and giving up the run in flight.

This is used for slots that do not tell apart whether runs have reported, and for a host that breaks
down when it is not asked properly.
-/

namespace Workbench

variable {η η' : Type}

/-- What a session with this run in flight can ask `host'` in the state `f h` is answered as `host`
answers it in the state `h`, and leads to corresponding states. -/
structure ContextHost.Follows (host' : ContextHost η') (host : ContextHost η) (f : η → η')
    (flight? : Option Flight) (h : η) : Prop where
  start : flight? = none → ∀ request, host'.start request (f h) = (host.start request h).map id f
  abort : ∀ flight, flight? = some flight →
    host'.abort flight.generation (f h) = f (host.abort flight.generation h)

namespace Session

variable {host' : ContextHost η'} {host : ContextHost η} {f : η → η'} {s : Session} {h : η}

theorem dispatch_map (hfollows : host'.Follows host f s.flight h) (mode : RunMode)
    (source : String) :
    s.dispatch host' mode source (f h) =
      (s.dispatch host mode source h).map id (Prod.map id f) := by
  rw [dispatch, dispatch]
  by_cases hrunning : s.isRunning = true
  · rw [if_pos hrunning, if_pos hrunning]
    rfl
  · rw [if_neg hrunning, if_neg hrunning]
    by_cases hblank : mode = .terminal ∧ Text.allBlank source = true
    · rw [if_pos hblank, if_pos hblank]
      rfl
    · rw [if_neg hblank, if_neg hblank, hfollows.start (not_isRunning_iff.1 hrunning)]
      cases host.start (s.requestFor mode source) h with
      | mk answer h' => cases answer <;> rfl

theorem runProgram_map (hfollows : host'.Follows host f s.flight h) :
    s.runProgram host' (f h) = (s.runProgram host h).map id (Prod.map id f) :=
  dispatch_map hfollows .program s.program.text

/-- The line is noted in the history first; no host hears of that. -/
theorem runLine_map (hfollows : host'.Follows host f s.flight h) (line : String) :
    s.runLine host' line (f h) = (s.runLine host line h).map id (Prod.map id f) := by
  rw [runLine, runLine, submit]
  by_cases hrunning : s.isRunning = true
  · rw [if_pos hrunning]
    rfl
  · rw [if_neg hrunning]
    by_cases hblank : Text.allBlank line = true
    · rw [if_pos hblank]
      rfl
    · rw [if_neg hblank]
      have hnoted : host'.Follows host f { s with history := s.history.record line }.flight h :=
        hfollows
      exact dispatch_map hnoted .terminal line

theorem abort_map (hfollows : host'.Follows host f s.flight h) :
    s.abort host' (f h) = (s.abort host h).map id (Prod.map id f) := by
  cases hflight : s.flight with
  | none =>
    rw [abort_of_idle hflight, abort_of_idle hflight]
    rfl
  | some flight =>
    rw [abort_of_flight hflight, abort_of_flight hflight, hfollows.abort flight hflight]
    rfl

theorem openProgram_map (hfollows : host'.Follows host f s.flight h) (program : Program) :
    s.openProgram host' program (f h) = (s.openProgram host program h).map id f := by
  cases hflight : s.flight with
  | none =>
    rw [openProgram_of_idle program hflight, openProgram_of_idle program hflight]
    rfl
  | some flight =>
    rw [openProgram_of_flight program hflight, openProgram_of_flight program hflight,
      hfollows.abort flight hflight]
    rfl

end Session

end Workbench
