import Workbench.Session.Basic

/-!
# What a host is asked to do

`ContextHost.recorded` keeps, beside the state of a host, the list of all that it was asked: runs it
started, runs it refused to start, and runs it was told to give up. `ContextHost.compliant` is a
host that starts every run, or refuses every run with the error that is its state.
-/

namespace Workbench

/-- One thing that a host was asked to do. -/
inductive HostCall where
  /-- A run was started. -/
  | started (request : Request)
  /-- A run was refused. -/
  | refused (request : Request) (error : SessionError)
  /-- A run was given up. -/
  | aborted (generation : Nat)
  deriving DecidableEq

namespace ContextHost

variable {η : Type}

/-- The host together with the calls made to it, in order. -/
def recorded (host : ContextHost η) : ContextHost (η × List HostCall) where
  start request h :=
    match host.start request h.1 with
    | (.ok (), inner) => (.ok (), inner, h.2 ++ [.started request])
    | (.error error, inner) => (.error error, inner, h.2 ++ [.refused request error])
  abort generation h := (host.abort generation h.1, h.2 ++ [.aborted generation])

/-- A host that starts runs unless its state is an error. -/
def compliant : ContextHost (Option SessionError) where
  start _ refusal := (refusal.elim (.ok ()) .error, refusal)
  abort _ refusal := refusal

end ContextHost

end Workbench
