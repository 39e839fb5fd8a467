/-!
# Errors of a session

What can go wrong when something is asked of a session. Failures of a run are not among them: they
become entries of the transcript.
-/

namespace Workbench

/-- Why a session did not do what was asked. -/
inductive SessionError where
  /-- Another run has not ended. -/
  | runInFlight
  /-- There is nothing to run. -/
  | emptyInput
  /-- No context could be created. -/
  | contextUnavailable (message : String)
  /-- The context could not be set to work. -/
  | workerSpawn (message : String)
  deriving DecidableEq, Repr

namespace SessionError

/-- The wording of an error. -/
def message : SessionError → String
  | runInFlight => "a run is already in flight"
  | emptyInput => "terminal input is empty"
  | contextUnavailable message => s!"failed to create execution context: {message}"
  | workerSpawn message => s!"failed to spawn run worker: {message}"

/-- Whether the request was refused before anything was done about it. -/
def isRejection : SessionError → Bool
  | runInFlight | emptyInput => true
  | contextUnavailable _ | workerSpawn _ => false

/-- The wording of the error that this one passes on. -/
def cause? : SessionError → Option String
  | runInFlight | emptyInput => none
  | contextUnavailable message | workerSpawn message => some message

end SessionError

end Workbench
