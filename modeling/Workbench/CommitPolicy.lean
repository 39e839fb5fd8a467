import Workbench.Text.Blank

/-!
# When a run's bindings are kept
-/

namespace Workbench

/-- Which terminal runs replace the bindings of the session. -/
inductive CommitPolicy where
  /-- All that end with a response: what a line bound before it failed stays visible. -/
  | always
  /-- Only those that succeed. -/
  | onSuccess
  deriving DecidableEq, Repr, Inhabited

namespace CommitPolicy

/-- Whether a run that ended so replaces the bindings. -/
def commits : CommitPolicy → (ok : Bool) → Bool
  | always, _ => true
  | onSuccess, ok => ok

/-- The error for a word that names no policy. -/
def unsupported (word : String) : String :=
  s!"Unsupported environment commit policy '{word}'. Expected 'always' or 'on-success'"

/-- The policy that a text names. Blanks around it and the case of ASCII letters do not matter. -/
def ofText (text : String) : Except String CommitPolicy :=
  let word := String.ofList ((Text.trim text.toList).map Char.toLower)
  if word = "always" then .ok always
  else if word = "on-success" ∨ word = "on_success" then .ok onSuccess
  else .error (unsupported word)

end CommitPolicy

end Workbench
