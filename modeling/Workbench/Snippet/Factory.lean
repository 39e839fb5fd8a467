import Workbench.Snippet.Run

/-!
# Contexts for snippets

A factory numbers the contexts it creates and knows which of them were destroyed. A factory can be
made to create none.
-/

namespace Workbench.Snippet

/-- The error of a factory that creates nothing. -/
def creationDisabled : String :=
  "mock context creation disabled"

/-- A source of contexts. -/
structure Factory where
  /-- Whether it creates nothing. -/
  failing : Bool := false
  /-- How many contexts it has created. -/
  created : Nat := 0
  /-- The contexts that were destroyed. -/
  destroyed : List Nat := []
  deriving DecidableEq, Repr

namespace Factory

/-- Creates a context. -/
def create (f : Factory) : Except String Nat × Factory :=
  if f.failing then (.error creationDisabled, f)
  else (.ok f.created, { f with created := f.created + 1 })

/-- Destroys a context. Once is enough. -/
def destroy (context : Nat) (f : Factory) : Factory :=
  if context ∈ f.destroyed then f else { f with destroyed := f.destroyed ++ [context] }

/-- Executes a request in a context. -/
def execute (f : Factory) (context : Nat) (stopAt : Option Nat) (request : Request) :
    Context.Ending :=
  Snippet.execute { destroyed := context ∈ f.destroyed, stopAt } request

end Factory

end Workbench.Snippet
