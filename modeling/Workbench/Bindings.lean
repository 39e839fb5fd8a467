import Workbench.Json.Value

/-!
# Bindings

The variables of a session, each a name bound to a value, in the order of their names. Bindings are
opaque to a session: only the context that runs a piece of source interprets the values.
-/

namespace Workbench

/-- Names bound to values, one value a name. -/
structure Bindings where
  /-- The names with their values. -/
  entries : Keyed Json
  /-- The names increase along the list. -/
  ordered : entries.Ordered
  deriving DecidableEq

namespace Bindings

/-- No bindings. -/
def empty : Bindings :=
  ⟨[], List.Pairwise.nil⟩

instance : EmptyCollection Bindings :=
  ⟨empty⟩

instance : Inhabited Bindings :=
  ⟨empty⟩

/-- The bindings with `name` bound to `value`. -/
def insert (b : Bindings) (name : String) (value : Json) : Bindings :=
  ⟨b.entries.insert name value, b.ordered.insert name value⟩

/-- The value of a name. -/
def get? (b : Bindings) (name : String) : Option Json :=
  b.entries.get? name

/-- The bindings of some pairs; of two pairs with one name the later counts. -/
def ofList (pairs : List (String × Json)) : Bindings :=
  ⟨.ofList pairs, Keyed.ordered_ofList pairs⟩

/-- How many names are bound. -/
def size (b : Bindings) : Nat :=
  b.entries.length

/-- Whether no name is bound. -/
def isEmpty (b : Bindings) : Bool :=
  b.entries.isEmpty

/-- The bound names, in order. -/
def names (b : Bindings) : List String :=
  b.entries.map (·.1)

end Bindings

end Workbench
