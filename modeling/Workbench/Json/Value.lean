import Workbench.Keyed

/-!
# JSON values

Numbers come in two kinds that never mix: whole numbers that fit 64 bits, signed or unsigned, and
doubles. The members of an object are kept in the order of their keys. `Json.Valid` collects what
every value that was read, or computed from values that were read, satisfies: whole numbers are in
range, doubles are finite and keys increase strictly.
-/

namespace Workbench

/-- A number of either kind. -/
inductive Json.Number where
  /-- A whole number from `-2 ^ 63` to `2 ^ 64 - 1`. -/
  | whole (n : Int)
  /-- A double, also where its value happens to be whole. -/
  | double (x : Float)
  deriving DecidableEq

/-- A JSON value. -/
inductive Json where
  | null
  | bool (b : Bool)
  | number (n : Json.Number)
  | string (s : String)
  | array (items : List Json)
  | object (members : List (String × Json))

namespace Json

/-! ### Equality is decidable -/

mutual

/-- Decides the equality of two values. -/
def decEq : (a b : Json) → Decidable (a = b)
  | null, null => isTrue rfl
  | bool a, bool b => decidable_of_iff (a = b) (by simp)
  | number a, number b => decidable_of_iff (a = b) (by simp)
  | string a, string b => decidable_of_iff (a = b) (by simp)
  | array a, array b =>
    haveI := decEqItems a b
    decidable_of_iff (a = b) (by simp)
  | object a, object b =>
    haveI := decEqMembers a b
    decidable_of_iff (a = b) (by simp)
  | null, bool _ | null, number _ | null, string _ | null, array _ | null, object _
  | bool _, null | bool _, number _ | bool _, string _ | bool _, array _ | bool _, object _
  | number _, null | number _, bool _ | number _, string _ | number _, array _
  | number _, object _ | string _, null | string _, bool _ | string _, number _
  | string _, array _ | string _, object _ | array _, null | array _, bool _
  | array _, number _ | array _, string _ | array _, object _ | object _, null
  | object _, bool _ | object _, number _ | object _, string _ | object _, array _ =>
    isFalse (by simp)

/-- Decides the equality of two lists of items. -/
def decEqItems : (a b : List Json) → Decidable (a = b)
  | [], [] => isTrue rfl
  | [], _ :: _ | _ :: _, [] => isFalse (by simp)
  | x :: a, y :: b =>
    haveI := decEq x y
    haveI := decEqItems a b
    decidable_of_iff (x = y ∧ a = b) (by simp)

/-- Decides the equality of two lists of members. -/
def decEqMembers : (a b : List (String × Json)) → Decidable (a = b)
  | [], [] => isTrue rfl
  | [], _ :: _ | _ :: _, [] => isFalse (by simp)
  | (k, x) :: a, (l, y) :: b =>
    haveI := decEq x y
    haveI := decEqMembers a b
    decidable_of_iff ((k = l ∧ x = y) ∧ a = b) (by simp)

end

instance : DecidableEq Json :=
  decEq

instance : Inhabited Json :=
  ⟨null⟩

/-! ### Shape -/

/-- A whole number as a value. -/
def ofInt (n : Int) : Json :=
  number (.whole n)

mutual

/-- How many containers are open at once at the deepest place of a value. -/
def depth : Json → Nat
  | null | bool _ | number _ | string _ => 0
  | array items => itemsDepth items + 1
  | object members => membersDepth members + 1

/-- The greatest depth among some items. -/
def itemsDepth : List Json → Nat
  | [] => 0
  | x :: rest => max (depth x) (itemsDepth rest)

/-- The greatest depth among some members. -/
def membersDepth : List (String × Json) → Nat
  | [] => 0
  | (_, x) :: rest => max (depth x) (membersDepth rest)

end

end Json

end Workbench
