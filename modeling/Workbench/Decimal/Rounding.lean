/-!
# Binary formats

A binary format keeps some binary digits of a number and bounds the place of the last one. `nearest`
gives the number of a format that is nearest to a quotient, as `significand · 2 ^ exponent` in exact
arithmetic; of two that are equally near it takes the one with an even significand.
-/

namespace Workbench.Decimal

/-- A quotient, rounded to the nearest whole number and to the even one of two. -/
def roundedQuotient (a b : Nat) : Nat :=
  let q := a / b
  let twice := 2 * (a % b)
  if b < twice ∨ twice = b ∧ q % 2 = 1 then q + 1 else q

/-- A binary format. -/
structure BinaryFormat where
  /-- How many binary digits a significand has at most. -/
  precision : Nat
  /-- The least exponent. -/
  least : Int
  /-- Numbers from two to the power of this one on are too great. -/
  limit : Int
  /-- How many digits of a significand stand behind its hexadecimal point. -/
  behindPoint : Nat
  deriving DecidableEq, Repr

namespace BinaryFormat

/-- Doubles, of which one binary digit stands in front of the point. -/
def double : BinaryFormat :=
  ⟨53, -1074, 1024, 52⟩

/-- Numbers of eighty bits, of which a hexadecimal digit stands in front of the point. -/
def extended : BinaryFormat :=
  ⟨64, -16445, 16384, 60⟩

/-- A quotient in units of a power of two, rounded. -/
def inUnits (a b : Nat) (exponent : Int) : Nat :=
  roundedQuotient (a * Nat.pow 2 (-exponent).toNat) (b * Nat.pow 2 exponent.toNat)

/-- The significand and the exponent of the number that is nearest to a quotient; nothing if it is
too great. -/
def nearest? (format : BinaryFormat) (a b : Nat) : Option (Nat × Int) :=
  if a = 0 then some (0, format.least)
  else
    let low := max format.least ((a.log2 : Int) - b.log2 - format.precision)
    let exponent :=
      if a * Nat.pow 2 (-low).toNat < Nat.pow 2 format.precision * b * Nat.pow 2 low.toNat then low
      else low + 1
    let significand := inUnits a b exponent
    if format.limit < (significand.log2 : Int) + exponent + 1 then none
    else some (significand, exponent)

end BinaryFormat

end Workbench.Decimal
