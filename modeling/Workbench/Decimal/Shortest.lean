import Workbench.Text.Numeral

/-!
# The fewest digits that identify a double

A finite double is `significand · 2 ^ exponent`, and the reals that round to it form an interval
around it. `Binary.shortest` looks on ever finer decimal grids, from the place of the leading digit
down, for a point of that interval next to the double itself. The first grid that has one gives the
digits; of two such points the nearer is taken, and a `Tie` decides when both are equally near.

Everything is exact arithmetic on natural numbers: an interval is kept as three numerators over one
denominator, so that a test is a comparison of products.
-/

namespace Workbench.Decimal

/-- Which of two equally near candidates is taken. -/
inductive Tie where
  /-- The even one. -/
  | toEven
  /-- The greater one. -/
  | up
  deriving DecidableEq, Repr

/-- The decimal `coefficient · 10 ^ exponent`. -/
structure Scaled where
  coefficient : Nat
  exponent : Int
  deriving DecidableEq, Repr

/-- The magnitude `significand · 2 ^ exponent` of a finite double. -/
structure Binary where
  significand : Nat
  exponent : Int
  /-- The gap to the next double below is half the gap to the next one above. -/
  narrowBelow : Bool
  deriving DecidableEq, Repr

/-- A double taken apart. The flag of the signed forms says whether the sign is negative. -/
inductive Parts where
  | notANumber
  | infinite (negative : Bool)
  | finite (negative : Bool) (magnitude : Binary)
  deriving DecidableEq, Repr

/-- The parts of a double, read off its bits. -/
def parts (x : Float) : Parts :=
  let bits : Nat := x.toBits.toNat
  let negative : Bool := bits / Nat.pow 2 63 == 1
  let biased : Nat := bits / Nat.pow 2 52 % Nat.pow 2 11
  let fraction : Nat := bits % Nat.pow 2 52
  if biased = Nat.pow 2 11 - 1 then
    if fraction = 0 then .infinite negative else .notANumber
  else if biased = 0 then .finite negative ⟨fraction, -1074, false⟩
  else
    .finite negative
      ⟨Nat.pow 2 52 + fraction, (biased : Int) - 1075, fraction == 0 && 1 < biased⟩

/-- Whether a double is neither infinite nor NaN. -/
def isFinite (x : Float) : Bool :=
  match parts x with
  | .finite _ _ => true
  | _ => false

/-! ### Rounding intervals -/

/-- The reals from `low / unit` to `high / unit` around `mid / unit`, with or without their ends. -/
structure Interval where
  low : Nat
  mid : Nat
  high : Nat
  unit : Nat
  closed : Bool
  deriving DecidableEq, Repr

/-- The reals that round to `x`: half a gap to either side, with the ends when the significand is
even. -/
def Binary.interval (x : Binary) : Interval :=
  let factor := Nat.pow 2 (x.exponent - 2).toNat
  { low := (4 * x.significand - if x.narrowBelow then 1 else 2) * factor
    mid := 4 * x.significand * factor
    high := (4 * x.significand + 2) * factor
    unit := Nat.pow 2 (2 - x.exponent).toNat
    closed := x.significand % 2 = 0 }

namespace Interval

/-- The interval counted in steps of `10 ^ e`. -/
def inSteps (i : Interval) (e : Int) : Interval :=
  { i with
    low := i.low * Nat.pow 10 (-e).toNat
    mid := i.mid * Nat.pow 10 (-e).toNat
    high := i.high * Nat.pow 10 (-e).toNat
    unit := i.unit * Nat.pow 10 e.toNat }

/-- Whether the whole number `n` lies in the interval. -/
def holds (i : Interval) (n : Nat) : Bool :=
  (i.low < n * i.unit && n * i.unit < i.high) ||
    (i.closed && (i.low = n * i.unit || n * i.unit = i.high))

/-- The whole number in the interval that is nearest to its middle, if one of the two neighbours of
the middle lies in it. -/
def nearest? (tie : Tie) (i : Interval) : Option Nat :=
  let below := i.mid / i.unit
  match i.holds below, i.holds (below + 1) with
  | false, false => none
  | true, false => some below
  | false, true => some (below + 1)
  | true, true =>
    match compare (2 * i.mid) ((2 * below + 1) * i.unit), tie with
    | .lt, _ => some below
    | .gt, _ => some (below + 1)
    | .eq, .up => some (below + 1)
    | .eq, .toEven => some (if below % 2 = 0 then below else below + 1)

/-- How many decimal digits a number has. -/
def digitCount (n : Nat) : Nat :=
  if n < 10 then 1 else digitCount (n / 10) + 1
termination_by n
decreasing_by omega

/-- The exponent of the leading decimal digit of the middle. No double is below `10 ^ (-400)`, so
the quotient that is counted is never zero. -/
def leadingExponent (i : Interval) : Int :=
  (digitCount (i.mid * Nat.pow 10 400 / i.unit) : Int) - 401

end Interval

/-- The same decimal without the zeros its coefficient ends with. -/
def Scaled.stripped (coefficient : Nat) (exponent : Int) : Scaled :=
  if coefficient ≠ 0 ∧ coefficient % 10 = 0 then stripped (coefficient / 10) (exponent + 1)
  else ⟨coefficient, exponent⟩
termination_by coefficient
decreasing_by omega

/-- The exact decimal value. -/
def Binary.exact (x : Binary) : Scaled :=
  .stripped (x.significand * Nat.pow 2 x.exponent.toNat * Nat.pow 5 (-x.exponent).toNat)
    (if x.exponent < 0 then x.exponent else 0)

/-- The decimal with the fewest digits among those that round to `x`. Seventeen digits identify
every double; should they not, the exact value is given. -/
def Binary.shortest (tie : Tie) (x : Binary) : Scaled :=
  let interval := x.interval
  let leading := interval.leadingExponent
  let found := (List.range 17).findSome? fun (i : Nat) =>
    ((interval.inSteps (leading - i)).nearest? tie).map fun n => Scaled.stripped n (leading - i)
  found.getD x.exact

end Workbench.Decimal
