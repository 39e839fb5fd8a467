import Workbench.Decimal.Shortest

/-!
# How a double is laid out as text

The digits of a double are fixed by `Binary.shortest`; a `Layout` holds what is left to decide:
which magnitudes are written without an exponent, how a whole number ends, which way an exact tie
goes, and the words for the values that are no numbers. Each output format of the library is one
`Layout`, kept beside the code that writes it.
-/

namespace Workbench.Decimal

/-- The decisions of one format. -/
structure Layout where
  /-- Whether a number whose leading digit stands at `10 ^ e` is written without an exponent. -/
  positional : Int → Bool
  /-- What follows the digits of a whole number. -/
  wholeMark : List Char
  /-- Which of two equally short and equally near decimals is written. -/
  tie : Tie
  /-- The word for a value that is not a number. -/
  notANumber : List Char
  /-- The word for an infinite value, without its sign. -/
  infinity : List Char

namespace Layout

/-- A decimal without an exponent: the point stands after the digits, inside them or before them. -/
def positionalForm (layout : Layout) (ds : List Char) (exponent : Int) : List Char :=
  if 0 ≤ exponent then ds ++ List.replicate exponent.toNat '0' ++ layout.wholeMark
  else
    let point := (ds.length : Int) + exponent
    if 0 < point then ds.take point.toNat ++ '.' :: ds.drop point.toNat
    else '0' :: '.' :: (List.replicate (-point).toNat '0' ++ ds)

/-- A decimal with an exponent, whose sign is always written. -/
def scientificForm (ds : List Char) (exponent : Int) : List Char :=
  let mantissa := match ds with
    | first :: second :: rest => first :: '.' :: second :: rest
    | _ => ds
  let leading := exponent + ds.length - 1
  mantissa ++ 'e' :: (if leading < 0 then '-' else '+') :: Text.digits leading.natAbs

/-- The text of a magnitude. -/
def magnitude (layout : Layout) (x : Binary) : List Char :=
  if x.significand = 0 then '0' :: layout.wholeMark
  else
    let d := x.shortest layout.tie
    let ds := Text.digits d.coefficient
    if layout.positional (d.exponent + ds.length - 1) then layout.positionalForm ds d.exponent
    else scientificForm ds d.exponent

/-- The text of a double. Zero keeps its sign, and a value that is not a number has none. -/
def write (layout : Layout) (x : Float) : List Char :=
  match parts x with
  | .notANumber => layout.notANumber
  | .infinite negative => if negative then '-' :: layout.infinity else layout.infinity
  | .finite negative m => if negative then '-' :: layout.magnitude m else layout.magnitude m

end Layout

end Workbench.Decimal
