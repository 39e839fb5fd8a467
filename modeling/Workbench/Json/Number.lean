import Workbench.Decimal.Shortest
import Workbench.Json.Fault
import Workbench.Text.Numeral

/-!
# Numbers in JSON text

`Token.scan` takes the longest number at the start of a text apart into its digits; `Token.value?`
gives the number they stand for. A token without fraction and exponent is a whole number where it
fits 64 bits, and `-0`, which has no whole counterpart, is a double.

A double is computed from at most the first digits that fit 64 bits, its *significand*, scaled by
one division or multiplication with a power of ten. Digits of the whole part beyond the significand
only count as powers of ten, and digits of the fraction beyond it are dropped.
-/

namespace Workbench.Json

open Text (Symbol)

/-- The text without the space it starts with. -/
def skipSpace (s : Input) : Input :=
  s.dropWhile fun
    | .char c => c = ' ' || c = '\t' || c = '\n' || c = '\r'
    | .stray _ => false

/-- An exponent. -/
structure Exponent where
  negative : Bool
  /-- Its digits. -/
  digits : List Nat
  deriving DecidableEq, Repr

namespace Exponent

/-- The value of an exponent. -/
def value (e : Exponent) : Int :=
  if e.negative then -(Text.ofDigitValues e.digits : Int) else Text.ofDigitValues e.digits

/-- The greatest exponent that is taken into account. -/
def limit : Nat :=
  2147483647

/-- How many digits are left behind the one that makes the number so far exceed the limit. -/
def excess (value : Nat) : List Nat → Nat
  | [] => 0
  | d :: ds => if limit < 10 * value + d then ds.length else excess (10 * value + d) ds

end Exponent

/-- A number taken apart. -/
structure Token where
  negative : Bool
  /-- The digits before the point. -/
  whole : List Nat
  /-- The digits after the point; none if there is no point. -/
  fraction : List Nat
  /-- The exponent, if one is written. -/
  exponent : Option Exponent
  deriving DecidableEq, Repr

/-- The digits a text starts with, and the rest. -/
def takeDigits : Input → List Nat × Input
  | .char c :: rest =>
    match Text.digitValue? c with
    | some d =>
      let found := takeDigits rest
      (d :: found.1, found.2)
    | none => ([], .char c :: rest)
  | s => ([], s)

/-- At least one digit. `atEnd` is what is wrong where the text ends instead. -/
def someDigits (atEnd : Cause) (s : Input) : Except Fault (List Nat × Input) :=
  match takeDigits s with
  | ([], []) => .error (.here atEnd [])
  | ([], _ :: _) => .error (.behindNext .badNumber s)
  | (d :: ds, rest) => .ok (d :: ds, rest)

/-- The digits before the point: a lone zero, or digits that start with another one. -/
def wholePart (atEnd : Cause) (s : Input) : Except Fault (List Nat × Input) :=
  match someDigits atEnd s with
  | .error fault => .error fault
  | .ok (ds, rest) =>
    if ds.head? = some 0 ∧ 1 < ds.length then .error (.behindNext .badNumber s.tail)
    else .ok (ds, rest)

/-- The digits after the point, if there is a point. -/
def fractionPart (atEnd : Cause) : Input → Except Fault (List Nat × Input)
  | .char '.' :: rest => someDigits atEnd rest
  | s => .ok ([], s)

/-- The exponent, if there is one. -/
def exponentPart (atEnd : Cause) : Input → Except Fault (Option Exponent × Input)
  | .char c :: rest =>
    if c = 'e' ∨ c = 'E' then
      let (negative, rest) := match rest with
        | .char '-' :: rest => (true, rest)
        | .char '+' :: rest => (false, rest)
        | _ => (false, rest)
      match someDigits atEnd rest with
      | .error fault => .error fault
      | .ok (digits, rest) => .ok (some { negative, digits }, rest)
    else .ok (none, .char c :: rest)
  | s => .ok (none, s)

/-- The number that a text starts with, after its sign. -/
def Token.scan (atEnd : Cause) (negative : Bool) (s : Input) : Except Fault (Token × Input) :=
  match wholePart atEnd s with
  | .error fault => .error fault
  | .ok (whole, s) =>
    match fractionPart atEnd s with
    | .error fault => .error fault
    | .ok (fraction, s) =>
      match exponentPart atEnd s with
      | .error fault => .error fault
      | .ok (exponent, s) => .ok (⟨negative, whole, fraction, exponent⟩, s)

/-! ### The value of a token -/

/-- Appends digits to a significand while it stays below `2 ^ 64`; also counts the digits left. -/
def absorb (significand : Nat) : List Nat → Nat × Nat
  | [] => (significand, 0)
  | d :: ds =>
    if 10 * significand + d < Text.bound64 then absorb (10 * significand + d) ds
    else (significand, ds.length + 1)

/-- A power of ten as a double. -/
def powerOfTen (n : Nat) : Float :=
  Float.ofScientific 1 false n

/-- `x · 10 ^ e` as a double; nothing if it is too large. Exponents below `-308` are taken in
steps. -/
def scale? (x : Float) (e : Int) : Option Float :=
  if e.natAbs ≤ 308 then
    if 0 ≤ e then
      if Decimal.isFinite (x * powerOfTen e.natAbs) then some (x * powerOfTen e.natAbs) else none
    else some (x / powerOfTen e.natAbs)
  else if x == 0 then some x
  else if 0 ≤ e then none
  else scale? (x / powerOfTen 308) (e + 308)
termination_by e.natAbs
decreasing_by omega

/-- A double with a sign. -/
def signed (negative : Bool) (x : Float) : Float :=
  if negative then -x else x

/-- The number a token stands for; nothing if it is too large for a double. -/
def Token.value? (t : Token) : Option Number :=
  let (whole, left) := absorb 0 t.whole
  if t.fraction = [] ∧ t.exponent = none ∧ left = 0 then
    if !t.negative then some (.whole whole)
    else if 1 ≤ whole ∧ whole ≤ Text.bound63 then some (.whole (-whole))
    else some (.double (-Float.ofNat whole))
  else
    let (significand, dropped) := absorb whole t.fraction
    let written := t.exponent.elim 0 Exponent.value
    let exponent : Int := left - (t.fraction.length - dropped : Nat) + written
    (scale? (Float.ofNat significand) exponent).map fun x => .double (signed t.negative x)

/-! ### Scanning consumes text -/

theorem length_skipSpace_le (s : Input) : (skipSpace s).length ≤ s.length :=
  (List.dropWhile_sublist _).length_le

theorem length_takeDigits_le (s : Input) : (takeDigits s).2.length ≤ s.length := by
  fun_induction takeDigits s with
  | case1 c rest d _ found ih => exact Nat.le_succ_of_le ih
  | case2 => simp
  | case3 => simp

theorem length_of_someDigits {atEnd : Cause} {s rest : Input} {ds : List Nat}
    (h : someDigits atEnd s = .ok (ds, rest)) : rest.length < s.length := by
  unfold someDigits at h
  split at h
  · cases h
  · cases h
  · rename_i d ds' rest' heq
    cases h
    cases s with
    | nil => simp [takeDigits] at heq
    | cons c s =>
      cases c with
      | stray => simp [takeDigits] at heq
      | char c =>
        simp only [takeDigits] at heq
        split at heq
        · have := length_takeDigits_le s
          simp only [Prod.mk.injEq, List.cons.injEq] at heq
          simp only [List.length_cons, ← heq.2]
          omega
        · simp at heq

theorem length_of_wholePart {atEnd : Cause} {s rest : Input} {ds : List Nat}
    (h : wholePart atEnd s = .ok (ds, rest)) : rest.length < s.length := by
  unfold wholePart at h
  split at h
  · cases h
  · rename_i heq
    split at h
    · cases h
    · cases h
      exact length_of_someDigits heq

theorem length_of_fractionPart {atEnd : Cause} {s rest : Input} {ds : List Nat}
    (h : fractionPart atEnd s = .ok (ds, rest)) : rest.length ≤ s.length := by
  unfold fractionPart at h
  split at h
  · have := length_of_someDigits h
    simp only [List.length_cons]
    omega
  · cases h
    exact Nat.le_refl _

theorem length_of_exponentPart {atEnd : Cause} {s rest : Input} {e : Option Exponent}
    (h : exponentPart atEnd s = .ok (e, rest)) : rest.length ≤ s.length := by
  unfold exponentPart at h
  split at h
  · rename_i c tail
    split at h
    · simp only at h
      split at h
      · cases h
      · rename_i heq
        cases h
        have hlt := length_of_someDigits heq
        have hle : (match tail with
            | .char '-' :: rest => (true, rest)
            | .char '+' :: rest => (false, rest)
            | _ => (false, tail)).2.length ≤ tail.length := by
          split <;> simp
        simp only [List.length_cons]
        omega
    · cases h
      exact Nat.le_refl _
  · cases h
    exact Nat.le_refl _

theorem Token.length_of_scan {atEnd : Cause} {negative : Bool} {s rest : Input} {t : Token}
    (h : Token.scan atEnd negative s = .ok (t, rest)) : rest.length < s.length := by
  unfold Token.scan at h
  split at h
  · cases h
  · rename_i h₁
    split at h
    · cases h
    · rename_i h₂
      split at h
      · cases h
      · rename_i h₃
        cases h
        have := length_of_wholePart h₁
        have := length_of_fractionPart h₂
        have := length_of_exponentPart h₃
        omega

end Workbench.Json
