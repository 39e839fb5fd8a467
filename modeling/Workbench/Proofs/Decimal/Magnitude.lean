import Workbench.Proofs.Decimal.Finite

/-!
# How great a double is, as a decimal

Two bounds on what is written of a double, both far from tight. The leading digit of the shortest
decimal stands below `10 ^ 1000`, so that its exponent has at most three digits
(`place_shortest_lt`). And a whole number of 64 bits, scaled by less than `10 ^ 100`, is a finite
double (`isFinite_mul_ofScientific`); so a number whose exponent loses a digit is never too large.
-/

namespace Workbench

namespace Text

theorem length_digits_le {n k : Nat} (h : n < 10 ^ k) (hk : 0 < k) : (digits n).length ≤ k := by
  induction k generalizing n with
  | zero => exact absurd hk (Nat.lt_irrefl 0)
  | succ k ih =>
    rw [digits]
    split
    · exact Nat.succ_pos k
    · rename_i hn
      have hquotient : n / 10 < 10 ^ k := by
        rw [Nat.pow_succ] at h
        omega
      have hpos : 0 < k := by
        rcases Nat.eq_zero_or_pos k with rfl | hpos
        · omega
        · exact hpos
      rw [List.length_append, List.length_singleton]
      exact Nat.succ_le_succ (ih hquotient hpos)

end Text

namespace Decimal

open Float.Model (totalExponent)
open Float.Model.UnpackedFloat

/-! ### The shortest decimal -/

/-- The power of ten at which the leading digit stands. -/
def Scaled.place (d : Scaled) : Int :=
  d.exponent + (Text.digits d.coefficient).length - 1

theorem Scaled.place_stripped (n : Nat) (e : Int) :
    (stripped n e).place = (Scaled.mk n e).place := by
  fun_induction stripped n e with
  | case1 n e h ih =>
    have hgreat : ¬n < 10 := by omega
    rw [ih, place, place, Text.digits.eq_def n, if_neg hgreat, List.length_append,
      List.length_singleton]
    push_cast
    omega
  | case2 => rfl

theorem Interval.digitCount_eq_length (n : Nat) : digitCount n = (Text.digits n).length := by
  fun_induction digitCount n with
  | case1 n h => rw [Text.digits, if_pos h, List.length_singleton]
  | case2 n h ih => rw [Text.digits, if_neg h, List.length_append, List.length_singleton, ih]

/-- A candidate on some grid is next to the middle of the interval, and inside it. -/
theorem Interval.of_nearest? {tie : Tie} {i : Interval} {n : Nat} (h : i.nearest? tie = some n) :
    (n = i.mid / i.unit ∨ n = i.mid / i.unit + 1) ∧ i.holds n = true := by
  unfold nearest? at h
  generalize i.mid / i.unit = below at h ⊢
  cases hlow : i.holds below <;> cases hhigh : i.holds (below + 1) <;>
    simp only [hlow, hhigh] at h
  · cases h
  · cases h
    exact ⟨.inr rfl, hhigh⟩
  · cases h
    exact ⟨.inl rfl, hlow⟩
  · have hboth : n = below ∨ n = below + 1 → (n = below ∨ n = below + 1) ∧ i.holds n = true := by
      rintro (rfl | rfl)
      · exact ⟨.inl rfl, hlow⟩
      · exact ⟨.inr rfl, hhigh⟩
    refine hboth ?_
    generalize compare (2 * i.mid) ((2 * below + 1) * i.unit) = order at h
    cases order <;> cases tie <;> simp only [Option.some.injEq] at h
    case eq.toEven => split at h <;> omega
    all_goals omega

theorem Interval.ne_zero_of_nearest? {tie : Tie} {i : Interval} {n : Nat} (hlow : 0 < i.low)
    (hhigh : 0 < i.high) (h : i.nearest? tie = some n) : n ≠ 0 := by
  rintro rfl
  have hholds := (of_nearest? h).2
  simp only [holds, Nat.zero_mul] at hholds
  simp at hholds
  omega

theorem Scaled.coefficient_stripped_ne_zero {n : Nat} (hn : n ≠ 0) (e : Int) :
    (stripped n e).coefficient ≠ 0 := by
  fun_induction stripped n e with
  | case1 n e h ih => exact ih (by omega)
  | case2 => exact hn

section Shortest

variable {x : Binary} (hsignificand : x.significand < 2 ^ 53)

/-- How many decimal digits `significand · 2 ^ exponent` has at most: three binary digits do not
make more than one. -/
def Binary.digitBound (x : Binary) : Nat :=
  18 + x.exponent.toNat / 3

theorem two_pow_le_ten_pow (k : Nat) : 2 ^ k ≤ 10 ^ (k / 3 + 1) := by
  calc 2 ^ k ≤ 2 ^ (3 * (k / 3 + 1)) := Nat.pow_le_pow_right (by decide) (by omega)
    _ = (2 ^ 3) ^ (k / 3 + 1) := Nat.pow_mul ..
    _ ≤ 10 ^ (k / 3 + 1) := Nat.pow_le_pow_left (by decide) _

include hsignificand

theorem Binary.mul_two_pow_lt {k : Nat} (hk : k ≤ x.exponent.toNat) :
    4 * x.significand * 2 ^ k < 10 ^ x.digitBound := by
  calc 4 * x.significand * 2 ^ k
      < 10 ^ 17 * 2 ^ k := Nat.mul_lt_mul_of_pos_right (by omega) (Nat.two_pow_pos k)
    _ ≤ 10 ^ 17 * 10 ^ (k / 3 + 1) := Nat.mul_le_mul_left _ (two_pow_le_ten_pow k)
    _ = 10 ^ (17 + (k / 3 + 1)) := (Nat.pow_add ..).symm
    _ ≤ 10 ^ x.digitBound := Nat.pow_le_pow_right (by decide) (by rw [digitBound]; omega)

theorem Binary.mid_interval_lt : x.interval.mid < 10 ^ x.digitBound :=
  mul_two_pow_lt hsignificand (by omega)

theorem Binary.digitCount_mid_le (k : Nat) :
    Interval.digitCount (x.interval.mid * Nat.pow 10 k / x.interval.unit) ≤ x.digitBound + k := by
  rw [Interval.digitCount_eq_length]
  refine Text.length_digits_le ?_ (by rw [digitBound]; omega)
  calc x.interval.mid * 10 ^ k / x.interval.unit ≤ x.interval.mid * 10 ^ k := Nat.div_le_self ..
    _ < 10 ^ x.digitBound * 10 ^ k :=
        Nat.mul_lt_mul_of_pos_right (mid_interval_lt hsignificand) (Nat.pow_pos (by decide))
    _ = 10 ^ (x.digitBound + k) := (Nat.pow_add ..).symm

theorem Binary.leadingExponent_interval_lt : x.interval.leadingExponent < x.digitBound := by
  rw [Interval.leadingExponent]
  generalize hk : 400 = k
  have hcount := digitCount_mid_le hsignificand k
  omega

/-- A candidate on the grid of `10 ^ e` has as many digits as the double and those that the grid
adds. -/
theorem Binary.candidate_lt {tie : Tie} {n : Nat} {e : Int}
    (h : (x.interval.inSteps e).nearest? tie = some n) :
    n < 10 ^ (x.digitBound + 1 + (-e).toNat) := by
  have hmid := mid_interval_lt hsignificand
  have hpos : 0 < 10 ^ (-e).toNat := Nat.pow_pos (by decide)
  have hbeside := (Interval.of_nearest? h).1
  calc n ≤ (x.interval.inSteps e).mid / (x.interval.inSteps e).unit + 1 := by omega
    _ ≤ x.interval.mid * 10 ^ (-e).toNat + 1 := Nat.succ_le_succ (Nat.div_le_self ..)
    _ ≤ x.interval.mid * 10 ^ (-e).toNat + 10 ^ (-e).toNat := Nat.add_le_add_left hpos _
    _ = (x.interval.mid + 1) * 10 ^ (-e).toNat := (Nat.succ_mul ..).symm
    _ < 10 ^ (x.digitBound + 1) * 10 ^ (-e).toNat :=
        Nat.mul_lt_mul_of_pos_right (by rw [Nat.pow_succ]; omega) hpos
    _ = 10 ^ (x.digitBound + 1 + (-e).toNat) := (Nat.pow_add ..).symm

theorem Binary.exact_lt :
    x.significand * 2 ^ x.exponent.toNat * 5 ^ (-x.exponent).toNat <
      10 ^ (x.digitBound + 1 + (-x.exponent).toNat) := by
  have hbinary := mul_two_pow_lt hsignificand (Nat.le_refl _)
  have hfive : 5 ^ (-x.exponent).toNat ≤ 10 ^ (-x.exponent).toNat :=
    Nat.pow_le_pow_left (by decide) _
  calc x.significand * 2 ^ x.exponent.toNat * 5 ^ (-x.exponent).toNat
      ≤ x.significand * 2 ^ x.exponent.toNat * 10 ^ (-x.exponent).toNat :=
        Nat.mul_le_mul_left _ hfive
    _ < 10 ^ (x.digitBound + 1) * 10 ^ (-x.exponent).toNat := by
        refine Nat.mul_lt_mul_of_pos_right ?_ (Nat.pow_pos (by decide))
        rw [Nat.mul_assoc] at hbinary
        rw [Nat.pow_succ]
        omega
    _ = 10 ^ (x.digitBound + 1 + (-x.exponent).toNat) := (Nat.pow_add ..).symm

variable (hexponent : x.exponent ≤ 971)

include hexponent

omit hsignificand in
theorem Binary.place_stripped_lt {n : Nat} {e : Int}
    (hn : n < 10 ^ (x.digitBound + 1 + (-e).toNat)) (he : e ≤ x.digitBound) :
    (Scaled.stripped n e).place < 1000 := by
  have hlength := Text.length_digits_le hn (by omega)
  have hbound : x.digitBound ≤ 341 := by
    rw [digitBound]
    omega
  rw [Scaled.place_stripped]
  simp only [Scaled.place]
  omega

/-- The leading digit of what is written of a double stands below `10 ^ 1000`. -/
theorem Binary.place_shortest_lt (tie : Tie) : (x.shortest tie).place < 1000 := by
  have hleading := leadingExponent_interval_lt hsignificand
  simp only [shortest]
  generalize hfound : List.findSome? _ (List.range 17) = found
  cases found with
  | none =>
    have hexact := exact_lt hsignificand
    refine place_stripped_lt hexponent (Nat.lt_of_lt_of_le hexact ?_) ?_
    · exact Nat.pow_le_pow_right (by decide) (by split <;> omega)
    · split <;> omega
  | some d =>
    obtain ⟨i, -, hi⟩ := List.exists_of_findSome?_eq_some hfound
    obtain ⟨n, hn, rfl⟩ := Option.map_eq_some_iff.1 hi
    exact place_stripped_lt hexponent (candidate_lt hsignificand hn) (by omega)

end Shortest

/-- The shortest decimal of a double that is not zero is not zero. -/
theorem Binary.coefficient_shortest_ne_zero {x : Binary} (hx : x.significand ≠ 0) (tie : Tie) :
    (x.shortest tie).coefficient ≠ 0 := by
  have hten : ∀ k, 0 < Nat.pow 10 k := fun k ↦ Nat.pow_pos (by decide)
  have htwo : ∀ k, 0 < Nat.pow 2 k := fun k ↦ Nat.pow_pos (by decide)
  simp only [shortest]
  generalize hfound : List.findSome? _ (List.range 17) = found
  cases found with
  | none =>
    refine Scaled.coefficient_stripped_ne_zero (Nat.ne_of_gt ?_) _
    exact Nat.mul_pos (Nat.mul_pos (by omega) (htwo _)) (Nat.pow_pos (by decide))
  | some d =>
    obtain ⟨i, -, hi⟩ := List.exists_of_findSome?_eq_some hfound
    obtain ⟨n, hn, rfl⟩ := Option.map_eq_some_iff.1 hi
    refine Scaled.coefficient_stripped_ne_zero (Interval.ne_zero_of_nearest? ?_ ?_ hn) _
    · exact Nat.mul_pos (Nat.mul_pos (by split <;> omega) (htwo _)) (hten _)
    · exact Nat.mul_pos (Nat.mul_pos (by omega) (htwo _)) (hten _)

/-- The parts of a finite double are bounded. -/
theorem bounds_of_parts {x : Float} {negative : Bool} {m : Binary}
    (h : parts x = .finite negative m) : m.significand < 2 ^ 53 ∧ m.exponent ≤ 971 := by
  have hfraction : x.toBits.toNat % Nat.pow 2 52 < 2 ^ 52 := Nat.mod_lt _ (by decide)
  have hbiased : x.toBits.toNat / Nat.pow 2 52 % Nat.pow 2 11 < 2 ^ 11 := Nat.mod_lt _ (by decide)
  have hones : Nat.pow 2 11 - 1 = 2047 := by decide
  have hleading : Nat.pow 2 52 = 2 ^ 52 := rfl
  rw [parts] at h
  generalize x.toBits.toNat % Nat.pow 2 52 = fraction at h hfraction
  generalize x.toBits.toNat / Nat.pow 2 52 % Nat.pow 2 11 = biased at h hbiased
  split at h
  · split at h <;> cases h
  · split at h
    · cases h
      exact ⟨Nat.lt_trans hfraction (by decide), by simp⟩
    · cases h
      simp only
      omega

/-! ### Products with powers of ten -/

variable {bound bound' : Int} {x y : Float}

/-- The exponent of a product is at most the sum of the exponents and the bits of a significand. -/
theorem within_mul (hx : Within bound x) (hy : Within bound' y) (hgreatest : bound + bound' ≤ 917)
    (hleast : -1074 ≤ bound + bound') : Within (bound + bound' + 54) (x * y) := by
  refine within_pack ?_ (by omega) (by omega)
  rw [Within] at hx hy
  generalize hxunpack : x.toModel.unpack = u at hx
  generalize hyunpack : y.toModel.unpack = v at hy
  cases hx with
  | zero s =>
    cases hy with
    | @zero s' | @finite s' => exact .zero (s * s')
  | @finite s m e hm he =>
    cases hy with
    | zero s' => exact .zero (s * s')
    | @finite s' m' e' hm' he' =>
      have hlog : m.log2 < 53 := log2_lt_of_lt (significand_lt_of_unpack hxunpack) (by decide)
      have hlog' : m'.log2 < 53 := log2_lt_of_lt (significand_lt_of_unpack hyunpack) (by decide)
      refine exponentLE_mul s s' hm hm' (by omega) ?_ (by omega)
      simp only [totalExponent]
      omega

instance (u : Float.Model.UnpackedFloat) : Decidable (ExponentLE bound u) :=
  match u with
  | .zero s => isTrue (.zero s)
  | .finite _ _ e _ => decidable_of_iff (e ≤ bound) ⟨.finite, fun h ↦ by cases h; assumption⟩
  | .infinity _ => isFalse fun h ↦ by cases h
  | .notANumber => isFalse fun h ↦ by cases h

instance : Decidable (Within bound x) :=
  inferInstanceAs (Decidable (ExponentLE bound x.toModel.unpack))

theorem within_ofScientific : ∀ k < 100, Within 400 (Float.ofScientific 1 false k) := by
  decide +kernel

/-- A whole number of 64 bits, scaled by less than `10 ^ 100`, is finite. -/
theorem isFinite_mul_ofScientific {n k : Nat} (hn : n < 2 ^ 64) (hk : k < 100) :
    isFinite (Float.ofNat n * Float.ofScientific 1 false k) = true := by
  have hproduct := within_mul (within_ofNat hn) (within_ofScientific k hk) (by decide) (by decide)
  exact isFinite_iff_within.2 (hproduct.mono (by decide))

end Decimal

end Workbench
