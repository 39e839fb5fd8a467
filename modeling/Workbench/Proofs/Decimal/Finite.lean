import Mathlib
import Workbench.Decimal.Shortest

/-!
# Which doubles are finite

A quotient by a double that is not small, the negative of a double and a whole number of 64 bits are
finite, because they are not too great. Doubles are packed into their bits after they have been
rounded, and what is packed is infinite exactly if its exponent is too great (`within_pack`). So the
lemmas follow the exponent: rounding adds at most what one carry adds (`exponentLE_round`), and an
operation on significands and exponents bounds the exponent of what it rounds.
-/

namespace Workbench.Decimal

open Float.Model (Format UnpackedFloat totalExponent)
open Float.Model.UnpackedFloat

/-! ### Exponents -/

/-- A value is zero, or finite with an exponent that is at most the bound. -/
inductive ExponentLE (bound : Int) : UnpackedFloat → Prop
  | zero (s : Sign) : ExponentLE bound (.zero s)
  | finite {s : Sign} {m : Nat} {e : Int} {hm : 0 < m} (h : e ≤ bound) :
    ExponentLE bound (.finite s m e hm)

/-- The exponent of a double, as it is unpacked, is at most the bound. -/
def Within (bound : Int) (x : Float) : Prop :=
  ExponentLE bound x.toModel.unpack

/-- The bits of a double, as those of its format. -/
abbrev bits (x : Float) : BitVec Format.binary64.numBits :=
  x.toBits.toBitVec

variable {bound : Int} {x y : Float}

theorem Within.mono {bound' : Int} (h : Within bound x) (hle : bound ≤ bound') :
    Within bound' x := by
  rw [Within] at h ⊢
  generalize x.toModel.unpack = u at h
  cases h with
  | zero s => exact .zero s
  | finite h => exact .finite (Int.le_trans h hle)

theorem exponentBias_eq : (Format.binary64.exponentBias : Int) = 1023 :=
  rfl

theorem exponentBias_add_mantissaBits :
    (Format.binary64.exponentBias : Int) + Format.binary64.mantissaBitsWithoutImplicit = 1075 :=
  rfl

/-- What is unpacked has the exponent that is written, or the least one. -/
theorem exponentLE_unpack {b : BitVec Format.binary64.numBits} (hb : unpackExponent b ≠ -1#11)
    (hbound : ((unpackExponent b).toNat : Int) ≤ bound + 1075) (hleast : -1074 ≤ bound) :
    ExponentLE bound (unpack .binary64 b) := by
  rw [unpack, if_neg hb]
  split
  · rename_i hzero
    split
    · exact .zero _
    · refine .finite ?_
      have hexponent : (unpackExponent b).toNat = 0 := congrArg BitVec.toNat hzero
      rw [exponentBias_add_mantissaBits, hexponent]
      omega
  · refine .finite ?_
    rw [exponentBias_add_mantissaBits]
    omega

theorem isFinite_unpack (b : BitVec Format.binary64.numBits) :
    (unpack .binary64 b).isFinite = true ↔ unpackExponent b ≠ -1#11 := by
  rw [unpack]
  split
  · rename_i hones
    split <;> simp [UnpackedFloat.isFinite, hones]
  · rename_i hones
    refine iff_of_true ?_ hones
    split
    · split <;> rfl
    · rfl

/-- A double is finite unless all bits of its exponent are set. -/
theorem isFinite_iff_unpackExponent (x : Float) :
    isFinite x = true ↔ unpackExponent (bits x) ≠ -1#11 := by
  have hexponent : (unpackExponent (bits x)).toNat =
      x.toBits.toNat / Nat.pow 2 52 % Nat.pow 2 11 := by
    simp [unpackExponent, BitVec.extractLsb, BitVec.extractLsb', Nat.shiftRight_eq_div_pow]
  have hones : (-1#11 : BitVec 11).toNat = Nat.pow 2 11 - 1 := by decide
  rw [ne_eq, ← BitVec.toNat_inj, hones, hexponent, isFinite, parts]
  by_cases hbiased : x.toBits.toNat / Nat.pow 2 52 % Nat.pow 2 11 = Nat.pow 2 11 - 1
  · rw [if_pos hbiased]
    by_cases hfraction : x.toBits.toNat % Nat.pow 2 52 = 0
    · simp [hfraction, hbiased]
    · simp [hfraction, hbiased]
  · rw [if_neg hbiased]
    by_cases hzero : x.toBits.toNat / Nat.pow 2 52 % Nat.pow 2 11 = 0
    · simp [hzero]
    · simp [hzero, hbiased]

/-- The finite doubles are those with an exponent of at most 971. -/
theorem isFinite_iff_within : isFinite x = true ↔ Within 971 x := by
  rw [isFinite_iff_unpackExponent]
  constructor
  · intro hfinite
    have hlt : (unpackExponent (bits x)).toNat < 2048 := BitVec.isLt _
    have hne : (unpackExponent (bits x)).toNat ≠ 2047 := fun heq ↦
      hfinite (BitVec.eq_of_toNat_eq heq)
    have hle : ((unpackExponent (bits x)).toNat : Int) ≤ 971 + 1075 := by omega
    exact exponentLE_unpack hfinite hle (by decide)
  · intro hwithin
    rw [← isFinite_unpack]
    have hwithin : ExponentLE 971 (unpack .binary64 (bits x)) := hwithin
    generalize unpack .binary64 (bits x) = u at hwithin
    cases hwithin <;> rfl

/-- The significand of an unpacked value has at most 53 bits. -/
theorem significand_lt_of_unpack {b : BitVec Format.binary64.numBits} {s : Sign} {m : Nat} {e : Int}
    {hm : 0 < m} (h : unpack .binary64 b = .finite s m e hm) : m < 2 ^ 53 := by
  have hlt : (unpackMantissa b).toNat < 2 ^ 52 := BitVec.isLt _
  rw [unpack] at h
  split at h
  · split at h <;> cases h
  · split at h
    · split at h
      · cases h
      · cases h
        omega
    · cases h
      exact (1#1 ++ unpackMantissa b).isLt

/-! ### Rounding and packing -/

theorem mantissa_shiftRight (em : ExtendedMantissa) (n : Nat) :
    (em >>> n).mantissa = em.mantissa / 2 ^ n := by
  induction n with
  | zero => simp [HShiftRight.hShiftRight, Nat.repeat]
  | succ n ih =>
    have hstep : (em >>> (n + 1)).mantissa = (em >>> n).mantissa / 2 := rfl
    rw [hstep, ih, Nat.div_div_eq_div_mul, Nat.pow_succ]

theorem mantissa_ofMantissaAndAccuracy (m : Nat) (accuracy : Accuracy) :
    (ExtendedMantissa.ofMantissaAndAccuracy m accuracy).mantissa = m := by
  unfold ExtendedMantissa.ofMantissaAndAccuracy
  split <;> rfl

theorem roundedMantissa_le (em : ExtendedMantissa) : em.roundedMantissa ≤ em.mantissa + 1 := by
  rw [ExtendedMantissa.roundedMantissa]
  rcases em.accuracy with - | (- | - | -) <;> simp [Accuracy.roundToNearestEven]
  omega

theorem targetExponent_eq (total : Int) :
    Format.binary64.targetExponent total = max (total - 53) (-1074) :=
  rfl

theorem exponentLE_zero_or_finite (s : Sign) (m : Nat) {e : Int} (he : e ≤ bound) :
    ExponentLE bound (if h : m = 0 then .zero s else .finite s m e (Nat.pos_of_ne_zero h)) := by
  split
  · exact .zero s
  · exact .finite he

/-- Rounding keeps an exponent below a bound, if the value is below what 53 bits at the bound can
hold by at least one bit: a carry takes no more than that. -/
theorem exponentLE_round (s : Sign) {m : Nat} {e : Int} (accuracy : Accuracy) (he : e ≤ bound)
    (htotal : totalExponent m e ≤ bound + 52) (hleast : -1074 ≤ bound) :
    ExponentLE bound (roundWithAccuracy .binary64 s m e accuracy) := by
  -- The exponent after the first shift, and the significand that is rounded there.
  let shift := (Format.binary64.targetExponent (totalExponent m e) - e).toNat
  let r := (ExtendedMantissa.ofMantissaAndAccuracy m accuracy >>> shift).roundedMantissa
  have hshift : e + shift ≤ bound := by
    simp only [shift, targetExponent_eq]
    omega
  let room := (bound + 52 - (e + shift)).toNat
  have hquotient : m / 2 ^ shift < 2 ^ room := by
    rw [Nat.div_lt_iff_lt_mul (Nat.two_pow_pos shift), ← Nat.pow_add]
    refine Nat.lt_of_lt_of_le Nat.lt_log2_self (Nat.pow_le_pow_right (by decide) ?_)
    rw [totalExponent] at htotal
    omega
  have hr : r ≤ 2 ^ room := by
    refine Nat.le_trans (roundedMantissa_le _) ?_
    rw [mantissa_shiftRight, mantissa_ofMantissaAndAccuracy]
    exact hquotient
  have hlog : r.log2 ≤ room := by
    by_cases hzero : r = 0
    · simp [hzero]
    · refine Nat.le_of_lt_succ ((Nat.log2_lt hzero).2 (Nat.lt_of_le_of_lt hr ?_))
      exact Nat.pow_lt_pow_right (by decide) (Nat.lt_succ_self room)
  have htarget : Format.binary64.targetExponent (totalExponent r (e + shift)) ≤ bound := by
    rw [targetExponent_eq, totalExponent]
    omega
  have hexponent :
      e + shift + (Format.binary64.targetExponent (totalExponent r (e + shift)) -
        (e + shift)).toNat ≤ bound := by
    omega
  exact exponentLE_zero_or_finite s _ hexponent

/-- What is packed keeps its exponent, or gets the least one. -/
theorem within_pack {u : UnpackedFloat} (h : ExponentLE bound u) (hbound : bound ≤ 971)
    (hleast : -1074 ≤ bound) : Within bound (.ofModel (.pack u)) := by
  have hpacked : Within bound (.ofModel (.pack u)) =
      ExponentLE bound (unpack .binary64 (pack .binary64 u)) := rfl
  rw [hpacked]
  cases h with
  | zero s =>
    refine exponentLE_unpack ?_ ?_ hleast
    · simp [pack, packedZero]
    · simp [pack, packedZero]
      omega
  | @finite s m e hm he =>
    have hbias := exponentBias_eq
    have hsmall : ¬2 ^ 11 ≤
        (e + Format.binary64.exponentBias + (52 : Nat)).toNat + 1 := by
      omega
    rw [pack, if_neg hsmall]
    split
    · refine exponentLE_unpack ?_ ?_ hleast
      · simp [← BitVec.toNat_inj]
        omega
      · simp
        omega
    · refine exponentLE_unpack ?_ ?_ hleast
      · simp
      · simp
        omega

theorem le_roundedMantissa (em : ExtendedMantissa) : em.mantissa ≤ em.roundedMantissa := by
  rw [ExtendedMantissa.roundedMantissa]
  rcases em.accuracy with - | (- | - | -) <;> simp [Accuracy.roundToNearestEven]

theorem log2_div_two_pow {m k : Nat} (hm : m ≠ 0) (hk : k ≤ m.log2) :
    (m / 2 ^ k).log2 = m.log2 - k := by
  have hle : 2 ^ (m.log2 - k) ≤ m / 2 ^ k := by
    rw [Nat.le_div_iff_mul_le (Nat.two_pow_pos k), ← Nat.pow_add, Nat.sub_add_cancel hk]
    exact Nat.log2_self_le hm
  have hlt : m / 2 ^ k < 2 ^ (m.log2 - k + 1) := by
    rw [Nat.div_lt_iff_lt_mul (Nat.two_pow_pos k), ← Nat.pow_add]
    have hexponent : m.log2 - k + 1 + k = m.log2 + 1 := by omega
    rw [hexponent]
    exact Nat.lt_log2_self
  have hne : m / 2 ^ k ≠ 0 := Nat.ne_of_gt (Nat.lt_of_lt_of_le (Nat.two_pow_pos _) hle)
  exact (Nat.log2_eq_iff hne).2 ⟨hle, hlt⟩

/-- A value of at least 53 bits is rounded to one of 53 bits, with an exponent that is no smaller
than what the bits left out call for. -/
theorem exists_of_round (s : Sign) {m : Nat} {e : Int} (accuracy : Accuracy) (hm : 52 ≤ m.log2)
    (he : -1074 ≤ e + (m.log2 - 52 : Nat)) :
    ∃ m' e' h, roundWithAccuracy .binary64 s m e accuracy = .finite s m' e' h ∧ m'.log2 = 52 ∧
      e + (m.log2 - 52 : Nat) ≤ e' := by
  let shift := (Format.binary64.targetExponent (totalExponent m e) - e).toNat
  let r := (ExtendedMantissa.ofMantissaAndAccuracy m accuracy >>> shift).roundedMantissa
  let shift' := (Format.binary64.targetExponent (totalExponent r (e + shift)) - (e + shift)).toNat
  let m' := (ExtendedMantissa.ofMantissaAndAccuracy r .exact >>> shift').mantissa
  have hshift : shift = m.log2 - 52 := by
    simp only [shift, targetExponent_eq, totalExponent]
    omega
  have hpos : m ≠ 0 := fun h ↦ by simp [h] at hm
  have hquotient : (m / 2 ^ shift).log2 = 52 := by
    rw [hshift, log2_div_two_pow hpos (Nat.sub_le ..)]
    omega
  have hne : m / 2 ^ shift ≠ 0 := fun h ↦ by simp [h] at hquotient
  obtain ⟨hleast, hgreatest⟩ := (Nat.log2_eq_iff hne).1 hquotient
  have hmantissa : (ExtendedMantissa.ofMantissaAndAccuracy m accuracy >>> shift).mantissa =
      m / 2 ^ shift := by
    rw [mantissa_shiftRight, mantissa_ofMantissaAndAccuracy]
  have hle : m / 2 ^ shift ≤ r := hmantissa ▸ le_roundedMantissa _
  have hge : r ≤ m / 2 ^ shift + 1 := hmantissa ▸ roundedMantissa_le _
  have hr : r ≠ 0 := by omega
  have hlow : 52 ≤ r.log2 := (Nat.le_log2 hr).2 (Nat.le_trans hleast hle)
  have hhigh : r.log2 < 54 := (Nat.log2_lt hr).2 (by omega)
  have hshift' : shift' = r.log2 - 52 := by
    simp only [shift', targetExponent_eq, totalExponent]
    omega
  have hm' : m'.log2 = 52 := by
    simp only [m', mantissa_shiftRight, mantissa_ofMantissaAndAccuracy]
    rw [hshift', log2_div_two_pow hr (Nat.sub_le ..)]
    omega
  have hne' : m' ≠ 0 := fun h ↦ by simp [h] at hm'
  refine ⟨m', e + shift + shift', Nat.pos_of_ne_zero hne', ?_, hm', by omega⟩
  exact dif_neg hne'

/-! ### Operations -/

theorem isFinite_neg (h : isFinite x = true) : isFinite (-x) = true := by
  rw [isFinite_iff_within] at h ⊢
  refine within_pack ?_ (by decide) (by decide)
  rw [Within] at h
  generalize x.toModel.unpack = u at h
  cases h with
  | zero s => exact .zero (-s)
  | finite h => exact .finite h

/-- Whether the magnitude of a double is at least eight. -/
def isGreat (x : Float) : Bool :=
  match x.toModel.unpack with
  | .finite _ m e _ => 4 ≤ totalExponent m e
  | .infinity _ => true
  | .zero _ | .notANumber => false

/-- The quotient of significands has about as many bits more as the one has more than the other. -/
theorem totalExponent_divCore_le {m₁ m₂ : Nat} (e₁ e₂ : Int) (h₂ : 0 < m₂)
    (hquotient : (divCore .binary64 m₁ e₁ m₂ e₂).1 ≠ 0) :
    totalExponent (divCore .binary64 m₁ e₁ m₂ e₂).1 (divCore .binary64 m₁ e₁ m₂ e₂).2.1 ≤
      totalExponent m₁ e₁ - totalExponent m₂ e₂ + 1 := by
  simp only [divCore] at hquotient ⊢
  generalize htarget : min (e₁ - e₂)
    (Format.binary64.targetExponent (totalExponent m₁ e₁ - totalExponent m₂ e₂)) = target at *
  generalize hshift : (e₁ - e₂ - target).toNat = shift at *
  have hlog : (m₁ <<< shift / m₂).log2 + m₂.log2 < m₁.log2 + 1 + shift := by
    refine (Nat.pow_lt_pow_iff_right (a := 2) (by decide)).1 ?_
    calc 2 ^ ((m₁ <<< shift / m₂).log2 + m₂.log2)
        = 2 ^ (m₁ <<< shift / m₂).log2 * 2 ^ m₂.log2 := Nat.pow_add ..
      _ ≤ m₁ <<< shift / m₂ * m₂ :=
          Nat.mul_le_mul (Nat.log2_self_le hquotient) (Nat.log2_self_le (Nat.ne_of_gt h₂))
      _ ≤ m₁ * 2 ^ shift := by rw [← Nat.shiftLeft_eq]; exact Nat.div_mul_le_self ..
      _ < 2 ^ (m₁.log2 + 1) * 2 ^ shift :=
          Nat.mul_lt_mul_of_pos_right Nat.lt_log2_self (Nat.two_pow_pos shift)
      _ = 2 ^ (m₁.log2 + 1 + shift) := (Nat.pow_add ..).symm
  simp only [totalExponent]
  omega

/-- A quotient by a double of at least eight is finite: no carry makes up for three bits. -/
theorem isFinite_div (hx : isFinite x = true) (hy : isGreat y = true) :
    isFinite (x / y) = true := by
  rw [isFinite_iff_within] at hx ⊢
  refine within_pack ?_ (by decide) (by decide)
  rw [isGreat] at hy
  cases hyunpack : y.toModel.unpack with
  | notANumber | zero => simp [hyunpack] at hy
  | infinity s₂ =>
    rw [Within] at hx
    generalize x.toModel.unpack = u at hx
    cases hx with
    | @zero s₁ | @finite s₁ => exact .zero (s₁ / s₂)
  | finite s₂ m₂ e₂ h₂ =>
    rw [hyunpack] at hy
    rw [Within] at hx
    generalize hxunpack : x.toModel.unpack = u at hx
    cases hx with
    | zero s₁ => exact .zero (s₁ / s₂)
    | @finite s₁ m₁ e₁ h₁ hx =>
      have hlog : m₁.log2 < 53 :=
        (Nat.log2_lt (Nat.ne_of_gt h₁)).2 (significand_lt_of_unpack hxunpack)
      replace hy : 4 ≤ totalExponent m₂ e₂ := of_decide_eq_true hy
      have htotal : totalExponent m₁ e₁ ≤ 1024 := by
        rw [totalExponent]
        omega
      have htarget : (divCore .binary64 m₁ e₁ m₂ e₂).2.1 ≤ 967 := by
        simp only [divCore, targetExponent_eq]
        omega
      have hquotient : totalExponent (divCore .binary64 m₁ e₁ m₂ e₂).1
          (divCore .binary64 m₁ e₁ m₂ e₂).2.1 ≤ 1021 := by
        by_cases hzero : (divCore .binary64 m₁ e₁ m₂ e₂).1 = 0
        · rw [hzero, totalExponent, Nat.log2_zero]
          omega
        · have := totalExponent_divCore_le e₁ e₂ h₂ hzero
          omega
      exact exponentLE_round (s₁ / s₂) (divCore .binary64 m₁ e₁ m₂ e₂).2.2
        (Int.le_trans htarget (by decide)) (Int.le_trans hquotient (by decide)) (by decide)

/-- A value with its leading bit written is at least eight if its exponent calls for that. -/
theorem isGreat_of_unpackExponent {x : Float}
    (hle : 1026 ≤ (unpackExponent (bits x)).toNat)
    (hfinite : unpackExponent (bits x) ≠ -1#11) :
    isGreat x = true := by
  have hzero : unpackExponent (bits x) ≠ 0#11 := fun h ↦ by
    simp [h] at hle
  have hunpack : x.toModel.unpack = unpack .binary64 (bits x) := rfl
  have hleading : 2 ^ 52 ≤ (1#1 ++ unpackMantissa (bits x)).toNat := by
    rw [BitVec.toNat_append, ← Nat.shiftLeft_add_eq_or_of_lt (BitVec.isLt _)]
    exact Nat.le_add_right ..
  have hlog := (Nat.le_log2 (Nat.ne_of_gt (Nat.lt_of_lt_of_le (by decide) hleading))).2 hleading
  rw [isGreat, hunpack, unpack, if_neg hfinite, if_neg hzero]
  refine decide_eq_true ?_
  rw [totalExponent, exponentBias_add_mantissaBits]
  omega

/-- What is packed with 53 bits keeps its exponent, or is infinite. -/
theorem isGreat_pack (s : Sign) {m : Nat} {e : Int} (hm : 0 < m) (hlog : m.log2 = 52)
    (he : -49 ≤ e) : isGreat (.ofModel (.pack (.finite s m e hm))) = true := by
  have hbits : bits (.ofModel (.pack (.finite s m e hm))) = pack .binary64 (.finite s m e hm) := rfl
  by_cases hgreat : 2 ^ 11 ≤ (e + Format.binary64.exponentBias + (52 : Nat)).toNat + 1
  · have hpacked : pack .binary64 (.finite s m e hm) = packedInfinity .binary64 s := by
      rw [pack]
      exact if_pos hgreat
    have hmodel : Float.Model.pack (.finite s m e hm) = Float.Model.pack (.infinity s) := by
      simp only [Float.Model.pack, hpacked]
      rfl
    rw [hmodel]
    cases s <;> rfl
  · have hpacked : pack .binary64 (.finite s m e hm) =
        packComponents .binary64 s
          (BitVec.ofNat _ (e + Format.binary64.exponentBias + (52 : Nat)).toNat)
          (BitVec.ofNat _ m) := by
      rw [pack, if_neg hgreat]
      exact if_pos (congrArg (· + 1) hlog)
    have hbias := exponentBias_eq
    have hsmall : (e + Format.binary64.exponentBias + (52 : Nat)).toNat < 2 ^ 11 := by omega
    refine isGreat_of_unpackExponent ?_ ?_
    · rw [hbits, hpacked, unpackExponent_packComponents, BitVec.toNat_ofNat,
        Nat.mod_eq_of_lt hsmall]
      omega
    · rw [hbits, hpacked, unpackExponent_packComponents, ne_eq, ← BitVec.toNat_inj,
        BitVec.toNat_ofNat]
      simp
      omega

/-! ### Powers of ten -/

theorem ofScientific_natCast {n k : Nat} (hn : n ≠ 0) (hk : k ≤ 2 ^ 11) :
    ofScientific .binary64 n k =
      mul .binary64
        (.finite .positive (n <<< 53) (-53) (by simpa [Nat.pos_iff_ne_zero] using hn))
        (.finite .positive (10 ^ k) 0 (Nat.pow_pos (by decide))) := by
  have hhigh : ¬(k : Int) > 2 ^ 11 := by omega
  have hlow : ¬(k : Int) < -((2 ^ 11 : Int) + n.log2) := by omega
  rw [ofScientific, dif_neg hn, if_neg hhigh, if_neg hlow, if_pos (Int.natCast_nonneg k)]
  rfl

/-- Powers of ten, those included that are too great for a double, are at least eight. -/
theorem isGreat_ofScientific {k : Nat} (hk : 0 < k) :
    isGreat (Float.ofScientific 1 false k) = true := by
  by_cases hsmall : k ≤ 22
  · have hall : ∀ k < 23, 0 < k → isGreat (Float.ofScientific 1 false k) = true := by
      decide +kernel
    exact hall k (Nat.lt_succ_of_le hsmall) hk
  · rw [Float.ofScientific, dif_neg fun h ↦ hsmall h.2]
    change isGreat (.ofModel (.pack (ofScientific .binary64 1 k))) = true
    by_cases hgreat : (k : Int) > 2 ^ 11
    · rw [ofScientific, dif_neg (by decide), if_pos hgreat]
      rfl
    · have hten : 2 ^ 3 ≤ 10 ^ k :=
        Nat.le_trans (by decide) (Nat.pow_le_pow_right (n := 10) (by decide) hk)
      have hproduct : 2 ^ 56 ≤ 1 <<< 53 * 10 ^ k := by omega
      have hlog : 56 ≤ (1 <<< 53 * 10 ^ k).log2 := (Nat.le_log2 (by omega)).2 hproduct
      obtain ⟨m, e, hm, hround, hbits, he⟩ := exists_of_round (.positive * .positive)
        (m := 1 <<< 53 * 10 ^ k) (e := -53 + 0) .exact (by omega) (by omega)
      rw [ofScientific_natCast (by decide) (by omega), mul, hround]
      exact isGreat_pack _ hm hbits (by omega)

/-! ### Whole numbers -/

theorem log2_lt_of_lt {m k : Nat} (hm : m < 2 ^ k) (hk : 0 < k) : m.log2 < k := by
  by_cases hzero : m = 0
  · rw [hzero, Nat.log2_zero]
    exact hk
  · exact (Nat.log2_lt hzero).2 hm

/-- A whole number of 64 bits, taken for a double, has a small exponent. -/
theorem within_toFloat (n : UInt64) : Within 12 n.toFloat := by
  refine within_pack ?_ (by decide) (by decide)
  have hlog : n.toNat.log2 < 64 := log2_lt_of_lt n.toNat_lt (by decide)
  change ExponentLE 12 (UnpackedFloat.normalize .binary64 n.toNat 0 .positive)
  rw [UnpackedFloat.normalize]
  split
  · rename_i hnegative
    rw [Int.compare_eq_lt] at hnegative
    omega
  · exact .zero .positive
  · rw [UnpackedFloat.round, Int.toNat_natCast]
    -- Digits are added in front of the rounding, so that the exponent only falls.
    generalize hshift : (0 - Format.binary64.targetExponent (totalExponent n.toNat 0)).toNat = shift
    have hdigits : (n.toNat <<< shift).log2 < 64 + shift := by
      refine log2_lt_of_lt ?_ (by omega)
      rw [Nat.shiftLeft_eq, Nat.pow_add]
      exact Nat.mul_lt_mul_of_pos_right n.toNat_lt (Nat.two_pow_pos shift)
    simp only [decreaseExponent, hshift]
    refine exponentLE_round .positive .exact (by omega) ?_ (by decide)
    rw [totalExponent]
    omega

/-- The product of two values has at most as many bits as both together. -/
theorem exponentLE_mul (s₁ s₂ : Sign) {m₁ m₂ : Nat} {e₁ e₂ : Int} (h₁ : 0 < m₁) (h₂ : 0 < m₂)
    (he : e₁ + e₂ ≤ bound) (htotal : totalExponent m₁ e₁ + totalExponent m₂ e₂ ≤ bound + 52)
    (hleast : -1074 ≤ bound) :
    ExponentLE bound (mul .binary64 (.finite s₁ m₁ e₁ h₁) (.finite s₂ m₂ e₂ h₂)) := by
  refine exponentLE_round (s₁ * s₂) .exact he ?_ hleast
  have hproduct : (m₁ * m₂).log2 < m₁.log2 + 1 + (m₂.log2 + 1) := by
    refine log2_lt_of_lt ?_ (by omega)
    rw [Nat.pow_add]
    exact Nat.mul_lt_mul'' Nat.lt_log2_self Nat.lt_log2_self
  simp only [totalExponent] at htotal ⊢
  omega

/-- Small numbers are taken for a double first and then multiplied by one; great ones are rounded as
the product with one. -/
theorem within_ofNat {n : Nat} (h : n < 2 ^ 64) : Within 64 (Float.ofNat n) := by
  rw [Float.ofNat]
  change Within 64 (Float.ofScientific n false 0)
  rw [Float.ofScientific]
  split
  · rename_i hsmall
    have hone : Float.exactlyRepresentablePowersOfTen[0].toModel.unpack =
        .finite .positive (2 ^ 52) (-52) (by decide) := by
      rfl
    refine within_pack ?_ (by decide) (by decide)
    have hx := within_toFloat n.toUInt64
    rw [Within] at hx
    change ExponentLE 64 (mul .binary64 n.toUInt64.toFloat.toModel.unpack
      Float.exactlyRepresentablePowersOfTen[0].toModel.unpack)
    rw [hone]
    generalize hunpack : n.toUInt64.toFloat.toModel.unpack = u at hx
    cases hx with
    | zero s => exact .zero (s * .positive)
    | @finite s m e hm he =>
      have hlog : m.log2 < 53 := log2_lt_of_lt (significand_lt_of_unpack hunpack) (by decide)
      refine exponentLE_mul s .positive hm (by decide) (by omega) ?_ (by decide)
      simp only [totalExponent, Nat.log2_two_pow]
      omega
  · refine within_pack ?_ (by decide) (by decide)
    change ExponentLE 64 (ofScientific .binary64 n (0 : Nat))
    by_cases hzero : n = 0
    · rw [ofScientific, dif_pos hzero]
      exact .zero .positive
    · have hdigits : (n <<< 53).log2 < 117 := by
        refine log2_lt_of_lt ?_ (by decide)
        rw [Nat.shiftLeft_eq]
        omega
      have htotal : totalExponent (n <<< 53) (-53) + totalExponent (10 ^ 0) 0 ≤ 64 + 52 := by
        have hone : Nat.log2 (10 ^ 0) = 0 := rfl
        rw [totalExponent, totalExponent, hone]
        omega
      have hexponent : (-53 : Int) + 0 ≤ 64 := by decide
      rw [ofScientific_natCast hzero (by decide)]
      exact exponentLE_mul .positive .positive _ _ hexponent htotal (by decide)

theorem isFinite_ofNat {n : Nat} (h : n < 2 ^ 64) : isFinite (Float.ofNat n) = true :=
  isFinite_iff_within.2 ((within_ofNat h).mono (by decide))

/-- Whole numbers of 64 bits, signed or not, are finite as doubles. -/
theorem isFinite_ofInt {n : Int} (hleast : -2 ^ 64 < n) (hgreatest : n < 2 ^ 64) :
    isFinite (Float.ofInt n) = true := by
  cases n with
  | ofNat n => exact isFinite_ofNat (by simpa using Int.ofNat_lt.1 hgreatest)
  | negSucc n => exact isFinite_neg (isFinite_ofNat (by omega))

end Workbench.Decimal
