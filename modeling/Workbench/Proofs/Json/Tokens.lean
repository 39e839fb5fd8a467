import Workbench.Proofs.Decimal.Magnitude
import Workbench.Proofs.Json.Cuts

/-!
# Numbers that are cut off

The text of a number is that of a token: a sign, digits, a point with digits, and an exponent.
Where it is cut off inside digits or behind them, a shorter token is left (`CutOf`); behind a sign,
a point or the letter of an exponent digits are missing, and the text ends too early. A shorter
token always has a value: its whole part has 64 bits still, and its exponent has lost a digit of
three or is gone, so that it is not too large for a double.
-/

namespace Workbench

namespace Text

theorem utf8Size_digitChar {d : Nat} (h : d < 10) : (digitChar d).utf8Size = 1 := by
  have hall : ∀ d < 10, (digitChar d).utf8Size = 1 := by decide
  exact hall d h

/-- Digits are cut between two of them. -/
theorem exists_take_of_cut {ds : List Nat} {p : List Symbol} (hds : ∀ d ∈ ds, d < 10)
    (h : Cut (ds.map digitChar) p) :
    ∃ k < ds.length, p = ((ds.take k).map digitChar).map .char := by
  obtain ⟨k, hk, rfl⟩ := h.exists_take (List.forall_mem_map.2 fun d hd ↦
    utf8Size_digitChar (hds d hd))
  exact ⟨k, by simpa using hk, by simp only [List.map_take]⟩

theorem ofDigitValues_append (ds es : List Nat) :
    ofDigitValues (ds ++ es) = es.foldl (fun n d ↦ 10 * n + d) (ofDigitValues ds) :=
  List.foldl_append ..

theorem ofDigitValues_lt {ds : List Nat} (hds : ∀ d ∈ ds, d < 10) :
    ofDigitValues ds < 10 ^ ds.length := by
  induction ds using List.reverseRecOn with
  | nil => decide
  | append_singleton ds d ih =>
    obtain ⟨hds, hd⟩ := List.forall_mem_append.1 hds
    have hd := hd d (List.mem_singleton_self d)
    have ih := ih hds
    rw [ofDigitValues_append, List.length_append, List.length_singleton, Nat.pow_succ]
    simp only [List.foldl_cons, List.foldl_nil]
    omega

end Text

namespace Json

open Text (Symbol Cut bound63 bound64 digitValues digitChar ofDigitValues)

/-! ### Tokens as text -/

/-- The point and the digits behind it. -/
def fractionText : List Nat → List Char
  | [] => []
  | d :: ds => '.' :: (d :: ds).map digitChar

/-- An exponent, whose sign is always written. -/
def exponentText : Option Exponent → List Char
  | none => []
  | some e => 'e' :: (if e.negative then '-' else '+') :: e.digits.map digitChar

namespace Token

/-- The text of a token behind its sign. -/
def magnitude (t : Token) : List Char :=
  t.whole.map digitChar ++ (fractionText t.fraction ++ exponentText t.exponent)

/-- The text of a token. -/
def text (t : Token) : List Char :=
  if t.negative then '-' :: t.magnitude else t.magnitude

/-- A token as numbers are written: the whole part has 64 bits and no zero in front, and a positive
exponent has at most three digits. -/
structure Plain (t : Token) : Prop where
  whole_ne_nil : t.whole ≠ []
  whole_lt : ∀ d ∈ t.whole, d < 10
  zero : t.whole.head? = some 0 → t.whole = [0]
  bound : ofDigitValues t.whole < bound64
  fraction_lt : ∀ d ∈ t.fraction, d < 10
  exponent_ne_nil : ∀ e, t.exponent = some e → e.digits ≠ []
  exponent_lt : ∀ e, t.exponent = some e → ∀ d ∈ e.digits, d < 10
  exponent_length : ∀ e, t.exponent = some e → e.negative = false → e.digits.length ≤ 3

/-- What is left of a token whose text is cut off: fewer digits of the part that is cut, and no part
behind it. -/
structure CutOf (t' t : Token) : Prop where
  negative : t'.negative = t.negative
  whole : t'.whole <+: t.whole
  whole_ne_nil : t'.whole ≠ []
  fraction : t'.fraction <+: t.fraction
  exponent : ∀ e', t'.exponent = some e' → e'.digits ≠ [] ∧ ∃ e, t.exponent = some e ∧
    e'.negative = e.negative ∧ e'.digits <+: e.digits ∧ e'.digits.length < e.digits.length

variable {t t' : Token}

theorem CutOf.plain (h : t'.CutOf t) (ht : t.Plain) : t'.Plain where
  whole_ne_nil := h.whole_ne_nil
  whole_lt d hd := ht.whole_lt d (h.whole.subset hd)
  zero hzero := by
    obtain ⟨ds, hds⟩ := h.whole
    have hhead : t.whole.head? = some 0 := by
      rw [← hds, List.head?_append, hzero, Option.some_or]
    have hlength := congrArg List.length (hds.trans (ht.zero hhead))
    have hone : t'.whole.length = 1 := by
      have := List.length_pos_iff.2 h.whole_ne_nil
      simp only [List.length_append, List.length_singleton] at hlength
      omega
    obtain ⟨d, hd⟩ := List.length_eq_one_iff.1 hone
    rw [hd] at hzero ⊢
    rw [Option.some.inj hzero]
  bound := by
    obtain ⟨ds, hds⟩ := h.whole
    have hbound := ht.bound
    rw [← hds, Text.ofDigitValues_append] at hbound
    exact Nat.lt_of_le_of_lt (le_foldl_digits _ ds) hbound
  fraction_lt d hd := ht.fraction_lt d (h.fraction.subset hd)
  exponent_ne_nil e he := (h.exponent e he).1
  exponent_lt e he d hd := by
    obtain ⟨-, e', he', -, hdigits, -⟩ := h.exponent e he
    exact ht.exponent_lt e' he' d (hdigits.subset hd)
  exponent_length e he hnegative := by
    obtain ⟨-, e', he', hsign, -, hlength⟩ := h.exponent e he
    have := ht.exponent_length e' he' (hsign.symm.trans hnegative)
    omega

end Token

/-! ### The parts of a text -/

section Parts

variable {ds : List Nat} {rest : Input}

theorem someDigits_digits_append {atEnd : Cause} (hne : ds ≠ []) (hds : ∀ d ∈ ds, d < 10)
    (hrest : takeDigits rest = ([], rest)) :
    someDigits atEnd ((ds.map digitChar).map .char ++ rest) = .ok (ds, rest) := by
  rw [someDigits, takeDigits_digits_append hds hrest]
  cases ds with
  | nil => exact absurd rfl hne
  | cons d ds => rfl

theorem wholePart_append_text {atEnd : Cause} {t : Token} (ht : t.Plain)
    (hrest : takeDigits rest = ([], rest)) :
    wholePart atEnd ((t.whole.map digitChar).map .char ++ rest) = .ok (t.whole, rest) := by
  have hzero : ¬(t.whole.head? = some 0 ∧ 1 < t.whole.length) := by
    rintro ⟨hhead, hlength⟩
    rw [ht.zero hhead] at hlength
    exact absurd hlength (by decide)
  rw [wholePart, someDigits_digits_append ht.whole_ne_nil ht.whole_lt hrest]
  exact if_neg hzero

theorem fractionPart_fractionText {atEnd : Cause} (hds : ∀ d ∈ ds, d < 10)
    (hrest : takeDigits rest = ([], rest)) (hpoint : rest.head? ≠ some (.char '.')) :
    fractionPart atEnd ((fractionText ds).map .char ++ rest) = .ok (ds, rest) := by
  cases ds with
  | nil =>
    rw [fractionText, List.map_nil, List.nil_append, fractionPart.eq_def]
    split
    · exact absurd rfl hpoint
    · rfl
  | cons d ds => exact someDigits_digits_append (List.cons_ne_nil d ds) hds hrest

theorem exponentPart_exponentText {atEnd : Cause} {exponent : Option Exponent}
    (hne : ∀ e, exponent = some e → e.digits ≠ [])
    (hlt : ∀ e, exponent = some e → ∀ d ∈ e.digits, d < 10) :
    exponentPart atEnd ((exponentText exponent).map .char) = .ok (exponent, []) := by
  cases exponent with
  | none => rfl
  | some e =>
    have hdigits : someDigits atEnd ((e.digits.map digitChar).map .char ++ []) =
        .ok (e.digits, []) := someDigits_digits_append (hne e rfl) (hlt e rfl) rfl
    rw [List.append_nil] at hdigits
    obtain ⟨negative, digits⟩ := e
    cases negative <;> rw [exponentText, List.map_cons, exponentPart_cons] <;>
      simp only [true_or, if_true, Bool.false_eq_true, if_false, List.map_cons, exponentSign,
        hdigits]

theorem takeDigits_exponentText (exponent : Option Exponent) :
    takeDigits ((exponentText exponent).map .char) = ([], (exponentText exponent).map .char) := by
  cases exponent <;> rfl

/-- The text behind the whole part does not go on its digits. -/
theorem takeDigits_fractionText (ds : List Nat) (hrest : takeDigits rest = ([], rest)) :
    takeDigits ((fractionText ds).map .char ++ rest) =
      ([], (fractionText ds).map .char ++ rest) := by
  cases ds with
  | nil => exact hrest
  | cons d ds => rfl

theorem head?_exponentText (exponent : Option Exponent) :
    ((exponentText exponent).map Symbol.char).head? ≠ some (.char '.') := by
  cases exponent <;> simp [exponentText]

end Parts

/-! ### Whole tokens and tokens that are cut off -/

namespace Token

variable {t t' : Token} {atEnd : Cause} {p rest : Input}

/-- A token is scanned up to its exponent. -/
theorem scan_append_text (ht : t.Plain) (hrest : takeDigits rest = ([], rest))
    (hpoint : rest.head? ≠ some (.char '.')) (negative : Bool) :
    scan atEnd negative ((t.whole.map digitChar).map .char ++
        ((fractionText t.fraction).map .char ++ rest)) =
      (exponentPart atEnd rest).map fun (exponent, rest) ↦
        (⟨negative, t.whole, t.fraction, exponent⟩, rest) := by
  rw [scan, wholePart_append_text ht (takeDigits_fractionText t.fraction hrest)]
  simp only [fractionPart_fractionText ht.fraction_lt hrest hpoint]
  cases exponentPart atEnd rest <;> rfl

theorem scan_magnitude (ht : t.Plain) :
    scan atEnd t.negative (t.magnitude.map .char) = .ok (t, []) := by
  rw [magnitude, List.map_append, List.map_append,
    scan_append_text ht (takeDigits_exponentText t.exponent) (head?_exponentText t.exponent),
    exponentPart_exponentText ht.exponent_ne_nil ht.exponent_lt]
  rfl

/-- The text ends where digits are missing, or it is that of a token with fewer digits. -/
def ScansCut (t : Token) (p : Input) : Prop :=
  Truncated (scan .valueEnds t.negative p) ∨
    ∃ t', t'.CutOf t ∧ scan .valueEnds t.negative p = .ok (t', [])

theorem CutOf.scansCut (h : t'.CutOf t) (ht : t.Plain) : t.ScansCut (t'.magnitude.map .char) :=
  .inr ⟨t', h, h.negative ▸ scan_magnitude (h.plain ht)⟩

theorem CutOf.noExponent (ht : t.Plain) :
    (⟨t.negative, t.whole, t.fraction, none⟩ : Token).CutOf t :=
  ⟨rfl, List.prefix_rfl, ht.whole_ne_nil, List.prefix_rfl, by simp⟩

theorem scansCut_whole (ht : t.Plain) (hp : Cut (t.whole.map digitChar) p) : t.ScansCut p := by
  obtain ⟨k, hk, rfl⟩ := Text.exists_take_of_cut ht.whole_lt hp
  cases k with
  | zero => exact .inl ⟨_, rfl, rfl⟩
  | succ k =>
    have hcut : (⟨t.negative, t.whole.take (k + 1), [], none⟩ : Token).CutOf t :=
      ⟨rfl, List.take_prefix .., by simpa using ht.whole_ne_nil, List.nil_prefix, by simp⟩
    have hscan := hcut.scansCut ht
    simpa [magnitude, fractionText, exponentText] using hscan

theorem scansCut_fraction (ht : t.Plain) (hp : Cut (fractionText t.fraction) p) :
    t.ScansCut ((t.whole.map digitChar).map .char ++ p) := by
  obtain ⟨negative, whole, fraction, exponent⟩ := t
  cases fraction with
  | nil => exact absurd rfl hp.ne_nil
  | cons d ds =>
    rcases hp.cons_cases rfl with rfl | ⟨q, hq, rfl⟩
    · have hcut : (⟨negative, whole, [], none⟩ : Token).CutOf
          ⟨negative, whole, d :: ds, exponent⟩ :=
        ⟨rfl, List.prefix_rfl, ht.whole_ne_nil, List.nil_prefix, by simp⟩
      have hscan := hcut.scansCut ht
      simpa [magnitude, fractionText, exponentText] using hscan
    obtain ⟨k, hk, rfl⟩ := Text.exists_take_of_cut ht.fraction_lt hq
    cases k with
    | zero =>
      refine .inl ?_
      rw [scan, wholePart_append_text ht rfl]
      exact ⟨_, rfl, rfl⟩
    | succ k =>
      have hcut : (⟨negative, whole, d :: ds.take k, none⟩ : Token).CutOf
          ⟨negative, whole, d :: ds, exponent⟩ :=
        ⟨rfl, List.prefix_rfl, ht.whole_ne_nil, List.take_prefix (k + 1) (d :: ds), by simp⟩
      have hscan := hcut.scansCut ht
      simpa [magnitude, fractionText, exponentText] using hscan

theorem truncated_scan_exponent (ht : t.Plain) {s : Input}
    (h : Truncated (exponentPart .valueEnds (.char 'e' :: s))) :
    t.ScansCut ((t.whole.map digitChar).map .char ++
      ((fractionText t.fraction).map .char ++ .char 'e' :: s)) := by
  refine .inl ?_
  rw [scan_append_text ht rfl (by simp)]
  exact h.map _

theorem scansCut_exponent (ht : t.Plain) (hp : Cut (exponentText t.exponent) p) :
    t.ScansCut ((t.whole.map digitChar).map .char ++
      ((fractionText t.fraction).map .char ++ p)) := by
  obtain ⟨negative, whole, fraction, exponent⟩ := t
  cases exponent with
  | none => exact absurd rfl hp.ne_nil
  | some e =>
    have hsign : (if e.negative then '-' else '+').utf8Size = 1 := by split <;> rfl
    rcases hp.cons_cases rfl with rfl | ⟨q, hq, rfl⟩
    · have hscan := (CutOf.noExponent ht).scansCut ht
      simpa [magnitude, exponentText] using hscan
    rcases hq.cons_cases hsign with rfl | ⟨u, hu, rfl⟩
    · exact truncated_scan_exponent ht ⟨_, rfl, rfl⟩
    obtain ⟨k, hk, rfl⟩ := Text.exists_take_of_cut (ht.exponent_lt e rfl) hu
    cases k with
    | zero =>
      refine truncated_scan_exponent ht ?_
      cases e.negative <;> exact ⟨_, rfl, rfl⟩
    | succ k =>
      have hcut : (⟨negative, whole, fraction, some ⟨e.negative, e.digits.take (k + 1)⟩⟩ :
          Token).CutOf ⟨negative, whole, fraction, some e⟩ := by
        refine ⟨rfl, List.prefix_rfl, ht.whole_ne_nil, List.prefix_rfl, ?_⟩
        rintro _ ⟨⟩
        exact ⟨by simpa using ht.exponent_ne_nil e rfl, e, rfl, rfl, List.take_prefix .., by simpa⟩
      have hscan := hcut.scansCut ht
      simpa [magnitude, exponentText] using hscan

/-- A text that is cut off is scanned as what is left of its token, unless digits are missing. -/
theorem scansCut (ht : t.Plain) (hp : Cut t.magnitude p) : t.ScansCut p := by
  rcases hp.append_cases with hp | ⟨q, hq, rfl⟩
  · exact scansCut_whole ht hp
  rcases hq.append_cases with hq | ⟨u, hu, rfl⟩
  · exact scansCut_fraction ht hq
  · exact scansCut_exponent ht hu

end Token

/-! ### Numbers -/

/-- Scaling by a negative power of ten gives a double in any case. -/
theorem exists_scale?_of_neg (x : Float) {e : Int} (he : e < 0) : ∃ y, scale? x e = some y := by
  fun_induction scale? x e with
  | case1 | case2 => omega
  | case3 => exact ⟨_, rfl⟩
  | case4 => exact ⟨_, rfl⟩
  | case5 => omega
  | case6 x e hlarge hnonzero hnegative ih => exact ih (by omega)

/-- A significand of 64 bits is not too large with an exponent below a hundred. -/
theorem exists_scale? {n : Nat} (hn : n < bound64) {e : Int} (he : e < 100) :
    ∃ y, scale? (Float.ofNat n) e = some y := by
  by_cases hnegative : e < 0
  · exact exists_scale?_of_neg _ hnegative
  · have hfinite : Decimal.isFinite (Float.ofNat n * powerOfTen e.natAbs) = true :=
      Decimal.isFinite_mul_ofScientific hn (by omega)
    rw [scale?, if_pos (by omega), if_pos (by omega), if_pos hfinite]
    exact ⟨_, rfl⟩

namespace Token

variable {t t' : Token} {p : Input}

theorem Plain.absorb_whole (ht : t.Plain) : absorb 0 t.whole = (ofDigitValues t.whole, 0) :=
  absorb_eq ht.bound

/-- The exponent of a token that is cut off has lost a digit of three, or is gone. -/
theorem CutOf.exponent_lt (h : t'.CutOf t) (ht : t.Plain) :
    t'.exponent.elim 0 Exponent.value < 100 := by
  cases hexponent : t'.exponent with
  | none => decide
  | some e =>
    obtain ⟨-, e', he', hsign, hdigits, hlength⟩ := h.exponent e hexponent
    rw [Option.elim_some, Exponent.value]
    split
    · omega
    · rename_i hpositive
      have hthree := ht.exponent_length e' he' (by simpa [hsign] using hpositive)
      have hvalue := Text.ofDigitValues_lt fun d hd ↦ ht.exponent_lt e' he' d (hdigits.subset hd)
      have htwo : 10 ^ e.digits.length ≤ 10 ^ 2 := Nat.pow_le_pow_right (by decide) (by omega)
      omega

/-- A token that is cut off has a value. -/
theorem CutOf.exists_value? (h : t'.CutOf t) (ht : t.Plain) : ∃ n, t'.value? = some n := by
  rw [value?, (h.plain ht).absorb_whole]
  simp only
  split
  · split
    · exact ⟨_, rfl⟩
    · split <;> exact ⟨_, rfl⟩
  · have hexponent := h.exponent_lt ht
    have hsignificand := absorb_lt (h.plain ht).bound t'.fraction
    generalize absorb (ofDigitValues t'.whole) t'.fraction = absorbed at hsignificand ⊢
    obtain ⟨significand, dropped⟩ := absorbed
    obtain ⟨y, hy⟩ := exists_scale? hsignificand (e := (0 : Nat) -
      (t'.fraction.length - dropped : Nat) + t'.exponent.elim 0 Exponent.value) (by omega)
    exact ⟨_, congrArg (Option.map _) hy⟩

/-- A token without sign, fraction and exponent is a natural number. -/
theorem exists_natural (ht : t.Plain) (hnegative : t.negative = false) (hfraction : t.fraction = [])
    (hexponent : t.exponent = none) : t.value? = some (.whole (ofDigitValues t.whole)) := by
  rw [value?, ht.absorb_whole]
  simp only
  rw [if_pos ⟨hfraction, hexponent, trivial⟩, hnegative]
  rfl

/-- Digits do not start with a sign. -/
theorem scanSigned_of_head {s : Input} (h : s.head? ≠ some (.char '-')) :
    scanSigned s = scan .valueEnds false s := by
  rw [scanSigned.eq_def]
  split
  · exact absurd rfl h
  · rfl

theorem head?_magnitude (ht : t.Plain) : ∃ c, t.magnitude.head? = some c ∧ c ≠ '-' := by
  have hdigit : ∀ d < 10, digitChar d ≠ '-' := by decide
  obtain ⟨d, ds, hwhole⟩ := List.exists_cons_of_ne_nil ht.whole_ne_nil
  refine ⟨digitChar d, ?_, hdigit d (ht.whole_lt d (hwhole ▸ List.mem_cons_self))⟩
  rw [magnitude, hwhole]
  rfl

theorem scanSigned_text (ht : t.Plain) : scanSigned (t.text.map .char) = .ok (t, []) := by
  have hscan : scan .valueEnds t.negative (t.magnitude.map .char) = .ok (t, []) :=
    scan_magnitude ht
  rw [text]
  cases hnegative : t.negative with
  | true =>
    rw [hnegative] at hscan
    exact hscan
  | false =>
    rw [hnegative] at hscan
    obtain ⟨c, hhead, hc⟩ := head?_magnitude ht
    rw [if_neg Bool.false_ne_true, scanSigned_of_head (by simp [hhead, hc])]
    exact hscan

theorem scanSigned_cut (ht : t.Plain) (hp : Cut t.text p) :
    Truncated (scanSigned p) ∨ ∃ t', t'.CutOf t ∧ scanSigned p = .ok (t', []) := by
  rw [text] at hp
  cases hnegative : t.negative with
  | true =>
    rw [hnegative, if_pos rfl] at hp
    rcases hp.cons_cases rfl with rfl | ⟨q, hq, rfl⟩
    · exact .inl ⟨_, rfl, rfl⟩
    · have hscan := scansCut ht hq
      rwa [ScansCut, hnegative] at hscan
  | false =>
    rw [hnegative, if_neg Bool.false_ne_true] at hp
    have hscan := scansCut ht hp
    rw [ScansCut, hnegative] at hscan
    have hhead : p.head? ≠ some (.char '-') := by
      obtain ⟨c, hhead, hc⟩ := head?_magnitude ht
      intro hminus
      exact hc (Option.some.inj (hhead.symm.trans (hp.head?_eq hminus)))
    rwa [scanSigned_of_head hhead]

/-- A number that is cut off is read as what is left of it, or the text ends too early. -/
theorem readNumber_cut (ht : t.Plain) (hp : Cut t.text p) :
    Truncated (readNumber p) ∨ ∃ (t' : Token) (n : Number),
      t'.CutOf t ∧ t'.value? = some n ∧ readNumber p = .ok (n, []) := by
  rw [readNumber_eq]
  rcases scanSigned_cut ht hp with ⟨fault, hfault, hkind⟩ | ⟨t', hcut, hscan⟩
  · exact .inl ⟨fault, by rw [hfault], hkind⟩
  · obtain ⟨n, hn⟩ := hcut.exists_value? ht
    exact .inr ⟨t', n, hcut, hn, by simp only [hscan, hn]⟩

end Token

/-! ### Numbers that are written -/

theorem plain_digitValues {n : Nat} (hn : n < bound64) (negative : Bool) :
    (⟨negative, digitValues n, [], none⟩ : Token).Plain where
  whole_ne_nil := Text.digitValues_ne_nil n
  whole_lt _ := Text.lt_of_mem_digitValues
  zero := Text.head?_digitValues n
  bound := by rwa [Text.ofDigitValues_digitValues]
  fraction_lt := by simp
  exponent_ne_nil := by simp
  exponent_lt := by simp
  exponent_length := by simp

/-- A whole number is written as a token without fraction and exponent. -/
theorem exists_token_whole {n : Int} (hn : (Number.whole n).Valid) :
    ∃ t : Token, t.Plain ∧ t.text = Text.integerDigits n ∧ (0 ≤ n → t.negative = false) ∧
      t.fraction = [] ∧ t.exponent = none := by
  obtain ⟨hleast, hgreatest⟩ := hn
  have hbounds : (bound63 : Int) < bound64 := by decide
  refine ⟨⟨decide (n < 0), digitValues n.natAbs, [], none⟩, plain_digitValues (by omega) _, ?_,
    fun h ↦ decide_eq_false (by omega), rfl, rfl⟩
  rw [Text.integerDigits, Text.digits_eq_map]
  simp [Token.text, Token.magnitude, fractionText, exponentText]

theorem head?_digitValues_ne_zero {n : Nat} (hn : n ≠ 0) : (digitValues n).head? ≠ some 0 := by
  intro hhead
  have hvalue := Text.ofDigitValues_digitValues n
  rw [Text.head?_digitValues n hhead] at hvalue
  exact hn hvalue.symm

/-- Sixteen digits make a number of 64 bits. -/
theorem ofDigitValues_lt_bound64 {ds : List Nat} (hds : ∀ d ∈ ds, d < 10)
    (hlength : ds.length ≤ 16) : ofDigitValues ds < bound64 := by
  calc ofDigitValues ds < 10 ^ ds.length := Text.ofDigitValues_lt hds
    _ ≤ 10 ^ 16 := Nat.pow_le_pow_right (by decide) hlength
    _ < bound64 := by decide

/-- The digits of a decimal without an exponent make up a token. -/
theorem plain_positional {whole fraction : List Nat} (hne : whole ≠ [])
    (hwhole : ∀ d ∈ whole, d < 10) (hzero : whole.head? = some 0 → whole = [0])
    (hlength : whole.length ≤ 16) (hfraction : ∀ d ∈ fraction, d < 10) (negative : Bool) :
    (⟨negative, whole, fraction, none⟩ : Token).Plain where
  whole_ne_nil := hne
  whole_lt := hwhole
  zero := hzero
  bound := ofDigitValues_lt_bound64 hwhole hlength
  fraction_lt := hfraction
  exponent_ne_nil := by simp
  exponent_lt := by simp
  exponent_length := by simp

section Magnitudes

variable {n : Nat} {e : Int} (negative : Bool)

theorem length_digits_eq (n : Nat) : (Text.digits n).length = (digitValues n).length := by
  rw [Text.digits_eq_map, List.length_map]

theorem forall_mem_replicate_zero_lt (k : Nat) : ∀ d ∈ List.replicate k 0, d < 10 := by
  intro d hd
  rw [List.eq_of_mem_replicate hd]
  decide

/-- The token that is written for a decimal without an exponent. -/
def positionalToken (negative : Bool) (ds : List Nat) (e : Int) : Token :=
  if 0 ≤ e then ⟨negative, ds ++ List.replicate e.toNat 0, [0], none⟩
  else
    let point := (ds.length : Int) + e
    if 0 < point then ⟨negative, ds.take point.toNat, ds.drop point.toNat, none⟩
    else ⟨negative, [0], List.replicate (-point).toNat 0 ++ ds, none⟩

theorem negative_positionalToken (ds : List Nat) :
    (positionalToken negative ds e).negative = negative := by
  rw [positionalToken]
  split
  · rfl
  · simp only
    split <;> rfl

theorem fractionText_of_ne_nil {ds : List Nat} (h : ds ≠ []) :
    fractionText ds = '.' :: ds.map digitChar := by
  cases ds with
  | nil => exact absurd rfl h
  | cons d ds => rfl

theorem magnitude_positionalToken (n : Nat) :
    (positionalToken negative (digitValues n) e).magnitude =
      doubleLayout.positionalForm (Text.digits n) e := by
  have hzero : digitChar 0 = '0' := rfl
  have hne := Text.digitValues_ne_nil n
  rw [positionalToken, Decimal.Layout.positionalForm, length_digits_eq, Text.digits_eq_map]
  split
  · simp [Token.magnitude, fractionText, exponentText, doubleLayout, hzero]
  simp only
  split
  · rename_i hnegative hpoint
    have hdrop : (digitValues n).drop ((digitValues n).length + e).toNat ≠ [] := by
      simp only [ne_eq, List.drop_eq_nil_iff]
      omega
    rw [Token.magnitude, fractionText_of_ne_nil hdrop]
    simp [exponentText]
  · rw [Token.magnitude, fractionText_of_ne_nil (by simp [hne])]
    simp [exponentText, hzero]

theorem plain_positionalToken (hn : n ≠ 0) (hplace : (Decimal.Scaled.mk n e).place < 16) :
    (positionalToken negative (digitValues n) e).Plain := by
  have hlt : ∀ d ∈ digitValues n, d < 10 := fun _ ↦ Text.lt_of_mem_digitValues
  have hhead := head?_digitValues_ne_zero hn
  have hne := Text.digitValues_ne_nil n
  simp only [Decimal.Scaled.place, length_digits_eq] at hplace
  rw [positionalToken]
  split
  · refine plain_positional (by simp [hne]) ?_ ?_ ?_ (by simp) negative
    · exact List.forall_mem_append.2 ⟨hlt, forall_mem_replicate_zero_lt _⟩
    · rw [List.head?_append_of_ne_nil _ hne]
      exact fun h ↦ absurd h hhead
    · rw [List.length_append, List.length_replicate]
      omega
  simp only
  split
  · refine plain_positional ?_ (fun d hd ↦ hlt d (List.mem_of_mem_take hd)) ?_ ?_
      (fun d hd ↦ hlt d (List.mem_of_mem_drop hd)) negative
    · simp [hne]
      omega
    · rw [List.head?_take, if_neg (by omega)]
      exact fun h ↦ absurd h hhead
    · rw [List.length_take]
      omega
  · refine plain_positional (by simp) (by simp) (by simp) (by simp) ?_ negative
    exact List.forall_mem_append.2 ⟨forall_mem_replicate_zero_lt _, hlt⟩

/-- The token that is written for a decimal with an exponent. -/
def scientificToken (negative : Bool) (ds : List Nat) (e : Int) : Token :=
  let leading := e + ds.length - 1
  ⟨negative, ds.take 1, ds.drop 1, some ⟨decide (leading < 0), digitValues leading.natAbs⟩⟩

theorem magnitude_scientificToken (ds : List Nat) :
    (scientificToken negative ds e).magnitude =
      Decimal.Layout.scientificForm (ds.map digitChar) e := by
  simp only [scientificToken, Decimal.Layout.scientificForm, List.length_map, Token.magnitude,
    exponentText, Text.digits_eq_map, decide_eq_true_eq]
  generalize e + (ds.length : Int) - 1 = leading
  cases ds with
  | nil => rfl
  | cons d ds => cases ds <;> rfl

theorem plain_scientificToken (hplace : (Decimal.Scaled.mk n e).place < 1000) :
    (scientificToken negative (digitValues n) e).Plain := by
  have hlt : ∀ d ∈ digitValues n, d < 10 := fun _ ↦ Text.lt_of_mem_digitValues
  obtain ⟨d, ds, hds⟩ := List.exists_cons_of_ne_nil (Text.digitValues_ne_nil n)
  simp only [Decimal.Scaled.place, length_digits_eq] at hplace
  rw [scientificToken]
  rw [hds] at hlt hplace ⊢
  obtain ⟨hd, hlt⟩ := List.forall_mem_cons.1 hlt
  constructor
  case whole_ne_nil => simp
  case whole_lt => simpa using hd
  case zero => simp
  case bound => exact ofDigitValues_lt_bound64 (by simpa using hd) (by simp)
  case fraction_lt => simpa using hlt
  case exponent_ne_nil =>
    rintro _ ⟨⟩
    exact Text.digitValues_ne_nil _
  case exponent_lt =>
    rintro _ ⟨⟩ d hd
    exact Text.lt_of_mem_digitValues hd
  case exponent_length =>
    rintro _ ⟨⟩ hpositive
    rw [← length_digits_eq]
    refine Text.length_digits_le ?_ (by decide)
    simp only [decide_eq_false_iff_not] at hpositive
    omega

/-- The magnitude of a double is written as that of a token. -/
theorem exists_token_magnitude {x : Decimal.Binary} (hsignificand : x.significand < 2 ^ 53)
    (hexponent : x.exponent ≤ 971) :
    ∃ t : Token, t.Plain ∧ t.negative = negative ∧ t.magnitude = doubleLayout.magnitude x := by
  rw [Decimal.Layout.magnitude]
  split
  · exact ⟨⟨negative, [0], [0], none⟩,
      plain_positional (by simp) (by simp) (by simp) (by simp) (by simp) negative, rfl, rfl⟩
  rename_i hzero
  have hplace := Decimal.Binary.place_shortest_lt hsignificand hexponent doubleLayout.tie
  have hne := Decimal.Binary.coefficient_shortest_ne_zero hzero doubleLayout.tie
  generalize x.shortest doubleLayout.tie = d at hplace hne ⊢
  obtain ⟨n, e⟩ := d
  simp only
  split
  · rename_i hpositional
    simp only [doubleLayout, Bool.and_eq_true, decide_eq_true_eq] at hpositional
    exact ⟨positionalToken negative (digitValues n) e,
      plain_positionalToken negative hne hpositional.2, negative_positionalToken negative _,
      magnitude_positionalToken negative n⟩
  · refine ⟨scientificToken negative (digitValues n) e, plain_scientificToken negative hplace, rfl,
      ?_⟩
    rw [magnitude_scientificToken, Text.digits_eq_map n]

end Magnitudes

/-- A finite double is written as a token. -/
theorem exists_token_double {x : Float} (hx : Decimal.isFinite x = true) :
    ∃ t : Token, t.Plain ∧ t.text = printDouble x := by
  have hfinite := hx
  rw [Decimal.isFinite] at hfinite
  split at hfinite
  · rename_i negative m hparts
    obtain ⟨hsignificand, hexponent⟩ := Decimal.bounds_of_parts hparts
    obtain ⟨t, ht, hnegative, hmagnitude⟩ :=
      exists_token_magnitude negative hsignificand hexponent
    refine ⟨t, ht, ?_⟩
    rw [printDouble, if_pos hx, Decimal.Layout.write, hparts, Token.text, hnegative, hmagnitude]
  · cases hfinite

end Json

end Workbench
