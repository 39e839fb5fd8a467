import Workbench.Proofs.Json.Valid

/-!
# Numbers read back

A whole number is read back from its digits, whatever follows it that cannot be a part of it. For a
double that is not so in general: it is computed from its digits with a rounding error, so
`ReadsBack` singles out those for which it is. Whether a number is read does not depend on what
follows it (`readNumber_append`), so it is enough that it is read back alone.
-/

namespace Workbench

/-! ### Digits -/

namespace Text

/-- The values of the digits of a number. -/
def digitValues (n : Nat) : List Nat :=
  if n < 10 then [n] else digitValues (n / 10) ++ [n % 10]
termination_by n
decreasing_by omega

theorem digits_eq_map (n : Nat) : digits n = (digitValues n).map digitChar := by
  fun_induction digitValues n with
  | case1 n h => rw [digits, if_pos h, List.map_singleton]
  | case2 n h ih => rw [digits, if_neg h, ih, List.map_append, List.map_singleton]

theorem lt_of_mem_digitValues {n d : Nat} (h : d ∈ digitValues n) : d < 10 := by
  fun_induction digitValues n with
  | case1 n hlt => rwa [List.mem_singleton.1 h]
  | case2 n hle ih =>
    rcases List.mem_append.1 h with h | h
    · exact ih h
    · rw [List.mem_singleton.1 h]
      exact Nat.mod_lt n (by decide)

theorem ofDigitValues_digitValues (n : Nat) : ofDigitValues (digitValues n) = n := by
  fun_induction digitValues n with
  | case1 n h => simp [ofDigitValues]
  | case2 n h ih =>
    rw [ofDigitValues] at ih
    rw [ofDigitValues, List.foldl_append, ih]
    exact Nat.div_add_mod n 10

theorem digitValues_ne_nil (n : Nat) : digitValues n ≠ [] := by
  rw [digitValues]
  split <;> simp

/-- Digits do not start with a zero, unless that is all. -/
theorem head?_digitValues (n : Nat) : (digitValues n).head? = some 0 → digitValues n = [0] := by
  fun_induction digitValues n with
  | case1 n h => simp
  | case2 n h ih =>
    intro hhead
    have hne := digitValues_ne_nil (n / 10)
    rw [List.head?_append, List.head?_eq_some_head hne, Option.some_or,
      ← List.head?_eq_some_head hne] at hhead
    have hvalue := ofDigitValues_digitValues (n / 10)
    rw [ih hhead] at hvalue
    have hzero : 0 = n / 10 := hvalue
    omega

theorem digitValue?_digitChar {d : Nat} (h : d < 10) : digitValue? (digitChar d) = some d := by
  have hall : ∀ d < 10, digitValue? (digitChar d) = some d := by decide
  exact hall d h

end Text

namespace Json

open Text (Symbol bound63 bound64 digitValues digitChar digitValue? ofDigitValues)

/-! ### What follows a number -/

/-- Whether a text cannot go on a number that stands in front of it. -/
def endsNumber : Input → Bool
  | .char c :: _ => !((digitValue? c).isSome || c = '.' || c = 'e' || c = 'E')
  | _ => true

section Append

variable {rest s t : Input} {ds : List Nat} {atEnd : Cause}

theorem takeDigits_of_endsNumber (hrest : endsNumber rest = true) :
    takeDigits rest = ([], rest) := by
  unfold takeDigits
  split
  · rename_i c _
    have hc : digitValue? c = none := by
      simp only [endsNumber, Bool.not_eq_true', Bool.or_eq_false_iff] at hrest
      simpa using hrest.1.1.1
    rw [hc]
  · rfl

theorem takeDigits_append (hrest : endsNumber rest = true) (s : Input) :
    takeDigits (s ++ rest) = ((takeDigits s).1, (takeDigits s).2 ++ rest) := by
  fun_induction takeDigits s with
  | case1 c s d hd found ih =>
    rw [List.cons_append, takeDigits, hd]
    simp only [ih]
    rfl
  | case2 c s hd =>
    rw [List.cons_append, takeDigits, hd]
  | case3 s hs =>
    cases s with
    | nil => exact takeDigits_of_endsNumber hrest
    | cons symbol s =>
      cases symbol with
      | char c => exact absurd rfl (hs c s)
      | stray n => rfl

theorem someDigits_append (hrest : endsNumber rest = true)
    (h : someDigits atEnd s = .ok (ds, t)) :
    someDigits atEnd (s ++ rest) = .ok (ds, t ++ rest) := by
  rw [someDigits] at h
  rw [someDigits, takeDigits_append hrest]
  split at h
  · cases h
  · cases h
  · rename_i heq
    cases h
    rw [heq]

theorem wholePart_append (hrest : endsNumber rest = true) (h : wholePart atEnd s = .ok (ds, t)) :
    wholePart atEnd (s ++ rest) = .ok (ds, t ++ rest) := by
  rw [wholePart] at h
  split at h
  · cases h
  · rename_i hdigits
    split at h
    · cases h
    · rename_i hzero
      cases h
      rw [wholePart, someDigits_append hrest hdigits]
      exact if_neg hzero

theorem fractionPart_of_endsNumber (hrest : endsNumber rest = true) :
    fractionPart atEnd rest = .ok ([], rest) := by
  unfold fractionPart
  split
  · exact absurd hrest (by simp [endsNumber])
  · rfl

theorem fractionPart_append (hrest : endsNumber rest = true)
    (h : fractionPart atEnd s = .ok (ds, t)) :
    fractionPart atEnd (s ++ rest) = .ok (ds, t ++ rest) := by
  unfold fractionPart at h
  split at h
  · exact someDigits_append hrest h
  · rename_i hs
    cases h
    cases s with
    | nil => exact fractionPart_of_endsNumber hrest
    | cons symbol s =>
      unfold fractionPart
      split
      · rename_i heq
        exact absurd (congrArg (· :: s) (List.cons.inj heq).1) (hs s)
      · rfl

theorem exponentPart_of_endsNumber (hrest : endsNumber rest = true) :
    exponentPart atEnd rest = .ok (none, rest) := by
  unfold exponentPart
  split
  · rename_i c _
    have hc : ¬(c = 'e' ∨ c = 'E') := by
      simp only [endsNumber, Bool.not_eq_true', Bool.or_eq_false_iff] at hrest
      simpa using And.intro hrest.1.2 hrest.2
    rw [if_neg hc]
  · rfl

/-- Whether an exponent has a negative sign, and its text behind the sign. -/
def exponentSign (s : Input) : Bool × Input :=
  match s with
  | .char '-' :: rest => (true, rest)
  | .char '+' :: rest => (false, rest)
  | _ => (false, s)

theorem exponentPart_cons (atEnd : Cause) (c : Char) (s : Input) :
    exponentPart atEnd (.char c :: s) =
      if c = 'e' ∨ c = 'E' then
        match someDigits atEnd (exponentSign s).2 with
        | .error fault => .error fault
        | .ok (digits, rest) => .ok (some ⟨(exponentSign s).1, digits⟩, rest)
      else .ok (none, .char c :: s) :=
  rfl

theorem exponentSign_append (hs : s ≠ []) (rest : Input) :
    exponentSign (s ++ rest) = ((exponentSign s).1, (exponentSign s).2 ++ rest) := by
  obtain ⟨symbol, s, rfl⟩ := List.exists_cons_of_ne_nil hs
  rw [List.cons_append, exponentSign.eq_def, exponentSign.eq_def]
  split
  · rename_i heq
    cases heq
    rfl
  · rename_i heq
    cases heq
    rfl
  · rename_i hminus hplus
    split
    · rename_i heq
      cases heq
      exact absurd rfl (hminus _)
    · rename_i heq
      cases heq
      exact absurd rfl (hplus _)
    · rfl

theorem exponentPart_append {e : Option Exponent} (hrest : endsNumber rest = true)
    (h : exponentPart atEnd s = .ok (e, t)) :
    exponentPart atEnd (s ++ rest) = .ok (e, t ++ rest) := by
  cases s with
  | nil =>
    cases h
    exact exponentPart_of_endsNumber hrest
  | cons symbol s =>
    cases symbol with
    | stray n =>
      cases h
      rfl
    | char c =>
      rw [exponentPart_cons] at h
      rw [List.cons_append, exponentPart_cons]
      split at h
      · rename_i hc
        split at h
        · cases h
        · rename_i hdigits
          cases h
          have hs : s ≠ [] := by
            rintro rfl
            cases hdigits
          rw [if_pos hc, exponentSign_append hs, someDigits_append hrest hdigits]
      · rename_i hc
        cases h
        rw [if_neg hc, List.cons_append]

theorem Token.scan_append {negative : Bool} {token : Token} (hrest : endsNumber rest = true)
    (h : Token.scan atEnd negative s = .ok (token, t)) :
    Token.scan atEnd negative (s ++ rest) = .ok (token, t ++ rest) := by
  rw [Token.scan] at h
  split at h
  · cases h
  · rename_i hwhole
    split at h
    · cases h
    · rename_i hfraction
      split at h
      · cases h
      · rename_i hexponent
        cases h
        rw [Token.scan, wholePart_append hrest hwhole]
        simp only [fractionPart_append hrest hfraction, exponentPart_append hrest hexponent]

/-- A number with its sign taken apart, and the text behind it. -/
def scanSigned (s : Input) : Except Fault (Token × Input) :=
  match s with
  | .char '-' :: rest => Token.scan .valueEnds true rest
  | _ => Token.scan .valueEnds false s

theorem readNumber_eq (s : Input) :
    readNumber s =
      match scanSigned s with
      | .error fault => .error fault
      | .ok (token, rest) =>
        match token.value? with
        | some n => .ok (n, rest)
        | none =>
          let unread := token.exponent.elim 0 fun e ↦ Exponent.excess 0 e.digits
          .error ⟨.numberTooLarge, Symbol.widthOf rest + unread⟩ :=
  rfl

theorem scanSigned_append {token : Token} (hrest : endsNumber rest = true)
    (h : scanSigned s = .ok (token, t)) : scanSigned (s ++ rest) = .ok (token, t ++ rest) := by
  cases s with
  | nil => cases h
  | cons symbol s =>
    rw [scanSigned.eq_def] at h
    rw [List.cons_append, scanSigned.eq_def]
    split at h
    · rename_i heq
      cases heq
      exact Token.scan_append hrest h
    · rename_i hminus
      split
      · rename_i heq
        cases heq
        exact absurd rfl (hminus _)
      · exact Token.scan_append hrest h

/-- A number is read in the same way whatever follows it. -/
theorem readNumber_append {n : Number} (hrest : endsNumber rest = true)
    (h : readNumber s = .ok (n, t)) : readNumber (s ++ rest) = .ok (n, t ++ rest) := by
  rw [readNumber_eq] at h
  split at h
  · cases h
  · rename_i hscan
    split at h
    · rename_i hvalue
      cases h
      rw [readNumber_eq, scanSigned_append hrest hscan]
      simp only [hvalue]
    · cases h

end Append

/-! ### Numbers that are written -/

theorem takeDigits_digits_append {ds : List Nat} {rest : Input} (h : ∀ d ∈ ds, d < 10)
    (hrest : takeDigits rest = ([], rest)) :
    takeDigits ((ds.map digitChar).map .char ++ rest) = (ds, rest) := by
  induction ds with
  | nil => exact hrest
  | cons d ds ih =>
    obtain ⟨hd, hds⟩ := List.forall_mem_cons.1 h
    rw [List.map_cons, List.map_cons, List.cons_append, takeDigits, Text.digitValue?_digitChar hd]
    simp only [ih hds]

theorem takeDigits_map_digitChar {ds : List Nat} (h : ∀ d ∈ ds, d < 10) :
    takeDigits ((ds.map digitChar).map .char) = (ds, []) := by
  rw [← List.append_nil ((ds.map digitChar).map Symbol.char)]
  exact takeDigits_digits_append h rfl

theorem le_foldl_digits (m : Nat) (ds : List Nat) : m ≤ ds.foldl (fun n d ↦ 10 * n + d) m := by
  induction ds generalizing m with
  | nil => exact Nat.le_refl m
  | cons d ds ih => exact Nat.le_trans (by omega) (ih (10 * m + d))

/-- Digits are absorbed as long as the number they stand for has 64 bits. -/
theorem absorb_eq {significand : Nat} {ds : List Nat}
    (h : ds.foldl (fun n d ↦ 10 * n + d) significand < bound64) :
    absorb significand ds = (ds.foldl (fun n d ↦ 10 * n + d) significand, 0) := by
  induction ds generalizing significand with
  | nil => rfl
  | cons d ds ih =>
    rw [absorb, if_pos (Nat.lt_of_le_of_lt (le_foldl_digits _ ds) h)]
    exact ih h

theorem scan_digits (atEnd : Cause) (negative : Bool) (n : Nat) :
    Token.scan atEnd negative ((Text.digits n).map .char) =
      .ok (⟨negative, digitValues n, [], none⟩, []) := by
  have hsome : someDigits atEnd ((Text.digits n).map .char) = .ok (digitValues n, []) := by
    rw [someDigits, Text.digits_eq_map, takeDigits_map_digitChar fun d ↦ Text.lt_of_mem_digitValues]
    cases hds : digitValues n with
    | nil => exact absurd hds (Text.digitValues_ne_nil n)
    | cons d ds => rfl
  have hzero : ¬((digitValues n).head? = some 0 ∧ 1 < (digitValues n).length) := by
    rintro ⟨hhead, hlength⟩
    rw [Text.head?_digitValues n hhead] at hlength
    exact absurd hlength (by decide)
  rw [Token.scan, wholePart, hsome]
  simp only [if_neg hzero]
  rfl

/-- A number starts with a digit, behind its sign. -/
theorem exists_digit_of_scan {atEnd : Cause} {negative : Bool} {s t : Input} {token : Token}
    (h : Token.scan atEnd negative s = .ok (token, t)) :
    ∃ c s', s = .char c :: s' ∧ (digitValue? c).isSome = true := by
  cases s with
  | nil => cases h
  | cons symbol s =>
    cases symbol with
    | stray n => cases h
    | char c =>
      refine ⟨c, s, rfl, ?_⟩
      cases hc : digitValue? c with
      | some d => rfl
      | none => simp [Token.scan, wholePart, someDigits, takeDigits, hc] at h

theorem scanSigned_of_digit {s s' : Input} {c : Char} (hs : s = .char c :: s')
    (hc : (digitValue? c).isSome = true) : scanSigned s = Token.scan .valueEnds false s := by
  subst hs
  rw [scanSigned.eq_def]
  split
  · rename_i heq
    cases heq
    exact absurd hc (by decide)
  · rfl

theorem absorb_digitValues {n : Nat} (hn : n < bound64) :
    absorb 0 (digitValues n) = (n, 0) := by
  have hfold : (digitValues n).foldl (fun n d ↦ 10 * n + d) 0 = n :=
    Text.ofDigitValues_digitValues n
  rw [absorb_eq, hfold]
  rwa [hfold]

theorem readNumber_digits {n : Nat} (hn : n < bound64) :
    readNumber ((Text.digits n).map .char) = .ok (.whole n, []) := by
  have hscan : scanSigned ((Text.digits n).map .char) =
      .ok (⟨false, digitValues n, [], none⟩, []) := by
    obtain ⟨c, s, hs, hc⟩ := exists_digit_of_scan (scan_digits .valueEnds false n)
    rw [scanSigned_of_digit hs hc]
    exact scan_digits .valueEnds false n
  rw [readNumber_eq, hscan]
  simp [Token.value?, absorb_digitValues hn]

theorem readNumber_neg_digits {n : Nat} (hrange : 1 ≤ n ∧ n ≤ bound63) :
    readNumber (('-' :: Text.digits n).map .char) = .ok (.whole (-n), []) := by
  have hscan : scanSigned (('-' :: Text.digits n).map .char) =
      .ok (⟨true, digitValues n, [], none⟩, []) := scan_digits .valueEnds true n
  have hn : n < bound64 := Nat.lt_of_le_of_lt hrange.2 (by decide)
  rw [readNumber_eq, hscan]
  simp [Token.value?, absorb_digitValues hn, hrange]

/-- A whole number of 64 bits is read back. -/
theorem readNumber_integerDigits {n : Int} (hn : (Number.whole n).Valid) :
    readNumber ((Text.integerDigits n).map .char) = .ok (.whole n, []) := by
  obtain ⟨hleast, hgreatest⟩ := hn
  rw [Text.integerDigits]
  split
  · rename_i hnegative
    have hself : -(n.natAbs : Int) = n := by omega
    rw [readNumber_neg_digits (by omega), hself]
  · rename_i hnonneg
    have hself : (n.natAbs : Int) = n := by omega
    rw [readNumber_digits (by omega), hself]

/-- A double is read back from its text. -/
def ReadsBack (x : Float) : Prop :=
  readNumber ((printDouble x).map .char) = .ok (.double x, [])

theorem toOption_eq_some_iff {ε α : Type} {x : Except ε α} {a : α} :
    x.toOption = some a ↔ x = .ok a := by
  cases x <;> simp [Except.toOption]

instance : DecidablePred ReadsBack :=
  fun _ ↦ decidable_of_iff _ toOption_eq_some_iff

example : ReadsBack 0.1 := by decide +kernel

-- The significand is rounded to a double first, and then its product with a power of ten once more.
example : ¬ReadsBack 1.5839000000000001e29 := by decide +kernel

/-- Valid numbers are read back, doubles if they are of those that are. -/
theorem readNumber_printNumber {n : Number} {rest : Input} (hvalid : n.Valid)
    (hdouble : ∀ x, n = .double x → ReadsBack x) (hrest : endsNumber rest = true) :
    readNumber ((printNumber n).map .char ++ rest) = .ok (n, rest) := by
  have halone : readNumber ((printNumber n).map .char) = .ok (n, []) := by
    cases n with
    | whole n => exact readNumber_integerDigits hvalid
    | double x => exact hdouble x rfl
  exact readNumber_append hrest halone

/-- What is read as a number starts like one. -/
theorem startsNumber_of_readNumber {s t : Input} {n : Number} (h : readNumber s = .ok (n, t)) :
    ∃ c s', s = .char c :: s' ∧ startsNumber c = true := by
  rw [readNumber_eq] at h
  split at h
  · cases h
  · rename_i hscan
    rw [scanSigned.eq_def] at hscan
    split at hscan
    · exact ⟨'-', _, rfl, rfl⟩
    · obtain ⟨c, s', hs, hc⟩ := exists_digit_of_scan hscan
      exact ⟨c, s', hs, by simp [startsNumber, hc]⟩

end Json

end Workbench
