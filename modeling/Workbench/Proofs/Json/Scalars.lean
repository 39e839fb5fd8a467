import Workbench.Proofs.Json.Grammar

/-!
# Strings and numbers of the grammar

A string is read as what it denotes, and the body of a string is passed over exactly if it is one;
a number is scanned as the token that it is a text of, and nothing else is scanned as a token.
-/

namespace Workbench.Json

open Text (Symbol digitChar)

/-! ### Reading strings -/

theorem Hex4.readHex4_eq {n : Nat} {s rest : Input} (h : Hex4 n s rest) :
    readHex4 s = .ok (n, rest) := by
  obtain ⟨ha, hb, hc, hd, rest⟩ := h
  simp only [readHex4, ha, hb, hc, hd]

theorem Hex4.of_readHex4 {n : Nat} {s rest : Input} (h : readHex4 s = .ok (n, rest)) :
    Hex4 n s rest := by
  rw [readHex4.eq_def] at h
  split at h
  · split at h
    · rename_i ha hb hc hd
      cases h
      exact .mk ha hb hc hd _
    · cases h
  · cases h

theorem ofLetter?_eq_some_iff {c d : Char} : ofLetter? c = some d ↔ (c, d) ∈ letters := by
  constructor
  · intro h
    rw [ofLetter?] at h
    split at h
    · rename_i hc
      obtain rfl := Option.some.inj h
      rcases hc with rfl | rfl | rfl <;> decide
    iterate 5
      split at h
      · rename_i hc
        subst hc
        obtain rfl := Option.some.inj h
        decide
    contradiction
  · intro h
    simp only [letters, List.mem_cons, Prod.mk.injEq, List.not_mem_nil, or_false] at h
    rcases h with ⟨rfl, rfl⟩ | ⟨rfl, rfl⟩ | ⟨rfl, rfl⟩ | ⟨rfl, rfl⟩ | ⟨rfl, rfl⟩ | ⟨rfl, rfl⟩ |
      ⟨rfl, rfl⟩ | ⟨rfl, rfl⟩ <;> rfl

/-- The letter of a number is none of the others. -/
theorem ne_of_mem_letters {c d : Char} (h : (c, d) ∈ letters) : c ≠ 'u' := by
  rintro rfl
  revert h
  simp [letters]

theorem readEscape_of_mem_letters {c d : Char} (h : (c, d) ∈ letters) (s : Input) :
    readEscape (.char c :: s) = .ok (d, s) := by
  rw [readEscape, if_neg (ne_of_mem_letters h), ofLetter?_eq_some_iff.2 h]

theorem readEscape_of_hex4 {n : Nat} {s rest : Input} (hex : Hex4 n s rest)
    (hn : n < 0xD800 ∨ 0xDFFF < n) : readEscape (.char 'u' :: s) = .ok (Char.ofNat n, rest) := by
  have hlow : ¬(0xDC00 ≤ n ∧ n ≤ 0xDFFF) := by omega
  have hhigh : ¬(0xD800 ≤ n ∧ n ≤ 0xDBFF) := by omega
  rw [readEscape, if_pos rfl, hex.readHex4_eq]
  simp only [if_neg hlow, if_neg hhigh]

theorem readEscape_of_pair {high low : Nat} {s t rest : Input}
    (hexHigh : Hex4 high s (.char '\\' :: .char 'u' :: t)) (hexLow : Hex4 low t rest)
    (hhigh : 0xD800 ≤ high ∧ high ≤ 0xDBFF) (hlow : 0xDC00 ≤ low ∧ low ≤ 0xDFFF) :
    readEscape (.char 'u' :: s) =
      .ok (Char.ofNat (0x10000 + (high - 0xD800) * 0x400 + (low - 0xDC00)), rest) := by
  have hfirst : ¬(0xDC00 ≤ high ∧ high ≤ 0xDFFF) := by omega
  rw [readEscape, if_pos rfl, hexHigh.readHex4_eq]
  simp only [if_neg hfirst, if_pos hhigh, readLowSurrogate, hexLow.readHex4_eq, if_pos hlow]

theorem Denotes.readSymbols_eq {cs : List Char} {s rest : Input} (h : Denotes cs s rest) :
    readSymbols s = .ok (cs.map .char, rest) := by
  induction h with
  | close rest => rw [readSymbols, if_pos rfl, List.map_nil]
  | plain hc h ih =>
    rw [readSymbols_of_plain hc.quote hc.slash (Nat.not_lt.2 hc.control), ih]
    rfl
  | letter hc h ih =>
    rw [readSymbols_of_escape (readEscape_of_mem_letters hc _), ih]
    rfl
  | code hex hn h ih =>
    rw [readSymbols_of_escape (readEscape_of_hex4 hex hn), ih]
    rfl
  | pair hexHigh hexLow hhigh hlow h ih =>
    rw [readSymbols_of_escape (readEscape_of_pair hexHigh hexLow hhigh hlow), ih]
    rfl

/-- A string is read as what it denotes. -/
theorem Denotes.readString_eq {cs : List Char} {s rest : Input} (h : Denotes cs s rest) :
    readString (.char '"' :: s) = .ok (String.ofList cs, rest) := by
  rw [readString, readBody, h.readSymbols_eq]
  simp only [chars?_map_char]

theorem skipBody_of_escape {s t : Input} (h : skipEscape s = .ok t) :
    skipBody (.char '\\' :: s) = skipBody t := by
  rw [skipBody, if_neg (by decide), if_pos rfl]
  split
  · rename_i heq
    rw [h] at heq
    cases heq
  · rename_i heq
    rw [h] at heq
    cases heq
    rfl

theorem Passable.skipBody_eq {s rest : Input} (h : Passable s rest) : skipBody s = .ok rest := by
  induction h with
  | close rest => rw [skipBody, if_pos rfl]
  | stray n h ih => rw [skipBody, ih]
  | plain hc h ih =>
    rw [skipBody, if_neg hc.quote, if_neg hc.slash, if_neg (Nat.not_lt.2 hc.control), ih]
  | @letter c d s rest hc h ih =>
    have hescape : skipEscape (.char c :: s) = .ok s := by
      rw [skipEscape, if_neg (ne_of_mem_letters hc), ofLetter?_eq_some_iff.2 hc]
      rfl
    rw [skipBody_of_escape hescape, ih]
  | @code n s t rest hex h ih =>
    have hescape : skipEscape (.char 'u' :: s) = .ok t := by
      rw [skipEscape, if_pos rfl, hex.readHex4_eq]
    rw [skipBody_of_escape hescape, ih]

theorem cases_of_skipEscape {s rest : Input} (h : skipEscape s = .ok rest) :
    (∃ c d, (c, d) ∈ letters ∧ s = .char c :: rest) ∨
      ∃ n t, Hex4 n t rest ∧ s = .char 'u' :: t := by
  rw [skipEscape.eq_def] at h
  split at h
  · cases h
  · split at h
    · rename_i hu
      subst hu
      split at h
      · cases h
      · rename_i hhex
        cases h
        exact .inr ⟨_, _, .of_readHex4 hhex, rfl⟩
    · split at h
      · rename_i hletter
        cases h
        obtain ⟨d, hd⟩ := Option.isSome_iff_exists.1 hletter
        exact .inl ⟨_, d, ofLetter?_eq_some_iff.1 hd, rfl⟩
      · cases h
  · cases h

/-- The body of a string is passed over only if it is one. -/
theorem Passable.of_skipBody {s rest : Input} (h : skipBody s = .ok rest) : Passable s rest := by
  fun_induction skipBody s with
  | case1 | case4 | case6 => cases h
  | case2 n s ih => exact .stray n (ih h)
  | case3 s =>
    cases h
    exact .close _
  | case5 s t hescape hlt hquote ih =>
    rcases cases_of_skipEscape hescape with ⟨c, d, hc, rfl⟩ | ⟨n, u, hex, rfl⟩
    · exact .letter hc (ih h)
    · exact .code hex (ih h)
  | case7 c s hquote hslash hcontrol ih =>
    exact .plain ⟨hquote, hslash, Nat.not_lt.1 hcontrol⟩ (ih h)

/-! ### Reading numbers -/

section Numbers

variable {atEnd : Cause} {ds : List Nat} {s rest : Input} {t : Token}

theorem eq_digitChar_of_digitValue? {c : Char} {d : Nat} (h : Text.digitValue? c = some d) :
    c = digitChar d ∧ d < 10 := by
  rw [Text.digitValue?] at h
  split at h
  · rename_i hc
    obtain rfl := Option.some.inj h
    have hleast : '0'.toNat ≤ c.toNat := hc.1
    have hgreatest : c.toNat ≤ '9'.toNat := hc.2
    have hnine : '9'.toNat = '0'.toNat + 9 := rfl
    refine ⟨?_, by omega⟩
    rw [digitChar, Nat.add_sub_cancel' hleast, Char.ofNat_toNat]
  · cases h

theorem takeDigits_eq (s : Input) :
    s = ((takeDigits s).1.map digitChar).map .char ++ (takeDigits s).2 ∧
      ∀ d ∈ (takeDigits s).1, d < 10 := by
  fun_induction takeDigits s with
  | case1 c s d hd found ih =>
    obtain ⟨rfl, hlt⟩ := eq_digitChar_of_digitValue? hd
    refine ⟨?_, List.forall_mem_cons.2 ⟨hlt, ih.2⟩⟩
    exact congrArg _ ih.1
  | case2 | case3 => exact ⟨rfl, by simp⟩

theorem eq_of_someDigits (h : someDigits atEnd s = .ok (ds, rest)) :
    s = (ds.map digitChar).map .char ++ rest ∧ ds ≠ [] ∧ ∀ d ∈ ds, d < 10 := by
  obtain ⟨hsplit, hlt⟩ := takeDigits_eq s
  rw [someDigits] at h
  split at h
  · cases h
  · cases h
  · rename_i heq
    cases h
    rw [heq] at hsplit hlt
    exact ⟨hsplit, List.cons_ne_nil _ _, hlt⟩

theorem eq_of_wholePart (h : wholePart atEnd s = .ok (ds, rest)) :
    s = (ds.map digitChar).map .char ++ rest ∧ ds ≠ [] ∧ (∀ d ∈ ds, d < 10) ∧
      (ds.head? = some 0 → ds = [0]) := by
  rw [wholePart] at h
  split at h
  · cases h
  · rename_i hdigits
    split at h
    · cases h
    · rename_i hzero
      cases h
      obtain ⟨hsplit, hne, hlt⟩ := eq_of_someDigits hdigits
      refine ⟨hsplit, hne, hlt, fun hhead ↦ ?_⟩
      obtain ⟨d, ds, rfl⟩ := List.exists_cons_of_ne_nil hne
      obtain rfl := Option.some.inj hhead
      have hlength : ds.length = 0 := by
        simpa [hhead] using hzero
      rw [List.length_eq_zero_iff.1 hlength]

theorem eq_of_fractionPart (h : fractionPart atEnd s = .ok (ds, rest)) :
    s = (fractionText ds).map .char ++ rest ∧ ∀ d ∈ ds, d < 10 := by
  rw [fractionPart.eq_def] at h
  split at h
  · obtain ⟨hsplit, hne, hlt⟩ := eq_of_someDigits h
    obtain ⟨d, ds, rfl⟩ := List.exists_cons_of_ne_nil hne
    exact ⟨congrArg _ hsplit, hlt⟩
  · cases h
    exact ⟨rfl, by simp⟩

theorem eq_of_exponentSign (s : Input) :
    ∃ sign, (sign, (exponentSign s).1) ∈ [([], false), (['+'], false), (['-'], true)] ∧
      s = sign.map .char ++ (exponentSign s).2 := by
  rw [exponentSign.eq_def]
  split
  · exact ⟨['-'], by simp, rfl⟩
  · exact ⟨['+'], by simp, rfl⟩
  · exact ⟨[], by simp, rfl⟩

theorem eq_of_exponentPart {exponent : Option Exponent}
    (h : exponentPart atEnd s = .ok (exponent, rest)) :
    ∃ text, ExponentText exponent text ∧ s = text.map .char ++ rest := by
  cases s with
  | nil =>
    cases h
    exact ⟨[], .absent, rfl⟩
  | cons symbol s =>
  cases symbol with
  | stray n =>
    cases h
    exact ⟨[], .absent, rfl⟩
  | char c =>
    rw [exponentPart_cons] at h
    split at h
    · rename_i hmark
      split at h
      · cases h
      · rename_i hdigits
        cases h
        obtain ⟨hsplit, hne, hlt⟩ := eq_of_someDigits hdigits
        obtain ⟨sign, hsign, hs⟩ := eq_of_exponentSign s
        refine ⟨_, .written hmark hsign hne hlt, ?_⟩
        rw [hs, hsplit]
        simp
    · cases h
      exact ⟨[], .absent, rfl⟩

theorem eq_of_scan {negative : Bool} (h : Token.scan atEnd negative s = .ok (t, rest)) :
    ∃ text, MagnitudeText t text ∧ s = text.map .char ++ rest ∧ t.negative = negative := by
  rw [Token.scan] at h
  split at h
  · cases h
  rename_i hwhole
  split at h
  · cases h
  rename_i hfraction
  split at h
  · cases h
  rename_i hexponent
  cases h
  obtain ⟨rfl, hne, hlt, hzero⟩ := eq_of_wholePart hwhole
  obtain ⟨rfl, hfractionLt⟩ := eq_of_fractionPart hfraction
  obtain ⟨text, htext, rfl⟩ := eq_of_exponentPart hexponent
  refine ⟨_, ⟨hne, hlt, hzero, hfractionLt, text, htext, rfl⟩, ?_, rfl⟩
  simp

/-- Digits are not taken for a sign. -/
theorem exponentSign_digits (hne : ds ≠ []) (hlt : ∀ d ∈ ds, d < 10) (rest : Input) :
    exponentSign ((ds.map digitChar).map .char ++ rest) =
      (false, (ds.map digitChar).map .char ++ rest) := by
  have hsigns : ∀ d < 10, digitChar d ≠ '-' ∧ digitChar d ≠ '+' := by decide
  obtain ⟨d, ds, rfl⟩ := List.exists_cons_of_ne_nil hne
  obtain ⟨hminus, hplus⟩ := hsigns d (hlt d List.mem_cons_self)
  rw [exponentSign.eq_def]
  split
  · rename_i heq
    exact absurd (Text.Symbol.char.inj (List.cons.inj heq).1) hminus
  · rename_i heq
    exact absurd (Text.Symbol.char.inj (List.cons.inj heq).1) hplus
  · rfl

theorem ExponentText.exponentPart_eq {exponent : Option Exponent} {text : List Char}
    (h : ExponentText exponent text) (hrest : endsNumber rest = true) :
    exponentPart atEnd (text.map .char ++ rest) = .ok (exponent, rest) := by
  cases h with
  | absent => exact exponentPart_of_endsNumber hrest
  | @written mark sign negative digits hmark hsign hne hdigits =>
    have hsign' : exponentSign ((sign ++ digits.map digitChar).map .char ++ rest) =
        (negative, (digits.map digitChar).map .char ++ rest) := by
      simp only [List.mem_cons, Prod.mk.injEq, List.not_mem_nil, or_false] at hsign
      rcases hsign with ⟨rfl, rfl⟩ | ⟨rfl, rfl⟩ | ⟨rfl, rfl⟩
      · exact exponentSign_digits hne hdigits rest
      · rfl
      · rfl
    rw [List.map_cons, List.cons_append, exponentPart_cons, if_pos hmark, hsign']
    simp only [someDigits_digits_append hne hdigits (takeDigits_of_endsNumber hrest)]

/-- Neither digits nor a point stand where an exponent or the end of a number is. -/
theorem ExponentText.behind {exponent : Option Exponent} {text : List Char}
    (h : ExponentText exponent text) (hrest : endsNumber rest = true) :
    takeDigits (text.map Symbol.char ++ rest) = ([], text.map .char ++ rest) ∧
      (text.map Symbol.char ++ rest).head? ≠ some (.char '.') := by
  cases h with
  | absent =>
    refine ⟨takeDigits_of_endsNumber hrest, fun hpoint ↦ ?_⟩
    cases rest with
    | nil => cases hpoint
    | cons symbol rest =>
      obtain rfl : symbol = .char '.' := Option.some.inj hpoint
      cases hrest
  | written hmark hsign hne hdigits =>
    rcases hmark with rfl | rfl <;> exact ⟨rfl, by simp⟩

/-- A text of digits is what it says; what follows it does not matter if it does not go on it. -/
theorem MagnitudeText.scan_eq {text : List Char} (h : MagnitudeText t text)
    (hrest : endsNumber rest = true) :
    Token.scan atEnd t.negative (text.map .char ++ rest) = .ok (t, rest) := by
  obtain ⟨hne, hlt, hzero, hfraction, exponent, hexponent, rfl⟩ := h
  obtain ⟨htake, hpoint⟩ := hexponent.behind hrest
  -- What is refused is a zero with more digits behind it.
  have hlone : ¬(t.whole.head? = some 0 ∧ 1 < t.whole.length) := by
    rintro ⟨hhead, hlength⟩
    rw [hzero hhead] at hlength
    exact absurd hlength (by decide)
  rw [List.map_append, List.map_append, List.append_assoc, List.append_assoc, Token.scan, wholePart,
    someDigits_digits_append hne hlt (takeDigits_fractionText t.fraction htake)]
  simp only [if_neg hlone, fractionPart_fractionText hfraction htake hpoint,
    hexponent.exponentPart_eq hrest]

theorem MagnitudeText.starts {text : List Char} (h : MagnitudeText t text) :
    ∃ c cs, text = c :: cs ∧ (Text.digitValue? c).isSome = true ∧ c ≠ '-' := by
  have hdigit : ∀ d < 10, (Text.digitValue? (digitChar d)).isSome = true ∧ digitChar d ≠ '-' := by
    decide
  obtain ⟨d, ds, hwhole⟩ := List.exists_cons_of_ne_nil h.whole_ne_nil
  obtain ⟨exponent, -, rfl⟩ := h.text
  rw [hwhole]
  exact ⟨digitChar d, _, rfl, hdigit d (h.whole_lt d (hwhole ▸ List.mem_cons_self))⟩

theorem Numeral.starts {text : List Char} (h : Numeral t text) :
    ∃ c cs, text = c :: cs ∧ startsNumber c = true := by
  cases h with
  | positive hsign h =>
    obtain ⟨c, cs, rfl, hc, -⟩ := h.starts
    exact ⟨c, cs, rfl, by simp [startsNumber, hc]⟩
  | negative hsign h => exact ⟨'-', _, rfl, rfl⟩

/-- A number is read as the one that its token stands for. -/
theorem Numeral.readNumber_eq {text : List Char} {n : Number} (h : Numeral t text)
    (hn : t.value? = some n) (hrest : endsNumber rest = true) :
    readNumber (text.map .char ++ rest) = .ok (n, rest) := by
  have hscan : scanSigned (text.map .char ++ rest) = .ok (t, rest) := by
    cases h with
    | @positive text hsign h =>
      obtain ⟨c, cs, htext, -, hc⟩ := h.starts
      have hhead : (text.map Symbol.char ++ rest).head? ≠ some (.char '-') := by
        simp [htext, hc]
      rw [Token.scanSigned_of_head hhead, ← hsign, h.scan_eq hrest]
    | negative hsign h =>
      rw [List.map_cons, List.cons_append, scanSigned, ← hsign, h.scan_eq hrest]
  rw [Json.readNumber_eq, hscan]
  simp only [hn]

end Numbers

end Workbench.Json
