import Workbench.Proofs.Text.Encoding

/-!
# Bytes written back from their text

Bytes that are read as a text are the bytes of that text: no character has two encodings. This is
the reason for the bounds on the second byte of a sequence. Without them a form that is too long
would be read as a character, too, and written back as a shorter one.
-/

namespace Workbench.Text

variable {a b c d : UInt8}

theorem eq_ofNat {n : Nat} (h : a.toNat = n) : UInt8.ofNat n = a := by
  rw [← h, UInt8.ofNat_toNat]

theorem toNat_ofNat_of_valid {n : Nat} (h : n.isValidChar) : (Char.ofNat n).val.toNat = n := by
  rw [Char.ofNat, dif_pos h]
  rfl

/-- The second byte of a sequence, by the first one. -/
theorem bounds_of_mayFollow (h : mayFollow a b = true) :
    (0x80 ≤ b.toNat ∧ b.toNat ≤ 0xBF) ∧ (a.toNat = 0xE0 → 0xA0 ≤ b.toNat) ∧
      (a.toNat = 0xED → b.toNat ≤ 0x9F) ∧ (a.toNat = 0xF0 → 0x90 ≤ b.toNat) ∧
      (a.toNat = 0xF4 → b.toNat ≤ 0x8F) := by
  have hne {n : UInt8} (ha : ¬a = n) : a.toNat ≠ n.toNat := fun heq ↦ ha (UInt8.toNat_inj.1 heq)
  rw [mayFollow] at h
  repeat' split at h
  all_goals
    rename_i ha
    have hb := between_iff.1 h
    simp only [UInt8.reduceToNat] at hb
    try simp only [ha, UInt8.reduceToNat]
    try omega
  rename_i ha₁ ha₂ ha₃
  have h₁ := hne ha₁
  have h₂ := hne ha₂
  have h₃ := hne ha₃
  have h₄ := hne ha
  simp only [UInt8.reduceToNat] at h₁ h₂ h₃ h₄
  omega

/-! ### One character -/

theorem utf8EncodeChar_one (ha : a.toNat < 0x80) :
    String.utf8EncodeChar (Char.ofNat a.toNat) = [a] := by
  have hvalid : a.toNat.isValidChar := .inl (by omega)
  rw [String.utf8EncodeChar, toNat_ofNat_of_valid hvalid]
  simp only [if_pos (show a.toNat ≤ 127 by omega), UInt8.ofNat_toNat]

theorem utf8EncodeChar_two (ha : 0xC2 ≤ a.toNat ∧ a.toNat ≤ 0xDF) (hb : isTail b = true) :
    String.utf8EncodeChar (Char.ofNat (a.toNat % 32 * 64 + tailBits b)) = [a, b] := by
  obtain ⟨hleast, hgreatest⟩ := isTail_iff.1 hb
  obtain ⟨n, hn⟩ : ∃ n, n = a.toNat % 32 * 64 + b.toNat % 64 := ⟨_, rfl⟩
  rw [tailBits, ← hn, String.utf8EncodeChar, toNat_ofNat_of_valid (.inl (by omega))]
  rw [if_neg (by omega), if_pos (by omega), eq_ofNat (a := a) (by omega),
    eq_ofNat (a := b) (by omega)]

theorem utf8EncodeChar_three (ha : 0xE0 ≤ a.toNat ∧ a.toNat ≤ 0xEF) (hb : mayFollow a b = true)
    (hc : isTail c = true) :
    String.utf8EncodeChar
        (Char.ofNat ((a.toNat % 16 * 64 + tailBits b) * 64 + tailBits c)) = [a, b, c] := by
  obtain ⟨hsecond, hlong, hsurrogate, -, -⟩ := bounds_of_mayFollow hb
  obtain ⟨hleast, hgreatest⟩ := isTail_iff.1 hc
  obtain ⟨n, hn⟩ : ∃ n, n = (a.toNat % 16 * 64 + b.toNat % 64) * 64 + c.toNat % 64 := ⟨_, rfl⟩
  have hvalid : n.isValidChar := by
    rw [Nat.isValidChar]
    omega
  rw [tailBits, tailBits, ← hn, String.utf8EncodeChar, toNat_ofNat_of_valid hvalid]
  rw [if_neg (by omega), if_neg (by omega), if_pos (by omega), eq_ofNat (a := a) (by omega),
    eq_ofNat (a := b) (by omega), eq_ofNat (a := c) (by omega)]

theorem utf8EncodeChar_four (ha : 0xF0 ≤ a.toNat ∧ a.toNat ≤ 0xF4) (hb : mayFollow a b = true)
    (hc : isTail c = true) (hd : isTail d = true) :
    String.utf8EncodeChar
        (Char.ofNat (((a.toNat % 8 * 64 + tailBits b) * 64 + tailBits c) * 64 + tailBits d)) =
      [a, b, c, d] := by
  obtain ⟨hsecond, -, -, hlong, hgreat⟩ := bounds_of_mayFollow hb
  obtain ⟨hleast, hgreatest⟩ := isTail_iff.1 hc
  obtain ⟨hleast', hgreatest'⟩ := isTail_iff.1 hd
  obtain ⟨n, hn⟩ : ∃ n, n =
      ((a.toNat % 8 * 64 + b.toNat % 64) * 64 + c.toNat % 64) * 64 + d.toNat % 64 := ⟨_, rfl⟩
  have hvalid : n.isValidChar := by
    rw [Nat.isValidChar]
    omega
  rw [tailBits, tailBits, tailBits, ← hn, String.utf8EncodeChar, toNat_ofNat_of_valid hvalid]
  rw [if_neg (by omega), if_neg (by omega), if_neg (by omega), eq_ofNat (a := a) (by omega),
    eq_ofNat (a := b) (by omega), eq_ofNat (a := c) (by omega), eq_ofNat (a := d) (by omega)]

/-! ### All of them -/

theorem flatMap_of_chars? {bytes : List UInt8} {cs : List Char}
    (h : chars? (symbols bytes) = some cs) : cs.flatMap String.utf8EncodeChar = bytes := by
  have hcons {c : Char} {rest : List Symbol} {sequence bytes : List UInt8} {cs : List Char}
      (hchars : chars? (.char c :: rest) = some cs) (hc : String.utf8EncodeChar c = sequence)
      (hrest : ∀ {cs}, chars? rest = some cs → cs.flatMap String.utf8EncodeChar = bytes) :
      cs.flatMap String.utf8EncodeChar = sequence ++ bytes := by
    obtain ⟨cs', hcs', rfl⟩ := Option.map_eq_some_iff.1 hchars
    rw [List.flatMap_cons, hc, hrest hcs']
  -- Every stray stretch makes a text of the bytes impossible; four cases are left.
  fun_induction symbols bytes generalizing cs with
  | case1 =>
    obtain rfl := Option.some.inj h
    rfl
  | case2 a rest ha ih => exact hcons h (utf8EncodeChar_one (UInt8.lt_iff_toNat_lt.1 ha)) ih
  | case3 a _ ha b rest hb ih => exact hcons h (utf8EncodeChar_two (between_iff.1 ha) hb) ih
  | case8 a _ _ ha b c rest hb hc ih =>
    exact hcons h
      (utf8EncodeChar_three (between_iff.1 ha) (by simpa using hb) (by simpa using hc)) ih
  | case15 a _ _ _ ha b c d rest hb hc hd ih =>
    exact hcons h (utf8EncodeChar_four (between_iff.1 ha) (by simpa using hb) (by simpa using hc)
      (by simpa using hd)) ih
  | _ => simp [chars?] at h

/-- Bytes are read as a text exactly if they are its bytes. -/
theorem text?_eq_some_iff {bytes : List UInt8} {s : String} :
    text? bytes = some s ↔ bytes = bytesOf s := by
  constructor
  · intro h
    obtain ⟨cs, hcs, rfl⟩ := Option.map_eq_some_iff.1 h
    rw [bytesOf_eq_flatMap, String.toList_ofList, flatMap_of_chars? hcs]
  · rintro rfl
    have hchars (cs : List Char) : chars? (cs.map .char) = some cs := by
      induction cs with
      | nil => rfl
      | cons c cs ih => rw [List.map_cons, chars?, ih, Option.map_some]
    rw [text?, symbols_bytesOf, symbolsOfText, hchars, Option.map_some, String.ofList_toList]

end Workbench.Text
