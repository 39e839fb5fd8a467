import Workbench.Text.Utf8

/-!
# A text read back from its bytes

The bytes of a text are read as its characters. By the length of the encoding there are four cases;
in each, the first byte tells the length, the bytes behind it may follow it, and the bits that they
carry make up the character again.
-/

namespace Workbench.Text

/-! ### Well-formed sequences -/

variable {a b c d low high : UInt8} (rest : List UInt8)

theorem between_iff :
    (low ≤ a && a ≤ high) = true ↔ low.toNat ≤ a.toNat ∧ a.toNat ≤ high.toNat := by
  simp [UInt8.le_iff_toNat_le]

theorem not_between_of_lt (h : high.toNat < a.toNat) : ¬(low ≤ a && a ≤ high) = true :=
  fun hbetween ↦ Nat.not_le_of_lt h (between_iff.1 hbetween).2

theorem isTail_iff : isTail a = true ↔ 0x80 ≤ a.toNat ∧ a.toNat ≤ 0xBF :=
  between_iff

theorem symbols_one (ha : a.toNat < 0x80) :
    symbols (a :: rest) = .char (Char.ofNat a.toNat) :: symbols rest := by
  rw [symbols.eq_def]
  exact if_pos (UInt8.lt_iff_toNat_lt.2 ha)

theorem not_lt_of_le_toNat (ha : 0x80 ≤ a.toNat) : ¬a < 0x80 := fun h ↦
  Nat.not_le_of_lt (UInt8.lt_iff_toNat_lt.1 h) ha

theorem symbols_two (ha : 0xC2 ≤ a.toNat ∧ a.toNat ≤ 0xDF) (hb : isTail b = true) :
    symbols (a :: b :: rest) =
      .char (Char.ofNat (a.toNat % 32 * 64 + tailBits b)) :: symbols rest := by
  have hone : ¬a < 0x80 := not_lt_of_le_toNat (by omega)
  have hlead : (0xC2 ≤ a && a ≤ 0xDF) = true := between_iff.2 ha
  rw [symbols.eq_def]
  simp only [if_neg hone, if_pos hlead, if_pos hb]

/-- A byte that goes on a sequence may follow the first byte, unless the two start a form that is
too long, a surrogate or a number that is too great. -/
theorem mayFollow_of_isTail (hb : isTail b = true) (hlong : a.toNat = 0xE0 → 0xA0 ≤ b.toNat)
    (hsurrogate : a.toNat = 0xED → b.toNat ≤ 0x9F) (hlong' : a.toNat = 0xF0 → 0x90 ≤ b.toNat)
    (hgreat : a.toNat = 0xF4 → b.toNat ≤ 0x8F) : mayFollow a b = true := by
  obtain ⟨hleast, hgreatest⟩ := isTail_iff.1 hb
  rw [mayFollow]
  split
  · rename_i ha
    exact between_iff.2 ⟨hlong (congrArg UInt8.toNat ha), hgreatest⟩
  split
  · rename_i ha
    exact between_iff.2 ⟨hleast, hsurrogate (congrArg UInt8.toNat ha)⟩
  split
  · rename_i ha
    exact between_iff.2 ⟨hlong' (congrArg UInt8.toNat ha), hgreatest⟩
  split
  · rename_i ha
    exact between_iff.2 ⟨hleast, hgreat (congrArg UInt8.toNat ha)⟩
  · exact hb

theorem symbols_three (ha : 0xE0 ≤ a.toNat ∧ a.toNat ≤ 0xEF) (hb : mayFollow a b = true)
    (hc : isTail c = true) :
    symbols (a :: b :: c :: rest) =
      .char (Char.ofNat ((a.toNat % 16 * 64 + tailBits b) * 64 + tailBits c)) :: symbols rest := by
  have hone : ¬a < 0x80 := not_lt_of_le_toNat (by omega)
  have htwo : ¬(0xC2 ≤ a && a ≤ 0xDF) = true := not_between_of_lt ha.1
  have hlead : (0xE0 ≤ a && a ≤ 0xEF) = true := between_iff.2 ha
  rw [symbols.eq_def]
  simp only [if_neg hone, if_neg htwo, if_pos hlead, hb, hc, Bool.not_true, Bool.false_eq_true,
    if_false]

theorem symbols_four (ha : 0xF0 ≤ a.toNat ∧ a.toNat ≤ 0xF4) (hb : mayFollow a b = true)
    (hc : isTail c = true) (hd : isTail d = true) :
    symbols (a :: b :: c :: d :: rest) =
      .char (Char.ofNat
        (((a.toNat % 8 * 64 + tailBits b) * 64 + tailBits c) * 64 + tailBits d)) ::
          symbols rest := by
  have hone : ¬a < 0x80 := not_lt_of_le_toNat (by omega)
  have htwo : ¬(0xC2 ≤ a && a ≤ 0xDF) = true :=
    not_between_of_lt (Nat.lt_of_lt_of_le (by decide) ha.1)
  have hthree : ¬(0xE0 ≤ a && a ≤ 0xEF) = true := not_between_of_lt ha.1
  have hlead : (0xF0 ≤ a && a ≤ 0xF4) = true := between_iff.2 ha
  rw [symbols.eq_def]
  simp only [if_neg hone, if_neg htwo, if_neg hthree, if_pos hlead, hb, hc, hd, Bool.not_true,
    Bool.false_eq_true, if_false]

/-! ### Bytes of a character -/

theorem toNat_ofNat_of_lt {n : Nat} (h : n < 256) : (UInt8.ofNat n).toNat = n :=
  UInt8.toNat_ofNat_of_lt' h

theorem isTail_ofNat {n : Nat} (h : n < 64) : isTail (UInt8.ofNat (n + 0x80)) = true := by
  rw [isTail_iff, toNat_ofNat_of_lt (by omega)]
  omega

theorem tailBits_ofNat {n : Nat} (h : n < 64) : tailBits (UInt8.ofNat (n + 0x80)) = n := by
  rw [tailBits, toNat_ofNat_of_lt (by omega)]
  omega

/-- The second byte of a character of three bytes may follow the first one. -/
theorem mayFollow_three {v : Nat} (hlong : 0x7ff < v) (hgreat : v ≤ 0xffff)
    (hvalid : v < 0xD800 ∨ 0xDFFF < v) :
    mayFollow (UInt8.ofNat (v / 4096 % 0x10 + 0xe0)) (UInt8.ofNat (v / 64 % 0x40 + 0x80)) =
      true := by
  have hlead := toNat_ofNat_of_lt (n := v / 4096 % 0x10 + 0xe0) (by omega)
  have hsecond := toNat_ofNat_of_lt (n := v / 64 % 0x40 + 0x80) (by omega)
  refine mayFollow_of_isTail (isTail_ofNat (by omega)) ?_ ?_ ?_ ?_ <;> rw [hlead, hsecond] <;> omega

/-- The second byte of a character of four bytes may follow the first one. -/
theorem mayFollow_four {v : Nat} (hlong : 0xffff < v) (hgreat : v < 0x110000) :
    mayFollow (UInt8.ofNat (v / 262144 % 0x08 + 0xf0)) (UInt8.ofNat (v / 4096 % 0x40 + 0x80)) =
      true := by
  have hlead := toNat_ofNat_of_lt (n := v / 262144 % 0x08 + 0xf0) (by omega)
  have hsecond := toNat_ofNat_of_lt (n := v / 4096 % 0x40 + 0x80) (by omega)
  refine mayFollow_of_isTail (isTail_ofNat (by omega)) ?_ ?_ ?_ ?_ <;> rw [hlead, hsecond] <;> omega

/-- A character is read back from its bytes, whatever follows them. -/
theorem symbols_utf8EncodeChar_append (c : Char) (rest : List UInt8) :
    symbols (String.utf8EncodeChar c ++ rest) = .char c :: symbols rest := by
  have hvalue : Char.ofNat c.val.toNat = c := Char.ofNat_toNat c
  have hvalid : c.val.toNat < 0xD800 ∨ 0xDFFF < c.val.toNat ∧ c.val.toNat < 0x110000 := c.valid
  fun_cases String.utf8EncodeChar c with
  | case1 v hone =>
    have hv := toNat_ofNat_of_lt (n := v) (by omega)
    rw [List.singleton_append, symbols_one rest (by omega), hv, hvalue]
  | case2 v hone htwo =>
    have hlead := toNat_ofNat_of_lt (n := v / 64 % 0x20 + 0xc0) (by omega)
    have hbits : (v / 64 % 0x20 + 0xc0) % 32 * 64 + v % 0x40 = v := by omega
    rw [List.cons_append, List.singleton_append,
      symbols_two rest (by omega) (isTail_ofNat (by omega)), hlead, tailBits_ofNat (by omega),
      hbits, hvalue]
  | case3 v hone htwo hthree =>
    have hlead := toNat_ofNat_of_lt (n := v / 4096 % 0x10 + 0xe0) (by omega)
    have hbits : ((v / 4096 % 0x10 + 0xe0) % 16 * 64 + v / 64 % 0x40) * 64 + v % 0x40 = v := by
      omega
    have hfollows := mayFollow_three (v := v) (by omega) (by omega) (by omega)
    rw [List.cons_append, List.cons_append, List.singleton_append,
      symbols_three rest (by omega) hfollows (isTail_ofNat (by omega)), hlead,
      tailBits_ofNat (by omega), tailBits_ofNat (by omega), hbits, hvalue]
  | case4 v hone htwo hthree =>
    have hlead := toNat_ofNat_of_lt (n := v / 262144 % 0x08 + 0xf0) (by omega)
    have hbits : (((v / 262144 % 0x08 + 0xf0) % 8 * 64 + v / 4096 % 0x40) * 64 + v / 64 % 0x40) *
        64 + v % 0x40 = v := by
      omega
    have hfollows := mayFollow_four (v := v) (by omega) (by omega)
    rw [List.cons_append, List.cons_append, List.cons_append, List.singleton_append,
      symbols_four rest (by omega) hfollows (isTail_ofNat (by omega)) (isTail_ofNat (by omega)),
      hlead, tailBits_ofNat (by omega), tailBits_ofNat (by omega), tailBits_ofNat (by omega), hbits,
      hvalue]

/-! ### Bytes of a text -/

theorem toList_loop (bytes : ByteArray) (i : Nat) (r : List UInt8) :
    ByteArray.toList.loop bytes i r = r.reverse ++ bytes.data.toList.drop i := by
  fun_induction ByteArray.toList.loop bytes i r with
  | case1 i r hi ih =>
    have hlt : i < bytes.data.toList.length := hi
    have hget : bytes.get! i = bytes.data.toList[i] := by
      change bytes.data[i]! = bytes.data.toList[i]
      rw [getElem!_pos bytes.data i hi, Array.getElem_toList]
    rw [ih, List.reverse_cons, List.append_assoc, hget, List.singleton_append,
      List.getElem_cons_drop]
  | case2 i r hi =>
    have hle : bytes.data.toList.length ≤ i := Nat.le_of_not_lt hi
    rw [List.drop_eq_nil_of_le hle, List.append_nil]

theorem toList_byteArray (bytes : ByteArray) : bytes.toList = bytes.data.toList :=
  toList_loop bytes 0 []

theorem symbols_flatMap_utf8EncodeChar (cs : List Char) :
    symbols (cs.flatMap String.utf8EncodeChar) = cs.map .char := by
  induction cs with
  | nil => rfl
  | cons c cs ih => rw [List.flatMap_cons, symbols_utf8EncodeChar_append, ih, List.map_cons]

/-- The bytes of a text are those of its characters, one after the other. -/
theorem bytesOf_eq_flatMap (s : String) : bytesOf s = s.toList.flatMap String.utf8EncodeChar := by
  obtain ⟨cs, rfl⟩ : ∃ cs, s = String.ofList cs := ⟨s.toList, String.ofList_toList.symm⟩
  rw [bytesOf, toList_byteArray, String.toUTF8_eq_toByteArray, String.toByteArray_ofList,
    List.utf8Encode, List.toList_data_toByteArray, String.toList_ofList]

/-- The bytes of a text are read as its characters. -/
theorem symbols_bytesOf (s : String) : symbols (bytesOf s) = symbolsOfText s := by
  rw [bytesOf_eq_flatMap, symbols_flatMap_utf8EncodeChar, symbolsOfText]

end Workbench.Text
