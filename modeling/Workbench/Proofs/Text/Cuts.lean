import Workbench.Proofs.Text.Encoding

/-!
# Texts that are cut off

Where the bytes of a text end too early, its characters are read up to the cut, and one stray mark
stands for the bytes of a character that the cut takes apart. `Cut` says this by recursion on the
text, and that is how the readers of a text meet a cut: in front of a character, inside it or
somewhere behind it. So a statement about all places where bytes can end becomes an induction over
the text (`cut_symbols`).
-/

namespace Workbench.Text

/-- What is read of a text that is cut off before its end. -/
inductive Cut : List Char → List Symbol → Prop
  /-- The cut is in front of a character. -/
  | before (c : Char) (cs : List Char) : Cut (c :: cs) []
  /-- The cut leaves some bytes of a character. -/
  | inside {c : Char} {n : Nat} (hpos : 0 < n) (hn : n < c.utf8Size) (cs : List Char) :
    Cut (c :: cs) [.stray n]
  /-- The cut is behind a character. -/
  | behind (c : Char) {cs : List Char} {p : List Symbol} (h : Cut cs p) :
    Cut (c :: cs) (.char c :: p)

namespace Cut

variable {c : Char} {cs text after : List Char} {p : List Symbol}

theorem ne_nil (h : Cut text p) : text ≠ [] := by
  cases h <;> simp

/-- The first character that is left of a text is the first one of the text. -/
theorem head?_eq (h : Cut text p) (hc : p.head? = some (.char c)) : text.head? = some c := by
  cases h with
  | before => cases hc
  | inside => cases hc
  | behind =>
    cases hc
    rfl

/-- A text of two parts is cut in the first one or behind it. -/
theorem append_cases (h : Cut (text ++ after) p) :
    Cut text p ∨ ∃ q, Cut after q ∧ p = text.map .char ++ q := by
  induction text generalizing p with
  | nil => exact .inr ⟨p, h, rfl⟩
  | cons c text ih =>
    cases h with
    | before => exact .inl (.before c text)
    | inside hpos hn => exact .inl (.inside hpos hn text)
    | behind _ h =>
      rcases ih h with h | ⟨q, hq, rfl⟩
      · exact .inl (.behind c h)
      · exact .inr ⟨q, hq, rfl⟩

/-- A character of one byte is not taken apart. -/
theorem cons_cases (h : Cut (c :: cs) p) (hc : c.utf8Size = 1) :
    p = [] ∨ ∃ q, Cut cs q ∧ p = .char c :: q := by
  cases h with
  | before => exact .inl rfl
  | inside hpos hn => omega
  | behind _ h => exact .inr ⟨_, h, rfl⟩

/-- A text of characters of one byte is cut between two of them. -/
theorem exists_take (h : Cut text p) (htext : ∀ c ∈ text, c.utf8Size = 1) :
    ∃ k < text.length, p = (text.take k).map .char := by
  induction h with
  | before c cs => exact ⟨0, Nat.succ_pos _, rfl⟩
  | inside hpos hn =>
    have := htext _ List.mem_cons_self
    omega
  | behind c _ ih =>
    obtain ⟨k, hk, rfl⟩ := ih (List.forall_mem_cons.1 htext).2
    exact ⟨k + 1, Nat.succ_lt_succ hk, rfl⟩

theorem widthOf_lt (h : Cut text p) : Symbol.widthOf p < Symbol.widthOf (text.map .char) := by
  induction h with
  | before c cs => exact Nat.add_pos_left c.utf8Size_pos _
  | inside hpos hn => exact Nat.lt_of_lt_of_le hn (Nat.le_add_right ..)
  | behind c _ ih => exact Nat.add_lt_add_left ih _

end Cut

/-! ### Bytes that end too early -/

section Bytes

variable {a b c : UInt8}

theorem symbols_lead (ha : 0xC2 ≤ a.toNat ∧ a.toNat ≤ 0xF4) : symbols [a] = [.stray 1] := by
  have hone : ¬a < 0x80 := not_lt_of_le_toNat (by omega)
  rw [symbols.eq_def]
  simp only [if_neg hone]
  split
  · rfl
  split
  · rfl
  rename_i htwo hthree
  rw [between_iff] at htwo hthree
  have hfour : (0xF0 ≤ a && a ≤ 0xF4) = true :=
    between_iff.2 ⟨by simp at htwo hthree ⊢; omega, ha.2⟩
  rw [if_pos hfour]

theorem symbols_lead_second (ha : 0xE0 ≤ a.toNat ∧ a.toNat ≤ 0xF4) (hb : mayFollow a b = true) :
    symbols [a, b] = [.stray 2] := by
  have hone : ¬a < 0x80 := not_lt_of_le_toNat (by omega)
  have htwo : ¬(0xC2 ≤ a && a ≤ 0xDF) = true := not_between_of_lt ha.1
  rw [symbols.eq_def]
  simp only [if_neg hone, if_neg htwo, if_pos hb]
  split
  · rfl
  rename_i hthree
  rw [between_iff] at hthree
  have hfour : (0xF0 ≤ a && a ≤ 0xF4) = true :=
    between_iff.2 ⟨by simp at hthree ⊢; omega, ha.2⟩
  rw [if_pos hfour]

theorem symbols_lead_third (ha : 0xF0 ≤ a.toNat ∧ a.toNat ≤ 0xF4) (hb : mayFollow a b = true)
    (hc : isTail c = true) : symbols [a, b, c] = [.stray 3] := by
  have hone : ¬a < 0x80 := not_lt_of_le_toNat (by omega)
  have htwo : ¬(0xC2 ≤ a && a ≤ 0xDF) = true :=
    not_between_of_lt (Nat.lt_of_lt_of_le (by decide) ha.1)
  have hthree : ¬(0xE0 ≤ a && a ≤ 0xEF) = true := not_between_of_lt ha.1
  have hlead : (0xF0 ≤ a && a ≤ 0xF4) = true := between_iff.2 ha
  rw [symbols.eq_def]
  simp only [if_neg hone, if_neg htwo, if_neg hthree, if_pos hlead, hb, hc, Bool.not_true,
    Bool.false_eq_true, if_false]

end Bytes

/-- Some bytes of a character, but not all, are one stray stretch. -/
theorem symbols_take_utf8EncodeChar {c : Char} {k : Nat} (hpos : 0 < k) (hk : k < c.utf8Size) :
    symbols ((String.utf8EncodeChar c).take k) = [.stray k] := by
  have hvalid : c.val.toNat < 0xD800 ∨ 0xDFFF < c.val.toNat ∧ c.val.toNat < 0x110000 := c.valid
  rw [← String.length_utf8EncodeChar] at hk
  revert hk
  fun_cases String.utf8EncodeChar c with
  | case1 v hone =>
    simp only [List.length_cons, List.length_nil]
    omega
  | case2 v hone htwo =>
    intro hk
    obtain rfl : k = 1 := by
      simp only [List.length_cons, List.length_nil] at hk
      omega
    have hlead := toNat_ofNat_of_lt (n := v / 64 % 0x20 + 0xc0) (by omega)
    exact symbols_lead (by omega)
  | case3 v hone htwo hthree =>
    intro hk
    have hlead := toNat_ofNat_of_lt (n := v / 4096 % 0x10 + 0xe0) (by omega)
    obtain rfl | rfl : k = 1 ∨ k = 2 := by
      simp only [List.length_cons, List.length_nil] at hk
      omega
    · exact symbols_lead (by omega)
    · exact symbols_lead_second (by omega) (mayFollow_three (by omega) (by omega) (by omega))
  | case4 v hone htwo hthree =>
    intro hk
    have hlead := toNat_ofNat_of_lt (n := v / 262144 % 0x08 + 0xf0) (by omega)
    have hfollows := mayFollow_four (v := v) (by omega) (by omega)
    obtain rfl | rfl | rfl : k = 1 ∨ k = 2 ∨ k = 3 := by
      simp only [List.length_cons, List.length_nil] at hk
      omega
    · exact symbols_lead (by omega)
    · exact symbols_lead_second (by omega) hfollows
    · exact symbols_lead_third (by omega) hfollows (isTail_ofNat (by omega))

theorem cut_symbols_take {text : List Char} {k : Nat}
    (hk : k < (text.flatMap String.utf8EncodeChar).length) :
    Cut text (symbols ((text.flatMap String.utf8EncodeChar).take k)) := by
  induction text generalizing k with
  | nil => exact absurd hk (Nat.not_lt_zero k)
  | cons c text ih =>
    have hlength : (String.utf8EncodeChar c).length = c.utf8Size := String.length_utf8EncodeChar c
    rw [List.flatMap_cons, List.length_append] at hk
    rw [List.flatMap_cons]
    by_cases hcut : k < c.utf8Size
    · rw [List.take_append_of_le_length (by omega)]
      rcases Nat.eq_zero_or_pos k with rfl | hpos
      · exact .before c text
      · rw [symbols_take_utf8EncodeChar hpos hcut]
        exact .inside hpos hcut text
    · rw [List.take_append, List.take_of_length_le (by omega), symbols_utf8EncodeChar_append]
      exact .behind c (ih (by omega))

/-- However many bytes of a text are missing at its end, what is read of the others is the text, cut
off. -/
theorem cut_symbols {s : String} {part : List UInt8} (h : part <+: bytesOf s)
    (hne : part ≠ bytesOf s) : Cut s.toList (symbols part) := by
  have hlength : part.length < (bytesOf s).length :=
    Nat.lt_of_le_of_ne h.length_le fun heq ↦ hne (h.eq_of_length heq)
  rw [List.prefix_iff_eq_take.1 h]
  rw [bytesOf_eq_flatMap] at hlength ⊢
  exact cut_symbols_take hlength

/-- What is read of a text and the bytes behind it. -/
theorem symbols_bytesOf_append (s : String) (rest : List UInt8) :
    symbols (bytesOf s ++ rest) = symbolsOfText s ++ symbols rest := by
  rw [bytesOf_eq_flatMap, symbolsOfText]
  induction s.toList with
  | nil => rfl
  | cons c cs ih =>
    rw [List.flatMap_cons, List.append_assoc, symbols_utf8EncodeChar_append, ih, List.map_cons,
      List.cons_append]

/-! ### The first character of some bytes -/

section Start

variable {a b : UInt8}

theorem toNat_ofNat_eq_or (n : Nat) : (Char.ofNat n).toNat = n ∨ (Char.ofNat n).toNat = 0 := by
  by_cases h : n.isValidChar
  · left
    rw [Char.ofNat, dif_pos h]
    rfl
  · right
    rw [Char.ofNat, dif_neg h]
    rfl

/-- Behind a first byte that carries no bits, the next one carries some of the higher ones. -/
theorem le_of_mayFollow (h : mayFollow a b = true) :
    (a.toNat = 0xE0 → 0xA0 ≤ b.toNat ∧ b.toNat ≤ 0xBF) ∧
      (a.toNat = 0xF0 → 0x90 ≤ b.toNat ∧ b.toNat ≤ 0xBF) := by
  constructor
  · intro ha
    obtain rfl : a = 0xE0 := UInt8.toNat_inj.1 ha
    exact between_iff.1 h
  · intro ha
    obtain rfl : a = 0xF0 := UInt8.toNat_inj.1 ha
    exact between_iff.1 h

/-- A character below U+0080 at the start of some bytes is their first byte. -/
theorem exists_symbols_cons (a : UInt8) (rest : List UInt8) :
    ∃ s t, symbols (a :: rest) = s :: t ∧
      ∀ c, s = .char c → c.toNat = a.toNat ∨ 0x80 ≤ c.toNat ∨ c.toNat = 0 := by
  have hchar : ∀ n c, Symbol.char (Char.ofNat n) = .char c → n = a.toNat ∨ 0x80 ≤ n →
      c.toNat = a.toNat ∨ 0x80 ≤ c.toNat ∨ c.toNat = 0 := by
    rintro n _ ⟨⟩ hn
    rcases toNat_ofNat_eq_or n with h | h <;> omega
  have hstray : ∀ n c, Symbol.stray n = .char c →
      c.toNat = a.toNat ∨ 0x80 ≤ c.toNat ∨ c.toNat = 0 := by
    rintro n c ⟨⟩
  rw [symbols.eq_def]
  simp only
  repeat' split
  all_goals first | exact ⟨_, _, rfl, hstray _⟩ | skip
  · exact ⟨_, _, rfl, fun c hc ↦ hchar _ c hc (.inl rfl)⟩
  · rename_i hlead _ b _ _
    refine ⟨_, _, rfl, fun c hc ↦ hchar _ c hc (.inr ?_)⟩
    have := between_iff.1 hlead
    simp only [UInt8.reduceToNat] at this
    omega
  · rename_i hlead _ b c _ hfollows _
    refine ⟨_, _, rfl, fun c hc ↦ hchar _ c hc (.inr ?_)⟩
    have := between_iff.1 hlead
    have := (le_of_mayFollow (by simpa using hfollows)).1
    simp only [UInt8.reduceToNat, tailBits] at *
    omega
  · rename_i hlead _ b c d _ hfollows _ _
    refine ⟨_, _, rfl, fun c hc ↦ hchar _ c hc (.inr ?_)⟩
    have := between_iff.1 hlead
    have := (le_of_mayFollow (by simpa using hfollows)).2
    simp only [UInt8.reduceToNat, tailBits] at *
    omega

end Start

end Workbench.Text
