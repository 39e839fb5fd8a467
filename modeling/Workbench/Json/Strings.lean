import Workbench.Json.Number

/-!
# Strings in JSON text

A string is read in one of two ways. `readBody` keeps it: escapes are replaced by what they stand
for, surrogate escapes must come in pairs, and bytes that are no text are refused once the closing
quote is read. `skipBody` passes over it, checking only that escapes are complete and that no
control character stands bare. Both start behind the opening quote.
-/

namespace Workbench.Json

open Text (Symbol)

/-- The value of a hexadecimal digit. -/
def hexValue? (c : Char) : Option Nat :=
  if '0' ≤ c ∧ c ≤ '9' then some (c.toNat - '0'.toNat)
  else if 'a' ≤ c ∧ c ≤ 'f' then some (c.toNat - 'a'.toNat + 10)
  else if 'A' ≤ c ∧ c ≤ 'F' then some (c.toNat - 'A'.toNat + 10)
  else none

/-- What is wrong with a text that does not start with four hexadecimal digits. Where fewer than
four bytes are left the text has ended. -/
def badHex (s : Input) : Fault :=
  if Symbol.widthOf s < 4 then .here .stringEnds [] else ⟨.badEscape, Symbol.widthOf s - 4⟩

/-- The value of four hexadecimal digits. -/
def readHex4 (s : Input) : Except Fault (Nat × Input) :=
  match s with
  | .char a :: .char b :: .char c :: .char d :: rest =>
    match hexValue? a, hexValue? b, hexValue? c, hexValue? d with
    | some a, some b, some c, some d => .ok (((a * 16 + b) * 16 + c) * 16 + d, rest)
    | _, _, _, _ => .error (badHex s)
  | _ => .error (badHex s)

/-- What an escape of one letter stands for. -/
def ofLetter? (c : Char) : Option Char :=
  if c = '"' ∨ c = '\\' ∨ c = '/' then some c
  else if c = 'b' then some '\x08'
  else if c = 'f' then some '\x0c'
  else if c = 'n' then some '\n'
  else if c = 'r' then some '\r'
  else if c = 't' then some '\t'
  else none

/-- The escape of the second half of a surrogate pair whose first half is `high`. -/
def readLowSurrogate (high : Nat) (s : Input) : Except Fault (Char × Input) :=
  match s with
  | [] => .error (.here .stringEnds [])
  | [.char '\\'] => .error (.here .stringEnds [])
  | .char '\\' :: .char 'u' :: rest =>
    match readHex4 rest with
    | .error fault => .error fault
    | .ok (low, rest) =>
      if 0xDC00 ≤ low ∧ low ≤ 0xDFFF then
        .ok (Char.ofNat (0x10000 + (high - 0xD800) * 0x400 + (low - 0xDC00)), rest)
      else .error (.here .loneSurrogate rest)
  | .char '\\' :: rest => .error (.behindNext .halfPair rest)
  | _ => .error (.behindNext .halfPair s)

/-- The character that an escape stands for, read behind its backslash. -/
def readEscape (s : Input) : Except Fault (Char × Input) :=
  match s with
  | [] => .error (.here .stringEnds [])
  | .char c :: rest =>
    if c = 'u' then
      match readHex4 rest with
      | .error fault => .error fault
      | .ok (n, rest) =>
        if 0xDC00 ≤ n ∧ n ≤ 0xDFFF then .error (.here .loneSurrogate rest)
        else if 0xD800 ≤ n ∧ n ≤ 0xDBFF then readLowSurrogate n rest
        else .ok (Char.ofNat n, rest)
    else
      match ofLetter? c with
      | some d => .ok (d, rest)
      | none => .error (.behindNext .badEscape s)
  | .stray _ :: _ => .error (.behindNext .badEscape s)

/-- Passes over an escape, behind its backslash. -/
def skipEscape (s : Input) : Except Fault Input :=
  match s with
  | [] => .error (.here .stringEnds [])
  | .char c :: rest =>
    if c = 'u' then
      match readHex4 rest with
      | .error fault => .error fault
      | .ok (_, rest) => .ok rest
    else if (ofLetter? c).isSome then .ok rest
    else .error (.behindNext .badEscape s)
  | .stray _ :: _ => .error (.behindNext .badEscape s)

/-! ### Escapes consume text -/

theorem length_of_readHex4 {s rest : Input} {n : Nat} (h : readHex4 s = .ok (n, rest)) :
    rest.length < s.length := by
  unfold readHex4 at h
  split at h
  · split at h
    · cases h
      simp only [List.length_cons]
      omega
    · cases h
  · cases h

theorem length_of_readLowSurrogate {high : Nat} {s rest : Input} {c : Char}
    (h : readLowSurrogate high s = .ok (c, rest)) : rest.length < s.length := by
  unfold readLowSurrogate at h
  split at h
  · cases h
  · cases h
  · split at h
    · cases h
    · rename_i heq
      split at h
      · simp only [Except.ok.injEq, Prod.mk.injEq] at h
        have := length_of_readHex4 heq
        simp only [List.length_cons, ← h.2]
        omega
      · cases h
  · cases h
  · cases h

theorem length_of_readEscape {s rest : Input} {c : Char} (h : readEscape s = .ok (c, rest)) :
    rest.length < s.length := by
  unfold readEscape at h
  split at h
  · cases h
  · split at h
    · split at h
      · cases h
      · rename_i heq
        have hlt := length_of_readHex4 heq
        split at h
        · cases h
        · split at h
          · have := length_of_readLowSurrogate h
            simp only [List.length_cons]
            omega
          · cases h
            simp only [List.length_cons]
            omega
    · split at h
      · cases h
        simp
      · cases h
  · cases h

theorem length_of_skipEscape {s rest : Input} (h : skipEscape s = .ok rest) :
    rest.length < s.length := by
  unfold skipEscape at h
  split at h
  · cases h
  · split at h
    · split at h
      · cases h
      · rename_i heq
        cases h
        have := length_of_readHex4 heq
        simp only [List.length_cons]
        omega
    · split at h
      · cases h
        simp
      · cases h
  · cases h

/-! ### Bodies -/

/-- What a string holds up to its closing quote, with its escapes replaced, and the text behind the
quote. -/
def readSymbols : Input → Except Fault (List Symbol × Input)
  | [] => .error (.here .stringEnds [])
  | .stray n :: rest =>
    match readSymbols rest with
    | .error fault => .error fault
    | .ok (found, rest') => .ok (.stray n :: found, rest')
  | .char c :: rest =>
    if c = '"' then .ok ([], rest)
    else if c = '\\' then
      match h : readEscape rest with
      | .error fault => .error fault
      | .ok (d, rest') =>
        have := length_of_readEscape h
        match readSymbols rest' with
        | .error fault => .error fault
        | .ok (found, rest'') => .ok (.char d :: found, rest'')
    else if c.toNat < 0x20 then .error (.here .controlCharacter rest)
    else
      match readSymbols rest with
      | .error fault => .error fault
      | .ok (found, rest') => .ok (.char c :: found, rest')
termination_by s => s.length
decreasing_by all_goals simp only [List.length_cons]; omega

/-- Whether a symbol is a character. -/
def isChar : Symbol → Bool
  | .char _ => true
  | .stray _ => false

/-- The characters of a string up to its closing quote, and the text behind that. The fault of bytes
that are no text is as far in front of the end of the string as the string goes on from them when
its escapes are replaced. -/
def readBody (s : Input) : Except Fault (List Char × Input) :=
  match readSymbols s with
  | .error fault => .error fault
  | .ok (found, rest) =>
    match Text.chars? found with
    | some cs => .ok (cs, rest)
    | none =>
      .error ⟨.notText, Symbol.widthOf rest + Symbol.widthOf (found.dropWhile isChar)⟩

/-- Passes over the body of a string and its closing quote. -/
def skipBody : Input → Except Fault Input
  | [] => .error (.here .stringEnds [])
  | .stray _ :: rest => skipBody rest
  | .char c :: rest =>
    if c = '"' then .ok rest
    else if c = '\\' then
      match h : skipEscape rest with
      | .error fault => .error fault
      | .ok rest' =>
        have := length_of_skipEscape h
        skipBody rest'
    else if c.toNat < 0x20 then .error (.here .controlCharacter (.char c :: rest))
    else skipBody rest
termination_by s => s.length
decreasing_by all_goals simp only [List.length_cons]; omega

theorem length_of_skipBody {s rest : Input} (h : skipBody s = .ok rest) :
    rest.length < s.length := by
  fun_induction skipBody s with
  | case1 => cases h
  | case2 _ rest' ih =>
    have := ih h
    simp only [List.length_cons]
    omega
  | case3 =>
    cases h
    simp
  | case4 => cases h
  | case5 _ _ _ _ hlt ih =>
    have := ih h
    simp only [List.length_cons]
    omega
  | case6 => cases h
  | case7 _ _ _ _ _ ih =>
    have := ih h
    simp only [List.length_cons]
    omega

end Workbench.Json
