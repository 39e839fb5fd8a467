import Workbench.Shell.Effect

/-!
# Escapes

What a backslash and the bytes behind it stand for. The commands that know escapes, `echo` and
`printf` among them, differ in a few of them, so a reader of escapes is made from the record of
these differences.
-/

namespace Workbench.Shell

/-- Which escapes are known besides the common ones. -/
structure Escapes where
  /-- Whether a zero may stand in front of the three digits of an octal escape. -/
  marksOctal : Bool := true
  /-- Whether `\c` ends the text. -/
  stops : Bool := true
  /-- Whether a quote may be escaped. -/
  quotes : Bool := false
  /-- Whether there are escapes of hexadecimal digits. -/
  hexadecimal : Bool := false
  deriving DecidableEq, Repr

/-- What an escape stands for. -/
inductive Escaped where
  | byte (b : UInt8)
  /-- The end of the text. -/
  | stop
  /-- Nothing but the backslash. -/
  | backslash
  deriving DecidableEq, Repr

/-- The value of an octal digit. -/
def octalValue? (b : UInt8) : Option Nat :=
  if 48 ≤ b ∧ b ≤ 55 then some (b.toNat - 48) else none

/-- The value of a hexadecimal digit. -/
def hexadecimalValue? (b : UInt8) : Option Nat :=
  if 48 ≤ b ∧ b ≤ 57 then some (b.toNat - 48)
  else if 97 ≤ b ∧ b ≤ 102 then some (b.toNat - 87)
  else if 65 ≤ b ∧ b ≤ 70 then some (b.toNat - 55)
  else none

/-- The value of at most `n` digits at the start of a text, and the rest. -/
def takeDigits (base : Nat) (digit? : UInt8 → Option Nat) : (n value : Nat) → Bytes → Nat × Bytes
  | 0, value, s => (value, s)
  | _, value, [] => (value, [])
  | n + 1, value, b :: s =>
    match digit? b with
    | some d => takeDigits base digit? n (value * base + d) s
    | none => (value, b :: s)

theorem length_takeDigits_le (base : Nat) (digit? : UInt8 → Option Nat) (n value : Nat)
    (s : Bytes) : (takeDigits base digit? n value s).2.length ≤ s.length := by
  induction n generalizing value s with
  | zero => simp [takeDigits]
  | succ n ih =>
    cases s with
    | nil => simp [takeDigits]
    | cons b s =>
      simp only [takeDigits]
      split
      · exact Nat.le_succ_of_le (ih _ s)
      · exact Nat.le_refl _

/-- What an escape of one letter stands for. -/
def letterEscape? (b : UInt8) : Option UInt8 :=
  match Char.ofNat b.toNat with
  | 'a' => some 7
  | 'b' => some 8
  | 'e' => some 27
  | 'f' => some 12
  | 'n' => some 10
  | 'r' => some 13
  | 't' => some 9
  | 'v' => some 11
  | '\\' => some 92
  | _ => none

namespace Escapes

/-- What the escape with some bytes behind its backslash stands for, and the bytes behind it. -/
def read (style : Escapes) : Bytes → Escaped × Bytes
  | [] => (.backslash, [])
  | b :: s =>
    match letterEscape? b, octalValue? b with
    | some d, _ => (.byte d, s)
    | none, some value =>
      let digits := if style.marksOctal && b = 48 then 3 else 2
      let (value, rest) := takeDigits 8 octalValue? digits value s
      (.byte value.toUInt8, rest)
    | none, none =>
      if style.stops && b = 99 then (.stop, s)
      else if style.quotes && b = 34 then (.byte b, s)
      else if style.hexadecimal && b = 120 && (s.head?.bind hexadecimalValue?).isSome then
        let (value, rest) := takeDigits 16 hexadecimalValue? 2 0 s
        (.byte value.toUInt8, rest)
      else (.backslash, b :: s)

theorem length_read_le (style : Escapes) (s : Bytes) : (style.read s).2.length ≤ s.length := by
  cases s with
  | nil => simp [read]
  | cons b s =>
    simp only [read]
    split
    · simp
    · exact Nat.le_succ_of_le (length_takeDigits_le ..)
    · repeat' split
      · simp
      · simp
      · exact Nat.le_succ_of_le (length_takeDigits_le ..)
      · simp

/-- A text with its escapes replaced; the flag says whether an escape ended it. -/
def replace (style : Escapes) : Bytes → Bytes × Bool
  | [] => ([], false)
  | b :: s =>
    if b ≠ Shell.backslash then
      let found := style.replace s
      (b :: found.1, found.2)
    else
      have := style.length_read_le s
      match (style.read s).1 with
      | .stop => ([], true)
      | .byte d =>
        let found := style.replace (style.read s).2
        (d :: found.1, found.2)
      | .backslash =>
        let found := style.replace (style.read s).2
        (b :: found.1, found.2)
termination_by s => s.length
decreasing_by all_goals simp only [List.length_cons]; omega

end Escapes

end Workbench.Shell
