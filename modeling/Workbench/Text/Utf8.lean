/-!
# Bytes read as UTF-8

`symbols` reads any list of bytes. A well-formed sequence gives its character; a stretch that is
not well-formed gives one `stray` mark for each longest part that could still have begun a
character. The two usual readings are views of it: `text?` accepts only bytes without a stray mark,
`lossyText` puts the replacement character where one stands.
-/

namespace Workbench.Text

/-- What stands at one place of a byte stream: a character, or bytes that encode none. -/
inductive Symbol where
  /-- A well-formed sequence. -/
  | char (c : Char)
  /-- A longest stretch of bytes that begins no character; `bytes` is its length. -/
  | stray (bytes : Nat)
  deriving DecidableEq, Repr

namespace Symbol

/-- How many bytes a symbol stands for. -/
def width : Symbol → Nat
  | char c => c.utf8Size
  | stray bytes => bytes

/-- How many bytes some symbols stand for. -/
def widthOf : List Symbol → Nat
  | [] => 0
  | s :: rest => s.width + widthOf rest

end Symbol

/-- Whether a byte continues a sequence. -/
def isTail (b : UInt8) : Bool :=
  0x80 ≤ b && b ≤ 0xBF

/-- The bits that a continuation byte carries. -/
def tailBits (b : UInt8) : Nat :=
  b.toNat % 64

/-- Whether `b` may follow the first byte `lead` of a sequence of three or four. The bounds leave
out the forms that are too long, the surrogates and everything above U+10FFFF. -/
def mayFollow (lead b : UInt8) : Bool :=
  if lead = 0xE0 then 0xA0 ≤ b && b ≤ 0xBF
  else if lead = 0xED then 0x80 ≤ b && b ≤ 0x9F
  else if lead = 0xF0 then 0x90 ≤ b && b ≤ 0xBF
  else if lead = 0xF4 then 0x80 ≤ b && b ≤ 0x8F
  else isTail b

/-- The symbols of a byte stream. -/
def symbols : List UInt8 → List Symbol
  | [] => []
  | a :: rest =>
    if a < 0x80 then .char (Char.ofNat a.toNat) :: symbols rest
    else if 0xC2 ≤ a && a ≤ 0xDF then
      match rest with
      | b :: rest₁ =>
        if isTail b then .char (Char.ofNat (a.toNat % 32 * 64 + tailBits b)) :: symbols rest₁
        else .stray 1 :: symbols (b :: rest₁)
      | [] => [.stray 1]
    else if 0xE0 ≤ a && a ≤ 0xEF then
      match rest with
      | b :: c :: rest₂ =>
        if !mayFollow a b then .stray 1 :: symbols (b :: c :: rest₂)
        else if !isTail c then .stray 2 :: symbols (c :: rest₂)
        else
          .char (Char.ofNat ((a.toNat % 16 * 64 + tailBits b) * 64 + tailBits c)) :: symbols rest₂
      | [b] => if mayFollow a b then [.stray 2] else .stray 1 :: symbols [b]
      | [] => [.stray 1]
    else if 0xF0 ≤ a && a ≤ 0xF4 then
      match rest with
      | b :: c :: d :: rest₃ =>
        if !mayFollow a b then .stray 1 :: symbols (b :: c :: d :: rest₃)
        else if !isTail c then .stray 2 :: symbols (c :: d :: rest₃)
        else if !isTail d then .stray 3 :: symbols (d :: rest₃)
        else
          .char (Char.ofNat (((a.toNat % 8 * 64 + tailBits b) * 64 + tailBits c) * 64 + tailBits d))
            :: symbols rest₃
      | [b, c] =>
        if !mayFollow a b then .stray 1 :: symbols [b, c]
        else if !isTail c then .stray 2 :: symbols [c]
        else [.stray 3]
      | [b] => if mayFollow a b then [.stray 2] else .stray 1 :: symbols [b]
      | [] => [.stray 1]
    else .stray 1 :: symbols rest

/-- The symbols of a text: each character stands for itself. -/
def symbolsOfText (s : String) : List Symbol :=
  s.toList.map .char

/-- The characters of a stream without a stray mark. -/
def chars? : List Symbol → Option (List Char)
  | [] => some []
  | .stray _ :: _ => none
  | .char c :: rest => (chars? rest).map (c :: ·)

/-- The text that well-formed bytes encode. -/
def text? (bytes : List UInt8) : Option String :=
  (chars? (symbols bytes)).map String.ofList

/-- The text of any bytes, with U+FFFD for each stray stretch. -/
def lossyText (bytes : List UInt8) : String :=
  String.ofList ((symbols bytes).map fun
    | .char c => c
    | .stray _ => '\uFFFD')

/-- The bytes of a text. -/
def bytesOf (s : String) : List UInt8 :=
  s.toUTF8.toList

end Workbench.Text
