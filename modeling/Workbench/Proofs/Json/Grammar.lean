import Workbench.Proofs.Json.Tokens

/-!
# The grammar of JSON text

What a text of JSON looks like, apart from how it is read. Every relation of the grammar stands
between a text and what is left of it behind the part in question, so a text is taken apart from
left to right without saying where the parts are joined.

There are two kinds of values. `Spells` relates a value to its text, as it is read to be kept: the
numbers are in range, the halves of surrogate pairs stand together, and no more containers are open
than there is room for. `Formed` is JSON as such, and all that is asked of a value that nobody
keeps. Both are built from the same containers (`Laid`), whose elements are texts of any kind: so
are the messages of the wire, whose members are partly of the one kind and partly of the other.
-/

namespace Workbench.Json

open Text (Symbol digitChar)

/-! ### Space -/

/-- A text starts with space, maybe none. -/
inductive Space : Input → Input → Prop
  | nil (s : Input) : Space s s
  | cons {c : Char} {s rest : Input} (hc : c ∈ [' ', '\t', '\n', '\r']) (h : Space s rest) :
    Space (.char c :: s) rest

/-- A text starts with a mark, with space around it. -/
inductive Mark (mark : Char) : Input → Input → Prop
  | mk {s behind rest : Input} (before : Space s (.char mark :: behind))
    (after : Space behind rest) : Mark mark s rest

/-! ### Strings -/

/-- A text starts with four hexadecimal digits. -/
inductive Hex4 : Nat → Input → Input → Prop
  | mk {a b c d : Char} {w x y z : Nat} (ha : hexValue? a = some w) (hb : hexValue? b = some x)
    (hc : hexValue? c = some y) (hd : hexValue? d = some z) (rest : Input) :
    Hex4 (((w * 16 + x) * 16 + y) * 16 + z) (.char a :: .char b :: .char c :: .char d :: rest) rest

/-- The letters that may stand behind a backslash, with what they stand for. -/
def letters : List (Char × Char) :=
  [('"', '"'), ('\\', '\\'), ('/', '/'), ('b', '\x08'), ('f', '\x0c'), ('n', '\n'), ('r', '\r'),
    ('t', '\t')]

/-- A character that stands for itself in a string. -/
structure IsPlain (c : Char) : Prop where
  quote : c ≠ '"'
  slash : c ≠ '\\'
  control : 0x20 ≤ c.toNat

/-- A text starts with the body of a string and its closing quote, and these are the characters that
the body stands for. A number in an escape is that of a character, or one of the two halves of a
surrogate pair, which stand together. -/
inductive Denotes : List Char → Input → Input → Prop
  | close (rest : Input) : Denotes [] (.char '"' :: rest) rest
  | plain {c : Char} {cs : List Char} {s rest : Input} (hc : IsPlain c) (h : Denotes cs s rest) :
    Denotes (c :: cs) (.char c :: s) rest
  | letter {c d : Char} {cs : List Char} {s rest : Input} (hc : (c, d) ∈ letters)
    (h : Denotes cs s rest) : Denotes (d :: cs) (.char '\\' :: .char c :: s) rest
  | code {n : Nat} {cs : List Char} {s t rest : Input} (hex : Hex4 n s t)
    (hn : n < 0xD800 ∨ 0xDFFF < n) (h : Denotes cs t rest) :
    Denotes (Char.ofNat n :: cs) (.char '\\' :: .char 'u' :: s) rest
  | pair {high low : Nat} {cs : List Char} {s t u rest : Input}
    (hexHigh : Hex4 high s (.char '\\' :: .char 'u' :: t)) (hexLow : Hex4 low t u)
    (hhigh : 0xD800 ≤ high ∧ high ≤ 0xDBFF) (hlow : 0xDC00 ≤ low ∧ low ≤ 0xDFFF)
    (h : Denotes cs u rest) :
    Denotes (Char.ofNat (0x10000 + (high - 0xD800) * 0x400 + (low - 0xDC00)) :: cs)
      (.char '\\' :: .char 'u' :: s) rest

/-- A text starts with the body of a string and its closing quote, as far as JSON goes: any number
may stand in an escape, and bytes that are no text are not looked at. -/
inductive Passable : Input → Input → Prop
  | close (rest : Input) : Passable (.char '"' :: rest) rest
  | stray (n : Nat) {s rest : Input} (h : Passable s rest) : Passable (.stray n :: s) rest
  | plain {c : Char} {s rest : Input} (hc : IsPlain c) (h : Passable s rest) :
    Passable (.char c :: s) rest
  | letter {c d : Char} {s rest : Input} (hc : (c, d) ∈ letters) (h : Passable s rest) :
    Passable (.char '\\' :: .char c :: s) rest
  | code {n : Nat} {s t rest : Input} (hex : Hex4 n s t) (h : Passable t rest) :
    Passable (.char '\\' :: .char 'u' :: s) rest

/-! ### Numbers -/

/-- The texts of an exponent: a letter of either case, a sign that may be left out if it is plus,
and digits. -/
inductive ExponentText : Option Exponent → List Char → Prop
  | absent : ExponentText none []
  | written {mark : Char} {sign : List Char} {negative : Bool} {digits : List Nat}
    (hmark : mark = 'e' ∨ mark = 'E')
    (hsign : (sign, negative) ∈ [([], false), (['+'], false), (['-'], true)])
    (hne : digits ≠ []) (hdigits : ∀ d ∈ digits, d < 10) :
    ExponentText (some ⟨negative, digits⟩) (mark :: (sign ++ digits.map digitChar))

/-- The texts of a number behind its sign: digits without a zero in front, a point with digits, and
an exponent. -/
structure MagnitudeText (t : Token) (text : List Char) : Prop where
  whole_ne_nil : t.whole ≠ []
  whole_lt : ∀ d ∈ t.whole, d < 10
  zero : t.whole.head? = some 0 → t.whole = [0]
  fraction_lt : ∀ d ∈ t.fraction, d < 10
  text : ∃ exponent, ExponentText t.exponent exponent ∧
    text = t.whole.map digitChar ++ (fractionText t.fraction ++ exponent)

/-- The texts of a number. -/
inductive Numeral (t : Token) : List Char → Prop
  | positive {text : List Char} (hsign : t.negative = false) (h : MagnitudeText t text) :
    Numeral t text
  | negative {text : List Char} (hsign : t.negative = true) (h : MagnitudeText t text) :
    Numeral t ('-' :: text)

/-! ### Containers -/

section Containers

variable {ε : Type} (El : ε → Input → Input → Prop)

/-- A text starts with further elements of a container, each behind a comma. -/
inductive More : List ε → Input → Input → Prop
  | nil (s : Input) : More [] s s
  | cons {e : ε} {es : List ε} {s t u rest : Input} (comma : Mark ',' s t) (element : El e t u)
    (more : More es u rest) : More (e :: es) s rest

/-- A text starts with a container that holds these elements. -/
inductive Laid (opening closing : Char) : List ε → Input → Input → Prop
  | empty {s rest : Input} (close : Space s (.char closing :: rest)) :
    Laid opening closing [] (.char opening :: s) rest
  | elements {e : ε} {es : List ε} {s t u v rest : Input} (space : Space s t) (first : El e t u)
    (more : More El es u v) (close : Space v (.char closing :: rest)) :
    Laid opening closing (e :: es) (.char opening :: s) rest

/-- A text starts with a container that holds these elements so far, and is left in front of another
one. -/
inductive Ahead (opening : Char) : List ε → Input → Input → Prop
  | first {s rest : Input} (space : Space s rest) : Ahead opening [] (.char opening :: s) rest
  | next {e : ε} {es : List ε} {s t u v rest : Input} (space : Space s t) (first : El e t u)
    (more : More El es u v) (comma : Mark ',' v rest) :
    Ahead opening (e :: es) (.char opening :: s) rest

end Containers

/-- Where a part of a text starts, and what is left behind it. -/
abbrev Span : Type :=
  Input × Input

/-- An item of an array is a value. -/
def ItemAt (value : Span) (s rest : Input) : Prop :=
  value = (s, rest)

/-- A member of an object is a name in quotes, a colon and a value. -/
inductive MemberAt {κ : Type} (Name : κ → Input → Input → Prop) : κ × Span → Input → Input → Prop
  | mk {name : κ} {s t value rest : Input} (named : Name name s t) (colon : Mark ':' t value) :
    MemberAt Name (name, value, rest) (.char '"' :: s) rest

/-! ### Values -/

/-- A text starts with a value, as far as JSON goes. -/
inductive Formed : Input → Input → Prop
  | literal {word : List Char} (h : word ∈ ["null".toList, "true".toList, "false".toList])
    (rest : Input) : Formed (word.map .char ++ rest) rest
  | number {t : Token} {text : List Char} (h : Numeral t text) (rest : Input) :
    Formed (text.map .char ++ rest) rest
  | string {s rest : Input} (h : Passable s rest) : Formed (.char '"' :: s) rest
  | array {items : List Span} {s rest : Input} (h : ∀ value ∈ items, Formed value.1 value.2)
    (laid : Laid ItemAt '[' ']' items s rest) : Formed s rest
  | object {members : List (Unit × Span)} {s rest : Input}
    (h : ∀ member ∈ members, Formed member.2.1 member.2.2)
    (laid : Laid (MemberAt fun _ ↦ Passable) '{' '}' members s rest) : Formed s rest

/-- A text starts with a value that opens at most so many containers at once. Of two members with
one name the later counts. -/
inductive Spells : Nat → Json → Input → Input → Prop
  | null (room : Nat) (rest : Input) : Spells room .null ("null".toList.map .char ++ rest) rest
  | bool (room : Nat) (b : Bool) (rest : Input) :
    Spells room (.bool b) ((printBool b).map .char ++ rest) rest
  | number (room : Nat) {t : Token} {text : List Char} {n : Number} (h : Numeral t text)
    (hn : t.value? = some n) (rest : Input) : Spells room (.number n) (text.map .char ++ rest) rest
  | string (room : Nat) {cs : List Char} {s rest : Input} (h : Denotes cs s rest) :
    Spells room (.string (String.ofList cs)) (.char '"' :: s) rest
  | array {room : Nat} {items : List (Json × Span)} {s rest : Input}
    (h : ∀ item ∈ items, Spells room item.1 item.2.1 item.2.2)
    (laid : Laid ItemAt '[' ']' (items.map (·.2)) s rest) :
    Spells (room + 1) (.array (items.map (·.1))) s rest
  | object {room : Nat} {members : List ((String × Json) × Span)} {s rest : Input}
    (h : ∀ member ∈ members, Spells room member.1.2 member.2.1 member.2.2)
    (laid : Laid (MemberAt fun name ↦ Denotes name.toList) '{' '}'
      (members.map fun member ↦ (member.1.1, member.2)) s rest) :
    Spells (room + 1) (.object (Keyed.ofList (members.map (·.1)))) s rest

/-! ### Reading space -/

theorem Space.skipSpace_eq {s rest : Input} (h : Space s rest) : skipSpace s = skipSpace rest := by
  induction h with
  | nil s => rfl
  | cons hc h ih =>
    rw [← ih, skipSpace, skipSpace, List.dropWhile_cons_of_pos]
    simpa [or_assoc] using hc

/-- A text that starts with space before a mark is left at the mark. -/
theorem Space.skipSpace_char {c : Char} {s rest : Input} (h : Space s (.char c :: rest))
    (hc : c ∉ [' ', '\t', '\n', '\r']) : skipSpace s = .char c :: rest := by
  rw [h.skipSpace_eq, Json.skipSpace_char hc]

theorem Space.of_skipSpace (s : Input) : Space s (skipSpace s) := by
  induction s with
  | nil => exact .nil []
  | cons symbol s ih =>
    cases symbol with
    | stray n => exact .nil _
    | char c =>
      by_cases hc : c ∈ [' ', '\t', '\n', '\r']
      · rw [← (Space.cons hc (.nil s)).skipSpace_eq] at ih
        exact .cons hc ih
      · rw [Json.skipSpace_char hc]
        exact .nil _

theorem Space.trans {s t rest : Input} (h : Space s t) (h' : Space t rest) : Space s rest := by
  induction h with
  | nil s => exact h'
  | cons hc h ih => exact .cons hc (ih h')

/-- Space does not go on a number. -/
theorem Space.endsNumber {s rest : Input} (h : Space s rest) (hrest : endsNumber rest = true) :
    endsNumber s = true := by
  cases h with
  | nil s => exact hrest
  | cons hc h =>
    simp only [List.mem_cons, List.not_mem_nil, or_false] at hc
    rcases hc with rfl | rfl | rfl | rfl <;> rfl

/-- Neither do the elements that follow in a container. -/
theorem More.endsNumber {ε : Type} {El : ε → Input → Input → Prop} {es : List ε} {s rest : Input}
    (h : More El es s rest) (hrest : endsNumber rest = true) : endsNumber s = true := by
  cases h with
  | nil s => exact hrest
  | cons comma element more =>
    obtain ⟨before, -⟩ := comma
    exact before.endsNumber rfl

end Workbench.Json
