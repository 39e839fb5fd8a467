/-!
# Blank characters and the words between them

The blank characters are those of the Unicode property White_Space: twenty-five code points in ten
ranges. Trimming, splitting into words and the test for an empty line all use this one property, so
a zero-width space or a byte order mark is ordinary text.

The functions work on lists of characters, where they are structural; `trimmed` and `allBlank` are
the forms for `String`.
-/

namespace Workbench.Text

/-- The closed ranges of White_Space, ascending and apart. -/
def blankRanges : List (Nat × Nat) :=
  [(0x09, 0x0D), (0x20, 0x20), (0x85, 0x85), (0xA0, 0xA0), (0x1680, 0x1680), (0x2000, 0x200A),
    (0x2028, 0x2029), (0x202F, 0x202F), (0x205F, 0x205F), (0x3000, 0x3000)]

/-- Whether a character is blank. -/
def isBlank (c : Char) : Bool :=
  blankRanges.any fun range => range.1 ≤ c.toNat && c.toNat ≤ range.2

/-! ### Trimming -/

/-- The text without the blanks it starts with. -/
def trimStart (s : List Char) : List Char :=
  s.dropWhile isBlank

/-- The text without the blanks it ends with. -/
def trimEnd (s : List Char) : List Char :=
  (s.reverse.dropWhile isBlank).reverse

/-- The text without the blanks around it. -/
def trim (s : List Char) : List Char :=
  trimEnd (trimStart s)

/-- A string without the blanks around it. -/
def trimmed (s : String) : String :=
  String.ofList (trim s.toList)

/-- Whether a string holds nothing but blanks. -/
def allBlank (s : String) : Bool :=
  s.toList.all isBlank

/-! ### Splitting -/

/-- The pieces between the characters that satisfy `sep`; there is always one more piece than there
are separators. -/
def pieces (sep : Char → Bool) : List Char → List (List Char)
  | [] => [[]]
  | c :: rest =>
    if sep c then [] :: pieces sep rest else (pieces sep rest).modifyHead (c :: ·)

/-- The words of a text: its maximal stretches without a blank. -/
def words (s : List Char) : List (List Char) :=
  (pieces isBlank s).filter (· ≠ [])

/-- The text before the first character that satisfies `sep` and the text after it; nothing if
there is no such character. -/
def splitFirst? (sep : Char → Bool) : List Char → Option (List Char × List Char)
  | [] => none
  | c :: rest =>
    if sep c then some ([], rest)
    else (splitFirst? sep rest).map fun (before, after) => (c :: before, after)

/-- What is left of a text that starts with `start`. -/
def afterPrefix? : (start s : List Char) → Option (List Char)
  | [], s => some s
  | _ :: _, [] => none
  | p :: start, c :: s => if p = c then afterPrefix? start s else none

end Workbench.Text
