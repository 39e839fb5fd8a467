import Workbench.Shell.Utility.Copies

/-!
# Counts of texts

The program `wc`, which counts the lines, the words and the bytes of texts. Several counts stand in
columns, which are as wide as the sizes of the files need.
-/

namespace Workbench.Shell

/-- How many lines, words and bytes a text has, and how wide its widest line is. -/
structure Counts where
  lines : Nat := 0
  words : Nat := 0
  bytes : Nat := 0
  width : Nat := 0
  deriving DecidableEq, Repr

namespace Counts

/-- Whether a byte is blank. -/
def isBlankByte (b : UInt8) : Bool :=
  b = 32 || (9 ≤ b && b ≤ 13)

/-- Whether a byte can be printed and is not blank. -/
def isVisible (b : UInt8) : Bool :=
  33 ≤ b && b ≤ 126

/-- How many words a text has, of which each has a byte that can be printed; `inWord` says whether
one has begun. -/
def wordCount : (inWord : Bool) → Bytes → Nat
  | inWord, [] => if inWord then 1 else 0
  | inWord, b :: s =>
    if isBlankByte b then (if inWord then 1 else 0) + wordCount false s
    else wordCount (inWord || isVisible b) s

/-- The width of the widest line of a text, when a line of a width has begun and `widest` is the
greatest width before. -/
def widestLine : (width widest : Nat) → Bytes → Nat
  | width, widest, [] => max width widest
  | width, widest, b :: s =>
    if b = 10 ∨ b = 12 ∨ b = 13 then widestLine 0 (max width widest) s
    else if b = 9 then widestLine (width + 8 - width % 8) widest s
    else widestLine (if 32 ≤ b ∧ b ≤ 126 then width + 1 else width) widest s

/-- The counts of a text. -/
def ofText (s : Bytes) : Counts where
  lines := s.count newline
  words := wordCount false s
  bytes := s.length
  width := widestLine 0 0 s

/-- The counts of two texts together. -/
def add (a b : Counts) : Counts where
  lines := a.lines + b.lines
  words := a.words + b.words
  bytes := a.bytes + b.bytes
  width := max a.width b.width

/-- The counts that options ask for. -/
def wanted (sorted : Call.Sorted) (counts : Counts) : List Nat :=
  let standard := !"lwcmL".toList.any sorted.has
  (if standard || sorted.has 'l' then [counts.lines] else []) ++
    (if standard || sorted.has 'w' then [counts.words] else []) ++
    (if sorted.has 'm' then [counts.bytes] else []) ++
    (if standard || sorted.has 'c' then [counts.bytes] else []) ++
    (if sorted.has 'L' then [counts.width] else [])

/-- Counts in columns, with a name behind them. -/
def line (sorted : Call.Sorted) (width : Nat) (counts : Counts) (name : Bytes) : Bytes :=
  Text.bytesOf (" ".intercalate ((counts.wanted sorted).map (column width))) ++
    (if name = [] then [] else 32 :: name) ++ [newline]

/-- The options with long names. -/
def options : List Call.LongOption :=
  [⟨"bytes", 'c', .never⟩, ⟨"chars", 'm', .never⟩, ⟨"lines", 'l', .never⟩,
    ⟨"words", 'w', .never⟩, ⟨"max-line-length", 'L', .never⟩, ⟨"total", 't', .always⟩]

end Counts

/-- When the sums of all counts are printed. -/
def totalNames : List String :=
  ["auto", "always", "only", "never"]

/-- Counts the newlines, the words and the bytes of texts, or what its options ask for. -/
def wc : Utility := fun call =>
  call.withOptions "lwcmL" "" (fun sorted => do
    let total := ((sorted.value? 't').map Text.lossyText).getD "auto"
    if !totalNames.contains total then
      let names := String.join (totalNames.map fun name => s!"  - {Quoted.ofString name}\n")
      let option := "'--total'"
      let shown := Quoted.ofString total
      return call.fail (s!"invalid argument {shown} for {option}\nValid arguments are:\n{names}" ++
        s!"Try '{call.called} --help' for more information.") 1
    let names := if sorted.operands = [] then [[]] else sorted.operands
    let (found, rest) ← call.sources sorted.operands
    let found := List.zip names (found.map (·.2))
    let single := names.length = 1 && (Counts.wanted sorted {}).length = 1
    let isSpecial (entry : Bytes × Except DiskError Bytes) : Bool :=
      match entry.2 with
      | .ok _ => (entry.1 = [] || Call.isInput entry.1) && !call.inputIsFile
      | .error error => error = .isADirectory
    let counts := found.filterMap fun entry => entry.2.toOption.map Counts.ofText
    let sum := counts.foldl Counts.add {}
    let regular := (found.filter fun entry => !isSpecial entry).filterMap (·.2.toOption)
    let size := regular.foldl (fun size text => size + text.length) 0
    let digits := (Text.digits size).length
    let width :=
      if single || total = "only" then 1 else if found.any isSpecial then max 7 digits else digits
    let pieces := found.flatMap fun (name, contents) =>
      match contents with
      | .ok text => [(1, (Counts.ofText text).line sorted width name)]
      | .error error =>
        let shown := Quoted.nameIfTelling (Text.lossyText name)
        let message := (2, Text.bytesOf s!"{call.called}: {shown}: {Call.reason error}\n")
        if error = .isADirectory then [message, (1, Counts.line sorted width {} name)]
        else [message]
    let pieces := if total = "only" then pieces.filter (·.1 = 2) else pieces
    let summed := total = "always" || total = "only" || (total = "auto" && 1 < names.length)
    let last := if total = "only" then [] else Text.bytesOf "total"
    return {
      written := pieces ++ if summed then [(1, sum.line sorted width last)] else []
      status := if pieces.any (·.1 = 2) then 1 else 0
      rest }) 1 true Counts.options

end Workbench.Shell
