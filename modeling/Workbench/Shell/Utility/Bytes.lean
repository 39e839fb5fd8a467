import Workbench.Shell.Escape
import Workbench.Shell.Utility.Basic
import Workbench.Text.ByteClass
import Workbench.Text.Numeral

/-!
# Bytes for others

The program `tr`, which puts bytes in the place of others, takes bytes out, or makes runs of a byte
shorter. The bytes are given as lists of single ones, ranges, classes and repetitions. Two lists are
set side by side; the second one is made as long as the first.
-/

namespace Workbench.Shell

/-- A byte of a list, which has no other meaning if it is `quoted`. -/
structure Listed where
  byte : UInt8
  quoted : Bool
  deriving DecidableEq, Repr

/-- The bytes of an argument, with escapes replaced, of which at most `bound` are read. -/
def listedBytes : (bound : Nat) → Bytes → List Listed
  | 0, _ | _, [] => []
  | bound + 1, b :: s =>
    if b ≠ backslash then ⟨b, false⟩ :: listedBytes bound s
    else
      match s with
      | [] => [⟨b, false⟩]
      | c :: rest =>
        match if c = 101 then none else letterEscape? c, octalValue? c with
        | some d, _ => ⟨d, true⟩ :: listedBytes bound rest
        | none, some value =>
          let (long, behind) := takeDigits 8 octalValue? 2 value rest
          let (short, behindShort) := takeDigits 8 octalValue? 1 value rest
          if long < 256 then ⟨long.toUInt8, true⟩ :: listedBytes bound behind
          else ⟨short.toUInt8, true⟩ :: listedBytes bound behindShort
        | none, none => ⟨c, true⟩ :: listedBytes bound rest

/-- An item of a list of bytes. -/
inductive ByteItem where
  | one (b : UInt8)
  | range (first last : UInt8)
  | named (name : String) (bytes : Bytes)
  | equal (b : UInt8)
  /-- A byte some times, or as often as it takes. -/
  | times (b : UInt8) (count : Option Nat)
  deriving DecidableEq, Repr

namespace ByteItem

/-- The bytes of an item; one that is repeated as often as it takes has none. -/
def bytes : ByteItem → Bytes
  | one b | equal b => [b]
  | range first last => Text.byteRange first.toNat last.toNat
  | named _ bytes => bytes
  | times b count => List.replicate (count.getD 0) b

/-- Whether an item is repeated as often as it takes. -/
def isEndless : ByteItem → Bool
  | times _ none => true
  | _ => false

/-- The name of the class that an item is. -/
def className? : ByteItem → Option String
  | named name _ => some name
  | _ => none

/-- The bytes of items between marks such as `[:` and `:]`, and what is behind them. -/
def upToMark (mark : UInt8) : List Listed → Option (Bytes × List Listed)
  | [] => none
  | b :: rest =>
    if b = ⟨mark, false⟩ ∧ rest.head? = some ⟨93, false⟩ then some ([], rest.tail)
    else (upToMark mark rest).map fun (name, behind) => (b.byte :: name, behind)

/-- A repetition such as `[x*3]` behind its bracket, and what is behind it; or the text of its count
if this is no number. -/
def repetition? : List Listed → Option (Except Bytes (ByteItem × List Listed))
  | b :: ⟨42, false⟩ :: rest =>
    let digits := rest.takeWhile (· ≠ ⟨93, false⟩)
    match rest.drop digits.length with
    | [] => none
    | _ :: behind =>
      let text := digits.map (·.byte)
      let base := if text.head? = some 48 then 8 else 10
      let values := text.map fun b =>
        if 48 ≤ b ∧ b.toNat < 48 + base then some (b.toNat - 48) else none
      if values.contains none then some (.error text)
      else
        let count := (values.filterMap id).foldl (fun n d => n * base + d) 0
        some (.ok (.times b.byte (if count = 0 then none else some count), behind))
  | _ => none

/-- The item that a list starts with and what is behind it, or what is wrong with it. -/
def read (s : List Listed) : Except String (ByteItem × List Listed) :=
  let plain (s : List Listed) : Except String (ByteItem × List Listed) :=
    match s with
    | b :: ⟨45, false⟩ :: c :: rest =>
      if c.byte < b.byte then
        let shown := Quoted.text [b.byte, 45, c.byte]
        .error s!"range-endpoints of {shown} are in reverse collating sequence order"
      else .ok (.range b.byte c.byte, rest)
    | b :: rest => .ok (.one b.byte, rest)
    | [] => .ok (.one 0, [])
  let repeated (rest : List Listed) : Except String (ByteItem × List Listed) :=
    match repetition? rest with
    | some (.ok found) => .ok found
    | some (.error count) =>
      .error s!"invalid repeat count {Quoted.text count} in [c*n] construct"
    | none => plain s
  match s with
  | ⟨91, false⟩ :: ⟨58, false⟩ :: rest =>
    match upToMark 58 rest with
    | none => repeated (⟨58, false⟩ :: rest)
    | some ([], _) =>
      let shown := Quoted.ofString "[::]"
      .error s!"missing character class name {shown}"
    | some (name, behind) =>
      match Text.byteClass? (Text.lossyText name) with
      | some bytes => .ok (.named (Text.lossyText name) bytes, behind)
      | none => .error s!"invalid character class {Quoted.text name}"
  | ⟨91, false⟩ :: ⟨61, false⟩ :: rest =>
    match upToMark 61 rest with
    | none => repeated (⟨61, false⟩ :: rest)
    | some ([], _) =>
      let shown := Quoted.ofString "[==]"
      .error s!"missing equivalence class character {shown}"
    | some ([b], behind) => .ok (.equal b, behind)
    | some (name, _) =>
      .error s!"{Text.lossyText name}: equivalence class operand must be a single character"
  | ⟨91, false⟩ :: rest => repeated rest
  | _ => plain s

/-- The items of a list, of which at most `bound` are read. -/
def readAll : (bound : Nat) → List Listed → Except String (List ByteItem)
  | 0, _ | _, [] => .ok []
  | bound + 1, s => do
    let (item, rest) ← read s
    return item :: (← readAll bound rest)

/-- The items that an argument stands for. -/
def ofBytes (arg : Bytes) : Except String (List ByteItem) :=
  readAll arg.length (listedBytes arg.length arg)

end ByteItem

/-! ### Two lists side by side -/

/-- How bytes are changed. -/
structure ByteChange where
  /-- Whether all bytes are meant that the first list does not have. -/
  complement : Bool
  deletes : Bool
  squeezes : Bool
  /-- Whether the first list is made as long as the second one. -/
  truncates : Bool
  deriving DecidableEq, Repr

namespace ByteChange

/-- The bytes that the first list means. -/
def firstBytes (change : ByteChange) (first : List ByteItem) : Bytes :=
  let bytes := first.flatMap ByteItem.bytes
  if change.complement then (Text.byteRange 0 255).filter fun b => !bytes.contains b else bytes

/-- The bytes of the second list, as many as are wanted if an item of it is repeated as often as it
takes. -/
def secondBytes (wanted : Nat) (second : List ByteItem) : Bytes :=
  let given := (second.flatMap ByteItem.bytes).length
  second.flatMap fun
    | .times b none => List.replicate (wanted - given) b
    | item => item.bytes

/-- The places in lists at which a class of upper or lower case letters stands. -/
def casePlaces : (place : Nat) → List ByteItem → List Nat
  | _, [] => []
  | place, item :: rest =>
    let isCase := item.className? = some "upper" || item.className? = some "lower"
    (if isCase then [place] else []) ++ casePlaces (place + item.bytes.length) rest

/-- What is wrong with two lists of which the second one takes the place of the first, if something
is. -/
def fault? (change : ByteChange) (first second : List ByteItem) : Option String :=
  let meant := change.firstBytes first
  let given := secondBytes meant.length second
  let names := second.filterMap ByteItem.className?
  let isEqual (item : ByteItem) : Bool :=
    match item with
    | .equal _ => true
    | _ => false
  let isCaseName (name : String) : Bool := name = "upper" || name = "lower"
  let cases := [Quoted.ofString "upper", Quoted.ofString "lower"]
  if second.any isEqual then
    some "[=c=] expressions may not appear in string2 when translating"
  else if names.any fun name => !isCaseName name then
    some (s!"when translating, the only character classes that may appear in\nstring2 are " ++
      " and ".intercalate cases)
  else if !change.complement &&
      !((casePlaces 0 second).all (casePlaces 0 first).contains) then
    some "misaligned [:upper:] and/or [:lower:] construct"
  else if change.truncates || meant.length ≤ given.length then
    none
  else if given = [] then
    some "when not truncating set1, string2 must be non-empty"
  else if (second.getLast?.bind ByteItem.className?).isSome then
    some ("when translating with string1 longer than string2,\n" ++
      "the latter string must not end with a character class")
  else none

/-- Whether all bytes of a list are the same. -/
def isUniform (bytes : Bytes) : Bool :=
  bytes.all fun b => some b = bytes.head?

/-- The byte that takes the place of another one: the one beside its last place, the last one if
the second list is too short. -/
def replaced (old new : Bytes) (b : UInt8) : UInt8 :=
  match old.reverse.idxOf? b with
  | some i => (new[old.length - 1 - i]?.orElse fun _ => new.getLast?).getD b
  | none => b

/-- A text in which each run of equal bytes of a set is one byte. -/
def squeezed (set : Bytes) : Bytes → Bytes
  | a :: b :: s =>
    if a = b ∧ set.contains a then squeezed set (b :: s) else a :: squeezed set (b :: s)
  | s => s

/-- A text after the change, or what is wrong with the lists. -/
def apply (change : ByteChange) (first : List ByteItem) (second : Option (List ByteItem))
    (text : Bytes) : Except String Bytes :=
  let meant := change.firstBytes first
  if first.any ByteItem.isEndless then
    .error "the [c*] repeat construct may not appear in string1"
  else
    match second with
    | none =>
      .ok (if change.deletes then text.filter fun b => !meant.contains b else squeezed meant text)
    | some second =>
      if 1 < (second.filter ByteItem.isEndless).length then
        .error "only one [c*] repeat construct may appear in string2"
      else if change.deletes then
        if second.any ByteItem.isEndless then
          .error "the [c*] construct may appear in string2 only when translating"
        else
          let kept := text.filter fun b => !meant.contains b
          .ok (squeezed (second.flatMap ByteItem.bytes) kept)
      else
        match change.fault? first second with
        | some message => .error message
        | none =>
          let given := secondBytes meant.length second
          let hasClass := first.any fun item => item.className?.isSome
          if change.complement && hasClass && !isUniform given then
            .error ("when translating with complemented character classes,\n" ++
              "string2 must map all characters in the domain to one")
          else
            let old := if change.truncates then meant.take given.length else meant
            let changed := text.map (replaced old given)
            .ok (if change.squeezes then squeezed given changed else changed)

end ByteChange

/-- The options with long names. -/
def trOptions : List Call.LongOption :=
  [⟨"complement", 'c', .never⟩, ⟨"delete", 'd', .never⟩, ⟨"squeeze-repeats", 's', .never⟩,
    ⟨"truncate-set1", 't', .never⟩]

/-- Puts bytes in the place of others, takes bytes out, or squeezes runs of them. -/
def tr : Utility := fun call =>
  call.withOptions "cCdst" "" (fun sorted =>
    let change : ByteChange := {
      complement := sorted.has 'c' || sorted.has 'C'
      deletes := sorted.has 'd'
      squeezes := sorted.has 's'
      truncates := sorted.has 't' }
    let least := if change.deletes = change.squeezes then 2 else 1
    let most := if change.deletes && !change.squeezes then 1 else 2
    let count := sorted.operands.length
    let refuse (message : String) : DiskTask Effect := .done (call.failWithHint message 1)
    if count = 0 then refuse "missing operand"
    else if count < least then
      let shown := Quoted.text (sorted.operands.getLast?.getD [])
      let purpose :=
        if change.squeezes then "both deleting and squeezing repeats" else "translating"
      refuse s!"missing operand after {shown}\nTwo strings must be given when {purpose}."
    else if most < count then
      let shown := Quoted.text ((sorted.operands.drop most).headD [])
      let note := if count = 2 then
          "\nOnly one string may be given when deleting without squeezing repeats."
        else ""
      refuse s!"extra operand {shown}{note}"
    else
      let changed := do
        let items ← sorted.operands.mapM ByteItem.ofBytes
        change.apply (items.headD []) items.tail.head? call.input
      match changed with
      | .ok text => .done { written := [(1, text)] }
      | .error message => .done (call.fail message 1)) 1 false trOptions

end Workbench.Shell
