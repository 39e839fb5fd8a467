/-!
# Regular expressions

A regular expression, of the kind that `grep`, `sed`, `awk` and `expr` know, matches a part of a
text. `ends` gives the places where a match from a place can end, the furthest one first, each once
and with the groups of the way that is preferred: parts of an expression that come first match as
much as they can. A search gives the first place that has a match, and the longest match there.
-/

namespace Workbench

/-- A set of bytes: those of a list, or all others. -/
structure ByteSet where
  members : List UInt8
  negated : Bool := false
  deriving DecidableEq, Repr

namespace ByteSet

/-- Whether a byte is in the set. -/
def holds (set : ByteSet) (b : UInt8) : Bool :=
  set.members.contains b != set.negated

/-- The set of one byte. -/
def single (b : UInt8) : ByteSet :=
  { members := [b] }

/-- A byte as the other case writes it, if it is a letter. -/
def otherCase (b : UInt8) : UInt8 :=
  if 65 ≤ b ∧ b ≤ 90 then b + 32 else if 97 ≤ b ∧ b ≤ 122 then b - 32 else b

/-- The set with the letters of it in both cases. -/
def folded (set : ByteSet) : ByteSet :=
  { set with members := set.members ++ set.members.map otherCase }

end ByteSet

/-- A condition on a place in a text. -/
inductive Edge where
  | textStart
  | textEnd
  /-- The start of the text, or a place behind a newline. -/
  | lineStart
  /-- The end of the text, or a place in front of a newline. -/
  | lineEnd
  | wordStart
  | wordEnd
  /-- A start or an end of a word. -/
  | wordEdge
  | noWordEdge
  deriving DecidableEq, Repr

/-- A regular expression. -/
inductive Regex where
  | empty
  | byte (set : ByteSet)
  | edge (edge : Edge)
  | sequence (first second : Regex)
  | either (first second : Regex)
  | repeated (least : Nat) (most : Option Nat) (body : Regex)
  | group (number : Nat) (body : Regex)
  /-- What a group matched, perhaps in another case. -/
  | reference (number : Nat) (folds : Bool)
  deriving DecidableEq, Repr

/-- A place in a text that is being matched. -/
structure Spot where
  /-- How many bytes are in front of the place. -/
  index : Nat := 0
  before : Option UInt8 := none
  rest : List UInt8
  /-- What the groups matched, the last one first. -/
  groups : List (Nat × List UInt8) := []
  deriving DecidableEq, Repr

/-- Whether a byte is part of a word. -/
def isWordByte (b : UInt8) : Bool :=
  (48 ≤ b && b ≤ 57) || (65 ≤ b && b ≤ 90) || (97 ≤ b && b ≤ 122) || b = 95

namespace Spot

/-- The next byte and the place behind it. -/
def next? (p : Spot) : Option (UInt8 × Spot) :=
  match p.rest with
  | [] => none
  | b :: rest => some (b, { p with index := p.index + 1, before := some b, rest })

/-- The text up to a later place. -/
def upTo (p q : Spot) : List UInt8 :=
  p.rest.take (q.index - p.index)

/-- The text that a group matched. -/
def group (p : Spot) (number : Nat) : List UInt8 :=
  (p.groups.lookup number).getD []

/-- The place behind a text, if the text is there. -/
def behind? (folds : Bool) (p : Spot) : List UInt8 → Option Spot
  | [] => some p
  | b :: text =>
    match p.next? with
    | some (c, q) =>
      if c = b || (folds && c = ByteSet.otherCase b) then q.behind? folds text else none
    | none => none

/-- Whether the byte in front of the place is part of a word. -/
def isBehindWord (p : Spot) : Bool :=
  p.before.any isWordByte

/-- Whether the byte behind the place is part of a word. -/
def isBeforeWord (p : Spot) : Bool :=
  p.rest.head?.any isWordByte

end Spot

/-- Whether a place meets a condition. -/
def Edge.holds (p : Spot) : Edge → Bool
  | textStart => p.before.isNone
  | textEnd => p.rest.isEmpty
  | lineStart => p.before.all (· = 10)
  | lineEnd => p.rest.head?.all (· = 10)
  | wordStart => !p.isBehindWord && p.isBeforeWord
  | wordEnd => p.isBehindWord && !p.isBeforeWord
  | wordEdge => p.isBehindWord != p.isBeforeWord
  | noWordEdge => p.isBehindWord == p.isBeforeWord

namespace Regex

/-! ### Lists of places -/

/-- Places, the furthest one first, of which those that are equal for a `same` are one. -/
def arranged (same : Spot → Spot → Bool) (ps : List Spot) : List Spot :=
  match ps with
  | [] | [_] => ps
  | _ =>
    let sorted := ps.mergeSort fun p q => q.index ≤ p.index
    sorted.foldr (fun p kept => p :: kept.filter fun q => !(p.index = q.index && same p q)) []

/-- All places that steps lead to, in the order of preference, at most `bound` of them looked at. -/
def explore (same : Spot → Spot → Bool) (step : Spot → List Spot) :
    (bound : Nat) → (waiting seen : List Spot) → List Spot
  | 0, _, seen => seen
  | _, [], seen => seen
  | bound + 1, p :: waiting, seen =>
    if seen.any fun q => p.index = q.index && same p q then explore same step bound waiting seen
    else
      let steps := (step p).filter fun q => p.index < q.index
      explore same step bound (steps ++ waiting) (seen ++ [p])

/-- The places that some steps lead to, exactly `n` of them. -/
def stepsFrom (same : Spot → Spot → Bool) (step : Spot → List Spot) :
    (n : Nat) → List Spot → List Spot
  | 0, ps => ps
  | n + 1, ps => stepsFrom same step n (arranged same (ps.flatMap step))

/-- The places that at most `n` steps lead to. -/
def stepsWithin (same : Spot → Spot → Bool) (step : Spot → List Spot) :
    (n : Nat) → List Spot → List Spot
  | 0, ps => ps
  | n + 1, ps =>
    let further := (ps.flatMap step).filter fun p => !ps.any fun q => p.index = q.index && same p q
    if further.isEmpty then ps
    else stepsWithin same step n (arranged same (ps ++ further))

/-- The places behind the bytes of a set that stand at a place, the furthest one first; `passed` are
those behind fewer bytes. -/
def runOf (set : ByteSet) (groups : List (Nat × List UInt8)) (index : Nat) (before : Option UInt8)
    (passed : List Spot) : List UInt8 → List Spot
  | [] => ⟨index, before, [], groups⟩ :: passed
  | b :: rest =>
    let passed := ⟨index, before, b :: rest, groups⟩ :: passed
    if set.holds b then runOf set groups (index + 1) (some b) passed rest else passed

/-! ### Matching -/

/-- Whether what groups matched has a part in what else is matched. -/
def hasReference : Regex → Bool
  | empty | byte _ | edge _ => false
  | sequence r s | either r s => r.hasReference || s.hasReference
  | repeated _ _ r | group _ r => r.hasReference
  | reference .. => true

/-- The places where a match from a place can end, the furthest one first. Places at which the same
can follow are one, which `same` decides. -/
def ends (same : Spot → Spot → Bool) : Regex → Spot → List Spot
  | empty, p => [p]
  | byte set, p =>
    match p.next? with
    | some (b, q) => if set.holds b then [q] else []
    | none => []
  | edge condition, p => if condition.holds p then [p] else []
  | sequence r s, p => arranged same ((ends same r p).flatMap fun q => ends same s q)
  | either r s, p => arranged same (ends same r p ++ ends same s p)
  | repeated 0 none (byte set), p => runOf set p.groups p.index p.before [] p.rest
  | repeated least most r, p =>
    let step (q : Spot) : List Spot := ends same r q
    let first := stepsFrom same step least [p]
    match most with
    | some most => stepsWithin same step (most - least) first
    | none =>
      let size := p.rest.length + 2
      arranged same (explore same step (size * size * size) first [])
  | group n r, p =>
    (ends same r p).map fun q => { q with groups := (n, p.upTo q) :: q.groups }
  | reference n folds, p =>
    match p.groups.lookup n with
    | some text => (p.behind? folds text).toList
    | none => []

/-- Whether the same can follow at two places that are equally far. -/
def same (r : Regex) (p q : Spot) : Bool :=
  !r.hasReference || p.groups = q.groups

/-- Where the longest match from a place ends, of those that end where `fits` allows. -/
def matchAt? (r : Regex) (fits : Spot → Bool) (p : Spot) : Option Spot :=
  (r.ends r.same p).find? fits

/-- A match: the places where it starts and ends. -/
structure Match where
  start : Spot
  finish : Spot
  deriving DecidableEq, Repr

/-- The text that was matched. -/
def Match.text (m : Match) : List UInt8 :=
  m.start.upTo m.finish

/-- The longest of the first matches of some expressions, of those that `fits` allows, from a place
with some bytes behind it on. -/
def searchFrom (fits : Spot → Spot → Bool) (rs : List Regex) (index : Nat)
    (before : Option UInt8) (rest : List UInt8) : Option Match :=
  let p : Spot := { index, before, rest }
  let found := rs.filterMap fun r => r.matchAt? (fits p) p
  let longest := found.foldl (fun (best : Option Spot) q =>
    if best.any fun b => q.index ≤ b.index then best else some q) none
  match longest, rest with
  | some q, _ => some ⟨p, q⟩
  | none, [] => none
  | none, b :: rest => searchFrom fits rs (index + 1) (some b) rest

/-- The first match in a text from a place on, the longest one that starts there. -/
def search? (r : Regex) (p : Spot) : Option Match :=
  searchFrom (fun _ _ => true) [r] p.index p.before p.rest

/-- Whether there is a match in a text. -/
def occursIn (r : Regex) (text : List UInt8) : Bool :=
  (r.search? { rest := text }).isSome

end Regex

end Workbench
