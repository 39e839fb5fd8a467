import Workbench.Json.Strings

/-!
# Reading JSON values

`readValue room` reads one value that may open at most `room` containers at once, so it recurses on
`room`; the loops over the items of an array and the members of an object are separate functions
that take the reader of one item or member, and are shared by every reader of a container.

`skipValue` passes over a value that nobody asked for. It checks the grammar, but neither the size
of numbers nor the pairing of surrogates, and it counts no containers: the open ones are a list, and
each step shortens the text or the distance to the next value.
-/

namespace Workbench.Json

open Text (Symbol)

/-! ### Literals -/

/-- The rest of a literal whose first letter has been read. -/
def readLiteral : (word : List Char) → Input → Except Fault Input
  | [], s => .ok s
  | _ :: _, [] => .error (.here .valueEnds [])
  | c :: word, .char d :: rest =>
    if c = d then readLiteral word rest else .error (.behindNext .wordExpected (.char d :: rest))
  | _ :: _, .stray n :: rest => .error (.behindNext .wordExpected (.stray n :: rest))

/-- A number, from its sign or first digit on. -/
def readNumber (s : Input) : Except Fault (Number × Input) :=
  let scanned := match s with
    | .char '-' :: rest => Token.scan .valueEnds true rest
    | _ => Token.scan .valueEnds false s
  match scanned with
  | .error fault => .error fault
  | .ok (token, rest) =>
    match token.value? with
    | some n => .ok (n, rest)
    | none =>
      let unread := token.exponent.elim 0 fun e => Exponent.excess 0 e.digits
      .error ⟨.numberTooLarge, Symbol.widthOf rest + unread⟩

/-- Whether a number may start with this character. -/
def startsNumber (c : Char) : Bool :=
  c = '-' || (Text.digitValue? c).isSome

/-- A string, from its opening quote on; nothing else is a string. -/
def readString (s : Input) : Except Fault (String × Input) :=
  match s with
  | .char '"' :: rest =>
    match readBody rest with
    | .error fault => .error fault
    | .ok (cs, rest) => .ok (String.ofList cs, rest)
  | _ => .error (.behindNext .keyExpected s)

/-! ### Containers -/

/-- The text with its space skipped, unless it starts with `close`: a comma was the last thing read.
-/
def afterComma (close : Char) (s : Input) : Except Fault Input :=
  let s := skipSpace s
  if s.head? = some (.char close) then .error (.behindNext .trailingComma s) else .ok s

/-- The items behind the first one, with the closing bracket. No array has more items than there are
symbols left, so a `bound` of that size is never reached. -/
def moreItems {α : Type} (item : Input → Except Fault (α × Input)) :
    (bound : Nat) → Input → Except Fault (List α × Input)
  | 0, _ => .error (.here .arrayEnds [])
  | bound + 1, s =>
    match skipSpace s with
    | [] => .error (.here .arrayEnds [])
    | .char ']' :: rest => .ok ([], rest)
    | .char ',' :: rest =>
      match afterComma ']' rest with
      | .error fault => .error fault
      | .ok rest =>
        match item rest with
        | .error fault => .error fault
        | .ok (x, rest) =>
          match moreItems item bound rest with
          | .error fault => .error fault
          | .ok (xs, rest) => .ok (x :: xs, rest)
    | s => .error (.behindNext .itemEndExpected s)

/-- The items of an array, behind its opening bracket. -/
def readItems {α : Type} (item : Input → Except Fault (α × Input)) (s : Input) :
    Except Fault (List α × Input) :=
  match skipSpace s with
  | [] => .error (.here .arrayEnds [])
  | .char ']' :: rest => .ok ([], rest)
  | s =>
    match item s with
    | .error fault => .error fault
    | .ok (x, rest) =>
      match moreItems item rest.length rest with
      | .error fault => .error fault
      | .ok (xs, rest) => .ok (x :: xs, rest)

/-- The colon between a key and its value. -/
def readColon (s : Input) : Except Fault Input :=
  match skipSpace s with
  | [] => .error (.here .objectEnds [])
  | .char ':' :: rest => .ok rest
  | s => .error (.behindNext .colonExpected s)

/-- A key and what follows it. `member` is given what has been collected so far, the key, and the
text from the colon on. -/
def readMember {σ : Type} (member : σ → String → Input → Except Fault (σ × Input)) (state : σ)
    (s : Input) : Except Fault (σ × Input) :=
  match skipSpace s with
  | [] => .error (.here .valueEnds [])
  | s =>
    match readString s with
    | .error fault => .error fault
    | .ok (key, rest) => member state key rest

/-- The members behind the first one, with the closing brace. As with items, a `bound` of the number
of symbols left is never reached. -/
def moreMembers {σ : Type} (member : σ → String → Input → Except Fault (σ × Input)) :
    (bound : Nat) → σ → Input → Except Fault (σ × Input)
  | 0, _, _ => .error (.here .objectEnds [])
  | bound + 1, state, s =>
    match skipSpace s with
    | [] => .error (.here .objectEnds [])
    | .char '}' :: rest => .ok (state, rest)
    | .char ',' :: rest =>
      match afterComma '}' rest with
      | .error fault => .error fault
      | .ok rest =>
        match readMember member state rest with
        | .error fault => .error fault
        | .ok (state, rest) => moreMembers member bound state rest
    | s => .error (.behindNext .memberEndExpected s)

/-- The members of an object, behind its opening brace. -/
def readMembers {σ : Type} (member : σ → String → Input → Except Fault (σ × Input)) (state : σ)
    (s : Input) : Except Fault (σ × Input) :=
  match skipSpace s with
  | [] => .error (.here .objectEnds [])
  | .char '}' :: rest => .ok (state, rest)
  | s =>
    match readMember member state s with
    | .error fault => .error fault
    | .ok (state, rest) => moreMembers member rest.length state rest

/-- A member whose value is read by `value` and put away by `add`. -/
def valueMember {σ α : Type} (value : Input → Except Fault (α × Input)) (add : σ → String → α → σ)
    (state : σ) (key : String) (s : Input) : Except Fault (σ × Input) :=
  match readColon s with
  | .error fault => .error fault
  | .ok rest =>
    match value rest with
    | .error fault => .error fault
    | .ok (x, rest) => .ok (add state key x, rest)

/-! ### Values -/

/-- A value that opens at most `room` containers at once. -/
def readValue (room : Nat) (s : Input) : Except Fault (Json × Input) :=
  match skipSpace s with
  | [] => .error (.here .valueEnds [])
  | .stray n :: rest => .error (.behindNext .valueExpected (.stray n :: rest))
  | .char c :: rest =>
    if c = 'n' then (readLiteral ['u', 'l', 'l'] rest).map fun rest => (.null, rest)
    else if c = 't' then (readLiteral ['r', 'u', 'e'] rest).map fun rest => (.bool true, rest)
    else if c = 'f' then (readLiteral ['a', 'l', 's', 'e'] rest).map fun rest => (.bool false, rest)
    else if startsNumber c then
      (readNumber (.char c :: rest)).map fun (n, rest) => (.number n, rest)
    else if c = '"' then (readString (.char c :: rest)).map fun (text, rest) => (.string text, rest)
    else if c = '[' then
      match room with
      | 0 => .error (.here .tooDeep rest)
      | room + 1 => (readItems (readValue room) rest).map fun (items, rest) => (.array items, rest)
    else if c = '{' then
      match room with
      | 0 => .error (.here .tooDeep rest)
      | room + 1 =>
        (readMembers (valueMember (readValue room) fun l key x => Keyed.insert key x l) []
          rest).map fun (members, rest) => (.object members, rest)
    else .error (.behindNext .valueExpected (.char c :: rest))

/-- How many containers may be open at once. -/
def maxDepth : Nat :=
  127

/-- Nothing but space is left. -/
def atEnd {α : Type} (x : α) (s : Input) : Except Fault α :=
  if skipSpace s = [] then .ok x else .error (.behindNext .trailingText (skipSpace s))

/-- The value that a whole text stands for. -/
def ofSymbols (room : Nat) (s : Input) : Except Fault Json :=
  match readValue room s with
  | .error fault => .error fault
  | .ok (x, rest) => atEnd x rest

/-! ### Passing over a value -/

/-- A container that is open while a value is skipped. -/
inductive Frame where
  | array
  | object
  deriving DecidableEq, Repr

/-- What the text may go on with while a value is skipped. -/
inductive Place where
  /-- A value. -/
  | value
  /-- The first item or member of the innermost container, or its end. -/
  | opened
  /-- Another item or member of the innermost container, or its end. -/
  | closed
  deriving DecidableEq, Repr

/-- Passes over the key of a member and its colon. -/
def skipKey (s : Input) : Except Fault Input :=
  match skipSpace s with
  | [] => .error (.here .objectEnds [])
  | .char '"' :: rest =>
    match skipBody rest with
    | .error fault => .error fault
    | .ok rest => readColon rest
  | s => .error (.behindNext .keyExpected s)

/-- Passes over a literal, a number or a string that starts with `c`. -/
def skipScalar (c : Char) (rest : Input) : Except Fault Input :=
  if c = 'n' then readLiteral ['u', 'l', 'l'] rest
  else if c = 't' then readLiteral ['r', 'u', 'e'] rest
  else if c = 'f' then readLiteral ['a', 'l', 's', 'e'] rest
  else if c = '-' then (Token.scan .badNumber true rest).map (·.2)
  else if (Text.digitValue? c).isSome then
    (Token.scan .badNumber false (.char c :: rest)).map (·.2)
  else if c = '"' then skipBody rest
  else .error (.behindNext .valueExpected (.char c :: rest))

theorem length_of_readLiteral {word : List Char} {s rest : Input}
    (h : readLiteral word s = .ok rest) : rest.length ≤ s.length := by
  fun_induction readLiteral word s with
  | case1 =>
    cases h
    exact Nat.le_refl _
  | case2 => cases h
  | case3 _ _ _ ih => exact Nat.le_succ_of_le (ih h)
  | case4 => cases h
  | case5 => cases h

theorem length_of_readColon {s rest : Input} (h : readColon s = .ok rest) :
    rest.length < s.length := by
  have hle := length_skipSpace_le s
  unfold readColon at h
  split at h
  · cases h
  · rename_i heq
    cases h
    rw [heq] at hle
    exact hle
  · cases h

theorem length_of_skipKey {s rest : Input} (h : skipKey s = .ok rest) :
    rest.length < s.length := by
  have hle := length_skipSpace_le s
  unfold skipKey at h
  split at h
  · cases h
  · rename_i heq
    rw [heq] at hle
    split at h
    · cases h
    · rename_i hbody
      have := length_of_skipBody hbody
      have := length_of_readColon h
      simp only [List.length_cons] at hle
      omega
  · cases h

theorem length_of_skipScalar {c : Char} {s rest : Input} (h : skipScalar c s = .ok rest) :
    rest.length ≤ s.length := by
  have scanned : ∀ {negative : Bool} {t : Input},
      (Token.scan .badNumber negative t).map (·.2) = .ok rest → rest.length < t.length := by
    intro negative t h
    cases hscan : Token.scan .badNumber negative t with
    | error fault => simp [hscan, Except.map] at h
    | ok found =>
      simp only [hscan, Except.map, Except.ok.injEq] at h
      exact h ▸ Token.length_of_scan hscan
  unfold skipScalar at h
  repeat' split at h
  · exact length_of_readLiteral h
  · exact length_of_readLiteral h
  · exact length_of_readLiteral h
  · exact Nat.le_of_lt (scanned h)
  · exact Nat.le_of_lt_succ (scanned h)
  · exact Nat.le_of_lt (length_of_skipBody h)
  · cases h

/-- Passes over what is left of a value whose open containers are `stack`, innermost first. -/
def skip (place : Place) (stack : List Frame) (s : Input) : Except Fault Input :=
  match place, stack with
  | .value, stack =>
    match h : skipSpace s with
    | [] => .error (.here .valueEnds [])
    | .stray n :: rest => .error (.behindNext .valueExpected (.stray n :: rest))
    | .char c :: rest =>
      have := h ▸ length_skipSpace_le s
      if c = '[' then skip .opened (.array :: stack) rest
      else if c = '{' then skip .opened (.object :: stack) rest
      else
        match hrest : skipScalar c rest with
        | .error fault => .error fault
        | .ok rest' =>
          have := length_of_skipScalar hrest
          skip .closed stack rest'
  | _, [] => .ok s
  | .opened, .array :: stack =>
    match h : skipSpace s with
    | [] => .error (.here .arrayEnds [])
    | .char ']' :: rest =>
      have := h ▸ length_skipSpace_le s
      skip .closed stack rest
    | _ => skip .value (.array :: stack) s
  | .opened, .object :: stack =>
    match h : skipSpace s with
    | [] => .error (.here .objectEnds [])
    | .char '}' :: rest =>
      have := h ▸ length_skipSpace_le s
      skip .closed stack rest
    | _ =>
      match hkey : skipKey s with
      | .error fault => .error fault
      | .ok rest =>
        have := length_of_skipKey hkey
        skip .value (.object :: stack) rest
  | .closed, .array :: stack =>
    match h : skipSpace s with
    | [] => .error (.here .arrayEnds [])
    | .char ']' :: rest =>
      have := h ▸ length_skipSpace_le s
      skip .closed stack rest
    | .char ',' :: rest =>
      have := h ▸ length_skipSpace_le s
      skip .value (.array :: stack) rest
    | _ => .error (.behindNext .itemEndExpected (skipSpace s))
  | .closed, .object :: stack =>
    match h : skipSpace s with
    | [] => .error (.here .objectEnds [])
    | .char '}' :: rest =>
      have := h ▸ length_skipSpace_le s
      skip .closed stack rest
    | .char ',' :: rest =>
      have := h ▸ length_skipSpace_le s
      match hkey : skipKey rest with
      | .error fault => .error fault
      | .ok rest' =>
        have := length_of_skipKey hkey
        skip .value (.object :: stack) rest'
    | _ => .error (.behindNext .memberEndExpected (skipSpace s))
termination_by 2 * s.length + if place = .opened then 1 else 0
decreasing_by all_goals simp_all <;> omega

/-- Passes over one value. -/
def skipValue (s : Input) : Except Fault Input :=
  skip .value [] s

end Workbench.Json
