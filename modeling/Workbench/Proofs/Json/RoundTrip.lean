import Workbench.Proofs.Json.Numbers

/-!
# Values read back

A valid value is read back from its text by a reader that has room for it, if its doubles are read
back. The text of a value stands by itself: what follows it makes no difference, unless it goes on a
number. So a reader and the text of what it is to read are related by `Reads`, which quantifies over
what follows, and the loops over items and members read a text that is put together from texts that
are related in this way (`readItems_commaSeparated`, `readMembers_commaSeparated`).
-/

namespace Workbench

/-! ### Lists in the order of their keys -/

namespace Keyed

variable {α : Type}

theorem insert_of_lt {key : String} {l : Keyed α} (h : ∀ pair ∈ l, pair.1 < key) (value : α) :
    insert key value l = l ++ [(key, value)] := by
  induction l with
  | nil => rfl
  | cons head rest ih =>
    obtain ⟨hhead, hrest⟩ := List.forall_mem_cons.1 h
    have hlt : ¬key < head.1 := fun hlt ↦ String.lt_irrefl key (String.lt_trans hlt hhead)
    have hne : key ≠ head.1 := fun heq ↦ String.lt_irrefl key (heq ▸ hhead)
    rw [insert, if_neg hlt, if_neg hne, ih hrest, List.cons_append]

/-- Inserting pairs in the order of their keys puts one behind the other. -/
theorem foldl_insert_of_ordered {before l : Keyed α} (h : Ordered (before ++ l)) :
    l.foldl (fun l pair ↦ insert pair.1 pair.2 l) before = before ++ l := by
  induction l generalizing before with
  | nil => simp
  | cons head rest ih =>
    have hlt : ∀ pair ∈ before, pair.1 < head.1 := fun pair hmem ↦
      (List.pairwise_append.1 h).2.2 pair hmem head List.mem_cons_self
    rw [List.foldl_cons, insert_of_lt hlt, ih, List.append_assoc]
    · rfl
    · simpa using h

theorem foldl_insert_nil {l : Keyed α} (h : Ordered l) :
    l.foldl (fun l pair ↦ insert pair.1 pair.2 l) [] = l := by
  have hbehind : Ordered ([] ++ l) := h
  exact foldl_insert_of_ordered hbehind

end Keyed

namespace Json

open Text (Symbol)

/-! ### Strings -/

theorem hexValue?_hexDigit {d : Nat} (h : d < 16) : hexValue? (hexDigit d) = some d := by
  have hall : ∀ d < 16, hexValue? (hexDigit d) = some d := by decide
  exact hall d h

/-- A character in front of what is read. -/
def behindChar (c : Char) (found : List Symbol × Input) : List Symbol × Input :=
  (.char c :: found.1, found.2)

theorem readSymbols_of_escape {s t : Input} {c : Char} (h : readEscape s = .ok (c, t)) :
    readSymbols (.char '\\' :: s) = (readSymbols t).map (behindChar c) := by
  rw [readSymbols, if_neg (by decide), if_pos rfl]
  split
  · rename_i heq
    rw [h] at heq
    cases heq
  · rename_i heq
    rw [h] at heq
    cases heq
    cases readSymbols t <;> rfl

theorem readSymbols_of_plain {c : Char} (hquote : c ≠ '"') (hslash : c ≠ '\\')
    (hcontrol : ¬c.toNat < 0x20) (s : Input) :
    readSymbols (.char c :: s) = (readSymbols s).map (behindChar c) := by
  rw [readSymbols, if_neg hquote, if_neg hslash, if_neg hcontrol]
  cases readSymbols s <;> rfl

/-- A control character is read back from its number. -/
theorem readEscape_hex {c : Char} (hcontrol : c.toNat < 0x20) (s : Input) :
    readEscape (['u', '0', '0', hexDigit (c.toNat / 16), hexDigit (c.toNat % 16)].map .char ++ s) =
      .ok (c, s) := by
  have hzero : hexValue? '0' = some 0 := by decide
  have hhigh := hexValue?_hexDigit (d := c.toNat / 16) (by omega)
  have hlow := hexValue?_hexDigit (d := c.toNat % 16) (by omega)
  have hvalue : c.toNat / 16 * 16 + c.toNat % 16 = c.toNat := Nat.div_add_mod' ..
  have hsurrogate : ¬(0xDC00 ≤ c.toNat ∧ c.toNat ≤ 0xDFFF) := by omega
  have hpair : ¬(0xD800 ≤ c.toNat ∧ c.toNat ≤ 0xDBFF) := by omega
  simp [readEscape, readHex4, hzero, hhigh, hlow, hvalue, hsurrogate, hpair]

/-- An escaped character is read back. -/
theorem readSymbols_escape (c : Char) (s : Input) :
    readSymbols ((escape c).map .char ++ s) = (readSymbols s).map (behindChar c) := by
  rw [escape]
  split
  · rename_i hc
    subst hc
    exact readSymbols_of_escape rfl
  rename_i hquote
  split
  · rename_i hc
    subst hc
    exact readSymbols_of_escape rfl
  rename_i hslash
  -- The five characters with a letter of their own.
  iterate 5
    split
    · rename_i hc
      subst hc
      exact readSymbols_of_escape rfl
  split
  · rename_i hcontrol
    exact readSymbols_of_escape (readEscape_hex hcontrol s)
  · rename_i hcontrol
    exact readSymbols_of_plain hquote hslash hcontrol s

theorem readSymbols_flatMap_escape (cs : List Char) (rest : Input) :
    readSymbols ((cs.flatMap escape).map .char ++ .char '"' :: rest) =
      .ok (cs.map .char, rest) := by
  induction cs with
  | nil => rw [List.flatMap_nil, List.map_nil, List.nil_append, readSymbols, if_pos rfl]
  | cons c cs ih =>
    rw [List.flatMap_cons, List.map_append, List.append_assoc, readSymbols_escape, ih]
    rfl

theorem chars?_map_char (cs : List Char) : Text.chars? (cs.map .char) = some cs := by
  induction cs with
  | nil => rfl
  | cons c cs ih => rw [List.map_cons, Text.chars?, ih, Option.map_some]

/-- A string is read back. -/
theorem readString_printString (s : String) (rest : Input) :
    readString ((printString s).map .char ++ rest) = .ok (s, rest) := by
  have hbody : readBody ((s.toList.flatMap escape).map .char ++ .char '"' :: rest) =
      .ok (s.toList, rest) := by
    rw [readBody, readSymbols_flatMap_escape]
    simp only [chars?_map_char]
  have htext : (printString s).map Symbol.char ++ rest =
      .char '"' :: ((s.toList.flatMap escape).map .char ++ .char '"' :: rest) := by
    simp [printString]
  rw [htext, readString, hbody]
  simp only [String.ofList_toList]

/-! ### Containers -/

section Containers

variable {α σ : Type} {rest : Input}

/-- A reader reads a value from a text, whatever follows the text that does not go on a number. The
text starts with no space, and is not taken for the end of an array. -/
structure Reads (item : Input → Except Fault (α × Input)) (text : List Char) (x : α) : Prop where
  starts : ∃ c cs, text = c :: cs ∧ c ∉ [' ', '\t', '\n', '\r', ']']
  reads : ∀ rest, endsNumber rest = true → item (text.map .char ++ rest) = .ok (x, rest)

theorem skipSpace_char {c : Char} (hc : c ∉ [' ', '\t', '\n', '\r']) (s : Input) :
    skipSpace (.char c :: s) = .char c :: s := by
  rw [skipSpace, List.dropWhile_cons_of_neg]
  simpa [not_or, and_assoc] using hc

theorem commaSeparated_cons (text : List Char) (texts : List (List Char)) :
    commaSeparated (text :: texts) = text ++ texts.flatMap (',' :: ·) := by
  induction texts generalizing text with
  | nil => simp [commaSeparated]
  | cons next texts ih =>
    rw [commaSeparated, ih, List.flatMap_cons]
    rfl

/-- What follows an item in an array: commas with other items, and the closing bracket. -/
theorem endsNumber_flatMap (texts : List (List Char)) (c : Char) (rest : Input)
    (hc : endsNumber (.char c :: rest) = true) :
    endsNumber ((texts.flatMap (',' :: ·)).map .char ++ .char c :: rest) = true := by
  cases texts with
  | nil => exact hc
  | cons text texts => rfl

/-- A text that starts with no space is left as it is behind a comma. -/
theorem afterComma_char {c close : Char} (hc : c ∉ [' ', '\t', '\n', '\r', close]) (s : Input) :
    afterComma close (.char c :: s) = .ok (.char c :: s) := by
  simp only [List.mem_cons, not_or] at hc
  rw [afterComma, skipSpace_char (by simp [hc])]
  exact if_neg (by simp [hc])

variable {item : Input → Except Fault (α × Input)} {text : List Char} {texts : List (List Char)}
  {s : Input} {xs : List α} {bound : Nat}

/-- The text starts with no space, and not with the end of an array. -/
structure StartsItem (s : Input) : Prop where
  space : skipSpace s = s
  close : s.head? ≠ some (.char ']')

theorem startsItem_append (hstarts : ∃ c cs, text = c :: cs ∧ c ∉ [' ', '\t', '\n', '\r', ']'])
    (rest : Input) : StartsItem (text.map Symbol.char ++ rest) := by
  obtain ⟨c, cs, rfl, hc⟩ := hstarts
  simp only [List.mem_cons, not_or] at hc
  exact ⟨skipSpace_char (by simp [hc]) _, by simp [hc]⟩

theorem moreItems_comma (h : StartsItem s) :
    moreItems item (bound + 1) (.char ',' :: s) =
      match item s with
      | .error fault => .error fault
      | .ok (x, rest) => (moreItems item bound rest).map fun (xs, rest) ↦ (x :: xs, rest) := by
  have hcomma : afterComma ']' s = .ok s := by
    rw [afterComma, h.space]
    exact if_neg h.close
  rw [moreItems, skipSpace_char (by decide)]
  simp only [hcomma]
  cases item s with
  | error fault => rfl
  | ok found => cases hmore : moreItems item bound found.2 <;> simp [hmore, Except.map]

theorem readItems_item (hne : s ≠ []) (h : StartsItem s) :
    readItems item s =
      match item s with
      | .error fault => .error fault
      | .ok (x, rest) =>
        (moreItems item rest.length rest).map fun (xs, rest) ↦ (x :: xs, rest) := by
  rw [readItems, h.space]
  split
  · exact absurd rfl hne
  · exact absurd rfl h.close
  · cases item s with
    | error fault => rfl
    | ok found => cases hmore : moreItems item found.2.length found.2 <;> simp [hmore, Except.map]

theorem moreItems_flatMap (h : List.Forall₂ (Reads item) texts xs) (hbound : texts.length < bound) :
    moreItems item bound ((texts.flatMap (',' :: ·)).map .char ++ .char ']' :: rest) =
      .ok (xs, rest) := by
  induction h generalizing bound with
  | nil =>
    obtain ⟨bound, rfl⟩ := Nat.exists_eq_add_of_lt hbound
    rfl
  | @cons text x texts xs hx hxs ih =>
    obtain ⟨bound, rfl⟩ := Nat.exists_eq_add_of_lt hbound
    rw [List.flatMap_cons, List.map_append, List.append_assoc, List.map_cons, List.cons_append,
      moreItems_comma (startsItem_append hx.starts _),
      hx.reads _ (endsNumber_flatMap texts ']' rest rfl)]
    exact congrArg (Except.map _) (ih (Nat.lt_of_succ_lt_succ hbound))

theorem length_le_flatMap (texts : List (List Char)) :
    texts.length ≤ (texts.flatMap (',' :: ·)).length := by
  induction texts with
  | nil => exact Nat.le_refl 0
  | cons text texts ih =>
    rw [List.flatMap_cons, List.length_append, List.length_cons, List.length_cons]
    omega

/-- Items that are read one by one are read from an array. -/
theorem readItems_commaSeparated (h : List.Forall₂ (Reads item) texts xs) (rest : Input) :
    readItems item ((commaSeparated texts).map .char ++ .char ']' :: rest) = .ok (xs, rest) := by
  cases h with
  | nil => rfl
  | @cons text x texts xs hx hxs =>
    rw [commaSeparated_cons, List.map_append, List.append_assoc,
      readItems_item (by simp) (startsItem_append hx.starts _),
      hx.reads _ (endsNumber_flatMap texts ']' rest rfl)]
    refine congrArg (Except.map _) (moreItems_flatMap hxs ?_)
    have := length_le_flatMap texts
    rw [List.length_append, List.length_map, List.length_cons]
    omega

/-- A member as it stands in an object. -/
def memberText (member : String × List Char) : List Char :=
  printString member.1 ++ ':' :: member.2

theorem record_eq (members : List (String × List Char)) :
    record members = '{' :: (commaSeparated (members.map memberText) ++ ['}']) :=
  rfl

/-- Members with these names and texts lead a reader of one member from a state to another. -/
inductive Collects (member : σ → String → Input → Except Fault (σ × Input)) :
    σ → List (String × List Char) → σ → Prop
  | nil (state : σ) : Collects member state [] state
  | cons {state next last : σ} {key : String} {text : List Char}
    {members : List (String × List Char)}
    (h : ∀ rest, endsNumber rest = true →
      member state key (.char ':' :: (text.map .char ++ rest)) = .ok (next, rest))
    (hs : Collects member next members last) :
    Collects member state ((key, text) :: members) last

variable {member : σ → String → Input → Except Fault (σ × Input)} {state next last : σ}
  {key : String} {members : List (String × List Char)}

/-- The text of a member behind its opening quote. -/
theorem exists_map_memberText (key : String) (text : List Char) (rest : Input) :
    ∃ s, (memberText (key, text)).map Symbol.char ++ rest = .char '"' :: s ∧
      readString (.char '"' :: s) = .ok (key, .char ':' :: (text.map .char ++ rest)) := by
  refine ⟨((key.toList.flatMap escape ++ ['"']) ++ ':' :: text).map .char ++ rest, rfl, ?_⟩
  have hread := readString_printString key (.char ':' :: (text.map .char ++ rest))
  have hsplit : (printString key).map Symbol.char ++ .char ':' :: (text.map .char ++ rest) =
      .char '"' :: (((key.toList.flatMap escape ++ ['"']) ++ ':' :: text).map .char ++ rest) := by
    simp [printString]
  rwa [hsplit] at hread

theorem readMember_memberText {text : List Char}
    (h : member state key (.char ':' :: (text.map .char ++ rest)) = .ok (next, rest)) :
    readMember member state ((memberText (key, text)).map .char ++ rest) = .ok (next, rest) := by
  obtain ⟨s, htext, hread⟩ := exists_map_memberText key text rest
  rw [htext, readMember, skipSpace_char (by decide)]
  simp only [hread, h]

theorem moreMembers_comma :
    moreMembers member (bound + 1) state (.char ',' :: .char '"' :: s) =
      match readMember member state (.char '"' :: s) with
      | .error fault => .error fault
      | .ok (next, rest) => moreMembers member bound next rest := by
  have hquote : '"' ∉ [' ', '\t', '\n', '\r', '}'] := by decide
  rw [moreMembers, skipSpace_char (by decide)]
  cases h : readMember member state (.char '"' :: s) <;> simp only [afterComma_char hquote, h]

theorem readMembers_quote :
    readMembers member state (.char '"' :: s) =
      match readMember member state (.char '"' :: s) with
      | .error fault => .error fault
      | .ok (next, rest) => moreMembers member rest.length next rest := by
  rw [readMembers, skipSpace_char (by decide)]
  rfl

theorem moreMembers_flatMap (h : Collects member state members last)
    (hbound : members.length < bound) :
    moreMembers member bound state
        (((members.map memberText).flatMap (',' :: ·)).map .char ++ .char '}' :: rest) =
      .ok (last, rest) := by
  induction h generalizing bound with
  | nil state =>
    obtain ⟨bound, rfl⟩ := Nat.exists_eq_add_of_lt hbound
    rfl
  | @cons state next last key text members hmember hs ih =>
    obtain ⟨bound, rfl⟩ := Nat.exists_eq_add_of_lt hbound
    let behind := ((members.map memberText).flatMap (',' :: ·)).map Symbol.char ++ .char '}' :: rest
    have hread := readMember_memberText
      (hmember behind (endsNumber_flatMap (members.map memberText) '}' rest rfl))
    obtain ⟨s, htext, -⟩ := exists_map_memberText key text behind
    rw [htext] at hread
    rw [List.map_cons, List.flatMap_cons, List.map_append, List.append_assoc, List.map_cons,
      List.cons_append, htext, moreMembers_comma, hread]
    exact ih (Nat.lt_of_succ_lt_succ hbound)

/-- Members that are read one by one are read from an object. -/
theorem readMembers_commaSeparated (h : Collects member state members last) (rest : Input) :
    readMembers member state
        ((commaSeparated (members.map memberText)).map .char ++ .char '}' :: rest) =
      .ok (last, rest) := by
  cases h with
  | nil state => rfl
  | @cons state next last key text members hmember hs =>
    let behind := ((members.map memberText).flatMap (',' :: ·)).map Symbol.char ++ .char '}' :: rest
    have hread := readMember_memberText
      (hmember behind (endsNumber_flatMap (members.map memberText) '}' rest rfl))
    obtain ⟨s, htext, -⟩ := exists_map_memberText key text behind
    rw [htext] at hread
    rw [List.map_cons, commaSeparated_cons, List.map_append, List.append_assoc, htext,
      readMembers_quote, hread]
    refine moreMembers_flatMap hs ?_
    have := length_le_flatMap (members.map memberText)
    simp only [behind, List.length_append, List.length_map, List.length_cons] at this ⊢
    omega

/-- A member is read if its value is, and puts the value where the reader of the member puts it. -/
theorem valueMember_colon {value : Input → Except Fault (α × Input)} {add : σ → String → α → σ}
    {text : List Char} {x : α} (h : value (text.map .char ++ rest) = .ok (x, rest)) (state : σ)
    (key : String) :
    valueMember value add state key (.char ':' :: (text.map .char ++ rest)) =
      .ok (add state key x, rest) := by
  rw [valueMember, readColon, skipSpace_char (by decide)]
  simp only [h]

theorem collects_foldl {value : Input → Except Fault (α × Input)} (add : σ → String → α → σ)
    {text : α → List Char} {members : List (String × α)}
    (h : ∀ member ∈ members, Reads value (text member.2) member.2) (state : σ) :
    Collects (valueMember value add) state (members.map fun member ↦ (member.1, text member.2))
      (members.foldl (fun state member ↦ add state member.1 member.2) state) := by
  induction members generalizing state with
  | nil => exact .nil state
  | cons member members ih =>
    obtain ⟨hmember, hmembers⟩ := List.forall_mem_cons.1 h
    refine .cons (fun rest hrest ↦ ?_) (ih hmembers _)
    exact valueMember_colon (hmember.reads rest hrest) state member.1

end Containers

/-! ### Values -/

mutual

/-- The doubles in a value. -/
def doubles : Json → List Float
  | null | bool _ | string _ | number (.whole _) => []
  | number (.double x) => [x]
  | array items => itemsDoubles items
  | object members => membersDoubles members

/-- The doubles in some items. -/
def itemsDoubles : List Json → List Float
  | [] => []
  | x :: rest => doubles x ++ itemsDoubles rest

/-- The doubles in some members. -/
def membersDoubles : List (String × Json) → List Float
  | [] => []
  | (_, x) :: rest => doubles x ++ membersDoubles rest

end

theorem mem_itemsDoubles {x : Float} {items : List Json} :
    x ∈ itemsDoubles items ↔ ∃ v ∈ items, x ∈ v.doubles := by
  induction items with
  | nil => simp [itemsDoubles]
  | cons v items ih => simp [itemsDoubles, ih]

theorem mem_membersDoubles {x : Float} {members : List (String × Json)} :
    x ∈ membersDoubles members ↔ ∃ member ∈ members, x ∈ member.2.doubles := by
  induction members with
  | nil => simp [membersDoubles]
  | cons member members ih => simp [membersDoubles, ih]

theorem printItems_eq_map (items : List Json) : printItems items = items.map print := by
  induction items with
  | nil => rfl
  | cons v items ih => rw [printItems, ih, List.map_cons]

theorem printMembers_eq_map (members : List (String × Json)) :
    printMembers members = members.map fun member ↦ (member.1, print member.2) := by
  induction members with
  | nil => rfl
  | cons member members ih => rw [printMembers, ih, List.map_cons]

theorem readValue_array (room : Nat) (s : Input) :
    readValue (room + 1) (.char '[' :: s) =
      (readItems (readValue room) s).map fun (items, rest) ↦ (.array items, rest) := by
  rw [readValue, skipSpace_char (by decide)]
  rfl

theorem readValue_object (room : Nat) (s : Input) :
    readValue (room + 1) (.char '{' :: s) =
      (readMembers (valueMember (readValue room) fun l key x ↦ Keyed.insert key x l) [] s).map
        fun (members, rest) ↦ (.object members, rest) := by
  rw [readValue, skipSpace_char (by decide)]
  rfl

theorem ne_of_startsNumber {c d : Char} (hc : startsNumber c = true)
    (hd : startsNumber d = false) : c ≠ d := by
  rintro rfl
  rw [hc] at hd
  cases hd

theorem not_mem_of_startsNumber {c : Char} (hc : startsNumber c = true) :
    c ∉ [' ', '\t', '\n', '\r', ']'] := by
  simp [ne_of_startsNumber hc (d := ' ') rfl, ne_of_startsNumber hc (d := '\t') rfl,
    ne_of_startsNumber hc (d := '\n') rfl, ne_of_startsNumber hc (d := '\r') rfl,
    ne_of_startsNumber hc (d := ']') rfl]

theorem skipSpace_of_startsNumber {c : Char} (hc : startsNumber c = true) (s : Input) :
    skipSpace (.char c :: s) = .char c :: s := by
  have hspace := not_mem_of_startsNumber hc
  simp only [List.mem_cons, not_or] at hspace
  exact skipSpace_char (by simp [hspace]) s

theorem readValue_number (room : Nat) {c : Char} (hc : startsNumber c = true) (s : Input) :
    readValue room (.char c :: s) =
      (readNumber (.char c :: s)).map fun (n, rest) ↦ (.number n, rest) := by
  rw [readValue, skipSpace_of_startsNumber hc]
  simp only [if_neg (ne_of_startsNumber hc (d := 'n') rfl), if_pos hc,
    if_neg (ne_of_startsNumber hc (d := 't') rfl), if_neg (ne_of_startsNumber hc (d := 'f') rfl)]

theorem readValue_string (room : Nat) (s : Input) :
    readValue room (.char '"' :: s) =
      (readString (.char '"' :: s)).map fun (text, rest) ↦ (.string text, rest) := by
  rw [readValue, skipSpace_char (by decide)]
  rfl

theorem reads_printNumber {n : Number} (hvalid : n.Valid)
    (hdouble : ∀ x, n = .double x → ReadsBack x) (room : Nat) :
    Reads (readValue room) (printNumber n) (.number n) := by
  have hnothing : endsNumber [] = true := rfl
  have halone := readNumber_printNumber hvalid hdouble hnothing
  rw [List.append_nil] at halone
  obtain ⟨c, s, htext, hc⟩ := startsNumber_of_readNumber halone
  obtain ⟨_, cs, hprint, heq, -⟩ := List.map_eq_cons_iff.1 htext
  cases heq
  refine ⟨⟨c, cs, hprint, not_mem_of_startsNumber hc⟩, fun rest hrest ↦ ?_⟩
  have hread := readNumber_printNumber hvalid hdouble hrest
  rw [hprint, List.map_cons, List.cons_append] at hread ⊢
  rw [readValue_number room hc, hread]
  rfl

/-- A valid value is read back from its text, by a reader that has room for it. -/
theorem reads_print {v : Json} (hvalid : v.Valid) {room : Nat} (hdepth : v.depth ≤ room)
    (hdoubles : ∀ x ∈ v.doubles, ReadsBack x) : Reads (readValue room) (print v) v := by
  induction hvalid generalizing room with
  | null =>
    refine ⟨⟨'n', _, rfl, by decide⟩, fun rest _ ↦ ?_⟩
    change readValue room (.char 'n' :: _) = _
    rw [readValue, skipSpace_char (by decide)]
    rfl
  | bool b =>
    cases b with
    | false =>
      refine ⟨⟨'f', _, rfl, by decide⟩, fun rest _ ↦ ?_⟩
      change readValue room (.char 'f' :: _) = _
      rw [readValue, skipSpace_char (by decide)]
      rfl
    | true =>
      refine ⟨⟨'t', _, rfl, by decide⟩, fun rest _ ↦ ?_⟩
      change readValue room (.char 't' :: _) = _
      rw [readValue, skipSpace_char (by decide)]
      rfl
  | @number n h =>
    refine reads_printNumber h (fun x hx ↦ ?_) room
    subst hx
    exact hdoubles x List.mem_cons_self
  | string s =>
    refine ⟨⟨'"', _, rfl, by decide⟩, fun rest _ ↦ ?_⟩
    have hread := readString_printString s rest
    exact (readValue_string room _).trans (congrArg _ hread)
  | @array items h ih =>
    obtain ⟨room, rfl⟩ := Nat.exists_eq_add_one.2 (Nat.zero_lt_of_lt hdepth)
    have hitems := itemsDepth_le_iff.1 (Nat.le_of_succ_le_succ hdepth)
    have hreads : List.Forall₂ (Reads (readValue room)) (items.map print) items :=
      List.forall₂_map_left_iff.2 (List.forall₂_same.2 fun x hx ↦
        ih x hx (hitems x hx) fun d hd ↦ hdoubles d (mem_itemsDoubles.2 ⟨x, hx, hd⟩))
    refine ⟨⟨'[', _, rfl, by decide⟩, fun rest _ ↦ ?_⟩
    have htext : (print (.array items)).map Symbol.char ++ rest =
        .char '[' :: ((commaSeparated (items.map print)).map .char ++ .char ']' :: rest) := by
      simp [print, printItems_eq_map]
    rw [htext, readValue_array, readItems_commaSeparated hreads]
    rfl
  | @object members ordered h ih =>
    obtain ⟨room, rfl⟩ := Nat.exists_eq_add_one.2 (Nat.zero_lt_of_lt hdepth)
    have hmembers := membersDepth_le_iff.1 (Nat.le_of_succ_le_succ hdepth)
    have hreads : ∀ member ∈ members, Reads (readValue room) (print member.2) member.2 :=
      fun member hmem ↦ ih member hmem (hmembers member hmem) fun d hd ↦
        hdoubles d (mem_membersDoubles.2 ⟨member, hmem, hd⟩)
    have hcollects := collects_foldl (fun l key x ↦ Keyed.insert key x l) hreads []
    rw [Keyed.foldl_insert_nil ordered, ← printMembers_eq_map] at hcollects
    refine ⟨⟨'{', _, rfl, by decide⟩, fun rest _ ↦ ?_⟩
    have htext : (print (.object members)).map Symbol.char ++ rest =
        .char '{' :: ((commaSeparated ((printMembers members).map memberText)).map .char ++
          .char '}' :: rest) := by
      simp [print, record_eq]
    rw [htext, readValue_object, readMembers_commaSeparated hcollects]
    rfl

end Json

end Workbench
