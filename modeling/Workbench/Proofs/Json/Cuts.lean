import Workbench.Proofs.Json.RoundTrip
import Workbench.Proofs.Text.Cuts

/-!
# Readers of a text that is cut off

A reader whose text is cut off reports that the text has ended. Only a number is read from the
digits that are left of it; but then nothing is left behind it, so that the comma or the bracket
that has to follow is missing. `Unfinished` is what both have in common, and it is all that a
container needs to know of its items: a container whose text is cut off has not seen its closing
bracket, and is `Truncated` in any case (`truncated_readItems`, `truncated_readMembers`).

Not every text that is written is read, so nothing is said of a text that is not: a reader
`Delimits` a text if, once it reads from the text on, it takes this text and no more.
-/

namespace Workbench.Json

open Text (Symbol Cut)

section Readers

variable {α β σ : Type}

/-- The text ends too early. -/
def Truncated (result : Except Fault α) : Prop :=
  ∃ fault, result = .error fault ∧ fault.kind = .truncated

/-- The text ends too early, or right behind what is read. -/
def Unfinished (result : Except Fault (α × Input)) : Prop :=
  Truncated result ∨ ∃ x, result = .ok (x, [])

theorem Truncated.map {result : Except Fault α} (h : Truncated result) (f : α → β) :
    Truncated (result.map f) := by
  obtain ⟨fault, rfl, hkind⟩ := h
  exact ⟨fault, rfl, hkind⟩

theorem Unfinished.map {result : Except Fault (α × Input)} (h : Unfinished result) (f : α → β) :
    Unfinished (result.map fun (x, rest) ↦ (f x, rest)) := by
  rcases h with h | ⟨x, rfl⟩
  · exact .inl (h.map _)
  · exact .inr ⟨f x, rfl⟩

/-- A reader reads a value from a text, and does not finish where the text is cut off. -/
structure Takes (item : Input → Except Fault (α × Input)) (text : List Char) (x : α) : Prop extends
    Reads item text x where
  breaks : ∀ p, Cut text p → Unfinished (item p)

/-- If a reader reads anything from a text on, it takes the text and nothing behind it. -/
structure Delimits (item : Input → Except Fault (α × Input)) (text : List Char) : Prop where
  starts : ∃ c cs, text = c :: cs ∧ c ∉ [' ', '\t', '\n', '\r', ']']
  takes : ∀ rest x t, endsNumber rest = true → item (text.map .char ++ rest) = .ok (x, t) →
    t = rest ∧ Takes item text x

variable {item : Input → Except Fault (α × Input)} {text : List Char} {x : α}

/-- A reader that reads a text whatever follows delimits it. -/
theorem Reads.delimits (h : Reads item text x) (hbreaks : ∀ p, Cut text p → Unfinished (item p)) :
    Delimits item text where
  starts := h.starts
  takes rest y t hrest hread := by
    have hsame := (h.reads rest hrest).symm.trans hread
    cases hsame
    exact ⟨rfl, h, hbreaks⟩

theorem Takes.map (h : Takes item text x) (f : α → β) :
    Takes (fun s ↦ (item s).map fun (x, rest) ↦ (f x, rest)) text (f x) where
  starts := h.starts
  reads rest hrest := by
    rw [h.reads rest hrest]
    rfl
  breaks p hp := (h.breaks p hp).map f

theorem Delimits.map (h : Delimits item text) (f : α → β) :
    Delimits (fun s ↦ (item s).map fun (x, rest) ↦ (f x, rest)) text where
  starts := h.starts
  takes rest y t hrest hread := by
    obtain ⟨⟨x, t⟩, hitem, heq⟩ := exists_of_map_eq_ok hread
    cases heq
    obtain ⟨rfl, htakes⟩ := h.takes rest x t hrest hitem
    exact ⟨rfl, htakes.map f⟩

/-! ### Literals and strings -/

theorem truncated_readLiteral {word : List Char} {p : Input} (h : Cut word p)
    (hword : ∀ c ∈ word, c.utf8Size = 1) : Truncated (readLiteral word p) := by
  induction h with
  | before => exact ⟨_, rfl, rfl⟩
  | inside hpos hn =>
    have := hword _ List.mem_cons_self
    omega
  | behind c _ ih =>
    rw [readLiteral, if_pos rfl]
    exact ih (List.forall_mem_cons.1 hword).2

theorem truncated_readHex4 {s : Input} (h : Symbol.widthOf s < 4) : Truncated (readHex4 s) := by
  have hbad : Truncated (.error (badHex s) : Except Fault (Nat × Input)) :=
    ⟨_, rfl, by rw [badHex, if_pos h]; rfl⟩
  rw [readHex4.eq_def]
  split
  · rename_i a b c d rest
    have := a.utf8Size_pos
    have := b.utf8Size_pos
    have := c.utf8Size_pos
    have := d.utf8Size_pos
    simp only [Symbol.widthOf, Symbol.width] at h
    omega
  · exact hbad

theorem truncated_readEscape_hex {s : Input} (h : Symbol.widthOf s < 4) :
    Truncated (readEscape (.char 'u' :: s)) := by
  obtain ⟨fault, hfault, hkind⟩ := truncated_readHex4 h
  refine ⟨fault, ?_, hkind⟩
  rw [readEscape.eq_def]
  simp only [if_pos, hfault]

theorem truncated_readSymbols_backslash {s : Input} (h : Truncated (readEscape s)) :
    Truncated (readSymbols (.char '\\' :: s)) := by
  obtain ⟨fault, hfault, hkind⟩ := h
  refine ⟨fault, ?_, hkind⟩
  rw [readSymbols, if_neg (by decide), if_pos rfl]
  split
  · rename_i heq
    cases hfault.symm.trans heq
    rfl
  · rename_i heq
    cases hfault.symm.trans heq

theorem utf8Size_hexDigit {d : Nat} (h : d < 16) : (hexDigit d).utf8Size = 1 := by
  have hall : ∀ d < 16, (hexDigit d).utf8Size = 1 := by decide
  exact hall d h

/-- An escape that is cut off behind its backslash is missed by the string it stands in. -/
theorem truncated_readSymbols_cons {cs : List Char} {p : Input} (h : Cut ('\\' :: cs) p)
    (hcs : ∀ q, Cut cs q → Truncated (readEscape q)) : Truncated (readSymbols p) := by
  rcases h.cons_cases rfl with rfl | ⟨q, hq, rfl⟩
  · rw [readSymbols]
    exact ⟨_, rfl, rfl⟩
  · exact truncated_readSymbols_backslash (hcs q hq)

theorem truncated_readSymbols_escape {c : Char} {p : Input} (h : Cut (escape c) p) :
    Truncated (readSymbols p) := by
  have hletter : ∀ d : Char, d.utf8Size = 1 → ∀ q, Cut [d] q → Truncated (readEscape q) := by
    intro d hd q hq
    rcases hq.cons_cases hd with rfl | ⟨_, hnil, -⟩
    · exact ⟨_, rfl, rfl⟩
    · exact absurd rfl hnil.ne_nil
  rw [escape] at h
  -- The characters with an escape of one letter.
  iterate 7
    split at h
    · exact truncated_readSymbols_cons h (hletter _ rfl)
  split at h
  · rename_i hcontrol
    refine truncated_readSymbols_cons h fun q hq ↦ ?_
    rcases hq.cons_cases rfl with rfl | ⟨s, hs, rfl⟩
    · exact ⟨_, rfl, rfl⟩
    · refine truncated_readEscape_hex (Nat.lt_of_lt_of_eq hs.widthOf_lt ?_)
      simp only [List.map_cons, List.map_nil, Symbol.widthOf, Symbol.width,
        utf8Size_hexDigit (d := c.toNat / 16) (by omega),
        utf8Size_hexDigit (d := c.toNat % 16) (by omega)]
      rfl
  · rcases h with - | ⟨hpos, hn⟩ | ⟨_, hnil⟩
    · rw [readSymbols]
      exact ⟨_, rfl, rfl⟩
    · rw [readSymbols, readSymbols]
      exact ⟨_, rfl, rfl⟩
    · exact absurd rfl hnil.ne_nil

theorem truncated_readSymbols {cs : List Char} {p : Input}
    (h : Cut (cs.flatMap escape ++ ['"']) p) : Truncated (readSymbols p) := by
  induction cs generalizing p with
  | nil =>
    rcases h.cons_cases rfl with rfl | ⟨_, hnil, -⟩
    · rw [readSymbols]
      exact ⟨_, rfl, rfl⟩
    · exact absurd rfl hnil.ne_nil
  | cons c cs ih =>
    rw [List.flatMap_cons, List.append_assoc] at h
    rcases h.append_cases with h | ⟨q, hq, rfl⟩
    · exact truncated_readSymbols_escape h
    · rw [readSymbols_escape]
      exact (ih hq).map _

/-- A string that is cut off behind its opening quote has not ended. -/
theorem truncated_readString {s : String} {p : Input}
    (h : Cut (s.toList.flatMap escape ++ ['"']) p) : Truncated (readString (.char '"' :: p)) := by
  obtain ⟨fault, hfault, hkind⟩ := truncated_readSymbols h
  refine ⟨fault, ?_, hkind⟩
  rw [readString, readBody, hfault]

/-! ### Items -/

section Items

variable {texts : List (List Char)} {s rest t p : Input} {xs : List α} {bound : Nat}

/-- What is left of a text that is cut off starts like the item in front, or is nothing. -/
theorem startsItem_of_cut (hstarts : ∃ c cs, text = c :: cs ∧ c ∉ [' ', '\t', '\n', '\r', ']'])
    {after : List Char} (h : Cut (text ++ after) p) : StartsItem p := by
  obtain ⟨c, cs, rfl, hc⟩ := hstarts
  simp only [List.mem_cons, not_or] at hc
  cases h with
  | before => exact ⟨rfl, by simp⟩
  | inside => exact ⟨rfl, by simp⟩
  | behind => exact ⟨skipSpace_char (by simp [hc]) _, by simp [hc]⟩

theorem truncated_moreItems_nil (item : Input → Except Fault (α × Input)) (bound : Nat) :
    Truncated (moreItems item bound []) := by
  cases bound <;> exact ⟨_, rfl, rfl⟩

/-- Behind an item that is not finished the array is not either. -/
theorem Unfinished.moreItems {result : Except Fault (α × Input)} (h : Unfinished result)
    (bound : Input → Nat) :
    Truncated (match result with
      | .error fault => .error fault
      | .ok (x, rest) =>
        (moreItems item (bound rest) rest).map fun (xs, rest) ↦ (x :: xs, rest)) := by
  rcases h with ⟨fault, rfl, hkind⟩ | ⟨x, rfl⟩
  · exact ⟨fault, rfl, hkind⟩
  · exact (truncated_moreItems_nil item (bound [])).map _

/-- What follows an item, in front of a cut, does not go on a number. -/
theorem endsNumber_cut (texts : List (List Char)) {close : Char}
    (h : Cut (texts.flatMap (',' :: ·) ++ [close]) p) (hc : endsNumber [.char close] = true) :
    endsNumber p = true := by
  cases texts with
  | nil =>
    cases h with
    | before | inside => rfl
    | behind => exact hc
  | cons text texts => cases h <;> rfl

/-- The text is cut off in an item, or behind it. -/
theorem Takes.truncated_items (hx : Takes item text x)
    (hp : Cut (text ++ (texts.flatMap (',' :: ·) ++ [']'])) p) (bound : Input → Nat)
    (hmore : ∀ u, Cut (texts.flatMap (',' :: ·) ++ [']']) u →
      Truncated (moreItems item (bound u) u)) :
    Truncated (match item p with
      | .error fault => .error fault
      | .ok (x, rest) =>
        (moreItems item (bound rest) rest).map fun (xs, rest) ↦ (x :: xs, rest)) := by
  rcases hp.append_cases with hcut | ⟨u, hu, rfl⟩
  · exact (hx.breaks p hcut).moreItems bound
  · rw [hx.reads u (endsNumber_cut texts hu rfl)]
    exact (hmore u hu).map _

theorem truncated_moreItems (h : List.Forall₂ (Takes item) texts xs)
    (hp : Cut (texts.flatMap (',' :: ·) ++ [']']) p) : Truncated (moreItems item bound p) := by
  induction h generalizing bound p with
  | nil =>
    rcases hp.cons_cases rfl with rfl | ⟨_, hnil, -⟩
    · exact truncated_moreItems_nil item bound
    · exact absurd rfl hnil.ne_nil
  | @cons text x texts xs hx hxs ih =>
    rw [List.flatMap_cons, List.append_assoc] at hp
    rcases hp.cons_cases rfl with rfl | ⟨q, hq, rfl⟩
    · exact truncated_moreItems_nil item bound
    cases bound with
    | zero => exact ⟨_, rfl, rfl⟩
    | succ bound =>
      rw [moreItems_comma (startsItem_of_cut hx.starts hq)]
      exact hx.truncated_items hq (fun _ ↦ bound) fun u hu ↦ ih hu

/-- An array that is cut off does not end, if its items are read. -/
theorem truncated_readItems (h : List.Forall₂ (Takes item) texts xs)
    (hp : Cut (commaSeparated texts ++ [']']) p) : Truncated (readItems item p) := by
  cases h with
  | nil =>
    rcases hp.cons_cases rfl with rfl | ⟨_, hnil, -⟩
    · exact ⟨_, rfl, rfl⟩
    · exact absurd rfl hnil.ne_nil
  | @cons text x texts xs hx hxs =>
    by_cases hne : p = []
    · subst hne
      exact ⟨_, rfl, rfl⟩
    rw [commaSeparated_cons, List.append_assoc] at hp
    rw [readItems_item hne (startsItem_of_cut hx.starts hp)]
    exact hx.truncated_items hp List.length fun u hu ↦ truncated_moreItems hxs hu

/-- An item that is read in front of others is taken, and the others are read behind it. -/
theorem Delimits.exists_takes (h : Delimits item text) (bound : Input → Nat)
    (hread : (match item (text.map .char ++
        ((texts.flatMap (',' :: ·)).map .char ++ .char ']' :: rest)) with
      | .error fault => Except.error fault
      | .ok (x, rest) =>
        (moreItems item (bound rest) rest).map fun ((ys, rest) : List α × Input) ↦
          (x :: ys, rest)) = .ok (xs, t)) :
    ∃ x ys, xs = x :: ys ∧ Takes item text x ∧ ∃ bound,
      moreItems item bound ((texts.flatMap (',' :: ·)).map .char ++ .char ']' :: rest) =
        .ok (ys, t) := by
  split at hread
  · cases hread
  · rename_i x u hx
    obtain ⟨⟨ys, u'⟩, hmore, heq⟩ := exists_of_map_eq_ok hread
    cases heq
    obtain ⟨rfl, htakes⟩ := h.takes _ x u (endsNumber_flatMap texts ']' rest rfl) hx
    exact ⟨x, ys, rfl, htakes, _, hmore⟩

/-- Items that are read behind each other are read one by one. -/
theorem forall₂_of_moreItems (h : ∀ text ∈ texts, Delimits item text)
    (hread : moreItems item bound
      ((texts.flatMap (',' :: ·)).map .char ++ .char ']' :: rest) = .ok (xs, t)) :
    t = rest ∧ List.Forall₂ (Takes item) texts xs := by
  induction texts generalizing bound xs with
  | nil =>
    cases bound with
    | zero => cases hread
    | succ bound =>
      cases hread
      exact ⟨rfl, .nil⟩
  | cons text texts ih =>
    obtain ⟨htext, htexts⟩ := List.forall_mem_cons.1 h
    cases bound with
    | zero => cases hread
    | succ bound =>
      rw [List.flatMap_cons, List.map_append, List.append_assoc, List.map_cons, List.cons_append,
        moreItems_comma (startsItem_append htext.starts _)] at hread
      obtain ⟨x, ys, rfl, htakes, _, hmore⟩ := htext.exists_takes (fun _ ↦ bound) hread
      obtain ⟨rfl, hys⟩ := ih htexts hmore
      exact ⟨rfl, .cons htakes hys⟩

theorem forall₂_of_readItems (h : ∀ text ∈ texts, Delimits item text)
    (hread : readItems item ((commaSeparated texts).map .char ++ .char ']' :: rest) = .ok (xs, t)) :
    t = rest ∧ List.Forall₂ (Takes item) texts xs := by
  cases texts with
  | nil =>
    cases hread
    exact ⟨rfl, .nil⟩
  | cons text texts =>
    obtain ⟨htext, htexts⟩ := List.forall_mem_cons.1 h
    rw [commaSeparated_cons, List.map_append, List.append_assoc,
      readItems_item (by simp) (startsItem_append htext.starts _)] at hread
    obtain ⟨x, ys, rfl, htakes, _, hmore⟩ := htext.exists_takes List.length hread
    obtain ⟨rfl, hys⟩ := forall₂_of_moreItems htexts hmore
    exact ⟨rfl, .cons htakes hys⟩

end Items

/-! ### Members -/

section Members

variable {member : σ → String → Input → Except Fault (σ × Input)} {state next last : σ}
  {key : String} {members : List (String × List Char)} {s rest t p : Input} {bound : Nat}

/-- Members with these names and texts lead from a state to another, one after the other, and none
is finished where its text is cut off. -/
inductive Passes (member : σ → String → Input → Except Fault (σ × Input)) :
    σ → List (String × List Char) → σ → Prop
  | nil (state : σ) : Passes member state [] state
  | cons {state next last : σ} {key : String} {text : List Char}
    {members : List (String × List Char)} (h : Takes (member state key) (':' :: text) next)
    (hs : Passes member next members last) : Passes member state ((key, text) :: members) last

/-- Whatever the members read so far lead to, the text of the next one is delimited. -/
inductive Delimited (member : σ → String → Input → Except Fault (σ × Input)) :
    σ → List (String × List Char) → Prop
  | nil (state : σ) : Delimited member state []
  | cons {state : σ} {key : String} {text : List Char} {members : List (String × List Char)}
    (h : Delimits (member state key) (':' :: text))
    (hs : ∀ next, Takes (member state key) (':' :: text) next → Delimited member next members) :
    Delimited member state ((key, text) :: members)

theorem Passes.collects (h : Passes member state members last) :
    Collects member state members last := by
  induction h with
  | nil state => exact .nil state
  | cons h _ ih => exact .cons h.reads ih

theorem truncated_moreMembers_nil (member : σ → String → Input → Except Fault (σ × Input))
    (bound : Nat) (state : σ) : Truncated (moreMembers member bound state []) := by
  cases bound <;> exact ⟨_, rfl, rfl⟩

/-- Behind a member that is not finished the object is not either. -/
theorem Unfinished.moreMembers {result : Except Fault (σ × Input)} (h : Unfinished result)
    (bound : Input → Nat) :
    Truncated (match result with
      | .error fault => .error fault
      | .ok (next, rest) => moreMembers member (bound rest) next rest) := by
  rcases h with ⟨fault, rfl, hkind⟩ | ⟨next, rfl⟩
  · exact ⟨fault, rfl, hkind⟩
  · exact truncated_moreMembers_nil member (bound []) next

/-- A member may be cut off in its key, behind it or in its value. -/
theorem unfinished_readMember (h : Takes (member state key) (':' :: text) next)
    (hp : Cut (memberText (key, text)) p) : Unfinished (readMember member state p) := by
  have hmember : memberText (key, text) =
      '"' :: ((key.toList.flatMap escape ++ ['"']) ++ ':' :: text) := rfl
  rw [hmember] at hp
  rcases hp.cons_cases rfl with rfl | ⟨q, hq, rfl⟩
  · exact .inl ⟨_, rfl, rfl⟩
  rw [readMember, skipSpace_char (by decide)]
  rcases hq.append_cases with hkey | ⟨u, hu, rfl⟩
  · obtain ⟨fault, hfault, hkind⟩ := truncated_readString hkey
    simp only [hfault]
    exact .inl ⟨fault, rfl, hkind⟩
  · have hread : readString (.char '"' :: ((key.toList.flatMap escape ++ ['"']).map .char ++ u)) =
        .ok (key, u) := readString_printString key u
    simp only [hread]
    exact h.breaks u hu

/-- The text is cut off in a member, or behind it. -/
theorem Takes.truncated_members (hmember : Takes (member state key) (':' :: text) next)
    (hp : Cut (memberText (key, text) ++
      ((members.map memberText).flatMap (',' :: ·) ++ ['}'])) p) (bound : Input → Nat)
    (hmore : ∀ u, Cut ((members.map memberText).flatMap (',' :: ·) ++ ['}']) u →
      Truncated (moreMembers member (bound u) next u)) :
    Truncated (match readMember member state p with
      | .error fault => .error fault
      | .ok (next, rest) => moreMembers member (bound rest) next rest) := by
  rcases hp.append_cases with hcut | ⟨u, hu, rfl⟩
  · exact (unfinished_readMember hmember hcut).moreMembers bound
  · rw [readMember_memberText
      (hmember.reads u (endsNumber_cut (members.map memberText) hu rfl))]
    exact hmore u hu

theorem truncated_moreMembers (h : Passes member state members last)
    (hp : Cut ((members.map memberText).flatMap (',' :: ·) ++ ['}']) p) :
    Truncated (moreMembers member bound state p) := by
  induction h generalizing bound p with
  | nil state =>
    rcases hp.cons_cases rfl with rfl | ⟨_, hnil, -⟩
    · exact truncated_moreMembers_nil member bound state
    · exact absurd rfl hnil.ne_nil
  | @cons state next last key text members hmember hs ih =>
    rw [List.map_cons, List.flatMap_cons, List.append_assoc] at hp
    rcases hp.cons_cases rfl with rfl | ⟨q, hq, rfl⟩
    · exact truncated_moreMembers_nil member bound state
    cases bound with
    | zero => exact ⟨_, rfl, rfl⟩
    | succ bound =>
      have hmore := hmember.truncated_members hq (fun _ ↦ bound) fun u hu ↦ ih hu
      rcases hq.cons_cases rfl with rfl | ⟨u, -, rfl⟩
      · exact ⟨_, rfl, rfl⟩
      · rwa [moreMembers_comma]

/-- An object that is cut off does not end, if its members are read. -/
theorem truncated_readMembers (h : Passes member state members last)
    (hp : Cut (commaSeparated (members.map memberText) ++ ['}']) p) :
    Truncated (readMembers member state p) := by
  cases h with
  | nil state =>
    rcases hp.cons_cases rfl with rfl | ⟨_, hnil, -⟩
    · exact ⟨_, rfl, rfl⟩
    · exact absurd rfl hnil.ne_nil
  | @cons state next last key text members hmember hs =>
    rw [List.map_cons, commaSeparated_cons, List.append_assoc] at hp
    have hmore := hmember.truncated_members hp List.length fun u hu ↦ truncated_moreMembers hs hu
    rcases hp.cons_cases rfl with rfl | ⟨u, -, rfl⟩
    · exact ⟨_, rfl, rfl⟩
    · rwa [readMembers_quote]

/-- What is read of the text of a member is read by the reader of its value. -/
theorem readMember_eq_ok {text : List Char}
    (h : readMember member state ((memberText (key, text)).map .char ++ rest) = .ok (next, t)) :
    member state key ((':' :: text).map .char ++ rest) = .ok (next, t) := by
  obtain ⟨s, htext, hread⟩ := exists_map_memberText key text rest
  rw [htext, readMember, skipSpace_char (by decide)] at h
  simp only [hread] at h
  exact h

/-- A member that is read in front of others is taken, and the others are read behind it. -/
theorem Delimits.exists_takes_member (h : Delimits (member state key) (':' :: text))
    (bound : Input → Nat)
    (hread : (match readMember member state ((memberText (key, text)).map .char ++
        (((members.map memberText).flatMap (',' :: ·)).map .char ++ .char '}' :: rest)) with
      | .error fault => Except.error fault
      | .ok (next, rest) => moreMembers member (bound rest) next rest) = .ok (last, t)) :
    ∃ next, Takes (member state key) (':' :: text) next ∧ ∃ bound,
      moreMembers member bound next
        (((members.map memberText).flatMap (',' :: ·)).map .char ++ .char '}' :: rest) =
          .ok (last, t) := by
  split at hread
  · cases hread
  · rename_i next u hnext
    obtain ⟨rfl, htakes⟩ := h.takes _ next u
      (endsNumber_flatMap (members.map memberText) '}' rest rfl) (readMember_eq_ok hnext)
    exact ⟨next, htakes, _, hread⟩

/-- Members that are read behind each other are read one by one. -/
theorem passes_of_moreMembers (h : Delimited member state members)
    (hread : moreMembers member bound state
      (((members.map memberText).flatMap (',' :: ·)).map .char ++ .char '}' :: rest) =
        .ok (last, t)) : t = rest ∧ Passes member state members last := by
  induction h generalizing bound with
  | nil state =>
    cases bound with
    | zero => cases hread
    | succ bound =>
      cases hread
      exact ⟨rfl, .nil _⟩
  | @cons state key text members hmember hs ih =>
    cases bound with
    | zero => cases hread
    | succ bound =>
      obtain ⟨s, htext, -⟩ := exists_map_memberText key text
        (((members.map memberText).flatMap (',' :: ·)).map .char ++ .char '}' :: rest)
      rw [List.map_cons, List.flatMap_cons, List.map_append, List.append_assoc, List.map_cons,
        List.cons_append, htext, moreMembers_comma, ← htext] at hread
      obtain ⟨next, htakes, _, hmore⟩ := hmember.exists_takes_member (fun _ ↦ bound) hread
      obtain ⟨rfl, hpasses⟩ := ih next htakes hmore
      exact ⟨rfl, .cons htakes hpasses⟩

theorem passes_of_readMembers (h : Delimited member state members)
    (hread : readMembers member state
      ((commaSeparated (members.map memberText)).map .char ++ .char '}' :: rest) =
        .ok (last, t)) : t = rest ∧ Passes member state members last := by
  cases h with
  | nil =>
    cases hread
    exact ⟨rfl, .nil _⟩
  | @cons _ key text members hmember hs =>
    obtain ⟨s, htext, -⟩ := exists_map_memberText key text
      (((members.map memberText).flatMap (',' :: ·)).map .char ++ .char '}' :: rest)
    rw [List.map_cons, commaSeparated_cons, List.map_append, List.append_assoc, htext,
      readMembers_quote, ← htext] at hread
    obtain ⟨next, htakes, _, hmore⟩ := hmember.exists_takes_member List.length hread
    obtain ⟨rfl, hpasses⟩ := passes_of_moreMembers (hs next htakes) hmore
    exact ⟨rfl, .cons htakes hpasses⟩

/-- What follows a colon is read. -/
def afterColon (item : Input → Except Fault (α × Input)) (s : Input) :
    Except Fault (α × Input) :=
  match readColon s with
  | .error fault => .error fault
  | .ok rest => item rest

theorem afterColon_colon (s : Input) : afterColon item (.char ':' :: s) = item s := by
  rw [afterColon, readColon, skipSpace_char (by decide)]
  rfl

theorem Takes.colon (h : Takes item text x) : Takes (afterColon item) (':' :: text) x where
  starts := ⟨':', text, rfl, by decide⟩
  reads rest hrest := (afterColon_colon _).trans (h.reads rest hrest)
  breaks p hp := by
    rcases hp.cons_cases rfl with rfl | ⟨q, hq, rfl⟩
    · exact .inl ⟨_, rfl, rfl⟩
    · rw [afterColon_colon]
      exact h.breaks q hq

theorem Delimits.colon (h : Delimits item text) : Delimits (afterColon item) (':' :: text) where
  starts := ⟨':', text, rfl, by decide⟩
  takes rest x t hrest hread := by
    obtain ⟨rfl, htakes⟩ := h.takes rest x t hrest ((afterColon_colon _).symm.trans hread)
    exact ⟨rfl, htakes.colon⟩

theorem valueMember_eq (value : Input → Except Fault (α × Input)) (add : σ → String → α → σ)
    (state : σ) (key : String) :
    valueMember value add state key =
      afterColon fun s ↦ (value s).map fun (x, rest) ↦ (add state key x, rest) := by
  funext s
  rw [valueMember, afterColon]
  cases readColon s with
  | error fault => rfl
  | ok rest => cases hvalue : value rest <;> simp [hvalue, Except.map]

/-- Members are delimited if their values are. -/
theorem delimited_values {value : Input → Except Fault (α × Input)} (add : σ → String → α → σ)
    {text : α → List Char} {members : List (String × α)}
    (h : ∀ member ∈ members, Delimits value (text member.2)) (state : σ) :
    Delimited (valueMember value add) state
      (members.map fun member ↦ (member.1, text member.2)) := by
  induction members generalizing state with
  | nil => exact .nil state
  | cons member members ih =>
    obtain ⟨hmember, hmembers⟩ := List.forall_mem_cons.1 h
    refine .cons ?_ fun next _ ↦ ih hmembers next
    rw [valueMember_eq]
    exact (hmember.map (add state member.1)).colon

end Members

end Readers

end Workbench.Json
