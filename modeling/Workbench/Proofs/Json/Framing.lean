import Workbench.Proofs.Json.Tokens

/-!
# Values frame themselves

The text of a valid value tells where it ends: a reader that reads anything from it on takes this
text and no more, and a reader that gets less of it finds the text too short (`delimits_print`).
Literals, strings, numbers and containers each have one lemma, about any reader that reads them in
the way of `readValue`; the readers of fields that are restricted to one kind are others.
-/

namespace Workbench.Json

open Text (Symbol Cut)

section Kinds

variable {α σ : Type} {item : Input → Except Fault (α × Input)}

/-! ### Literals and strings -/

theorem readLiteral_append (word : List Char) (rest : Input) :
    readLiteral word (word.map .char ++ rest) = .ok rest := by
  induction word with
  | nil => rfl
  | cons c word ih => rwa [List.map_cons, List.cons_append, readLiteral, if_pos rfl]

theorem delimits_literal {c : Char} (word : List Char) {x : α}
    (hstart : c ∉ [' ', '\t', '\n', '\r', ']'])
    (hascii : (c :: word).all (·.utf8Size == 1) = true) (hnil : Truncated (item []))
    (hcons : ∀ s, item (.char c :: s) = (readLiteral word s).map fun rest ↦ (x, rest)) :
    Delimits item (c :: word) := by
  have hsize : ∀ d ∈ c :: word, d.utf8Size = 1 := by simpa using hascii
  obtain ⟨hc, hword⟩ := List.forall_mem_cons.1 hsize
  have hreads : Reads item (c :: word) x := by
    refine ⟨⟨c, word, rfl, hstart⟩, fun rest _ ↦ ?_⟩
    rw [List.map_cons, List.cons_append, hcons, readLiteral_append]
    rfl
  refine hreads.delimits fun p hp ↦ .inl ?_
  rcases hp.cons_cases hc with rfl | ⟨q, hq, rfl⟩
  · exact hnil
  · rw [hcons]
    exact (truncated_readLiteral hq hword).map _

theorem delimits_printString {f : String → α} (hnil : Truncated (item []))
    (hcons : ∀ s, item (.char '"' :: s) =
      (readString (.char '"' :: s)).map fun (text, rest) ↦ (f text, rest)) (s : String) :
    Delimits item (printString s) := by
  have hreads : Reads item (printString s) (f s) := by
    refine ⟨⟨'"', _, rfl, by decide⟩, fun rest _ ↦ ?_⟩
    exact (hcons _).trans (congrArg _ (readString_printString s rest))
  refine hreads.delimits fun p hp ↦ .inl ?_
  rcases hp.cons_cases rfl with rfl | ⟨q, hq, rfl⟩
  · exact hnil
  · rw [hcons]
    exact (truncated_readString hq).map _

/-! ### Numbers -/

/-- The text of a token starts like a number. -/
theorem Token.text_eq_cons {t : Token} (ht : t.Plain) :
    ∃ c cs, t.text = c :: cs ∧ startsNumber c = true ∧ c.utf8Size = 1 := by
  have hdigit : ∀ d < 10, startsNumber (Text.digitChar d) = true := by decide
  obtain ⟨d, ds, hwhole⟩ := List.exists_cons_of_ne_nil ht.whole_ne_nil
  have hd : d < 10 := ht.whole_lt d (hwhole ▸ List.mem_cons_self)
  rw [text, magnitude, hwhole]
  split
  · exact ⟨'-', _, rfl, rfl, rfl⟩
  · exact ⟨Text.digitChar d, _, rfl, hdigit d hd, Text.utf8Size_digitChar hd⟩

/-- A number that is converted to something is delimited, if every number that is left of it where
it is cut off is converted too. -/
theorem delimits_number (convert : Number → Except Cause α) {t : Token} (ht : t.Plain)
    (hconvert : ∀ (t' : Token) n, t'.CutOf t → t'.value? = some n → ∃ x, convert n = .ok x)
    (hnil : Truncated (item []))
    (hcons : ∀ c s, startsNumber c = true → item (.char c :: s) =
      match readNumber (.char c :: s) with
      | .error fault => .error fault
      | .ok (n, rest) =>
        match convert n with
        | .ok x => .ok (x, rest)
        | .error cause => .error (.here cause rest)) : Delimits item t.text := by
  obtain ⟨c, cs, htext, hc, hascii⟩ := Token.text_eq_cons ht
  have hscan : ∀ rest, endsNumber rest = true →
      scanSigned (t.text.map .char ++ rest) = .ok (t, rest) := fun rest hrest ↦
    scanSigned_append hrest (Token.scanSigned_text ht)
  have hread : ∀ rest, endsNumber rest = true → ∀ y u,
      item (t.text.map .char ++ rest) = .ok (y, u) ↔
        u = rest ∧ ∃ n, t.value? = some n ∧ convert n = .ok y := by
    intro rest hrest y u
    have hscan := hscan rest hrest
    rw [htext, List.map_cons, List.cons_append] at hscan ⊢
    rw [hcons c _ hc, readNumber_eq, hscan]
    simp only
    cases t.value? with
    | none => simp
    | some n => cases hx : convert n <;> simp [hx, and_comm, eq_comm]
  refine ⟨⟨c, cs, htext, not_mem_of_startsNumber hc⟩, fun rest x u hrest hx ↦ ?_⟩
  obtain ⟨hu, hvalue⟩ := (hread rest hrest x u).1 hx
  refine ⟨hu, ⟨⟨c, cs, htext, not_mem_of_startsNumber hc⟩, fun rest' hrest' ↦
    (hread rest' hrest' x rest').2 ⟨rfl, hvalue⟩⟩, fun p hp ↦ ?_⟩
  have hcut := Token.readNumber_cut ht hp
  rw [htext] at hp
  rcases hp.cons_cases hascii with rfl | ⟨q, -, rfl⟩
  · exact .inl hnil
  · rw [hcons c q hc]
    rcases hcut with ⟨fault, hfault, hkind⟩ | ⟨t', n, hcut, hn, hread⟩
    · exact .inl ⟨fault, by rw [hfault], hkind⟩
    · obtain ⟨y, hy⟩ := hconvert t' n hcut hn
      exact .inr ⟨y, by simp only [hread, hy]⟩

/-! ### Containers -/

theorem delimits_items {β : Type} {value : Input → Except Fault (β × Input)} {f : List β → α}
    {texts : List (List Char)} (hnil : Truncated (item []))
    (hcons : ∀ s, item (.char '[' :: s) =
      (readItems value s).map fun (xs, rest) ↦ (f xs, rest))
    (h : ∀ text ∈ texts, Delimits value text) :
    Delimits item ('[' :: (commaSeparated texts ++ [']'])) where
  starts := ⟨'[', _, rfl, by decide⟩
  takes rest x t hrest hread := by
    have htext : ∀ rest, ('[' :: (commaSeparated texts ++ [']'])).map Symbol.char ++ rest =
        .char '[' :: ((commaSeparated texts).map .char ++ .char ']' :: rest) := by
      simp
    rw [htext, hcons] at hread
    obtain ⟨⟨xs, t'⟩, hitems, heq⟩ := exists_of_map_eq_ok hread
    cases heq
    obtain ⟨rfl, hxs⟩ := forall₂_of_readItems h hitems
    refine ⟨rfl, ⟨⟨'[', _, rfl, by decide⟩, fun rest' _ ↦ ?_⟩, fun p hp ↦ .inl ?_⟩
    · have hreads := hxs.imp fun _ _ htakes ↦ htakes.toReads
      rw [htext, hcons, readItems_commaSeparated hreads]
      rfl
    · rcases hp.cons_cases rfl with rfl | ⟨q, hq, rfl⟩
      · exact hnil
      · rw [hcons]
        exact (truncated_readItems hxs hq).map _

theorem delimits_members {member : σ → String → Input → Except Fault (σ × Input)} {f : σ → α}
    {state : σ} {members : List (String × List Char)} (hnil : Truncated (item []))
    (hcons : ∀ s, item (.char '{' :: s) =
      (readMembers member state s).map fun (last, rest) ↦ (f last, rest))
    (h : Delimited member state members) : Delimits item (record members) where
  starts := ⟨'{', _, rfl, by decide⟩
  takes rest x t hrest hread := by
    have htext : ∀ rest, (record members).map Symbol.char ++ rest =
        .char '{' ::
          ((commaSeparated (members.map memberText)).map .char ++ .char '}' :: rest) := by
      simp [record_eq]
    rw [htext, hcons] at hread
    obtain ⟨⟨last, t'⟩, hmembers, heq⟩ := exists_of_map_eq_ok hread
    cases heq
    obtain ⟨rfl, hpasses⟩ := passes_of_readMembers h hmembers
    refine ⟨rfl, ⟨⟨'{', _, rfl, by decide⟩, fun rest' _ ↦ ?_⟩, fun p hp ↦ .inl ?_⟩
    · rw [htext, hcons, readMembers_commaSeparated hpasses.collects]
      rfl
    · rcases hp.cons_cases rfl with rfl | ⟨q, hq, rfl⟩
      · exact hnil
      · rw [hcons]
        exact (truncated_readMembers hpasses hq).map _

end Kinds

/-! ### Values -/

theorem truncated_readValue_nil (room : Nat) : Truncated (readValue room []) := by
  rw [readValue]
  exact ⟨_, rfl, rfl⟩

/-- A number is delimited by the text of a token. -/
theorem delimits_text {t : Token} (ht : t.Plain) (room : Nat) :
    Delimits (readValue room) t.text := by
  refine delimits_number (fun n ↦ .ok (.number n)) ht (fun _ n _ _ ↦ ⟨.number n, rfl⟩)
    (truncated_readValue_nil room) fun c s hc ↦ ?_
  rw [readValue_number room hc]
  cases readNumber (.char c :: s) <;> rfl

/-- A reader that may open no container reads none. -/
theorem delimits_closed {c : Char} (hc : c = '[' ∨ c = '{') (cs : List Char) :
    Delimits (readValue 0) (c :: cs) where
  starts := ⟨c, cs, rfl, by rcases hc with rfl | rfl <;> decide⟩
  takes rest x t _ hread := by
    rw [List.map_cons, List.cons_append] at hread
    rcases hc with rfl | rfl <;> rw [readValue, skipSpace_char (by decide)] at hread <;> cases hread

/-- The text of a valid value is delimited, whatever room there is for containers. -/
theorem delimits_print {v : Json} (hvalid : v.Valid) (room : Nat) :
    Delimits (readValue room) (print v) := by
  induction hvalid generalizing room with
  | null =>
    refine delimits_literal ['u', 'l', 'l'] (x := .null) (by decide) rfl
      (truncated_readValue_nil room) fun s ↦ ?_
    rw [readValue, skipSpace_char (by decide)]
    rfl
  | bool b =>
    cases b with
    | false =>
      refine delimits_literal ['a', 'l', 's', 'e'] (x := .bool false) (by decide) rfl
        (truncated_readValue_nil room) fun s ↦ ?_
      rw [readValue, skipSpace_char (by decide)]
      rfl
    | true =>
      refine delimits_literal ['r', 'u', 'e'] (x := .bool true) (by decide) rfl
        (truncated_readValue_nil room) fun s ↦ ?_
      rw [readValue, skipSpace_char (by decide)]
      rfl
  | @number n h =>
    cases n with
    | whole n =>
      obtain ⟨t, ht, htext, -⟩ := exists_token_whole h
      have htoken := delimits_text ht room
      rwa [htext] at htoken
    | double x =>
      obtain ⟨t, ht, htext⟩ := exists_token_double h
      have htoken := delimits_text ht room
      rwa [htext] at htoken
  | string s =>
    exact delimits_printString (truncated_readValue_nil room) (readValue_string room) s
  | @array items h ih =>
    rw [print, printItems_eq_map]
    cases room with
    | zero => exact delimits_closed (.inl rfl) _
    | succ room =>
      exact delimits_items (truncated_readValue_nil _) (readValue_array room)
        (List.forall_mem_map.2 fun x hx ↦ ih x hx room)
  | @object members ordered h ih =>
    rw [print, printMembers_eq_map]
    cases room with
    | zero => exact delimits_closed (.inr rfl) _
    | succ room =>
      exact delimits_members (truncated_readValue_nil _) (readValue_object room)
        (delimited_values _ (fun member hmem ↦ ih member hmem room) [])

end Workbench.Json
