import Workbench.Proofs.Json.Spelling

/-!
# Nothing else is read

A value is read only from a text that spells it: escapes are read as the characters they stand for,
a number is in range, and no more containers are open than there is room for. The loop over the
members of an object takes it apart, and each member is a step of whoever collects them, so what
holds of every step can be put together along the members.
-/

namespace Workbench.Json

open Text (Symbol)

/-! ### Strings and numbers -/

/-- The second half of a surrogate pair. -/
theorem exists_of_readLowSurrogate {high : Nat} {c : Char} {s rest : Input}
    (h : readLowSurrogate high s = .ok (c, rest)) :
    ∃ low t, s = .char '\\' :: .char 'u' :: t ∧ Hex4 low t rest ∧
      (0xDC00 ≤ low ∧ low ≤ 0xDFFF) ∧
      c = Char.ofNat (0x10000 + (high - 0xD800) * 0x400 + (low - 0xDC00)) := by
  rw [readLowSurrogate.eq_def] at h
  split at h
  · cases h
  · cases h
  · split at h
    · cases h
    · rename_i hhex
      split at h
      · rename_i hlow
        obtain ⟨rfl, rfl⟩ := Prod.mk.inj (Except.ok.inj h)
        exact ⟨_, _, rfl, .of_readHex4 hhex, hlow, rfl⟩
      · cases h
  · cases h
  · cases h

/-- What an escape stands for is put in front of what the rest of a string denotes. -/
theorem Denotes.of_readEscape {c : Char} {cs : List Char} {s t rest : Input}
    (hescape : readEscape s = .ok (c, t)) (h : Denotes cs t rest) :
    Denotes (c :: cs) (.char '\\' :: s) rest := by
  rw [readEscape.eq_def] at hescape
  split at hescape
  · cases hescape
  · split at hescape
    · rename_i hu
      subst hu
      split at hescape
      · cases hescape
      · rename_i hhex
        have hex := Hex4.of_readHex4 hhex
        split at hescape
        · cases hescape
        · split at hescape
          · rename_i hlow hhigh
            obtain ⟨low, u, rfl, hexLow, hlow', hc⟩ := exists_of_readLowSurrogate hescape
            rw [hc]
            exact .pair hex hexLow hhigh hlow' h
          · rename_i hlow hhigh
            cases hescape
            exact .code hex (by omega) h
    · split at hescape
      · rename_i hletter
        cases hescape
        exact .letter (ofLetter?_eq_some_iff.1 hletter) h
      · cases hescape
  · cases hescape

theorem Denotes.of_readSymbols {found : List Symbol} {cs : List Char} {s rest : Input}
    (h : readSymbols s = .ok (found, rest)) (hchars : Text.chars? found = some cs) :
    Denotes cs s rest := by
  fun_induction readSymbols s generalizing found cs with
  | case1 | case2 | case5 | case6 | case8 | case9 => cases h
  | case3 n s found' rest' hread ih =>
    -- Bytes that are no text have no characters.
    cases h
    cases hchars
  | case4 s =>
    cases h
    cases hchars
    exact .close _
  | case7 s d t hescape hlt found' rest' hread hquote ih =>
    cases h
    obtain ⟨cs, hcs, rfl⟩ := Option.map_eq_some_iff.1 hchars
    exact .of_readEscape hescape (ih hread hcs)
  | case10 c s hquote hslash hcontrol found' rest' hread ih =>
    cases h
    obtain ⟨cs, hcs, rfl⟩ := Option.map_eq_some_iff.1 hchars
    exact .plain ⟨hquote, hslash, Nat.not_lt.1 hcontrol⟩ (ih hread hcs)

theorem Denotes.of_readString {text : String} {s rest : Input}
    (h : readString s = .ok (text, rest)) :
    ∃ t, s = .char '"' :: t ∧ Denotes text.toList t rest := by
  rw [readString.eq_def] at h
  split at h
  · rename_i t
    split at h
    · cases h
    · rename_i hbody
      cases h
      rw [readBody] at hbody
      split at hbody
      · cases hbody
      · rename_i hsymbols
        split at hbody
        · rename_i hchars
          cases hbody
          refine ⟨t, rfl, ?_⟩
          rw [String.toList_ofList]
          exact .of_readSymbols hsymbols hchars
        · cases hbody
  · cases h

theorem exists_of_scanSigned {token : Token} {s rest : Input}
    (h : scanSigned s = .ok (token, rest)) :
    ∃ text, Numeral token text ∧ s = text.map .char ++ rest := by
  rw [scanSigned.eq_def] at h
  split at h
  · obtain ⟨text, htext, rfl, hsign⟩ := eq_of_scan h
    exact ⟨'-' :: text, .negative hsign htext, rfl⟩
  · obtain ⟨text, htext, rfl, hsign⟩ := eq_of_scan h
    exact ⟨text, .positive hsign htext, rfl⟩

theorem Spells.of_readNumber {n : Number} {s rest : Input} (h : readNumber s = .ok (n, rest))
    (room : Nat) : Spells room (.number n) s rest := by
  rw [readNumber_eq] at h
  split at h
  · cases h
  · rename_i hscan
    split at h
    · rename_i hvalue
      cases h
      obtain ⟨text, numeral, rfl⟩ := exists_of_scanSigned hscan
      exact .number room numeral hvalue rest
    · cases h

/-! ### Items -/

theorem Space.of_afterComma {close : Char} {s rest : Input}
    (h : afterComma close s = .ok rest) : Space s rest := by
  simp only [afterComma] at h
  split at h
  · cases h
  · cases h
    exact Space.of_skipSpace s

section Items

variable {α : Type} {item : Input → Except Fault (α × Input)} {P : α → Input → Input → Prop}
  {xs : List α} {s rest : Input}
  (hitem : ∀ s x rest, item s = .ok (x, rest) → ∃ t, Space s t ∧ P x t rest)

include hitem in
theorem exists_of_moreItems {bound : Nat} (h : moreItems item bound s = .ok (xs, rest)) :
    ∃ (items : List (α × Span)) (t : Input), items.map (·.1) = xs ∧
      More ItemAt (items.map (·.2)) s t ∧ Space t (.char ']' :: rest) ∧
      ∀ item ∈ items, P item.1 item.2.1 item.2.2 := by
  fun_induction moreItems item bound s generalizing xs rest with
  | case1 | case2 | case4 | case5 | case6 | case8 => cases h
  | case3 bound s rest heq =>
    cases h
    exact ⟨[], s, rfl, .nil s, heq ▸ Space.of_skipSpace s, List.forall_mem_nil _⟩
  | case7 bound s behind heq t hcomma x u hx ys rest' hmore ih =>
    cases h
    obtain ⟨items, v, hxs, more, close, hitems⟩ := ih hmore
    obtain ⟨start, space, hstart⟩ := hitem t x u hx
    have comma : Mark ',' s start :=
      ⟨heq ▸ Space.of_skipSpace s, (Space.of_afterComma hcomma).trans space⟩
    refine ⟨(x, start, u) :: items, v, congrArg (x :: ·) hxs, .cons comma rfl more, close, ?_⟩
    exact List.forall_mem_cons.2 ⟨hstart, hitems⟩

include hitem in
/-- What is read as an array is one, with items as they are read. -/
theorem exists_of_readItems (h : readItems item s = .ok (xs, rest)) :
    ∃ items : List (α × Span), items.map (·.1) = xs ∧
      Laid ItemAt '[' ']' (items.map (·.2)) (.char '[' :: s) rest ∧
      ∀ item ∈ items, P item.1 item.2.1 item.2.2 := by
  have hspace := Space.of_skipSpace s
  rw [readItems] at h
  split at h
  · cases h
  · rename_i heq
    cases h
    exact ⟨[], rfl, .empty (heq ▸ hspace), List.forall_mem_nil _⟩
  · split at h
    · cases h
    · rename_i x u hx
      split at h
      · cases h
      · rename_i hmore
        cases h
        obtain ⟨items, v, hxs, more, close, hitems⟩ := exists_of_moreItems hitem hmore
        obtain ⟨start, space, hstart⟩ := hitem _ x u hx
        refine ⟨(x, start, u) :: items, congrArg (x :: ·) hxs,
          .elements (hspace.trans space) rfl more close, ?_⟩
        exact List.forall_mem_cons.2 ⟨hstart, hitems⟩

end Items

/-! ### Members -/

section Members

variable {σ : Type} {member : σ → String → Input → Except Fault (σ × Input)}
  {Step : σ → String × Span → σ → Prop} {state next last : σ} {s rest : Input}
  (hstep : ∀ state name s next rest, member state name s = .ok (next, rest) →
    ∃ value, Mark ':' s value ∧ Step state (name, value, rest) next)

include hstep in
theorem exists_of_readMember (h : readMember member state s = .ok (next, rest)) :
    ∃ named t, Space s t ∧ NamedAt named t rest ∧ Step state named next := by
  have hspace := Space.of_skipSpace s
  rw [readMember] at h
  split at h
  · cases h
  · split at h
    · cases h
    · rename_i name v hname
      obtain ⟨u, heq, named⟩ := Denotes.of_readString hname
      obtain ⟨value, colon, hnext⟩ := hstep _ _ _ _ _ h
      exact ⟨_, _, heq ▸ hspace, .mk named colon, hnext⟩

include hstep in
theorem exists_of_moreMembers {bound : Nat}
    (h : moreMembers member bound state s = .ok (last, rest)) :
    ∃ members t, More NamedAt members s t ∧ Space t (.char '}' :: rest) ∧
      Leads Step state members last := by
  fun_induction moreMembers member bound state s with
  | case1 | case2 | case4 | case5 | case7 => cases h
  | case3 bound state s rest heq =>
    cases h
    exact ⟨[], s, .nil s, heq ▸ Space.of_skipSpace s, .nil _⟩
  | case6 bound state s behind heq t hcomma next u hread ih =>
    obtain ⟨members, v, more, close, leads⟩ := ih h
    obtain ⟨named, start, space, element, hnext⟩ := exists_of_readMember hstep hread
    have comma : Mark ',' s start :=
      ⟨heq ▸ Space.of_skipSpace s, (Space.of_afterComma hcomma).trans space⟩
    exact ⟨named :: members, v, .cons comma element more, close, .cons hnext leads⟩

include hstep in
/-- What is read as an object is one, and its members are steps of whoever collects them. -/
theorem exists_of_readMembers (h : readMembers member state s = .ok (last, rest)) :
    ∃ members, Laid NamedAt '{' '}' members (.char '{' :: s) rest ∧
      Leads Step state members last := by
  have hspace := Space.of_skipSpace s
  rw [readMembers] at h
  split at h
  · cases h
  · rename_i heq
    cases h
    exact ⟨[], .empty (heq ▸ hspace), .nil _⟩
  · split at h
    · cases h
    · rename_i next u hread
      obtain ⟨members, v, more, close, leads⟩ := exists_of_moreMembers hstep h
      obtain ⟨named, start, space, element, hnext⟩ := exists_of_readMember hstep hread
      exact ⟨named :: members, .elements (hspace.trans space) element more close,
        .cons hnext leads⟩

end Members

/-! ### Values -/

/-- A member is a step that adds a value that its text spells. -/
def Adds {σ : Type} (room : Nat) (add : σ → String → Json → σ) (state : σ)
    (named : String × Span) (next : σ) : Prop :=
  ∃ x, Spells room x named.2.1 named.2.2 ∧ next = add state named.1 x

section Values

variable {σ : Type} {room : Nat} {add : σ → String → Json → σ} {state last : σ} {s rest : Input}

theorem exists_of_leads_adds {members : List (String × Span)}
    (leads : Leads (Adds room add) state members last) :
    ∃ valued : List ((String × Json) × Span),
      valued.map (fun member ↦ (member.1.1, member.2)) = members ∧
        (valued.map (·.1)).foldl (fun state pair ↦ add state pair.1 pair.2) state = last ∧
        ∀ member ∈ valued, Spells room member.1.2 member.2.1 member.2.2 := by
  induction leads with
  | nil state => exact ⟨[], rfl, rfl, List.forall_mem_nil _⟩
  | @cons state next last named members h hs ih =>
    obtain ⟨x, hx, rfl⟩ := h
    obtain ⟨valued, hmembers, hlast, hvalued⟩ := ih
    obtain ⟨name, value⟩ := named
    exact ⟨((name, x), value) :: valued, congrArg ((name, value) :: ·) hmembers, hlast,
      List.forall_mem_cons.2 ⟨hx, hvalued⟩⟩

/-- The members that a reader of values puts away are those of an object. -/
theorem exists_of_readMembers_values
    (hvalue : ∀ s x rest, readValue room s = .ok (x, rest) → ∃ t, Space s t ∧ Spells room x t rest)
    (h : readMembers (valueMember (readValue room) add) state s = .ok (last, rest)) :
    ∃ valued : List ((String × Json) × Span),
      Laid NamedAt '{' '}' (valued.map fun member ↦ (member.1.1, member.2)) (.char '{' :: s) rest ∧
        (valued.map (·.1)).foldl (fun state pair ↦ add state pair.1 pair.2) state = last ∧
        ∀ member ∈ valued, Spells room member.1.2 member.2.1 member.2.2 := by
  have hstep : ∀ state name s next rest,
      valueMember (readValue room) add state name s = .ok (next, rest) →
        ∃ value, Mark ':' s value ∧ Adds room add state (name, value, rest) next := by
    intro state name s next rest hmember
    rw [valueMember] at hmember
    split at hmember
    · cases hmember
    · rename_i behind hcolon
      split at hmember
      · cases hmember
      · rename_i x _ hread
        cases hmember
        obtain ⟨value, space, spelled⟩ := hvalue behind x _ hread
        exact ⟨value, ⟨.of_readColon hcolon, space⟩, x, spelled, rfl⟩
  obtain ⟨members, laid, leads⟩ := exists_of_readMembers hstep h
  obtain ⟨valued, rfl, hlast, hvalued⟩ := exists_of_leads_adds leads
  exact ⟨valued, laid, hlast, hvalued⟩

/-- A value is read only from a text that spells it. -/
theorem Spells.of_readValue {x : Json} (h : readValue room s = .ok (x, rest)) :
    ∃ t, Space s t ∧ Spells room x t rest := by
  -- Only two of the cases read with less room, so the cases are split below the induction.
  induction room using Nat.strongRecOn generalizing s x rest with
  | ind room ih =>
    have hspace := Space.of_skipSpace s
    rw [readValue.eq_def] at h
    split at h
    · cases h
    · cases h
    · rename_i c t heq
      rw [heq] at hspace
      refine ⟨.char c :: t, hspace, ?_⟩
      split at h
      · rename_i hc
        obtain ⟨_, hread, hx⟩ := exists_of_map_eq_ok h
        cases hx
        rw [hc, eq_of_readLiteral hread]
        exact .null room rest
      split at h
      · rename_i hc
        obtain ⟨_, hread, hx⟩ := exists_of_map_eq_ok h
        cases hx
        rw [hc, eq_of_readLiteral hread]
        exact .bool room true rest
      split at h
      · rename_i hc
        obtain ⟨_, hread, hx⟩ := exists_of_map_eq_ok h
        cases hx
        rw [hc, eq_of_readLiteral hread]
        exact .bool room false rest
      split at h
      · obtain ⟨⟨n, _⟩, hread, hx⟩ := exists_of_map_eq_ok h
        cases hx
        exact .of_readNumber hread room
      split at h
      · obtain ⟨⟨text, _⟩, hread, hx⟩ := exists_of_map_eq_ok h
        cases hx
        obtain ⟨u, hu, denotes⟩ := Denotes.of_readString hread
        rw [hu, ← String.ofList_toList (s := text)]
        exact .string room denotes
      split at h
      · rename_i hc
        cases room with
        | zero => cases h
        | succ room =>
          obtain ⟨⟨xs, _⟩, hread, hx⟩ := exists_of_map_eq_ok h
          cases hx
          obtain ⟨items, rfl, laid, hitems⟩ :=
            exists_of_readItems (fun _ _ _ ↦ ih room (Nat.lt_succ_self room)) hread
          rw [hc]
          exact .array hitems laid
      split at h
      · rename_i hc
        cases room with
        | zero => cases h
        | succ room =>
          obtain ⟨⟨members, _⟩, hread, hx⟩ := exists_of_map_eq_ok h
          cases hx
          obtain ⟨valued, laid, rfl, hvalued⟩ :=
            exists_of_readMembers_values (fun _ _ _ ↦ ih room (Nat.lt_succ_self room)) hread
          rw [hc]
          exact .object hvalued laid
      · cases h

end Values

end Workbench.Json
