import Workbench.Proofs.Json.Skipping

/-!
# Values that are read

A value is read from each of its texts, whatever follows that does not go on a number. The members
of an object are read by whoever collects them: `Leads` says what they make of a state, a step a
member, and the loop over them depends on nothing else. So the loop is followed once, for the
members of a value and for the fields of a message.

The loops are bounded by the number of symbols that are left, so the lengths of the parts of a text
come first.
-/

namespace Workbench.Json

open Text (Symbol)

/-! ### What is kept could be passed over -/

theorem Denotes.passable {cs : List Char} {s rest : Input} (h : Denotes cs s rest) :
    Passable s rest := by
  induction h with
  | close rest => exact .close rest
  | plain hc h ih => exact .plain hc ih
  | letter hc h ih => exact .letter hc ih
  | code hex hn h ih => exact .code hex ih
  | pair hexHigh hexLow hhigh hlow h ih => exact .code hexHigh (.code hexLow ih)

section Mapping

variable {ε ε' : Type} {El : ε → Input → Input → Prop} {El' : ε' → Input → Input → Prop}
  {f : ε → ε'} {es : List ε} {s rest : Input}

theorem More.map (hmap : ∀ e s rest, El e s rest → El' (f e) s rest) (h : More El es s rest) :
    More El' (es.map f) s rest := by
  induction h with
  | nil s => exact .nil s
  | cons comma element more ih => exact .cons comma (hmap _ _ _ element) ih

theorem Laid.map {opening closing : Char} (hmap : ∀ e s rest, El e s rest → El' (f e) s rest)
    (h : Laid El opening closing es s rest) : Laid El' opening closing (es.map f) s rest := by
  cases h with
  | empty close => exact .empty close
  | elements space first more close =>
    exact .elements space (hmap _ _ _ first) (more.map hmap) close

end Mapping

/-- A member with a name in its quotes. -/
abbrev NamedAt : String × Span → Input → Input → Prop :=
  MemberAt fun name ↦ Denotes name.toList

/-- A value that could be kept is well formed. -/
theorem Spells.formed {room : Nat} {x : Json} {s rest : Input} (h : Spells room x s rest) :
    Formed s rest := by
  induction h with
  | null room rest => exact .literal (by simp) rest
  | bool room b rest =>
    cases b with
    | false => exact .literal (by simp [printBool]) rest
    | true => exact .literal (by simp [printBool]) rest
  | number room h hn rest => exact .number h rest
  | string room h => exact .string h.passable
  | array h laid ih => exact .array (List.forall_mem_map.2 ih) laid
  | object h laid ih =>
    have hmap : ∀ (member : String × Span) s rest, NamedAt member s rest →
        MemberAt (fun _ : Unit ↦ Passable) ((), member.2) s rest := by
      rintro _ _ _ ⟨named, colon⟩
      exact .mk named.passable colon
    exact .object (List.forall_mem_map.2 (List.forall_mem_map.2 ih)) (laid.map hmap)

/-! ### Lengths -/

theorem Space.length_le {s rest : Input} (h : Space s rest) : rest.length ≤ s.length := by
  induction h with
  | nil s => exact Nat.le_refl _
  | cons hc h ih => exact Nat.le_succ_of_le ih

theorem Mark.length_lt {c : Char} {s rest : Input} (h : Mark c s rest) :
    rest.length < s.length := by
  obtain ⟨before, after⟩ := h
  have hbefore := before.length_le
  rw [List.length_cons] at hbefore
  exact Nat.lt_of_lt_of_le (Nat.lt_succ_of_le after.length_le) hbefore

theorem Passable.length_le {s rest : Input} (h : Passable s rest) : rest.length ≤ s.length := by
  induction h with
  | close rest => exact Nat.le_succ _
  | stray n h ih => exact Nat.le_succ_of_le ih
  | plain hc h ih => exact Nat.le_succ_of_le ih
  | letter hc h ih => exact Nat.le_succ_of_le (Nat.le_succ_of_le ih)
  | code hex h ih =>
    obtain ⟨ha, hb, hc, hd, rest⟩ := hex
    simp only [List.length_cons]
    omega

section Lengths

variable {ε : Type} {El : ε → Input → Input → Prop} {es : List ε} {s rest : Input}

/-- Each further element takes at least its comma. -/
theorem More.length_le (hlength : ∀ e ∈ es, ∀ s rest, El e s rest → rest.length ≤ s.length)
    (h : More El es s rest) : es.length + rest.length ≤ s.length := by
  induction h with
  | nil s => simp
  | cons comma element more ih =>
    obtain ⟨hfirst, hothers⟩ := List.forall_mem_cons.1 hlength
    have hcomma := comma.length_lt
    have helement := hfirst _ _ element
    have hmore := ih hothers
    rw [List.length_cons]
    omega

theorem Laid.length_le {opening closing : Char}
    (hlength : ∀ e ∈ es, ∀ s rest, El e s rest → rest.length ≤ s.length)
    (h : Laid El opening closing es s rest) : rest.length ≤ s.length := by
  cases h with
  | empty close =>
    have hclose := close.length_le
    simp only [List.length_cons] at hclose ⊢
    omega
  | elements space first more close =>
    obtain ⟨hfirst, hothers⟩ := List.forall_mem_cons.1 hlength
    have hspace := space.length_le
    have helement := hfirst _ _ first
    have hmore := more.length_le hothers
    have hclose := close.length_le
    simp only [List.length_cons] at hclose ⊢
    omega

theorem ItemAt.length_le {value : Span} (hvalue : value.2.length ≤ value.1.length)
    (h : ItemAt value s rest) : rest.length ≤ s.length := by
  obtain rfl : value = (s, rest) := h
  exact hvalue

theorem MemberAt.length_le {κ : Type} {Name : κ → Input → Input → Prop} {member : κ × Span}
    (hname : ∀ name s rest, Name name s rest → rest.length ≤ s.length)
    (hvalue : member.2.2.length ≤ member.2.1.length) (h : MemberAt Name member s rest) :
    rest.length ≤ s.length := by
  obtain ⟨named, colon⟩ := h
  have hnamed := hname _ _ _ named
  have hcolon := colon.length_lt
  simp only [List.length_cons] at hvalue ⊢
  omega

end Lengths

theorem Formed.length_le {s rest : Input} (h : Formed s rest) : rest.length ≤ s.length := by
  induction h with
  | literal hword rest => simp
  | number h rest => simp
  | string h => exact Nat.le_succ_of_le h.length_le
  | array h laid ih => exact laid.length_le fun value hmem s rest ↦ ItemAt.length_le (ih value hmem)
  | object h laid ih =>
    exact laid.length_le fun member hmem s rest ↦
      MemberAt.length_le (fun _ _ _ ↦ Passable.length_le) (ih member hmem)

/-! ### Items -/

section Items

variable {α : Type} {read : Input → Except Fault (α × Input)} {items : List (α × Span)}
  {s rest : Input}

/-- A value is what is left behind a comma and the space around it. -/
theorem Formed.afterComma_eq {t : Input} (h : Formed t rest) (space : Space s t) :
    afterComma ']' s = .ok t := by
  obtain ⟨c, u, rfl, hc⟩ := h.starts
  simp only [List.mem_cons, not_or] at hc
  have hskip : skipSpace s = .char c :: u := space.skipSpace_char (by simp [hc])
  rw [afterComma, hskip]
  exact if_neg (by simp [hc])

theorem moreItems_more {behind : Input} (more : More ItemAt (items.map (·.2)) s rest)
    (hformed : ∀ item ∈ items, Formed item.2.1 item.2.2)
    (hread : ∀ item ∈ items, endsNumber item.2.2 = true →
      read item.2.1 = .ok (item.1, item.2.2))
    (close : Space rest (.char ']' :: behind)) {bound : Nat} (hbound : items.length < bound) :
    moreItems read bound s = .ok (items.map (·.1), behind) := by
  induction items generalizing s bound with
  | nil =>
    obtain ⟨bound, rfl⟩ := Nat.exists_eq_add_of_lt hbound
    cases more
    rw [List.length_nil, moreItems, close.skipSpace_char (by decide)]
    rfl
  | cons item items ih =>
    obtain ⟨bound, rfl⟩ := Nat.exists_eq_add_of_lt hbound
    cases more with
    | @cons _ _ _ t u _ comma element more =>
      obtain ⟨before, after⟩ := comma
      obtain ⟨x, value⟩ := item
      obtain rfl : value = (t, u) := element
      obtain ⟨hitemFormed, hformed⟩ := List.forall_mem_cons.1 hformed
      obtain ⟨hitem, hread⟩ := List.forall_mem_cons.1 hread
      have hu : endsNumber u = true := more.endsNumber (close.endsNumber rfl)
      have hmore := ih more hformed hread (Nat.lt_of_succ_lt_succ hbound)
      rw [moreItems, before.skipSpace_char (by decide)]
      simp only [hitemFormed.afterComma_eq after, hitem hu, hmore]
      rfl

/-- An array is read if its items are. -/
theorem readItems_laid (laid : Laid ItemAt '[' ']' (items.map (·.2)) s rest)
    (hformed : ∀ item ∈ items, Formed item.2.1 item.2.2)
    (hread : ∀ item ∈ items, endsNumber item.2.2 = true →
      read item.2.1 = .ok (item.1, item.2.2)) :
    ∃ t, s = .char '[' :: t ∧ readItems read t = .ok (items.map (·.1), rest) := by
  cases items with
  | nil =>
    cases laid with
    | empty close =>
      refine ⟨_, rfl, ?_⟩
      rw [readItems, close.skipSpace_char (by decide)]
      rfl
  | cons item items =>
    cases laid with
    | @elements _ _ s t u v _ space element more close =>
      obtain ⟨x, value⟩ := item
      obtain rfl : value = (t, u) := element
      obtain ⟨hitemFormed, hformed⟩ := List.forall_mem_cons.1 hformed
      obtain ⟨hitem, hread⟩ := List.forall_mem_cons.1 hread
      have hitem' := hitem (more.endsNumber (close.endsNumber rfl))
      have hbound : items.length < u.length := by
        have hvalues : ∀ value ∈ items.map (·.2), Formed value.1 value.2 :=
          List.forall_mem_map.2 hformed
        have hmore := more.length_le fun value hmem _ _ ↦
          ItemAt.length_le (hvalues value hmem).length_le
        have hclose := close.length_le
        rw [List.length_map] at hmore
        rw [List.length_cons] at hclose
        omega
      have hmore := moreItems_more more hformed hread close hbound
      obtain ⟨c, text, htext, hc⟩ := hitemFormed.starts
      simp only [List.mem_cons, not_or] at hc
      obtain rfl : t = .char c :: text := htext
      refine ⟨s, rfl, ?_⟩
      rw [readItems, space.skipSpace_char (by simp [hc])]
      split
      · rename_i heq
        cases heq
      · rename_i heq
        cases heq
        exact absurd rfl hc.2.2.2.2.1
      · simp only [hitem', hmore]
        rfl

end Items

/-! ### Members -/

section Members

variable {σ : Type} {member : σ → String → Input → Except Fault (σ × Input)}
  {state last : σ} {members : List (String × Span)} {s t rest : Input} {bound : Nat}

/-- Members with these names and values lead from a state to another, a step a member. -/
inductive Leads (Step : σ → String × Span → σ → Prop) : σ → List (String × Span) → σ → Prop
  | nil (state : σ) : Leads Step state [] state
  | cons {state next last : σ} {named : String × Span} {members : List (String × Span)}
    (h : Step state named next) (hs : Leads Step next members last) :
    Leads Step state (named :: members) last

/-- A reader of one member, which starts at the colon, makes a step with a name and a value. -/
def Advances (member : σ → String → Input → Except Fault (σ × Input)) (state : σ)
    (named : String × Span) (next : σ) : Prop :=
  ∀ s, Mark ':' s named.2.1 → endsNumber named.2.2 = true →
    member state named.1 s = .ok (next, named.2.2)

theorem readMember_quote {name : String} (named : Denotes name.toList s rest) :
    readMember member state (.char '"' :: s) = member state name rest := by
  rw [readMember, skipSpace_char (by decide)]
  simp only [named.readString_eq, String.ofList_toList]

theorem moreMembers_mark (comma : Mark ',' s (.char '"' :: t)) :
    moreMembers member (bound + 1) state s =
      match readMember member state (.char '"' :: t) with
      | .error fault => .error fault
      | .ok (next, rest) => moreMembers member bound next rest := by
  obtain ⟨before, after⟩ := comma
  rw [moreMembers, before.skipSpace_char (by decide)]
  simp only [afterComma, after.skipSpace_char (c := '"') (by decide)]
  cases hread : readMember member state (.char '"' :: t) <;> simp [hread]

theorem readMembers_space (space : Space s (.char '"' :: t)) :
    readMembers member state s =
      match readMember member state (.char '"' :: t) with
      | .error fault => .error fault
      | .ok (next, rest) => moreMembers member rest.length next rest := by
  rw [readMembers, space.skipSpace_char (by decide)]
  rfl

/-- The members behind the first one are read up to where the loop goes on. -/
theorem moreMembers_more (more : More NamedAt members s rest)
    (leads : Leads (Advances member) state members last) (hrest : endsNumber rest = true)
    (bound : Nat) :
    moreMembers member (bound + members.length) state s = moreMembers member bound last rest := by
  induction more generalizing state with
  | nil s =>
    cases leads
    rfl
  | cons comma element more ih =>
    obtain ⟨named, colon⟩ := element
    cases leads with
    | cons h hs =>
      rw [List.length_cons, ← Nat.add_assoc, moreMembers_mark comma, readMember_quote named,
        h _ colon (more.endsNumber hrest)]
      exact ih hs hrest

/-- Members are read up to where the loop over them goes on, which is not at its bound. -/
theorem exists_readMembers_eq {first : String × Span} {u : Input} (space : Space s t)
    (element : NamedAt first t u) (more : More NamedAt members u rest)
    (hformed : ∀ member ∈ members, Formed member.2.1 member.2.2)
    (leads : Leads (Advances member) state (first :: members) last) (hrest : endsNumber rest = true)
    (hne : 0 < rest.length) :
    ∃ bound, readMembers member state s = moreMembers member (bound + 1) last rest := by
  obtain ⟨named, colon⟩ := element
  cases leads with
  | cons h hs =>
    have hlength := more.length_le fun member hmem _ _ ↦
      MemberAt.length_le (fun _ _ _ named ↦ named.passable.length_le)
        (hformed member hmem).length_le
    -- Every member takes a comma, and `rest` is left, so the symbols are more than the members.
    obtain ⟨bound, hu⟩ : ∃ bound, u.length = bound + 1 + members.length :=
      ⟨u.length - 1 - members.length, by omega⟩
    refine ⟨bound, ?_⟩
    rw [readMembers_space space, readMember_quote named, h _ colon (more.endsNumber hrest)]
    simp only [hu]
    exact moreMembers_more more hs hrest (bound + 1)

/-- An object is read if its members are. -/
theorem readMembers_laid (laid : Laid NamedAt '{' '}' members s rest)
    (hformed : ∀ member ∈ members, Formed member.2.1 member.2.2)
    (leads : Leads (Advances member) state members last) :
    ∃ t, s = .char '{' :: t ∧ readMembers member state t = .ok (last, rest) := by
  cases laid with
  | empty close =>
    cases leads
    refine ⟨_, rfl, ?_⟩
    rw [readMembers, close.skipSpace_char (by decide)]
    rfl
  | @elements _ members s _ _ v _ space element more close =>
    obtain ⟨-, hformed⟩ := List.forall_mem_cons.1 hformed
    have hv : 0 < v.length := Nat.zero_lt_of_lt close.length_le
    obtain ⟨bound, hread⟩ :=
      exists_readMembers_eq space element more hformed leads (close.endsNumber rfl) hv
    refine ⟨s, rfl, ?_⟩
    rw [hread, moreMembers, close.skipSpace_char (by decide)]
    rfl

/-- An object is given up at the first member that is not read. -/
theorem readMembers_ahead {fault : Fault} (ahead : Ahead NamedAt '{' members s (.char '"' :: rest))
    (hformed : ∀ member ∈ members, Formed member.2.1 member.2.2)
    (leads : Leads (Advances member) state members last)
    (hfault : readMember member last (.char '"' :: rest) = .error fault) :
    ∃ t, s = .char '{' :: t ∧ readMembers member state t = .error fault := by
  cases ahead with
  | first space =>
    cases leads
    refine ⟨_, rfl, ?_⟩
    rw [readMembers_space space, hfault]
  | @next _ members s _ _ v _ space element more comma =>
    obtain ⟨-, hformed⟩ := List.forall_mem_cons.1 hformed
    have hv : 0 < v.length := Nat.zero_lt_of_lt comma.length_lt
    have hend : endsNumber v = true := by
      obtain ⟨before, -⟩ := comma
      exact before.endsNumber rfl
    obtain ⟨bound, hread⟩ := exists_readMembers_eq space element more hformed leads hend hv
    refine ⟨s, rfl, ?_⟩
    rw [hread, moreMembers_mark comma, hfault]

/-- Members whose values are read one by one are put away in their order. -/
theorem leads_foldl {α : Type} {value : Input → Except Fault (α × Input)} {add : σ → String → α → σ}
    {members : List ((String × α) × Span)}
    (h : ∀ member ∈ members, ∀ s, Space s member.2.1 → endsNumber member.2.2 = true →
      value s = .ok (member.1.2, member.2.2)) (state : σ) :
    Leads (Advances (valueMember value add)) state (members.map fun member ↦ (member.1.1, member.2))
      ((members.map (·.1)).foldl (fun state pair ↦ add state pair.1 pair.2) state) := by
  induction members generalizing state with
  | nil => exact .nil state
  | cons member members ih =>
    obtain ⟨hmember, hmembers⟩ := List.forall_mem_cons.1 h
    refine .cons (fun s colon hrest ↦ ?_) (ih hmembers _)
    obtain ⟨behind, hcolon, hbehind⟩ := colon.readColon_eq
    rw [valueMember, hcolon]
    simp only [hmember behind hbehind hrest]

end Members

/-! ### Values -/

theorem Space.readValue_eq {s t : Input} (space : Space s t) (room : Nat) :
    readValue room s = readValue room t := by
  rw [readValue.eq_def, readValue.eq_def, space.skipSpace_eq]

/-- Members are put away if their values are read. -/
theorem readMembers_values {σ : Type} {room : Nat} {members : List ((String × Json) × Span)}
    {s rest : Input} (add : σ → String → Json → σ) (state : σ)
    (h : ∀ member ∈ members, Spells room member.1.2 member.2.1 member.2.2)
    (hread : ∀ member ∈ members, endsNumber member.2.2 = true →
      readValue room member.2.1 = .ok (member.1.2, member.2.2))
    (laid : Laid NamedAt '{' '}' (members.map fun member ↦ (member.1.1, member.2)) s rest) :
    ∃ t, s = .char '{' :: t ∧ readMembers (valueMember (readValue room) add) state t =
      .ok ((members.map (·.1)).foldl (fun state pair ↦ add state pair.1 pair.2) state, rest) := by
  have hvalue : ∀ member ∈ members, ∀ s, Space s member.2.1 → endsNumber member.2.2 = true →
      readValue room s = .ok (member.1.2, member.2.2) := fun member hmem s space hend ↦
    (space.readValue_eq room).trans (hread member hmem hend)
  have hformed : ∀ member ∈ members.map fun member ↦ (member.1.1, member.2),
      Formed member.2.1 member.2.2 :=
    List.forall_mem_map.2 fun member hmem ↦ (h member hmem).formed
  exact readMembers_laid laid hformed (leads_foldl hvalue state)

/-- A value is read from each of its texts. -/
theorem Spells.readValue_eq {room : Nat} {x : Json} {s rest : Input} (h : Spells room x s rest)
    (hrest : endsNumber rest = true) : readValue room s = .ok (x, rest) := by
  -- On the value: the loops over items and members take what is known of the values in them.
  induction h with
  | null room rest =>
    change readValue room (.char 'n' :: _) = _
    rw [readValue, skipSpace_char (by decide)]
    rfl
  | bool room b rest =>
    cases b with
    | false =>
      change readValue room (.char 'f' :: _) = _
      rw [readValue, skipSpace_char (by decide)]
      rfl
    | true =>
      change readValue room (.char 't' :: _) = _
      rw [readValue, skipSpace_char (by decide)]
      rfl
  | number room h hn rest =>
    obtain ⟨c, cs, rfl, hc⟩ := h.starts
    have hread := h.readNumber_eq hn hrest
    rw [List.map_cons, List.cons_append] at hread ⊢
    rw [readValue_number room hc, hread]
    rfl
  | string room h =>
    rw [readValue_string, h.readString_eq]
    rfl
  | array h laid ih =>
    obtain ⟨t, rfl, hread⟩ := readItems_laid laid (fun item hmem ↦ (h item hmem).formed) ih
    rw [readValue_array, hread]
    rfl
  | object h laid ih =>
    obtain ⟨t, rfl, hread⟩ :=
      readMembers_values (fun l key x ↦ Keyed.insert key x l) [] h ih laid
    rw [readValue_object, hread]
    rfl

end Workbench.Json
