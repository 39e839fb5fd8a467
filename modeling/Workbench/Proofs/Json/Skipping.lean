import Workbench.Proofs.Json.Scalars

/-!
# Values that are passed over

A value is passed over exactly if it is well formed, whatever it is and however deep it nests. What
is left to pass over is not one value but what completes all open containers, so both directions
speak of a stack: a value in front of it leaves the stack as it is, and what has been passed over in
the end completes it (`Completes`).
-/

namespace Workbench.Json

open Text (Symbol)

section Steps

variable {stack : List Frame} {s rest : Input} {c : Char}

/-! ### Steps of passing over -/

theorem skip_value (h : skipSpace s = .char c :: rest) :
    skip .value stack s =
      if c = '[' then skip .opened (.array :: stack) rest
      else if c = '{' then skip .opened (.object :: stack) rest
      else
        match skipScalar c rest with
        | .error fault => .error fault
        | .ok rest => skip .closed stack rest := by
  rw [skip]
  split
  · rename_i heq
    cases heq.symm.trans h
  · rename_i heq
    cases heq.symm.trans h
  · rename_i heq
    cases heq.symm.trans h
    split
    · rfl
    split
    · rfl
    split <;> simp_all

theorem skip_opened_array_close (h : skipSpace s = .char ']' :: rest) :
    skip .opened (.array :: stack) s = skip .closed stack rest := by
  rw [skip]
  split <;> simp_all

theorem skip_opened_array_value (h : skipSpace s = .char c :: rest) (hc : c ≠ ']') :
    skip .opened (.array :: stack) s = skip .value (.array :: stack) s := by
  conv_lhs => rw [skip]
  split
  · rename_i heq
    cases heq.symm.trans h
  · rename_i heq
    cases heq.symm.trans h
    exact absurd rfl hc
  · rfl

theorem skip_opened_object_close (h : skipSpace s = .char '}' :: rest) :
    skip .opened (.object :: stack) s = skip .closed stack rest := by
  rw [skip]
  split <;> simp_all

theorem skip_opened_object_key (h : skipSpace s = .char c :: rest) (hc : c ≠ '}') {behind : Input}
    (hkey : skipKey s = .ok behind) :
    skip .opened (.object :: stack) s = skip .value (.object :: stack) behind := by
  conv_lhs => rw [skip]
  split
  · rename_i heq
    cases heq.symm.trans h
  · rename_i heq
    cases heq.symm.trans h
    exact absurd rfl hc
  · split
    · rename_i heq
      cases heq.symm.trans hkey
    · rename_i heq
      cases heq.symm.trans hkey
      rfl

theorem skip_closed_array_close (h : skipSpace s = .char ']' :: rest) :
    skip .closed (.array :: stack) s = skip .closed stack rest := by
  rw [skip]
  split <;> simp_all

theorem skip_closed_array_comma (h : skipSpace s = .char ',' :: rest) :
    skip .closed (.array :: stack) s = skip .value (.array :: stack) rest := by
  conv_lhs => rw [skip]
  split <;> simp_all

theorem skip_closed_object_close (h : skipSpace s = .char '}' :: rest) :
    skip .closed (.object :: stack) s = skip .closed stack rest := by
  rw [skip]
  split <;> simp_all

theorem skip_closed_object_comma (h : skipSpace s = .char ',' :: rest) {behind : Input}
    (hkey : skipKey rest = .ok behind) :
    skip .closed (.object :: stack) s = skip .value (.object :: stack) behind := by
  conv_lhs => rw [skip]
  split
  · rename_i heq
    cases heq.symm.trans h
  · rename_i heq
    cases heq.symm.trans h
  · rename_i heq
    cases heq.symm.trans h
    split
    · rename_i heq
      cases heq.symm.trans hkey
    · rename_i heq
      cases heq.symm.trans hkey
      rfl
  · rename_i hcomma
    exact absurd h (hcomma _)

theorem skip_value_scalar (h : skipSpace s = .char c :: rest) (harray : c ≠ '[') (hobject : c ≠ '{')
    {behind : Input} (hscalar : skipScalar c rest = .ok behind) :
    skip .value stack s = skip .closed stack behind := by
  rw [skip_value h, if_neg harray, if_neg hobject, hscalar]

end Steps

/-! ### Values of the grammar are passed over -/

/-- A value starts with a character that is neither space nor the end of an array. -/
theorem Formed.starts {s rest : Input} (h : Formed s rest) :
    ∃ c t, s = .char c :: t ∧ c ∉ [' ', '\t', '\n', '\r', ']'] := by
  cases h with
  | literal hword rest =>
    simp only [List.mem_cons, List.not_mem_nil, or_false] at hword
    rcases hword with rfl | rfl | rfl
    · exact ⟨'n', _, rfl, by decide⟩
    · exact ⟨'t', _, rfl, by decide⟩
    · exact ⟨'f', _, rfl, by decide⟩
  | number h rest =>
    obtain ⟨c, cs, rfl, hc⟩ := h.starts
    exact ⟨c, _, rfl, not_mem_of_startsNumber hc⟩
  | string h => exact ⟨'"', _, rfl, by decide⟩
  | array h laid => cases laid <;> exact ⟨'[', _, rfl, by decide⟩
  | object h laid => cases laid <;> exact ⟨'{', _, rfl, by decide⟩

section Passing

variable {stack : List Frame} {s rest : Input}

/-- Space in front of a value makes no difference. -/
theorem Space.skip_value_eq {t : Input} (h : Space s t) (ht : Formed t rest) :
    skip .value stack s = skip .value stack t := by
  obtain ⟨c, behind, rfl, hc⟩ := ht.starts
  simp only [List.mem_cons, not_or] at hc
  have hchar : skipSpace (.char c :: behind) = .char c :: behind :=
    Json.skipSpace_char (by simp [hc]) behind
  rw [Json.skip_value hchar, Json.skip_value (h.skipSpace_eq.trans hchar)]

theorem skip_literal {word : List Char}
    (h : word ∈ ["null".toList, "true".toList, "false".toList]) (rest : Input) :
    skip .value stack (word.map .char ++ rest) = skip .closed stack rest := by
  have hchar : ∀ c ∈ ['n', 't', 'f'], ∀ s : Input,
      skipSpace (.char c :: s) = .char c :: s ∧ c ≠ '[' ∧ c ≠ '{' := by
    intro c hc s
    simp only [List.mem_cons, List.not_mem_nil, or_false] at hc
    rcases hc with rfl | rfl | rfl <;> exact ⟨skipSpace_char (by decide) s, by decide, by decide⟩
  simp only [List.mem_cons, List.not_mem_nil, or_false] at h
  rcases h with rfl | rfl | rfl
  · obtain ⟨hspace, harray, hobject⟩ := hchar 'n' (by decide) (['u', 'l', 'l'].map .char ++ rest)
    exact skip_value_scalar hspace harray hobject rfl
  · obtain ⟨hspace, harray, hobject⟩ := hchar 't' (by decide) (['r', 'u', 'e'].map .char ++ rest)
    exact skip_value_scalar hspace harray hobject rfl
  · obtain ⟨hspace, harray, hobject⟩ :=
      hchar 'f' (by decide) (['a', 'l', 's', 'e'].map .char ++ rest)
    exact skip_value_scalar hspace harray hobject rfl

theorem skip_number {t : Token} {text : List Char} (h : Numeral t text)
    (hrest : endsNumber rest = true) :
    skip .value stack (text.map .char ++ rest) = skip .closed stack rest := by
  obtain ⟨c, cs, htext, hc⟩ := h.starts
  have hspace : skipSpace (text.map .char ++ rest) = .char c :: (cs.map .char ++ rest) := by
    rw [htext]
    exact skipSpace_of_startsNumber hc _
  have hscalar : skipScalar c (cs.map .char ++ rest) = .ok rest := by
    rw [skipScalar, if_neg (ne_of_startsNumber hc rfl), if_neg (ne_of_startsNumber hc rfl),
      if_neg (ne_of_startsNumber hc rfl)]
    cases h with
    | positive hsign h =>
      obtain ⟨c', cs', htext', hdigit, hminus⟩ := h.starts
      obtain ⟨rfl, rfl⟩ := List.cons.inj (htext'.symm.trans htext)
      rw [if_neg hminus, if_pos hdigit, ← List.cons_append, ← List.map_cons, ← htext', ← hsign,
        h.scan_eq hrest]
      rfl
    | negative hsign h =>
      obtain ⟨rfl, rfl⟩ := List.cons.inj htext
      rw [if_pos rfl, ← hsign, h.scan_eq hrest]
      rfl
  exact skip_value_scalar hspace (ne_of_startsNumber hc rfl) (ne_of_startsNumber hc rfl) hscalar

theorem skip_string (h : Passable s rest) :
    skip .value stack (.char '"' :: s) = skip .closed stack rest :=
  skip_value_scalar (skipSpace_char (by decide) s) (by decide) (by decide) h.skipBody_eq

theorem Mark.readColon_eq {t : Input} (h : Mark ':' s t) :
    ∃ behind, readColon s = .ok behind ∧ Space behind t := by
  obtain ⟨before, after⟩ := h
  refine ⟨_, ?_, after⟩
  rw [readColon, before.skipSpace_char (by decide)]
  rfl

/-- The name of a member and its colon are passed over up to the space in front of the value. -/
theorem skipKey_eq {t value : Input} (hspace : Space s (.char '"' :: t)) {u : Input}
    (named : Passable t u) (colon : Mark ':' u value) :
    ∃ behind, skipKey s = .ok behind ∧ Space behind value := by
  obtain ⟨behind, hcolon, hbehind⟩ := colon.readColon_eq
  refine ⟨behind, ?_, hbehind⟩
  rw [skipKey, hspace.skipSpace_char (by decide)]
  simp only [named.skipBody_eq, hcolon]

theorem skip_more_items {items : List Span} (hmore : More ItemAt items s rest)
    (hitems : ∀ value ∈ items, ∀ stack, endsNumber value.2 = true →
      skip .value stack value.1 = skip .closed stack value.2)
    (hformed : ∀ value ∈ items, Formed value.1 value.2) (hrest : endsNumber rest = true) :
    skip .closed (.array :: stack) s = skip .closed (.array :: stack) rest := by
  induction hmore with
  | nil s => rfl
  | @cons value items s t u rest comma element more ih =>
    obtain ⟨before, after⟩ := comma
    obtain rfl : value = (t, u) := element
    obtain ⟨hvalue, hitems⟩ := List.forall_mem_cons.1 hitems
    obtain ⟨hvalueFormed, hformed⟩ := List.forall_mem_cons.1 hformed
    rw [skip_closed_array_comma (before.skipSpace_char (by decide)),
      after.skip_value_eq hvalueFormed, hvalue _ (more.endsNumber hrest), ih hitems hformed hrest]

theorem skip_more_members {members : List (Unit × Span)}
    (hmore : More (MemberAt fun _ ↦ Passable) members s rest)
    (hmembers : ∀ member ∈ members, ∀ stack, endsNumber member.2.2 = true →
      skip .value stack member.2.1 = skip .closed stack member.2.2)
    (hformed : ∀ member ∈ members, Formed member.2.1 member.2.2)
    (hrest : endsNumber rest = true) :
    skip .closed (.object :: stack) s = skip .closed (.object :: stack) rest := by
  induction hmore with
  | nil s => rfl
  | cons comma element more ih =>
    obtain ⟨before, after⟩ := comma
    obtain ⟨named, colon⟩ := element
    obtain ⟨hvalue, hmembers⟩ := List.forall_mem_cons.1 hmembers
    obtain ⟨hvalueFormed, hformed⟩ := List.forall_mem_cons.1 hformed
    obtain ⟨behind, hkey, hbehind⟩ := skipKey_eq after named colon
    rw [skip_closed_object_comma (before.skipSpace_char (by decide)) hkey,
      hbehind.skip_value_eq hvalueFormed, hvalue _ (more.endsNumber hrest),
      ih hmembers hformed hrest]

/-- A value leaves the open containers as they are. -/
theorem Formed.skip_eq (h : Formed s rest) (hrest : endsNumber rest = true) :
    skip .value stack s = skip .closed stack rest := by
  -- On the value, for any stack: the values in a container are passed over with it on top.
  induction h generalizing stack with
  | literal hword rest => exact skip_literal hword rest
  | number h rest => exact skip_number h hrest
  | string h => exact skip_string h
  | @array items s rest h laid ih =>
    cases laid with
    | empty close =>
      rw [skip_value (skipSpace_char (by decide) _), if_pos rfl,
        skip_opened_array_close (close.skipSpace_char (by decide))]
    | @elements value items s t u v rest space first more close =>
      obtain rfl : value = (t, u) := first
      obtain ⟨hvalue, hitems⟩ := List.forall_mem_cons.1 ih
      obtain ⟨hvalueFormed, hformed⟩ := List.forall_mem_cons.1 h
      have hclose : endsNumber v = true := close.endsNumber rfl
      obtain ⟨c, behind, rfl, hc⟩ := hvalueFormed.starts
      simp only [List.mem_cons, not_or] at hc
      have hc' : c ∉ [' ', '\t', '\n', '\r'] := by simp [hc]
      rw [skip_value (skipSpace_char (by decide) _), if_pos rfl,
        skip_opened_array_value (space.skipSpace_char hc') hc.2.2.2.2.1,
        space.skip_value_eq hvalueFormed, hvalue (more.endsNumber hclose),
        skip_more_items more (fun value hmem _ ↦ hitems value hmem) hformed hclose,
        skip_closed_array_close (close.skipSpace_char (by decide))]
  | @object members s rest h laid ih =>
    cases laid with
    | empty close =>
      rw [skip_value (skipSpace_char (by decide) _), if_neg (by decide), if_pos rfl,
        skip_opened_object_close (close.skipSpace_char (by decide))]
    | @elements _ members _ _ _ v rest space first more close =>
      obtain ⟨named, colon⟩ := first
      obtain ⟨hvalue, hmembers⟩ := List.forall_mem_cons.1 ih
      obtain ⟨hvalueFormed, hformed⟩ := List.forall_mem_cons.1 h
      have hclose : endsNumber v = true := close.endsNumber rfl
      obtain ⟨behind, hkey, hbehind⟩ := skipKey_eq space named colon
      rw [skip_value (skipSpace_char (by decide) _), if_neg (by decide), if_pos rfl,
        skip_opened_object_key (space.skipSpace_char (by decide)) (by decide) hkey,
        hbehind.skip_value_eq hvalueFormed, hvalue (more.endsNumber hclose),
        skip_more_members more (fun member hmem _ ↦ hmembers member hmem) hformed hclose,
        skip_closed_object_close (close.skipSpace_char (by decide))]

/-- A value is passed over, with the space in front of it. -/
theorem Formed.skipValue_eq {t : Input} (space : Space s t) (h : Formed t rest)
    (hrest : endsNumber rest = true) : skipValue s = .ok rest := by
  have hend : skip .closed [] rest = .ok rest := by
    rw [skip]
    intro hplace
    cases hplace
  rw [skipValue, space.skip_value_eq h, h.skip_eq hrest, hend]

end Passing

/-! ### Nothing else is passed over -/

/-- A text starts with what completes the open containers, innermost first. -/
def Closes : List Frame → Input → Input → Prop
  | [], s, rest => s = rest
  | .array :: stack, s, rest => ∃ items t u, More ItemAt items s t ∧
      (∀ value ∈ items, Formed value.1 value.2) ∧ Space t (.char ']' :: u) ∧ Closes stack u rest
  | .object :: stack, s, rest => ∃ (members : List (Unit × Span)) (t u : Input),
      More (MemberAt fun _ ↦ Passable) members s t ∧
        (∀ member ∈ members, Formed member.2.1 member.2.2) ∧ Space t (.char '}' :: u) ∧
        Closes stack u rest

/-- A text starts with a value and what completes the open containers. -/
def ClosesValue (stack : List Frame) (s rest : Input) : Prop :=
  ∃ t u, Space s t ∧ Formed t u ∧ Closes stack u rest

/-- A text starts with what completes the open containers from this place on. -/
def Completes : Place → List Frame → Input → Input → Prop
  | .value, stack, s, rest => ClosesValue stack s rest
  | .closed, stack, s, rest => Closes stack s rest
  | .opened, [], s, rest => s = rest
  | .opened, .array :: stack, s, rest =>
    (∃ t, Space s (.char ']' :: t) ∧ Closes stack t rest) ∨ ClosesValue (.array :: stack) s rest
  | .opened, .object :: stack, s, rest =>
    (∃ t, Space s (.char '}' :: t) ∧ Closes stack t rest) ∨
      ∃ t u v, Space s (.char '"' :: t) ∧ Passable t u ∧ Space u (.char ':' :: v) ∧
        ClosesValue (.object :: stack) v rest

theorem eq_of_readLiteral {word : List Char} {s rest : Input}
    (h : readLiteral word s = .ok rest) : s = word.map .char ++ rest := by
  fun_induction readLiteral word s with
  | case1 s =>
    cases h
    rfl
  | case3 c word s ih => exact congrArg _ (ih h)
  | case2 | case4 | case5 => cases h

/-- A literal, a number or a string is passed over only if it is one. -/
theorem Formed.of_skipScalar {c : Char} {s rest : Input} (h : skipScalar c s = .ok rest) :
    Formed (.char c :: s) rest := by
  rw [skipScalar] at h
  split at h
  · rename_i hc
    have hword : "null".toList ∈ ["null".toList, "true".toList, "false".toList] := by simp
    rw [hc, eq_of_readLiteral h]
    exact .literal hword rest
  split at h
  · rename_i hc
    have hword : "true".toList ∈ ["null".toList, "true".toList, "false".toList] := by simp
    rw [hc, eq_of_readLiteral h]
    exact .literal hword rest
  split at h
  · rename_i hc
    have hword : "false".toList ∈ ["null".toList, "true".toList, "false".toList] := by simp
    rw [hc, eq_of_readLiteral h]
    exact .literal hword rest
  split at h
  · rename_i hc
    obtain ⟨⟨t, rest'⟩, hscan, rfl⟩ := exists_of_map_eq_ok h
    obtain ⟨text, htext, rfl, hsign⟩ := eq_of_scan hscan
    rw [hc]
    exact .number (.negative hsign htext) rest'
  split at h
  · obtain ⟨⟨t, rest'⟩, hscan, rfl⟩ := exists_of_map_eq_ok h
    obtain ⟨text, htext, heq, hsign⟩ := eq_of_scan hscan
    rw [heq]
    exact .number (.positive hsign htext) rest'
  split at h
  · rename_i hc
    rw [hc]
    exact .string (.of_skipBody h)
  · cases h

theorem Space.of_readColon {s rest : Input} (h : readColon s = .ok rest) :
    Space s (.char ':' :: rest) := by
  have hspace := Space.of_skipSpace s
  rw [readColon] at h
  split at h
  · cases h
  · rename_i heq
    cases h
    rwa [heq] at hspace
  · cases h

theorem exists_of_skipKey {s rest : Input} (h : skipKey s = .ok rest) :
    ∃ t u, Space s (.char '"' :: t) ∧ Passable t u ∧ Space u (.char ':' :: rest) := by
  have hspace := Space.of_skipSpace s
  rw [skipKey] at h
  split at h
  · cases h
  · rename_i t heq
    rw [heq] at hspace
    split at h
    · cases h
    · rename_i u hbody
      exact ⟨t, u, hspace, .of_skipBody hbody, .of_readColon h⟩
  · cases h

section Completing

variable {stack : List Frame} {s t rest : Input}

theorem closes_array (close : Space s (.char ']' :: t)) (h : Closes stack t rest) :
    Closes (.array :: stack) s rest :=
  ⟨[], s, t, .nil s, by simp, close, h⟩

theorem closes_object (close : Space s (.char '}' :: t)) (h : Closes stack t rest) :
    Closes (.object :: stack) s rest :=
  ⟨[], s, t, .nil s, by simp, close, h⟩

/-- An item behind a comma goes in front of the items that follow it. -/
theorem closes_array_comma (comma : Space s (.char ',' :: t))
    (h : ClosesValue (.array :: stack) t rest) : Closes (.array :: stack) s rest := by
  obtain ⟨value, u, space, formed, items, v, w, more, hitems, close, hstack⟩ := h
  exact ⟨(value, u) :: items, v, w, .cons ⟨comma, space⟩ rfl more,
    List.forall_mem_cons.2 ⟨formed, hitems⟩, close, hstack⟩

theorem closes_object_comma (comma : Space s (.char ',' :: t)) {name u behind : Input}
    (space : Space t (.char '"' :: name)) (named : Passable name u)
    (colon : Space u (.char ':' :: behind)) (h : ClosesValue (.object :: stack) behind rest) :
    Closes (.object :: stack) s rest := by
  obtain ⟨value, v, space', formed, members, w, x, more, hmembers, close, hstack⟩ := h
  exact ⟨((), value, v) :: members, w, x, .cons ⟨comma, space⟩ (.mk named ⟨colon, space'⟩) more,
    List.forall_mem_cons.2 ⟨formed, hmembers⟩, close, hstack⟩

/-- What completes an array that was just opened makes it a value. -/
theorem closesValue_array (space : Space s (.char '[' :: t))
    (h : Completes .opened (.array :: stack) t rest) : ClosesValue stack s rest := by
  rcases h with ⟨u, close, hstack⟩ | ⟨value, u, space', formed, items, v, w, more, hitems, close,
    hstack⟩
  · exact ⟨_, u, space, .array (List.forall_mem_nil _) (.empty close), hstack⟩
  · have hvalues : ∀ span ∈ ((value, u) :: items : List Span), Formed span.1 span.2 :=
      List.forall_mem_cons.2 ⟨formed, hitems⟩
    exact ⟨_, w, space, .array hvalues (.elements space' rfl more close), hstack⟩

theorem closesValue_object (space : Space s (.char '{' :: t))
    (h : Completes .opened (.object :: stack) t rest) : ClosesValue stack s rest := by
  rcases h with ⟨u, close, hstack⟩ | ⟨name, u, behind, space', named, colon, value, v, space'',
    formed, members, w, x, more, hmembers, close, hstack⟩
  · exact ⟨_, u, space, .object (List.forall_mem_nil _) (.empty close), hstack⟩
  · have hvalues : ∀ member ∈ (((), value, v) :: members : List (Unit × Span)),
        Formed member.2.1 member.2.2 :=
      List.forall_mem_cons.2 ⟨formed, hmembers⟩
    exact ⟨_, x, space,
      .object hvalues (.elements space' (.mk named ⟨colon, space''⟩) more close), hstack⟩

end Completing

/-- What is passed over completes the open containers. -/
theorem completes_of_skip {place : Place} {stack : List Frame} {s rest : Input}
    (h : skip place stack s = .ok rest) : Completes place stack s rest := by
  -- A step puts what it passes over in front of what completes the stack; other cases are faults.
  fun_induction skip place stack s with
  | case1 | case2 | case5 | case8 | case11 | case13 | case15 | case18 | case19 | case21 | case23 =>
    cases h
  | case3 s stack t heq _ ih => exact closesValue_array (heq ▸ Space.of_skipSpace s) (ih h)
  | case4 s stack t heq _ _ ih => exact closesValue_object (heq ▸ Space.of_skipSpace s) (ih h)
  | case6 s stack c t heq _ _ _ u hscalar _ ih =>
    exact ⟨.char c :: t, u, heq ▸ Space.of_skipSpace s, .of_skipScalar hscalar, ih h⟩
  | case7 place s hplace =>
    cases h
    cases place with
    | value => exact absurd rfl hplace
    | opened | closed => rfl
  | case9 s stack t heq _ ih => exact .inl ⟨t, heq ▸ Space.of_skipSpace s, ih h⟩
  | case10 s stack _ _ ih => exact .inr (ih h)
  | case12 s stack t heq _ ih => exact .inl ⟨t, heq ▸ Space.of_skipSpace s, ih h⟩
  | case14 s stack behind hkey _ _ _ ih =>
    obtain ⟨t, u, space, named, colon⟩ := exists_of_skipKey hkey
    exact .inr ⟨t, u, behind, space, named, colon, ih h⟩
  | case16 s stack t heq _ ih => exact closes_array (heq ▸ Space.of_skipSpace s) (ih h)
  | case17 s stack t heq _ ih => exact closes_array_comma (heq ▸ Space.of_skipSpace s) (ih h)
  | case20 s stack t heq _ ih => exact closes_object (heq ▸ Space.of_skipSpace s) (ih h)
  | case22 s stack t heq _ behind hkey _ ih =>
    obtain ⟨name, u, space, named, colon⟩ := exists_of_skipKey hkey
    exact closes_object_comma (heq ▸ Space.of_skipSpace s) space named colon (ih h)

/-- Only a well-formed value is passed over. -/
theorem exists_formed_of_skipValue {s rest : Input} (h : skipValue s = .ok rest) :
    ∃ t, Space s t ∧ Formed t rest := by
  obtain ⟨t, u, space, formed, heq⟩ := completes_of_skip h
  obtain rfl : u = rest := heq
  exact ⟨t, space, formed⟩

end Workbench.Json
