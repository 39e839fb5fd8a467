import Workbench.Proofs.Wire.Values

/-!
# The members of a message

A message is an object whose members are in part its fields and in part anything else. What is read
from it depends on its fields only: not on their order, and not on the members between them, of
which nothing but the grammar is checked. A field that occurs a second time is a fault at its name.

The loop over the members keeps one invariant, that the draft holds the fields so far; `Reading`
collects what this asks of a kind of message, and `FieldHandling` what follows from it. It is
followed in both directions: the members of the text of a message lead to the draft of its fields,
and members that lead to any draft are those of such a text.
-/

namespace Workbench

open Json (Fault Input Space Mark Span Denotes Formed Spells Laid Ahead NamedAt Leads Advances)

namespace Wire

/-! ### Fields that are given -/

section Given

variable {α : Type} {fields fields' : List (String × Json)} {name key : String} {x : Json}
  {value? : Json → Option α} {a : α} {value value' : Option α}

/-- What some fields say of one of them: its value, or nothing. -/
inductive Given (fields : List (String × Json)) (name : String) (value? : Json → Option α) :
    Option α → Prop
  | absent (h : name ∉ fields.map (·.1)) : Given fields name value? none
  | present {x : Json} {a : α} (h : (name, x) ∈ fields) (ha : value? x = some a) :
    Given fields name value? (some a)

/-- What some fields say of one of them, with what stands for it where it is absent. -/
def GivenOr (fields : List (String × Json)) (name : String) (value? : Json → Option α)
    (default a : α) : Prop :=
  ∃ value, Given fields name value? value ∧ a = value.getD default

theorem Given.isSome_iff (h : Given fields name value? value) :
    value.isSome = true ↔ name ∈ fields.map (·.1) := by
  cases h with
  | absent h => simp only [Option.isSome_none, Bool.false_eq_true, h]
  | present h ha =>
    simp only [Option.isSome_some, true_iff]
    exact List.mem_map_of_mem h

theorem Given.other (h : Given fields name value? value) (hne : name ≠ key) (x : Json) :
    Given (fields ++ [(key, x)]) name value? value := by
  cases h with
  | absent h =>
    refine .absent ?_
    rw [List.map_append, List.mem_append, not_or]
    exact ⟨h, by simpa using hne⟩
  | present h ha => exact .present (List.mem_append_left _ h) ha

theorem Given.last (fields : List (String × Json)) (name : String) (h : value? x = some a) :
    Given (fields ++ [(name, x)]) name value? (some a) :=
  .present (List.mem_append_right _ List.mem_cons_self) h

/-- A field that occurs once has one value, wherever it stands. -/
theorem Given.unique (h : Given fields name value? value) (h' : Given fields' name value? value')
    (hperm : fields.Perm fields') (honce : (fields.map (·.1)).Nodup) : value = value' := by
  have hmem : ∀ x, (name, x) ∈ fields → name ∈ fields.map (·.1) := fun x ↦ List.mem_map_of_mem
  cases h with
  | absent h =>
    cases h' with
    | absent h' => rfl
    | present h' ha' => exact absurd (hmem _ (hperm.mem_iff.2 h')) h
  | present h ha =>
    cases h' with
    | absent h' =>
      rw [← (hperm.map _).mem_iff] at h'
      exact absurd (hmem _ h) h'
    | present h' ha' =>
      have hsame := List.inj_on_of_nodup_map honce h (hperm.mem_iff.2 h') rfl
      cases hsame
      rw [← ha, ← ha']

theorem GivenOr.eq_getD {default : α} (h : GivenOr fields name value? default a)
    (hvalue : Given fields name value? value) (honce : (fields.map (·.1)).Nodup) :
    a = value.getD default := by
  obtain ⟨value', hvalue', rfl⟩ := h
  rw [hvalue.unique hvalue' (.refl fields) honce]

end Given

/-! ### The texts of messages -/

section Texts

variable (names : List String) (Typed : String → Json → Prop)

/-- Members give these fields. A member with one of the names is a field: its value is of its type,
and spelled as a value that is kept, with the containers that are left inside of a message. The
value of any other member is well formed, and nothing more. -/
inductive Gives : List (String × Span) → List (String × Json) → Prop
  | nil : Gives [] []
  | field {name : String} {x : Json} {s rest : Input} {members : List (String × Span)}
    {fields : List (String × Json)} (known : name ∈ names) (typed : Typed name x)
    (spelled : Spells (valueRoom + 1) x s rest) (others : Gives members fields) :
    Gives ((name, s, rest) :: members) ((name, x) :: fields)
  | other {name : String} {s rest : Input} {members : List (String × Span)}
    {fields : List (String × Json)} (unknown : name ∉ names) (formed : Formed s rest)
    (others : Gives members fields) : Gives ((name, s, rest) :: members) fields

/-- A text is an object that gives these fields, each of them once. -/
inductive MessageText : List (String × Json) → Input → Prop
  | mk {members : List (String × Span)} {fields : List (String × Json)} {s t rest : Input}
    (space : Space s t) (gives : Gives names Typed members fields)
    (once : (fields.map (·.1)).Nodup) (laid : Laid NamedAt '{' '}' members t rest)
    (trailing : Space rest []) : MessageText fields s

/-- A text starts with an object that gives these fields so far, each of them once, and is left in
front of another member. -/
inductive MessageAhead : List (String × Json) → Input → Input → Prop
  | mk {members : List (String × Span)} {fields : List (String × Json)} {s t rest : Input}
    (space : Space s t) (gives : Gives names Typed members fields)
    (once : (fields.map (·.1)).Nodup) (ahead : Ahead NamedAt '{' members t rest) :
    MessageAhead fields s rest

end Texts

variable {Typed : String → Json → Prop} {members : List (String × Span)}
  {fields : List (String × Json)}

theorem Gives.formed {names : List String} (h : Gives names Typed members fields) :
    ∀ member ∈ members, Formed member.2.1 member.2.2 := by
  induction h with
  | nil => exact List.forall_mem_nil _
  | field known typed spelled others ih => exact List.forall_mem_cons.2 ⟨spelled.formed, ih⟩
  | other unknown formed others ih => exact List.forall_mem_cons.2 ⟨formed, ih⟩

/-! ### Reading the members of a message -/

section Members

variable {δ α : Type} {record : Record δ α} {f : RecordField δ} {draft : δ} {name : String}
  {s t u v value rest : Input}

/-- The names of the fields of a kind of message. -/
def Record.names (record : Record δ α) : List String :=
  record.fields.map (·.name)

theorem Record.find?_of_mem_names (h : name ∈ record.names) :
    ∃ f ∈ record.fields, f.name = name ∧
      (record.fields.find? fun f ↦ f.name = name) = some f := by
  obtain ⟨f, hf, rfl⟩ := List.mem_map.1 h
  have hsome : (record.fields.find? fun g ↦ g.name = f.name).isSome = true :=
    List.find?_isSome.2 ⟨f, hf, by simp⟩
  obtain ⟨g, hfind⟩ := Option.isSome_iff_exists.1 hsome
  exact ⟨g, List.mem_of_find?_eq_some hfind, by simpa using List.find?_some hfind, hfind⟩

theorem Record.find?_of_not_mem_names (h : name ∉ record.names) :
    (record.fields.find? fun f ↦ f.name = name) = none := by
  refine List.find?_eq_none.2 fun f hf heq ↦ h ?_
  exact List.mem_map.2 ⟨f, hf, by simpa using heq⟩

theorem fieldMember_field (hfind : (record.fields.find? fun f ↦ f.name = name) = some f)
    (hgiven : f.isGiven draft = false) (colon : Mark ':' s value) :
    ∃ behind, Space behind value ∧
      fieldMember record.fields draft name s = f.read draft behind := by
  obtain ⟨behind, hcolon, hbehind⟩ := colon.readColon_eq
  refine ⟨behind, hbehind, ?_⟩
  rw [fieldMember, hfind]
  simp only [hgiven, Bool.false_eq_true, if_false, hcolon]

theorem fieldMember_given (hfind : (record.fields.find? fun f ↦ f.name = name) = some f)
    (hgiven : f.isGiven draft = true) (s : Input) :
    fieldMember record.fields draft name s =
      .error (.here (.duplicateField name) (afterBrace s)) := by
  rw [fieldMember, hfind]
  simp only [hgiven, if_true]

/-- A member that is no field leaves the draft as it is, if its value is passed over. -/
theorem fieldMember_other (draft : δ) (hunknown : name ∉ record.names)
    (colon : Mark ':' s value) :
    ∃ behind, Space behind value ∧
      fieldMember record.fields draft name s =
        (Json.skipValue behind).map fun rest ↦ (draft, rest) := by
  obtain ⟨behind, hcolon, hbehind⟩ := colon.readColon_eq
  refine ⟨behind, hbehind, ?_⟩
  rw [fieldMember, Record.find?_of_not_mem_names hunknown]
  simp only [hcolon]

/-- What the reader of a field makes of a draft: `read` reads its value, and `put` puts it there. -/
structure FieldReading (f : RecordField δ) (Typed : Json → Prop)
    (Drafted : List (String × Json) → δ → Prop) {β : Type}
    (read : Input → Except Fault (β × Input)) (value? : Json → Option β) (put : δ → β → δ) :
    Prop where
  readAs : ReadAs read value?
  eq (draft : δ) (s : Input) :
    f.read draft s = (read s).map fun found ↦ (put draft found.1, found.2)
  typed (x : Json) : Typed x ↔ (value? x).isSome = true
  drafted {fields : List (String × Json)} {draft : δ} {x : Json} {a : β}
    (h : Drafted fields draft) (ha : value? x = some a) :
    Drafted (fields ++ [(f.name, x)]) (put draft a)

/-- What a kind of message has to say of its drafts and of what they come to, for its members to be
read as they should. -/
structure Reading (record : Record δ α) (required : List String) (Typed : String → Json → Prop)
    (Drafted : List (String × Json) → δ → Prop) (Holds : List (String × Json) → α → Prop) :
    Prop where
  empty : Drafted [] record.empty
  isGiven {fields : List (String × Json)} {draft : δ} {f : RecordField δ}
    (h : Drafted fields draft) (hf : f ∈ record.fields) :
    f.isGiven draft = true ↔ f.name ∈ fields.map (·.1)
  field {f : RecordField δ} (hf : f ∈ record.fields) :
    ∃ (β : Type) (read : Input → Except Fault (β × Input)) (value? : Json → Option β)
      (put : δ → β → δ), FieldReading f (Typed f.name) Drafted read value? put
  unique {fields fields' : List (String × Json)} {draft draft' : δ} (h : Drafted fields draft)
    (h' : Drafted fields' draft') (hperm : fields.Perm fields')
    (once : (fields.map (·.1)).Nodup) : draft = draft'
  finish {fields : List (String × Json)} {draft : δ} (h : Drafted fields draft)
    (once : (fields.map (·.1)).Nodup) (m : α) : record.finish draft = .ok m ↔ Holds fields m
  complete {fields : List (String × Json)} {draft : δ} (h : Drafted fields draft) :
    (∃ m, record.finish draft = .ok m) ↔ ∀ name ∈ required, name ∈ fields.map (·.1)

/-- What a member does to a draft: a field that is not given yet is added, and any other member
leaves the draft as it is. -/
inductive FieldStep (record : Record δ α) (Typed : String → Json → Prop)
    (Drafted : List (String × Json) → δ → Prop) (draft : δ) : String × Span → δ → Prop
  | field {f : RecordField δ} {x : Json} {s rest : Input} {next : δ} (known : f ∈ record.fields)
    (new : f.isGiven draft = false) (typed : Typed f.name x)
    (spelled : Spells (valueRoom + 1) x s rest)
    (drafted : ∀ fields, Drafted fields draft → Drafted (fields ++ [(f.name, x)]) next) :
    FieldStep record Typed Drafted draft (f.name, s, rest) next
  | other {name : String} {s rest : Input} (unknown : name ∉ record.names)
    (formed : Formed s rest) : FieldStep record Typed Drafted draft (name, s, rest) draft

namespace Reading

variable {required : List String} {Drafted : List (String × Json) → δ → Prop}
  {Holds : List (String × Json) → α → Prop}

theorem not_mem_of_new (hr : Reading record required Typed Drafted Holds)
    (hdraft : Drafted fields draft) (hf : f ∈ record.fields) (hnew : f.isGiven draft = false) :
    f.name ∉ fields.map (·.1) := by
  rw [← hr.isGiven hdraft hf, hnew]
  exact Bool.false_ne_true

/-- The draft behind some members holds the fields that they give, beside those it held before. -/
theorem exists_leads (hr : Reading record required Typed Drafted Holds)
    (h : Gives record.names Typed members fields) {before : List (String × Json)}
    (hdraft : Drafted before draft) (once : ((before ++ fields).map (·.1)).Nodup) :
    ∃ next, Leads (Advances (fieldMember record.fields)) draft members next ∧
      Drafted (before ++ fields) next := by
  -- On the members, for any draft: what it holds moves from the members to `before`.
  induction h generalizing before draft with
  | nil =>
    rw [List.append_nil]
    exact ⟨draft, .nil draft, hdraft⟩
  | @field name x value rest members fields known typed spelled others ih =>
    obtain ⟨f, hf, rfl, hfind⟩ := Record.find?_of_mem_names known
    obtain ⟨β, read, value?, put, hfield⟩ := hr.field hf
    obtain ⟨a, ha⟩ := Option.isSome_iff_exists.1 ((hfield.typed x).1 typed)
    have hsplit : before ++ (f.name, x) :: fields = before ++ [(f.name, x)] ++ fields := by simp
    rw [hsplit] at once ⊢
    obtain ⟨last, hleads, hlast⟩ := ih (hfield.drafted hdraft ha) once
    -- The draft holds the fields before this one, and its name is none of theirs.
    have hnew : f.isGiven draft = false := by
      rw [← Bool.not_eq_true, hr.isGiven hdraft hf]
      intro hmem
      rw [List.map_append, List.map_append, List.append_assoc] at once
      exact List.disjoint_of_nodup_append once hmem (by simp)
    refine ⟨last, .cons (fun s colon hrest ↦ ?_) hleads, hlast⟩
    obtain ⟨behind, hbehind, heq⟩ := fieldMember_field hfind hnew colon
    rw [heq, hfield.eq, hfield.readAs.reads hbehind spelled ha hrest]
    rfl
  | other unknown formed others ih =>
    obtain ⟨last, hleads, hlast⟩ := ih hdraft once
    refine ⟨last, .cons (fun s colon hrest ↦ ?_) hleads, hlast⟩
    obtain ⟨behind, hbehind, heq⟩ := fieldMember_other draft unknown colon
    rw [heq, formed.skipValue_eq hbehind hrest]
    rfl

/-- A member that is read is a step of the draft. -/
theorem exists_fieldStep (hr : Reading record required Typed Drafted Holds) (draft : δ)
    (name : String) (s : Input) (next : δ) (rest : Input)
    (h : fieldMember record.fields draft name s = .ok (next, rest)) :
    ∃ value, Mark ':' s value ∧
      FieldStep record Typed Drafted draft (name, value, rest) next := by
  rw [fieldMember] at h
  split at h
  · rename_i hfind
    split at h
    · cases h
    · rename_i behind hcolon
      obtain ⟨_, hskip, heq⟩ := Json.exists_of_map_eq_ok h
      cases heq
      obtain ⟨value, space, formed⟩ := Json.exists_formed_of_skipValue hskip
      have hunknown : name ∉ record.names := by
        simpa [Record.names] using hfind
      exact ⟨value, ⟨.of_readColon hcolon, space⟩, .other hunknown formed⟩
  · rename_i f hfind
    split at h
    · cases h
    · rename_i hnew
      split at h
      · cases h
      · rename_i behind hcolon
        have hf : f ∈ record.fields := List.mem_of_find?_eq_some hfind
        obtain rfl : f.name = name := by simpa using List.find?_some hfind
        obtain ⟨β, read, value?, put, hfield⟩ := hr.field hf
        rw [hfield.eq] at h
        obtain ⟨⟨a, _⟩, hread, heq⟩ := Json.exists_of_map_eq_ok h
        cases heq
        obtain ⟨x, value, space, spelled, ha⟩ := hfield.readAs.spelled hread
        have typed : Typed f.name x := (hfield.typed x).2 (by rw [ha, Option.isSome_some])
        exact ⟨value, ⟨.of_readColon hcolon, space⟩, .field hf (Bool.not_eq_true _ ▸ hnew) typed
          spelled fun fields hfields ↦ hfield.drafted hfields ha⟩

/-- Members that are read give fields, none of which is given twice. -/
theorem exists_gives (hr : Reading record required Typed Drafted Holds) {last : δ}
    (leads : Leads (FieldStep record Typed Drafted) draft members last)
    {before : List (String × Json)} (hdraft : Drafted before draft)
    (once : (before.map (·.1)).Nodup) :
    ∃ fields, Gives record.names Typed members fields ∧
      ((before ++ fields).map (·.1)).Nodup := by
  induction leads generalizing before with
  | nil draft =>
    rw [← List.append_nil before] at once
    exact ⟨[], .nil, once⟩
  | cons h hs ih =>
    cases h with
    | @field f x s rest next known new typed spelled drafted =>
      -- A field is read only if its draft does not have it, so it is not among those before.
      have hnew := hr.not_mem_of_new hdraft known new
      have honce : ((before ++ [(f.name, x)]).map (·.1)).Nodup := by
        rw [List.map_append, List.nodup_append_comm]
        exact List.nodup_cons.2 ⟨hnew, once⟩
      obtain ⟨fields, hgives, hall⟩ := ih (drafted before hdraft) honce
      have hsplit : before ++ [(f.name, x)] ++ fields = before ++ (f.name, x) :: fields := by simp
      rw [hsplit] at hall
      exact ⟨(f.name, x) :: fields,
        .field (List.mem_map_of_mem known) typed spelled hgives, hall⟩
    | other unknown formed =>
      obtain ⟨fields, hgives, hall⟩ := ih hdraft once
      exact ⟨fields, .other unknown formed hgives, hall⟩

/-- An object that is read as a message is the text of one. -/
theorem exists_messageText (hr : Reading record required Typed Drafted Holds)
    (object : Space s (.char '{' :: t)) {m : α} (h : record.ofSymbols s = .ok m) :
    ∃ fields, MessageText record.names Typed fields s := by
  rw [Record.ofSymbols, Record.readStart, object.skipSpace_char (by decide)] at h
  split at h
  · cases h
  · rename_i m' rest hread
    have hend := Space.of_skipSpace rest
    rw [Json.atEnd] at h
    split at h
    · rename_i hskip
      rw [hskip] at hend
      obtain ⟨draft, hmembers, -⟩ := exists_of_close hread
      obtain ⟨members, laid, leads⟩ := Json.exists_of_readMembers hr.exists_fieldStep hmembers
      obtain ⟨fields, hgives, honce⟩ := hr.exists_gives leads hr.empty List.nodup_nil
      exact ⟨fields, .mk object hgives honce laid hend⟩
    · cases h

/-- A message is what the draft of its fields comes to. -/
theorem ofSymbols_eq (hr : Reading record required Typed Drafted Holds)
    (h : MessageText record.names Typed fields s) :
    ∃ draft rest, Drafted fields draft ∧ record.ofSymbols s =
      (record.finish draft).mapError fun field ↦ .here (.missingField field) rest := by
  obtain @⟨_, _, _, _, rest, space, gives, once, laid, trailing⟩ := h
  obtain ⟨draft, hleads, hdraft⟩ := hr.exists_leads gives hr.empty once
  obtain ⟨t, rfl, hread⟩ := Json.readMembers_laid laid gives.formed hleads
  refine ⟨draft, rest, hdraft, ?_⟩
  have hend : Json.skipSpace rest = [] := trailing.skipSpace_eq
  rw [Record.ofSymbols, Record.readStart, space.skipSpace_char (by decide)]
  simp only [hread, Record.close]
  cases record.finish draft with
  | ok m => exact if_pos hend
  | error field => rfl

/-- A message is given up where one of its members is not read. -/
theorem ofSymbols_ahead (hr : Reading record required Typed Drafted Holds)
    (h : MessageAhead record.names Typed fields s (.char '"' :: u))
    (named : Denotes name.toList u v) :
    ∃ draft, Drafted fields draft ∧
      ∀ fault, fieldMember record.fields draft name v = .error fault →
        record.ofSymbols s = .error fault := by
  obtain ⟨space, gives, once, ahead⟩ := h
  obtain ⟨draft, hleads, hdraft⟩ := hr.exists_leads gives hr.empty once
  refine ⟨draft, hdraft, fun fault hfault ↦ ?_⟩
  obtain ⟨t, rfl, hread⟩ := Json.readMembers_ahead ahead gives.formed hleads
    ((Json.readMember_quote named).trans hfault)
  rw [Record.ofSymbols, Record.readStart, space.skipSpace_char (by decide)]
  simp only [hread, Record.close]

end Reading

end Members

/-! ### What is read from the fields -/

/-- A reader of bytes handles the fields of a kind of message: `names` are the names of the fields,
`required` those that must be there, and `Holds` says what a message holds of its fields. -/
structure FieldHandling {α : Type} (names required : List String) (Typed : String → Json → Prop)
    (Holds : List (String × Json) → α → Prop) (decode : List UInt8 → Except Fault α) : Prop where
  /-- What is decoded holds the fields, and a message that holds them is what is decoded. -/
  holds {bytes : List UInt8} {fields : List (String × Json)}
    (h : MessageText names Typed fields (Text.symbols bytes)) (m : α) :
    decode bytes = .ok m ↔ Holds fields m
  /-- A message is decoded unless a field is missing that must be there. -/
  complete {bytes : List UInt8} {fields : List (String × Json)}
    (h : MessageText names Typed fields (Text.symbols bytes)) :
    (∃ m, decode bytes = .ok m) ↔ ∀ name ∈ required, name ∈ fields.map (·.1)
  /-- The order of the fields makes no difference, nor do the members between them, but for the
  place of a fault. -/
  reordered {bytes bytes' : List UInt8} {fields fields' : List (String × Json)}
    (h : MessageText names Typed fields (Text.symbols bytes))
    (h' : MessageText names Typed fields' (Text.symbols bytes')) (hperm : fields.Perm fields') :
    (decode bytes).mapError Fault.cause = (decode bytes').mapError Fault.cause
  /-- A field that occurs again is a fault of shape, whatever stands behind its name. -/
  repeated {bytes : List UInt8} {fields : List (String × Json)} {name : String} {u v : Input}
    (h : MessageAhead names Typed fields (Text.symbols bytes) (.char '"' :: u))
    (named : Denotes name.toList u v) (hgiven : name ∈ fields.map (·.1)) :
    ∃ fault, decode bytes = .error fault ∧ fault.cause = .duplicateField name ∧
      fault.kind = .mismatch
  /-- From an object nothing else is decoded: the value of a field is of its type, no field occurs
  twice, and the value of any other member is well formed. -/
  nothing_else {bytes : List UInt8} {t : Input}
    (object : Space (Text.symbols bytes) (.char '{' :: t)) {m : α} (h : decode bytes = .ok m) :
    ∃ fields, MessageText names Typed fields (Text.symbols bytes)

theorem Gives.mem_names {names : List String} (h : Gives names Typed members fields) :
    ∀ field ∈ fields, field.1 ∈ names := by
  induction h with
  | nil => exact List.forall_mem_nil _
  | field known typed spelled others ih => exact List.forall_mem_cons.2 ⟨known, ih⟩
  | other unknown formed others ih => exact ih

section Handling

variable {δ α : Type} {record : Record δ α} {required : List String}
  {Drafted : List (String × Json) → δ → Prop} {Holds : List (String × Json) → α → Prop}

theorem MessageText.once {names : List String} {s : Input}
    (h : MessageText names Typed fields s) : (fields.map (·.1)).Nodup := by
  obtain ⟨-, -, once, -, -⟩ := h
  exact once

theorem MessageAhead.mem_names {names : List String} {s rest : Input}
    (h : MessageAhead names Typed fields s rest) : ∀ name ∈ fields.map (·.1), name ∈ names := by
  obtain ⟨-, gives, -, -⟩ := h
  exact List.forall_mem_map.2 gives.mem_names

/-- A kind of message that is read from its drafts handles its fields. -/
theorem Reading.fieldHandling (hr : Reading record required Typed Drafted Holds) :
    FieldHandling record.names required Typed Holds
      fun bytes ↦ record.ofSymbols (Text.symbols bytes) where
  holds h m := by
    obtain ⟨draft, rest, hdraft, heq⟩ := hr.ofSymbols_eq h
    rw [heq, ← hr.finish hdraft h.once]
    cases record.finish draft <;> simp [Except.mapError]
  complete h := by
    obtain ⟨draft, rest, hdraft, heq⟩ := hr.ofSymbols_eq h
    simp only [heq, ← hr.complete hdraft]
    cases record.finish draft <;> simp [Except.mapError]
  reordered h h' hperm := by
    obtain ⟨draft, rest, hdraft, heq⟩ := hr.ofSymbols_eq h
    obtain ⟨draft', rest', hdraft', heq'⟩ := hr.ofSymbols_eq h'
    obtain rfl := hr.unique hdraft hdraft' hperm h.once
    simp only [heq, heq']
    cases record.finish draft <;> rfl
  repeated h named hgiven := by
    obtain ⟨draft, hdraft, hfault⟩ := hr.ofSymbols_ahead h named
    obtain ⟨f, hf, rfl, hfind⟩ := Record.find?_of_mem_names (h.mem_names _ hgiven)
    have hagain : f.isGiven draft = true := (hr.isGiven hdraft hf).2 hgiven
    exact ⟨_, hfault _ (fieldMember_given hfind hagain _), rfl, rfl⟩
  nothing_else object m h := hr.exists_messageText object h

end Handling

end Wire

end Workbench
