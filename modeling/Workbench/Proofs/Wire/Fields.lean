import Workbench.Proofs.Wire.Members

/-!
# The fields of responses and requests

A response needs one of its five fields and has defaults for the others; a request needs all four.
Each field has its own type of value, and the drafts of both kinds hold their fields one by one, so
`Reading` is shown field by field.
-/

namespace Workbench

open Json (Input Denotes Formed Spells NamedAt)
open Wire

/-! ### Responses -/

/-- If this is a field of a response, the value is of its type. -/
structure Response.Typed (name : String) (x : Json) : Prop where
  ok : name = "ok" → (boolValue? x).isSome = true
  output : name = "output_text" → (textValue? x).isSome = true
  seconds : name = "elapsed_seconds" → (secondsValue? x).isSome = true
  bindings : name = "environment_out" → (bindingsValue? x).isSome = true
  lastValue : name = "last_value" → (textOrNullValue? x).isSome = true

/-- The draft holds the fields of a response so far. -/
structure Response.Draft.Holds (fields : List (String × Json)) (d : Response.Draft) : Prop where
  ok : Given fields "ok" boolValue? d.ok
  output : Given fields "output_text" textValue? d.output
  seconds : Given fields "elapsed_seconds" secondsValue? d.seconds
  bindings : Given fields "environment_out" bindingsValue? d.bindings
  lastValue : Given fields "last_value" textOrNullValue? d.lastValue

/-- The response holds these fields, and is as by default where one is absent. -/
structure Response.Holds (fields : List (String × Json)) (r : Response) : Prop where
  ok : Given fields "ok" boolValue? (some r.ok)
  output : GivenOr fields "output_text" textValue? "" r.output
  seconds : GivenOr fields "elapsed_seconds" secondsValue? 0 r.seconds
  bindings : GivenOr fields "environment_out" bindingsValue? ∅ r.bindings
  lastValue : GivenOr fields "last_value" textOrNullValue? none r.lastValue

theorem Response.finish_eq_ok_iff {d : Response.Draft} {r : Response} :
    Response.record.finish d = .ok r ↔ d.ok = some r.ok ∧ r.output = d.output.getD "" ∧
      r.seconds = d.seconds.getD 0 ∧ r.bindings = d.bindings.getD ∅ ∧
      r.lastValue = d.lastValue.getD none := by
  obtain ⟨ok, output, seconds, bindings, lastValue⟩ := d
  constructor
  · intro h
    cases ok <;> cases h
    exact ⟨rfl, rfl, rfl, rfl, rfl⟩
  · obtain ⟨_, _, _, _, _⟩ := r
    simp only
    rintro ⟨rfl, rfl, rfl, rfl, rfl⟩
    rfl

theorem Response.reading :
    Reading Response.record ["ok"] Response.Typed Response.Draft.Holds Response.Holds where
  empty := ⟨.absent (by simp), .absent (by simp), .absent (by simp), .absent (by simp),
    .absent (by simp)⟩
  isGiven h hf := by
    simp only [Response.record, List.mem_cons, List.not_mem_nil, or_false] at hf
    rcases hf with rfl | rfl | rfl | rfl | rfl
    · exact h.ok.isSome_iff
    · exact h.output.isSome_iff
    · exact h.seconds.isSome_iff
    · exact h.bindings.isSome_iff
    · exact h.lastValue.isSome_iff
  field hf := by
    simp only [Response.record, List.mem_cons, List.not_mem_nil, or_false] at hf
    rcases hf with rfl | rfl | rfl | rfl | rfl
    · refine ⟨_, readBool, boolValue?, fun d ok ↦ { d with ok := some ok }, ?_⟩
      refine ⟨readAs_bool, fun _ _ ↦ rfl, fun x ↦ ⟨fun h ↦ h.ok rfl, fun h ↦ ?_⟩,
        fun h hvalue ↦ ?_⟩
      · constructor <;> simp [h]
      · exact ⟨.last _ _ hvalue, h.output.other (by decide) _, h.seconds.other (by decide) _,
          h.bindings.other (by decide) _, h.lastValue.other (by decide) _⟩
    · refine ⟨_, readText, textValue?, fun d output ↦ { d with output := some output }, ?_⟩
      refine ⟨readAs_text, fun _ _ ↦ rfl, fun x ↦ ⟨fun h ↦ h.output rfl, fun h ↦ ?_⟩,
        fun h hvalue ↦ ?_⟩
      · constructor <;> simp [h]
      · exact ⟨h.ok.other (by decide) _, .last _ _ hvalue, h.seconds.other (by decide) _,
          h.bindings.other (by decide) _, h.lastValue.other (by decide) _⟩
    · refine ⟨_, readSeconds, secondsValue?, fun d seconds ↦ { d with seconds := some seconds }, ?_⟩
      refine ⟨readAs_seconds, fun _ _ ↦ rfl, fun x ↦ ⟨fun h ↦ h.seconds rfl, fun h ↦ ?_⟩,
        fun h hvalue ↦ ?_⟩
      · constructor <;> simp [h]
      · exact ⟨h.ok.other (by decide) _, h.output.other (by decide) _, .last _ _ hvalue,
          h.bindings.other (by decide) _, h.lastValue.other (by decide) _⟩
    · refine ⟨_, readBindings valueRoom, bindingsValue?,
        fun d bindings ↦ { d with bindings := some bindings }, ?_⟩
      refine ⟨readAs_bindings, fun _ _ ↦ rfl, fun x ↦ ⟨fun h ↦ h.bindings rfl, fun h ↦ ?_⟩,
        fun h hvalue ↦ ?_⟩
      · constructor <;> simp [h]
      · exact ⟨h.ok.other (by decide) _, h.output.other (by decide) _,
          h.seconds.other (by decide) _, .last _ _ hvalue, h.lastValue.other (by decide) _⟩
    · refine ⟨_, readTextOrNull, textOrNullValue?,
        fun d lastValue ↦ { d with lastValue := some lastValue }, ?_⟩
      refine ⟨readAs_textOrNull, fun _ _ ↦ rfl, fun x ↦ ⟨fun h ↦ h.lastValue rfl, fun h ↦ ?_⟩,
        fun h hvalue ↦ ?_⟩
      · constructor <;> simp [h]
      · exact ⟨h.ok.other (by decide) _, h.output.other (by decide) _,
          h.seconds.other (by decide) _, h.bindings.other (by decide) _, .last _ _ hvalue⟩
  unique {fields fields' draft draft'} h h' hperm once := by
    cases draft
    cases draft'
    simp only [Response.Draft.mk.injEq]
    exact ⟨h.ok.unique h'.ok hperm once, h.output.unique h'.output hperm once,
      h.seconds.unique h'.seconds hperm once, h.bindings.unique h'.bindings hperm once,
      h.lastValue.unique h'.lastValue hperm once⟩
  finish {fields draft} h once m := by
    rw [Response.finish_eq_ok_iff]
    constructor
    · rintro ⟨hok, houtput, hseconds, hbindings, hlast⟩
      exact ⟨hok ▸ h.ok, ⟨_, h.output, houtput⟩, ⟨_, h.seconds, hseconds⟩,
        ⟨_, h.bindings, hbindings⟩, ⟨_, h.lastValue, hlast⟩⟩
    · intro hm
      exact ⟨h.ok.unique hm.ok (.refl fields) once, hm.output.eq_getD h.output once,
        hm.seconds.eq_getD h.seconds once, hm.bindings.eq_getD h.bindings once,
        hm.lastValue.eq_getD h.lastValue once⟩
  complete {fields draft} h := by
    rw [List.forall_mem_singleton, ← h.ok.isSome_iff, Option.isSome_iff_exists]
    constructor
    · rintro ⟨r, hr⟩
      exact ⟨r.ok, (Response.finish_eq_ok_iff.1 hr).1⟩
    · rintro ⟨ok, hok⟩
      exact ⟨⟨ok, _, _, _, _⟩, Response.finish_eq_ok_iff.2 ⟨hok, rfl, rfl, rfl, rfl⟩⟩

/-! ### Requests -/

/-- If this is a field of a request, the value is of its type. -/
structure Request.Typed (name : String) (x : Json) : Prop where
  generation : name = "generation" → (naturalValue? x).isSome = true
  wholeProgram : name = "is_main_run" → (boolValue? x).isSome = true
  source : name = "source_text" → (textValue? x).isSome = true
  bindings : name = "environment_in" → (bindingsValue? x).isSome = true

/-- The draft holds the fields of a request so far. -/
structure Request.Draft.Holds (fields : List (String × Json)) (d : Request.Draft) : Prop where
  generation : Given fields "generation" naturalValue? d.generation
  wholeProgram : Given fields "is_main_run" boolValue? d.wholeProgram
  source : Given fields "source_text" textValue? d.source
  bindings : Given fields "environment_in" bindingsValue? d.bindings

/-- The request holds these fields. -/
structure Request.Holds (fields : List (String × Json)) (r : Request) : Prop where
  generation : Given fields "generation" naturalValue? (some r.generation)
  wholeProgram : Given fields "is_main_run" boolValue? (some r.wholeProgram)
  source : Given fields "source_text" textValue? (some r.source)
  bindings : Given fields "environment_in" bindingsValue? (some r.bindings)

theorem Request.finish_eq_ok_iff {d : Request.Draft} {r : Request} :
    Request.record.finish d = .ok r ↔ d.generation = some r.generation ∧
      d.wholeProgram = some r.wholeProgram ∧ d.source = some r.source ∧
      d.bindings = some r.bindings := by
  constructor
  · intro h
    obtain ⟨_ | generation, _ | wholeProgram, _ | source, _ | bindings⟩ := d <;> cases h
    exact ⟨rfl, rfl, rfl, rfl⟩
  · cases d
    rintro ⟨rfl, rfl, rfl, rfl⟩
    rfl

theorem Request.reading :
    Reading Request.record Request.record.names Request.Typed Request.Draft.Holds
      Request.Holds where
  empty := ⟨.absent (by simp), .absent (by simp), .absent (by simp), .absent (by simp)⟩
  isGiven h hf := by
    simp only [Request.record, List.mem_cons, List.not_mem_nil, or_false] at hf
    rcases hf with rfl | rfl | rfl | rfl
    · exact h.generation.isSome_iff
    · exact h.wholeProgram.isSome_iff
    · exact h.source.isSome_iff
    · exact h.bindings.isSome_iff
  field hf := by
    simp only [Request.record, List.mem_cons, List.not_mem_nil, or_false] at hf
    rcases hf with rfl | rfl | rfl | rfl
    · refine ⟨_, readNatural, naturalValue?,
        fun d generation ↦ { d with generation := some generation }, ?_⟩
      refine ⟨readAs_natural, fun _ _ ↦ rfl, fun x ↦ ⟨fun h ↦ h.generation rfl, fun h ↦ ?_⟩,
        fun h hvalue ↦ ?_⟩
      · constructor <;> simp [h]
      · exact ⟨.last _ _ hvalue, h.wholeProgram.other (by decide) _, h.source.other (by decide) _,
          h.bindings.other (by decide) _⟩
    · refine ⟨_, readBool, boolValue?,
        fun d wholeProgram ↦ { d with wholeProgram := some wholeProgram }, ?_⟩
      refine ⟨readAs_bool, fun _ _ ↦ rfl, fun x ↦ ⟨fun h ↦ h.wholeProgram rfl, fun h ↦ ?_⟩,
        fun h hvalue ↦ ?_⟩
      · constructor <;> simp [h]
      · exact ⟨h.generation.other (by decide) _, .last _ _ hvalue, h.source.other (by decide) _,
          h.bindings.other (by decide) _⟩
    · refine ⟨_, readText, textValue?, fun d source ↦ { d with source := some source }, ?_⟩
      refine ⟨readAs_text, fun _ _ ↦ rfl, fun x ↦ ⟨fun h ↦ h.source rfl, fun h ↦ ?_⟩,
        fun h hvalue ↦ ?_⟩
      · constructor <;> simp [h]
      · exact ⟨h.generation.other (by decide) _, h.wholeProgram.other (by decide) _,
          .last _ _ hvalue, h.bindings.other (by decide) _⟩
    · refine ⟨_, readBindings valueRoom, bindingsValue?,
        fun d bindings ↦ { d with bindings := some bindings }, ?_⟩
      refine ⟨readAs_bindings, fun _ _ ↦ rfl, fun x ↦ ⟨fun h ↦ h.bindings rfl, fun h ↦ ?_⟩,
        fun h hvalue ↦ ?_⟩
      · constructor <;> simp [h]
      · exact ⟨h.generation.other (by decide) _, h.wholeProgram.other (by decide) _,
          h.source.other (by decide) _, .last _ _ hvalue⟩
  unique {fields fields' draft draft'} h h' hperm once := by
    cases draft
    cases draft'
    simp only [Request.Draft.mk.injEq]
    exact ⟨h.generation.unique h'.generation hperm once,
      h.wholeProgram.unique h'.wholeProgram hperm once, h.source.unique h'.source hperm once,
      h.bindings.unique h'.bindings hperm once⟩
  finish {fields draft} h once m := by
    rw [Request.finish_eq_ok_iff]
    constructor
    · rintro ⟨hgeneration, hwhole, hsource, hbindings⟩
      exact ⟨hgeneration ▸ h.generation, hwhole ▸ h.wholeProgram, hsource ▸ h.source,
        hbindings ▸ h.bindings⟩
    · intro hm
      exact ⟨h.generation.unique hm.generation (.refl fields) once,
        h.wholeProgram.unique hm.wholeProgram (.refl fields) once,
        h.source.unique hm.source (.refl fields) once,
        h.bindings.unique hm.bindings (.refl fields) once⟩
  complete {fields draft} h := by
    have hnames : (∀ name ∈ Request.record.names, name ∈ fields.map (·.1)) ↔
        draft.generation.isSome = true ∧ draft.wholeProgram.isSome = true ∧
          draft.source.isSome = true ∧ draft.bindings.isSome = true := by
      rw [h.generation.isSome_iff, h.wholeProgram.isSome_iff, h.source.isSome_iff,
        h.bindings.isSome_iff]
      simp [Record.names, Request.record]
    simp only [hnames, Option.isSome_iff_exists]
    constructor
    · rintro ⟨r, hr⟩
      obtain ⟨hgeneration, hwhole, hsource, hbindings⟩ := Request.finish_eq_ok_iff.1 hr
      exact ⟨⟨_, hgeneration⟩, ⟨_, hwhole⟩, ⟨_, hsource⟩, ⟨_, hbindings⟩⟩
    · rintro ⟨⟨generation, hgeneration⟩, ⟨wholeProgram, hwhole⟩, ⟨source, hsource⟩,
        ⟨bindings, hbindings⟩⟩
      exact ⟨⟨generation, wholeProgram, source, bindings⟩,
        Request.finish_eq_ok_iff.2 ⟨hgeneration, hwhole, hsource, hbindings⟩⟩

/-! ### Both kinds of messages -/

/-- Responses and requests are read from their fields, in any order and among any other members. A
response needs only to say whether it is of success, and is as by default where a field is absent;
a request needs all its fields. -/
theorem messages_handle_fields :
    FieldHandling ["ok", "output_text", "elapsed_seconds", "environment_out", "last_value"] ["ok"]
        Response.Typed Response.Holds Response.decode ∧
      FieldHandling ["generation", "is_main_run", "source_text", "environment_in"]
        ["generation", "is_main_run", "source_text", "environment_in"] Request.Typed Request.Holds
        Request.decode :=
  ⟨Response.reading.fieldHandling, Request.reading.fieldHandling⟩

/-- Characters that need no escape denote themselves. -/
theorem Json.Denotes.of_plain {cs : List Char}
    (h : ∀ c ∈ cs, c ≠ '"' ∧ c ≠ '\\' ∧ 0x20 ≤ c.toNat) (rest : Input) :
    Denotes cs (cs.map .char ++ .char '"' :: rest) rest := by
  induction cs with
  | nil => exact .close rest
  | cons c cs ih =>
    obtain ⟨⟨hquote, hslash, hcontrol⟩, hcs⟩ := List.forall_mem_cons.1 h
    exact .plain ⟨hquote, hslash, hcontrol⟩ (ih hcs)

theorem Json.NamedAt.of_plain (name : String)
    (h : ∀ c ∈ name.toList, c ≠ '"' ∧ c ≠ '\\' ∧ 0x20 ≤ c.toNat) (value rest : Input) :
    NamedAt (name, value, rest)
      (.char '"' :: (name.toList.map .char ++ .char '"' :: .char ':' :: value)) rest :=
  .mk (.of_plain h _) ⟨.nil _, .nil _⟩

/-- A response of two fields behind a member that is passed over, in which a number is beyond the
greatest double; and one that says twice whether it is of success. -/
theorem messages_handle_fields_mixed :
    let mixed := "\x7b\"x\":[1e999],\"output_text\":\"a\",\"ok\":true\x7d".toList
    let twice := "\x7b\"ok\":true,\"ok\":".toList
    (MessageText Response.record.names Response.Typed
        [("output_text", .string "a"), ("ok", .bool true)] (Text.symbols (encode mixed)) ∧
        Response.decode (encode mixed) = .ok ⟨true, "a", 0, ∅, none⟩) ∧
      ∃ fault, Response.decode (encode twice) = .error fault ∧ fault.kind = .mismatch := by
  intro mixed twice
  let behindX : Input := ",\"output_text\":\"a\",\"ok\":true\x7d".toList.map .char
  let behindOutput : Input := ",\"ok\":true\x7d".toList.map .char
  let behindOk : Input := "\x7d".toList.map .char
  have hlarge : Formed ("1e999]".toList.map .char ++ behindX) (.char ']' :: behindX) := by
    have hnumeral : Json.Numeral ⟨false, [1], [], some ⟨false, [9, 9, 9]⟩⟩ "1e999".toList := by
      refine .positive rfl ⟨by decide, by decide, by decide, by decide, _,
        .written (.inl rfl) (show ([], false) ∈ _ by decide) (by decide) (by decide), rfl⟩
    exact .number hnumeral _
  have hx : Formed ("[1e999]".toList.map .char ++ behindX) behindX :=
    .array (List.forall_mem_singleton.2 hlarge) (.elements (.nil _) rfl (.nil _) (.nil _))
  have houtput : Spells (valueRoom + 1) (.string "a") ("\"a\"".toList.map .char ++ behindOutput)
      behindOutput :=
    .string _ (.of_plain (show ∀ c ∈ ['a'], _ by simp) behindOutput)
  have houtputTyped : Response.Typed "output_text" (.string "a") := by
    constructor <;> simp [textValue?]
  have hokTyped : Response.Typed "ok" (.bool true) := by
    constructor <;> simp [boolValue?]
  have hgives : Gives Response.record.names Response.Typed
      [("x", "[1e999]".toList.map .char ++ behindX, behindX),
        ("output_text", "\"a\"".toList.map .char ++ behindOutput, behindOutput),
        ("ok", "true".toList.map .char ++ behindOk, behindOk)]
      [("output_text", .string "a"), ("ok", .bool true)] :=
    .other (by decide) hx (.field (by decide) houtputTyped houtput
      (.field (by decide) hokTyped (.bool _ true behindOk) .nil))
  have hmixed : MessageText Response.record.names Response.Typed
      [("output_text", .string "a"), ("ok", .bool true)] (Text.symbols (encode mixed)) := by
    rw [symbols_encode]
    refine .mk (.nil _) hgives (by decide) ?_ (.nil _)
    exact .elements (.nil _) (.of_plain "x" (by simp) _ _)
      (.cons ⟨.nil _, .nil _⟩ (.of_plain "output_text" (by simp) _ _)
        (.cons ⟨.nil _, .nil _⟩ (.of_plain "ok" (by simp) _ _) (.nil _))) (.nil _)
  let again : Input := "ok\":".toList.map .char
  have hfirst : MessageAhead Response.record.names Response.Typed [("ok", .bool true)]
      (Text.symbols (encode twice)) (.char '"' :: again) := by
    rw [symbols_encode]
    refine .mk (.nil _) (.field (by decide) hokTyped
      (.bool _ true (",\"".toList.map .char ++ again)) .nil) (by decide) ?_
    exact .next (.nil _) (.of_plain "ok" (by simp) _ _) (.nil _) ⟨.nil _, .nil _⟩
  have hagain : Denotes "ok".toList again [.char ':'] := .of_plain (by simp) _
  have hheld : Response.Holds [("output_text", .string "a"), ("ok", .bool true)]
      ⟨true, "a", 0, ∅, none⟩ := by
    refine ⟨.present (List.mem_cons_of_mem _ List.mem_cons_self) rfl,
      ⟨_, .present List.mem_cons_self rfl, rfl⟩, ⟨none, .absent ?_, rfl⟩, ⟨none, .absent ?_, rfl⟩,
      ⟨none, .absent ?_, rfl⟩⟩ <;> simp
  obtain ⟨fault, hfault, -, hkind⟩ := messages_handle_fields.1.repeated hfirst hagain (by simp)
  exact ⟨⟨hmixed, (messages_handle_fields.1.holds hmixed _).2 hheld⟩, fault, hfault, hkind⟩

end Workbench
