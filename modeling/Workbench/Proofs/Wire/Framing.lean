import Workbench.Interpreter.Exchange
import Workbench.Proofs.Json.Framing
import Workbench.Proofs.Wire.RoundTrip

/-!
# Messages that are cut off or go on

The bytes of a message that is read back tell where the message ends. With any bytes missing at
their end they are refused as a text that ends too early, whatever is missing; in particular no
shorter message is read from them, although some fields of a response have defaults. Space around
them makes no difference, and anything else behind them is refused (`Framed`). So an interpreter
that stops in the middle of its answer, or goes on behind it, does not answer.

A message is read back only if its doubles are, and this is not known of all of them. The fields are
therefore delimited first (`Delimits`), and that the whole message is read then tells that each of
them is.
-/

namespace Workbench

open Json (Fault Input Number Delimits Delimited Passes Takes Truncated afterColon endsNumber
  memberText skipSpace)
open Text (Symbol Cut bound64)

namespace Wire

/-! ### Fields -/

theorem delimits_readConverted {α : Type} (expected : String)
    {convert : Number → Except Json.Cause α} {t : Json.Token} (ht : t.Plain)
    (hconvert : ∀ (t' : Json.Token) n, t'.CutOf t → t'.value? = some n → ∃ x, convert n = .ok x) :
    Delimits (readConverted expected convert) t.text := by
  refine Json.delimits_number convert ht hconvert ⟨_, rfl, rfl⟩ fun c s hc ↦ ?_
  rw [readConverted, Json.skipSpace_of_startsNumber hc]
  exact if_pos hc

theorem delimits_readNatural {n : Nat} (hn : n < bound64) :
    Delimits readNatural (Text.digits n) := by
  have hvalid : (Number.whole n).Valid := ⟨by omega, by omega⟩
  obtain ⟨t, ht, htext, hnegative, hfraction, hexponent⟩ := Json.exists_token_whole hvalid
  have hdigits : Text.integerDigits n = Text.digits n := by
    rw [Text.integerDigits, if_neg (by omega), Int.natAbs_natCast]
  rw [← hdigits, ← htext]
  refine delimits_readConverted "u64" ht fun t' m hcut hm ↦ ?_
  -- What is left of digits are digits, and no double is read from them.
  have hnatural := Json.Token.exists_natural (hcut.plain ht)
    (hcut.negative.trans (hnegative (by omega))) (List.prefix_nil.1 (hfraction ▸ hcut.fraction))
    (by
      cases hexponent' : t'.exponent with
      | none => rfl
      | some e =>
        obtain ⟨-, e', he', -⟩ := hcut.exponent e hexponent'
        rw [hexponent] at he'
        cases he')
  rw [hnatural] at hm
  cases hm
  exact ⟨_, if_pos (by omega)⟩

theorem delimits_readSeconds {x : Float} (hx : Decimal.isFinite x = true) :
    Delimits readSeconds (Json.printDouble x) := by
  obtain ⟨t, ht, htext⟩ := Json.exists_token_double hx
  rw [← htext]
  refine delimits_readConverted "f64" ht fun t' n _ _ ↦ ?_
  cases n <;> exact ⟨_, rfl⟩

theorem delimits_readBool (b : Bool) : Delimits readBool (Json.printBool b) := by
  cases b with
  | false =>
    exact Json.delimits_literal ['a', 'l', 's', 'e'] (by decide) rfl ⟨_, rfl, rfl⟩ fun _ ↦ rfl
  | true => exact Json.delimits_literal ['r', 'u', 'e'] (by decide) rfl ⟨_, rfl, rfl⟩ fun _ ↦ rfl

theorem delimits_readText (s : String) : Delimits readText (Json.printString s) := by
  refine Json.delimits_printString (f := id) ⟨_, rfl, rfl⟩ (fun s ↦ ?_) s
  change Json.readString (.char '"' :: s) = _
  cases Json.readString (.char '"' :: s) <;> rfl

theorem delimits_readTextOrNull (text : Option String) :
    Delimits readTextOrNull (match text with
      | none => "null".toList
      | some text => Json.printString text) := by
  cases text with
  | none => exact Json.delimits_literal ['u', 'l', 'l'] (by decide) rfl ⟨_, rfl, rfl⟩ fun _ ↦ rfl
  | some text => exact Json.delimits_printString (f := some) ⟨_, rfl, rfl⟩ (fun _ ↦ rfl) text

theorem delimits_readBindings {b : Bindings} (hb : ∀ entry ∈ b.entries, entry.2.Valid)
    (room : Nat) : Delimits (readBindings room) b.print := by
  rw [Bindings.print, Json.print, Json.printMembers_eq_map]
  refine Json.delimits_members (f := id) ⟨_, rfl, rfl⟩ (fun s ↦ ?_)
    (Json.delimited_values Bindings.insert (fun entry hmem ↦
      Json.delimits_print (hb entry hmem) room) ∅)
  change Json.readMembers (Json.valueMember (Json.readValue room) Bindings.insert) ∅ s = _
  cases Json.readMembers (Json.valueMember (Json.readValue room) Bindings.insert) ∅ s <;> rfl

section Records

variable {α δ : Type} {record : Record δ α} {fields : List (RecordField δ)} {draft : δ}

theorem fieldMember_eq {f : RecordField δ} {key : String}
    (hfind : (fields.find? fun f ↦ f.name = key) = some f) (hgiven : f.isGiven draft = false) :
    fieldMember fields draft key = afterColon (f.read draft) := by
  funext s
  rw [fieldMember, hfind]
  exact if_neg (Bool.eq_false_iff.1 hgiven)

/-- A field is delimited if its value is, and the next fields are too, whatever is read. -/
theorem delimited_field {β : Type} {f : RecordField δ} {key : String} {text : List Char}
    {members : List (String × List Char)} {value : Input → Except Fault (β × Input)} (put : β → δ)
    (hfind : (fields.find? fun f ↦ f.name = key) = some f) (hgiven : f.isGiven draft = false)
    (hread : f.read draft = fun s ↦ (value s).map fun (x, rest) ↦ (put x, rest))
    (h : Delimits value text) (hs : ∀ x, Delimited (fieldMember fields) (put x) members) :
    Delimited (fieldMember fields) draft ((key, text) :: members) := by
  have hfield : fieldMember fields draft key =
      afterColon fun s ↦ (value s).map fun (x, rest) ↦ (put x, rest) := by
    rw [fieldMember_eq hfind hgiven, hread]
  refine .cons (hfield ▸ (h.map put).colon) fun next hnext ↦ ?_
  rw [hfield] at hnext
  have hnext : (value (text.map .char ++ [])).map (fun (x, rest) ↦ (put x, rest)) =
      .ok (next, []) := (Json.afterColon_colon _).symm.trans (hnext.reads [] rfl)
  obtain ⟨⟨x, rest⟩, -, heq⟩ := Json.exists_of_map_eq_ok hnext
  cases heq
  exact hs x

/-! ### Records -/

variable {members : List (String × List Char)} {message : α} {p s : Input}

/-- Whether a text is read as a message, and as which, depends on it only behind its space. -/
theorem ofSymbols_of_skipSpace (record : Record δ α) (h : skipSpace p = skipSpace s) :
    record.ofSymbols p = record.ofSymbols s := by
  rw [Record.ofSymbols, Record.ofSymbols, Record.readStart, Record.readStart, h]

/-- A record that is read as a whole is read up to its end, whatever follows it, and its members are
read one by one. -/
theorem passes_of_ofSymbols
    (hfields : Delimited (fieldMember record.fields) record.empty members)
    (hread : record.ofSymbols ((Json.record members).map .char) = .ok message) :
    ∃ draft, Passes (fieldMember record.fields) record.empty members draft ∧
      record.finish draft = .ok message := by
  have htext : (Json.record members).map Symbol.char =
      .char '{' :: ((Json.commaSeparated (members.map memberText)).map .char ++ [.char '}']) := by
    simp [Json.record_eq]
  rw [Record.ofSymbols] at hread
  split at hread
  · cases hread
  · rename_i hstart
    obtain rfl := eq_of_atEnd hread
    rw [htext, Record.readStart, Json.skipSpace_char (by decide)] at hstart
    obtain ⟨draft, hmembers, hfinish⟩ := exists_of_close hstart
    obtain ⟨-, hpasses⟩ := Json.passes_of_readMembers hfields hmembers
    exact ⟨draft, hpasses, hfinish⟩

/-- A record that is cut off ends too early. -/
theorem truncated_ofSymbols
    (hpasses : Passes (fieldMember record.fields) record.empty members draft)
    (hp : Cut (Json.record members) p) : Truncated (record.ofSymbols p) := by
  have hstart : Truncated (record.readStart p) := by
    rcases hp.cons_cases rfl with rfl | ⟨q, hq, rfl⟩
    · exact ⟨_, rfl, rfl⟩
    · obtain ⟨fault, hfault, hkind⟩ := Json.truncated_readMembers hpasses hq
      refine ⟨fault, ?_, hkind⟩
      rw [Record.readStart, Json.skipSpace_char (by decide)]
      simp only [hfault, Record.close]
  obtain ⟨fault, hfault, hkind⟩ := hstart
  exact ⟨fault, by rw [Record.ofSymbols, hfault], hkind⟩

end Records

/-! ### Bytes -/

/-- Whether a byte is space between the parts of a JSON text. -/
def isSpace (b : UInt8) : Bool :=
  b = 0x20 || b = 0x09 || b = 0x0A || b = 0x0D

/-- Bytes that stand for a message, and tell where it ends. -/
structure Framed {α : Type} (decode : List UInt8 → Except Fault α) (bytes : List UInt8)
    (message : α) : Prop where
  /-- Some of the bytes, but not all, are a text that ends too early. -/
  cut : ∀ before part, before.all isSpace = true → part <+: bytes → part ≠ bytes →
    ∃ fault, decode (before ++ part) = .error fault ∧ fault.kind = .truncated
  /-- Space in front of the bytes and behind them makes no difference. -/
  spaced : ∀ before after, before.all isSpace = true → after.all isSpace = true →
    decode (before ++ bytes ++ after) = .ok message
  /-- Anything else behind the bytes breaks the grammar. -/
  continued : ∀ before after b rest, before.all isSpace = true → after.all isSpace = true →
    isSpace b = false → ∃ fault, decode (before ++ bytes ++ after ++ b :: rest) = .error fault ∧
      fault.cause = .trailingText ∧ fault.kind = .malformed

/-- What is written by someone who stops in the middle of some bytes, or goes on behind them. -/
inductive Mangled (bytes : List UInt8) : List UInt8 → Prop
  | cut {before part : List UInt8} (hbefore : before.all isSpace = true) (hpart : part <+: bytes)
    (hne : part ≠ bytes) : Mangled bytes (before ++ part)
  | continued {before after : List UInt8} {b : UInt8} (hbefore : before.all isSpace = true)
    (hafter : after.all isSpace = true) (hb : isSpace b = false) (rest : List UInt8) :
    Mangled bytes (before ++ bytes ++ after ++ b :: rest)

theorem Framed.error_of_mangled {α : Type} {decode : List UInt8 → Except Fault α}
    {bytes output : List UInt8} {message : α} (h : Framed decode bytes message)
    (houtput : Mangled bytes output) : ∃ fault, decode output = .error fault := by
  cases houtput with
  | cut hbefore hpart hne =>
    obtain ⟨fault, hfault, -⟩ := h.cut _ _ hbefore hpart hne
    exact ⟨fault, hfault⟩
  | continued hbefore hafter hb rest =>
    obtain ⟨fault, hfault, -⟩ := h.continued _ _ _ rest hbefore hafter hb
    exact ⟨fault, hfault⟩

section Bytes

variable {space : List UInt8} {b : UInt8}

theorem skipSpace_symbols_append (h : space.all isSpace = true) (rest : List UInt8) :
    skipSpace (Text.symbols (space ++ rest)) = skipSpace (Text.symbols rest) := by
  induction space with
  | nil => rfl
  | cons b space ih =>
    obtain ⟨hb, hspace⟩ := Bool.and_eq_true_iff.1 h
    rw [← ih hspace, List.cons_append]
    simp only [isSpace, Bool.or_eq_true, decide_eq_true_eq] at hb
    obtain ((rfl | rfl) | rfl) | rfl := hb <;> rw [Text.symbols_one _ (by decide)] <;>
      exact List.dropWhile_cons_of_pos rfl

theorem skipSpace_symbols_cons (h : isSpace b = false) (rest : List UInt8) :
    skipSpace (Text.symbols (b :: rest)) ≠ [] := by
  obtain ⟨s, t, hsymbols, hfirst⟩ := Text.exists_symbols_cons b rest
  rw [hsymbols]
  cases s with
  | stray n => exact List.cons_ne_nil _ _
  | char c =>
    have hb : b.toNat ≠ 0x20 ∧ b.toNat ≠ 0x09 ∧ b.toNat ≠ 0x0A ∧ b.toNat ≠ 0x0D := by
      simpa [isSpace, ← UInt8.toNat_inj, and_assoc] using h
    have hc : c ∉ [' ', '\t', '\n', '\r'] := by
      have hfirst := hfirst c rfl
      simp only [List.mem_cons, List.not_mem_nil, or_false]
      rintro (rfl | rfl | rfl | rfl) <;> simp only [Char.reduceToNat] at hfirst <;> omega
    rw [Json.skipSpace_char hc]
    exact List.cons_ne_nil _ _

theorem symbols_encode_append (text : List Char) (rest : List UInt8) :
    Text.symbols (encode text ++ rest) = text.map .char ++ Text.symbols rest := by
  rw [encode, Text.symbols_bytesOf_append, Text.symbolsOfText, String.toList_ofList]

theorem cut_encode {text : List Char} {part : List UInt8} (h : part <+: encode text)
    (hne : part ≠ encode text) : Cut text (Text.symbols part) := by
  have hcut := Text.cut_symbols h hne
  rwa [String.toList_ofList] at hcut

/-- The bytes of a record that is read frame the message it is read as. -/
theorem framed_encode {δ α : Type} {record : Record δ α} {members : List (String × List Char)}
    {message : α} (hfields : Delimited (fieldMember record.fields) record.empty members)
    (hread : record.ofSymbols (Text.symbols (encode (Json.record members))) = .ok message) :
    Framed (fun bytes ↦ record.ofSymbols (Text.symbols bytes)) (encode (Json.record members))
      message := by
  rw [symbols_encode] at hread
  obtain ⟨draft, hpasses, hfinish⟩ := passes_of_ofSymbols hfields hread
  have hspace : ∀ before rest, before.all isSpace = true →
      record.ofSymbols (Text.symbols (before ++ rest)) = record.ofSymbols (Text.symbols rest) :=
    fun before rest hbefore ↦ ofSymbols_of_skipSpace record (skipSpace_symbols_append hbefore rest)
  have happend : ∀ rest, record.ofSymbols (Text.symbols (encode (Json.record members) ++ rest)) =
      Json.atEnd message (Text.symbols rest) := by
    intro rest
    rw [symbols_encode_append]
    exact ofSymbols_record draft hpasses.collects hfinish _
  refine ⟨fun before part hbefore hpart hne ↦ ?_, fun before after hbefore hafter ↦ ?_,
    fun before after b rest hbefore hafter hb ↦ ?_⟩
  · rw [hspace before part hbefore]
    exact truncated_ofSymbols hpasses (cut_encode hpart hne)
  · rw [List.append_assoc, hspace before _ hbefore, happend]
    have hnothing := skipSpace_symbols_append hafter []
    rw [List.append_nil] at hnothing
    exact if_pos hnothing
  · rw [List.append_assoc, List.append_assoc, hspace before _ hbefore, happend]
    have hsomething := skipSpace_symbols_append hafter (b :: rest)
    refine ⟨_, if_neg ?_, rfl, rfl⟩
    rw [hsomething]
    exact skipSpace_symbols_cons hb rest

end Bytes

end Wire

open Wire

/-! ### Messages -/

theorem Request.delimited {r : Request} (hr : r.Fits) :
    Delimited (fieldMember Request.record.fields) Request.record.empty [
      ("generation", Text.digits r.generation),
      ("is_main_run", Json.printBool r.wholeProgram),
      ("source_text", Json.printString r.source),
      ("environment_in", r.bindings.print)] := by
  refine delimited_field (⟨some ·, none, none, none⟩) rfl rfl rfl
    (delimits_readNatural hr.generation) fun generation ↦ ?_
  refine delimited_field (⟨some generation, some ·, none, none⟩) rfl rfl rfl
    (delimits_readBool r.wholeProgram) fun whole ↦ ?_
  refine delimited_field (⟨some generation, some whole, some ·, none⟩) rfl rfl rfl
    (delimits_readText r.source) fun source ↦ ?_
  refine delimited_field (⟨some generation, some whole, some source, some ·⟩) rfl rfl rfl
    (delimits_readBindings hr.bindings.valid valueRoom) fun bindings ↦ ?_
  exact .nil _

theorem Response.delimited {r : Response} (hr : r.Fits) :
    Delimited (fieldMember Response.record.fields) Response.record.empty [
      ("ok", Json.printBool r.ok),
      ("output_text", Json.printString r.output),
      ("elapsed_seconds", Json.printDouble r.seconds),
      ("environment_out", r.bindings.print),
      ("last_value", match r.lastValue with
        | none => "null".toList
        | some text => Json.printString text)] := by
  refine delimited_field (⟨some ·, none, none, none, none⟩) rfl rfl rfl
    (delimits_readBool r.ok) fun ok ↦ ?_
  refine delimited_field (⟨some ok, some ·, none, none, none⟩) rfl rfl rfl
    (delimits_readText r.output) fun output ↦ ?_
  refine delimited_field (⟨some ok, some output, some ·, none, none⟩) rfl rfl rfl
    (delimits_readSeconds hr.seconds) fun seconds ↦ ?_
  refine delimited_field (⟨some ok, some output, some seconds, some ·, none⟩) rfl rfl rfl
    (delimits_readBindings hr.bindings.valid valueRoom) fun bindings ↦ ?_
  refine delimited_field (⟨some ok, some output, some seconds, some bindings, some ·⟩) rfl rfl rfl
    (delimits_readTextOrNull r.lastValue) fun lastValue ↦ ?_
  exact .nil _

/-- The bytes of a request that is read back frame it. -/
theorem Request.framed {r : Request} (h : Request.decode (encode r.print) = .ok r) :
    Framed Request.decode (encode r.print) r :=
  framed_encode (Request.delimited (Request.fits_of_ofSymbols h)) h

/-- The bytes of a response that is read back frame it. -/
theorem Response.framed {r : Response} (h : Response.decode (encode r.print) = .ok r) :
    Framed Response.decode (encode r.print) r :=
  framed_encode (Response.delimited (Response.fits_of_ofSymbols h)) h

/-- An interpreter whose output is refused does not answer, however it ends. -/
theorem Interpreter.exchange_ne_responded {attempt : Attempt} {fault : Fault}
    (h : Response.decode attempt.output = .error fault) (program : String) (response : Response) :
    (exchange program attempt).1 ≠ .responded response := by
  have hanswer : ∀ status, answer status attempt.output attempt.errors ≠ .responded response := by
    intro status hresponded
    rw [Response.decode] at h
    rw [answer, h] at hresponded
    split at hresponded <;> cases hresponded
  rw [exchange]
  split
  · simp
  split
  · simp
  simp only
  split
  · exact hanswer _
  all_goals simp

/-- A request or a response that is read back from its bytes is framed by them: with bytes missing
at the end they are a text that ends too early, space around them makes no difference, and nothing
else may follow. So an interpreter that stops in the middle of a response, or goes on behind it, has
not answered. -/
theorem messages_framed :
    (∀ r : Request, Request.decode (encode r.print) = .ok r →
        Framed Request.decode (encode r.print) r) ∧
      ∀ r : Response, Response.decode (encode r.print) = .ok r →
        Framed Response.decode (encode r.print) r ∧
          ∀ program (attempt : Interpreter.Attempt), Mangled (encode r.print) attempt.output →
            ∀ response, (Interpreter.exchange program attempt).1 ≠ .responded response := by
  refine ⟨fun r ↦ Request.framed, fun r h ↦ ⟨Response.framed h, ?_⟩⟩
  intro program attempt houtput response
  obtain ⟨fault, hfault⟩ := (Response.framed h).error_of_mangled houtput
  exact Interpreter.exchange_ne_responded hfault program response

theorem Wire.dropLast_encode_ne {c : Char} (text : List Char) :
    (encode (c :: text)).dropLast ≠ encode (c :: text) := by
  have hne : encode (c :: text) ≠ [] := fun hnil ↦ by
    have hsymbols := symbols_encode (c :: text)
    rw [hnil] at hsymbols
    cases hsymbols
  intro heq
  have hlength := congrArg List.length heq
  have hpos := List.length_pos_iff.2 hne
  rw [List.length_dropLast] at hlength
  omega

/-- A request and a response with an array, a double and an escape: without their last byte they end
too early, a space and a newline around them make no difference, and an interpreter that writes a
letter behind the response has not answered. -/
theorem messages_framed_nested :
    let items : Json := .array [.number (.double 0.5), .string "\n✓"]
    let response : Response := ⟨true, "\t", 0.25, (∅ : Bindings).insert "x" items, some "-7"⟩
    let request : Request := ⟨3, true, "print x", response.bindings⟩
    (Request.decode (encode request.print) = .ok request ∧
        Response.decode (encode response.print) = .ok response) ∧
      (∃ fault, Request.decode (encode request.print).dropLast = .error fault ∧
        fault.kind = .truncated) ∧
      Request.decode ([0x20] ++ encode request.print ++ [0x0A]) = .ok request ∧
      (∃ fault, Response.decode (encode response.print).dropLast = .error fault ∧
        fault.kind = .truncated) ∧
      ∀ answer, (Interpreter.exchange "sh" {
        turns := [{ poll := .exited (.code 0) }]
        output := encode response.print ++ [0x78] }).1 ≠ .responded answer := by
  intro items response request
  have hvalid : items.Valid := by
    have hdouble : (Number.double 0.5).Valid := by
      change Decimal.isFinite 0.5 = true
      decide +kernel
    refine .array fun x hx ↦ ?_
    simp only [List.mem_cons, List.not_mem_nil, or_false] at hx
    rcases hx with rfl | rfl
    · exact .number hdouble
    · exact .string _
  have hbindings : response.bindings.Fits := Bindings.fits_empty.insert "x" hvalid (by decide)
  have hseconds : Decimal.isFinite response.seconds = true := by
    change Decimal.isFinite 0.25 = true
    decide +kernel
  have hdoubles : ∀ x ∈ response.doubles, Json.ReadsBack x := by decide +kernel
  have hrequest : Request.decode (encode request.print) = .ok request :=
    Request.decode_encode ⟨by decide, hbindings⟩ (List.forall_mem_cons.1 hdoubles).2
  have hresponse : Response.decode (encode response.print) = .ok response :=
    Response.decode_encode ⟨hseconds, hbindings⟩ hdoubles
  have hframed := messages_framed.1 request hrequest
  obtain ⟨hresponseFramed, hexchange⟩ := messages_framed.2 response hresponse
  refine ⟨⟨hrequest, hresponse⟩, ?_, hframed.spaced [0x20] [0x0A] rfl rfl, ?_, ?_⟩
  · exact hframed.cut [] _ rfl (List.dropLast_prefix _) (dropLast_encode_ne _)
  · exact hresponseFramed.cut [] _ rfl (List.dropLast_prefix _) (dropLast_encode_ne _)
  · have hletter : isSpace 0x78 = false := rfl
    have houtput : Mangled (encode response.print) ([] ++ encode response.print ++ [] ++ [0x78]) :=
      .continued rfl rfl hletter []
    rw [List.nil_append, List.append_nil] at houtput
    exact hexchange "sh" _ houtput

end Workbench
