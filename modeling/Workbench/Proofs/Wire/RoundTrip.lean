import Workbench.Proofs.Json.RoundTrip
import Workbench.Proofs.Text.Encoding
import Workbench.Wire.Printer
import Workbench.Wire.Reader

/-!
# Messages read back

A message that fits, and whose doubles are read back, is read back from its bytes; and every message
that is read fits, in whichever form it was written. So reading what was written after reading
changes nothing, and the bindings of a response are those that the reader of the next request finds.
-/

namespace Workbench

open Json (Fault Input Number ReadsBack Reads Collects endsNumber memberText)
open Text (Symbol bound64)

/-! ### Messages that fit -/

/-- The values are valid and open at most 125 containers. -/
structure Bindings.Fits (b : Bindings) : Prop where
  valid : ∀ entry ∈ b.entries, entry.2.Valid
  depth : ∀ entry ∈ b.entries, entry.2.depth ≤ 125

/-- The generation has 64 bits, and the bindings fit. -/
structure Request.Fits (r : Request) : Prop where
  generation : r.generation < bound64
  bindings : r.bindings.Fits

/-- The time is finite, and the bindings fit. -/
structure Response.Fits (r : Response) : Prop where
  seconds : Decimal.isFinite r.seconds = true
  bindings : r.bindings.Fits

/-- The doubles in the values. -/
def Bindings.doubles (b : Bindings) : List Float :=
  Json.membersDoubles b.entries

/-- The doubles in a request. -/
def Request.doubles (r : Request) : List Float :=
  r.bindings.doubles

/-- The doubles in a response. -/
def Response.doubles (r : Response) : List Float :=
  r.seconds :: r.bindings.doubles

namespace Wire

/-! ### Fields -/

theorem map_eq_ok {ε α β : Type} {x : Except ε α} {a : α} (h : x = .ok a) {f : α → β} :
    x.map f = .ok (f a) := by
  rw [h]
  rfl

section Fields

variable {rest : Input}

theorem readConverted_number {α : Type} {expected : String} {convert : Number → Except Json.Cause α}
    {n : Number} {x : α} (hvalid : n.Valid) (hdouble : ∀ y, n = .double y → ReadsBack y)
    (hconvert : convert n = .ok x) (hrest : endsNumber rest = true) :
    readConverted expected convert ((Json.printNumber n).map .char ++ rest) = .ok (x, rest) := by
  have hread := Json.readNumber_printNumber hvalid hdouble hrest
  obtain ⟨c, s, htext, hc⟩ := Json.startsNumber_of_readNumber hread
  rw [htext] at hread
  rw [htext, readConverted, Json.skipSpace_of_startsNumber hc]
  simp only [if_pos hc, hread, hconvert]

/-- A natural number is written in its digits. -/
theorem printNumber_natCast (n : Nat) : Json.printNumber (.whole n) = Text.digits n := by
  rw [Json.printNumber, Text.integerDigits, if_neg (by omega), Int.natAbs_natCast]

theorem readNatural_digits {n : Nat} (hn : n < bound64) (hrest : endsNumber rest = true) :
    readNatural ((Text.digits n).map .char ++ rest) = .ok (n, rest) := by
  have hvalid : (Number.whole n).Valid := ⟨by omega, by omega⟩
  rw [← printNumber_natCast]
  refine readConverted_number hvalid (by simp) ?_ hrest
  simp

theorem readSeconds_printDouble {x : Float} (hx : ReadsBack x) (hfinite : Decimal.isFinite x = true)
    (hrest : endsNumber rest = true) :
    readSeconds ((Json.printDouble x).map .char ++ rest) = .ok (x, rest) :=
  readConverted_number (n := .double x) hfinite (by rintro y ⟨⟩; exact hx) rfl hrest

theorem readBool_printBool (b : Bool) :
    readBool ((Json.printBool b).map .char ++ rest) = .ok (b, rest) := by
  cases b <;> rfl

theorem readText_printString (s : String) :
    readText ((Json.printString s).map .char ++ rest) = .ok (s, rest) :=
  Json.readString_printString s rest

theorem readTextOrNull_print (text : Option String) :
    readTextOrNull ((match text with
      | none => "null".toList
      | some text => Json.printString text).map .char ++ rest) = .ok (text, rest) := by
  cases text with
  | none => rfl
  | some text => exact map_eq_ok (readText_printString text)

theorem entries_foldl_insert (l : List (String × Json)) (b : Bindings) :
    (l.foldl (fun b entry ↦ b.insert entry.1 entry.2) b).entries =
      l.foldl (fun l entry ↦ Keyed.insert entry.1 entry.2 l) b.entries := by
  induction l generalizing b with
  | nil => rfl
  | cons entry l ih => exact ih (b.insert entry.1 entry.2)

/-- Bindings are what their entries make up, one put behind the other. -/
theorem foldl_insert_entries (b : Bindings) :
    b.entries.foldl (fun b entry ↦ b.insert entry.1 entry.2) ∅ = b := by
  have hsame := (entries_foldl_insert b.entries ∅).trans (Keyed.foldl_insert_nil b.ordered)
  cases b
  generalize hc : List.foldl _ _ _ = c at hsame ⊢
  cases c
  cases hsame
  rfl

theorem readBindings_print {b : Bindings} (hb : b.Fits) (hdoubles : ∀ x ∈ b.doubles, ReadsBack x) :
    readBindings valueRoom (b.print.map .char ++ rest) = .ok (b, rest) := by
  have hreads : ∀ entry ∈ b.entries,
      Reads (Json.readValue valueRoom) (Json.print entry.2) entry.2 := fun entry hmem ↦
    Json.reads_print (hb.valid entry hmem) (hb.depth entry hmem) fun x hx ↦
      hdoubles x (Json.mem_membersDoubles.2 ⟨entry, hmem, hx⟩)
  have hcollects := Json.collects_foldl Bindings.insert hreads ∅
  rw [foldl_insert_entries, ← Json.printMembers_eq_map] at hcollects
  have htext : b.print.map Symbol.char ++ rest =
      .char '{' ::
        ((Json.commaSeparated ((Json.printMembers b.entries).map memberText)).map .char ++
          .char '}' :: rest) := by
    simp [Bindings.print, Json.print, Json.record_eq]
  rw [htext, readBindings, Json.skipSpace_char (by decide)]
  exact Json.readMembers_commaSeparated hcollects rest

end Fields

/-! ### Records -/

section Records

variable {δ α : Type} {record : Record δ α} {fields : List (RecordField δ)} {draft next : δ}

/-- A field that is not given yet is read by its own reader. -/
theorem fieldMember_colon {f : RecordField δ} {key : String} {text : List Char} {rest : Input}
    (hfind : (fields.find? fun f ↦ f.name = key) = some f) (hgiven : f.isGiven draft = false)
    (hread : f.read draft (text.map .char ++ rest) = .ok (next, rest)) :
    fieldMember fields draft key (.char ':' :: (text.map .char ++ rest)) = .ok (next, rest) := by
  rw [fieldMember, hfind]
  simp only [hgiven, Bool.false_eq_true, if_false, Json.readColon]
  rw [Json.skipSpace_char (by decide)]
  exact hread

/-- A record whose fields are read is read as a message; what follows may be space. -/
theorem ofSymbols_record (draft : δ) {members : List (String × List Char)} {message : α}
    (hcollects : Collects (fieldMember record.fields) record.empty members draft)
    (hfinish : record.finish draft = .ok message) (rest : Input) :
    record.ofSymbols ((Json.record members).map .char ++ rest) = Json.atEnd message rest := by
  have htext : (Json.record members).map Symbol.char ++ rest =
      .char '{' :: ((Json.commaSeparated (members.map memberText)).map .char ++
        .char '}' :: rest) := by
    simp [Json.record_eq]
  have hread : record.readStart ((Json.record members).map .char ++ rest) =
      .ok (message, rest) := by
    rw [htext, Record.readStart, Json.skipSpace_char (by decide)]
    simp only [Json.readMembers_commaSeparated hcollects, Record.close, hfinish]
  rw [Record.ofSymbols, hread]

end Records

end Wire

open Wire

/-- A request that fits is read back, whatever space follows it. -/
theorem Request.ofSymbols_print {r : Request} (hfits : r.Fits)
    (hdoubles : ∀ x ∈ r.doubles, ReadsBack x) {space : Input} (hspace : Json.skipSpace space = []) :
    Request.ofSymbols (r.print.map .char ++ space) = .ok r := by
  refine (ofSymbols_record ⟨some r.generation, some r.wholeProgram, some r.source,
    some r.bindings⟩ ?_ rfl space).trans (if_pos hspace)
  refine .cons (fun rest hrest ↦ fieldMember_colon rfl rfl
    (map_eq_ok (readNatural_digits hfits.generation hrest))) ?_
  refine .cons (fun rest hrest ↦ fieldMember_colon rfl rfl
    (map_eq_ok (readBool_printBool r.wholeProgram))) ?_
  refine .cons (fun rest hrest ↦ fieldMember_colon rfl rfl
    (map_eq_ok (readText_printString r.source))) ?_
  refine .cons (fun rest hrest ↦ fieldMember_colon rfl rfl
    (map_eq_ok (readBindings_print hfits.bindings hdoubles))) ?_
  exact .nil _

/-- A response that fits is read back, whatever space follows it. -/
theorem Response.ofSymbols_print {r : Response} (hfits : r.Fits)
    (hdoubles : ∀ x ∈ r.doubles, ReadsBack x) {space : Input} (hspace : Json.skipSpace space = []) :
    Response.ofSymbols (r.print.map .char ++ space) = .ok r := by
  obtain ⟨hseconds, hbindings⟩ := List.forall_mem_cons.1 hdoubles
  refine (ofSymbols_record ⟨some r.ok, some r.output, some r.seconds, some r.bindings,
    some r.lastValue⟩ ?_ rfl space).trans (if_pos hspace)
  refine .cons (fun rest hrest ↦ fieldMember_colon rfl rfl
    (map_eq_ok (readBool_printBool r.ok))) ?_
  refine .cons (fun rest hrest ↦ fieldMember_colon rfl rfl
    (map_eq_ok (readText_printString r.output))) ?_
  refine .cons (fun rest hrest ↦ fieldMember_colon rfl rfl
    (map_eq_ok (readSeconds_printDouble hseconds hfits.seconds hrest))) ?_
  refine .cons (fun rest hrest ↦ fieldMember_colon rfl rfl
    (map_eq_ok (readBindings_print hfits.bindings hbindings))) ?_
  refine .cons (fun rest hrest ↦ fieldMember_colon rfl rfl
    (map_eq_ok (readTextOrNull_print r.lastValue))) ?_
  exact .nil _

/-! ### What is read fits -/

theorem Bindings.fits_empty : (∅ : Bindings).Fits :=
  ⟨fun _ h ↦ absurd h List.not_mem_nil, fun _ h ↦ absurd h List.not_mem_nil⟩

theorem Bindings.Fits.insert {b : Bindings} (h : b.Fits) (key : String) {x : Json}
    (hvalid : x.Valid) (hdepth : x.depth ≤ 125) : (b.insert key x).Fits where
  valid entry hmem := by
    rcases Keyed.mem_insert hmem with rfl | hmem
    · exact hvalid
    · exact h.valid entry hmem
  depth entry hmem := by
    rcases Keyed.mem_insert hmem with rfl | hmem
    · exact hdepth
    · exact h.depth entry hmem

namespace Wire

section Fields

variable {s rest : Input}

theorem fits_of_readBindings {b : Bindings} (h : readBindings valueRoom s = .ok (b, rest)) :
    b.Fits := by
  rw [readBindings] at h
  split at h
  · refine Json.invariant_of_readMembers ?_ Bindings.fits_empty h
    intro b key s b' rest hb hmember
    obtain ⟨s', x, hread, rfl⟩ := Json.exists_of_valueMember hmember
    obtain ⟨hvalid, hdepth⟩ := Json.valid_of_readValue hread
    exact hb.insert key hvalid hdepth
  · cases h

theorem exists_of_readConverted {α : Type} {expected : String}
    {convert : Number → Except Json.Cause α} {x : α}
    (h : readConverted expected convert s = .ok (x, rest)) : ∃ n, n.Valid ∧ convert n = .ok x := by
  rw [readConverted] at h
  split at h
  · split at h
    · split at h
      · cases h
      · rename_i hread
        split at h
        · rename_i hconvert
          cases h
          exact ⟨_, Json.valid_of_readNumber hread, hconvert⟩
        · cases h
    · cases h
  · cases h

theorem lt_of_readNatural {n : Nat} (h : readNatural s = .ok (n, rest)) : n < bound64 := by
  obtain ⟨number, hvalid, hconvert⟩ := exists_of_readConverted h
  cases number with
  | whole m =>
    simp only at hconvert
    split at hconvert
    · cases hconvert
      have := hvalid.2
      omega
    · cases hconvert
  | double x => cases hconvert

theorem isFinite_of_readSeconds {x : Float} (h : readSeconds s = .ok (x, rest)) :
    Decimal.isFinite x = true := by
  obtain ⟨number, hvalid, hconvert⟩ := exists_of_readConverted h
  cases number with
  | whole n =>
    cases hconvert
    obtain ⟨hleast, hgreatest⟩ := hvalid
    have hbounds : (Text.bound63 : Int) < 2 ^ 64 ∧ (bound64 : Int) = 2 ^ 64 := by decide
    exact Decimal.isFinite_ofInt (by omega) (by omega)
  | double y =>
    cases hconvert
    exact hvalid

end Fields

section Records

variable {δ α : Type} {record : Record δ α} {I : δ → Prop} {draft draft' : δ} {s rest : Input}

/-- The readers of some fields keep an invariant of drafts. -/
def Keeps (I : δ → Prop) (fields : List (RecordField δ)) : Prop :=
  ∀ f ∈ fields, ∀ draft s draft' rest, I draft → f.read draft s = .ok (draft', rest) → I draft'

theorem invariant_of_fieldMember {fields : List (RecordField δ)} (hfields : Keeps I fields)
    (draft : δ) (key : String) (s : Input) (draft' : δ) (rest : Input) (hdraft : I draft)
    (h : fieldMember fields draft key s = .ok (draft', rest)) : I draft' := by
  rw [fieldMember] at h
  split at h
  · split at h
    · cases h
    · obtain ⟨_, -, heq⟩ := Json.exists_of_map_eq_ok h
      cases heq
      exact hdraft
  · rename_i f hfind
    split at h
    · cases h
    · split at h
      · cases h
      · exact hfields f (List.mem_of_find?_eq_some hfind) _ _ _ _ hdraft h

theorem invariant_of_moreFields {fields : List (RecordField δ)} (hfields : Keeps I fields)
    (hdraft : I draft) (h : moreFields fields draft s = .ok (draft', rest)) : I draft' := by
  induction fields generalizing draft s with
  | nil =>
    unfold moreFields at h
    split at h
    · cases h
    · cases h
      exact hdraft
    · rename_i heq
      cases heq
    · split at h <;> cases h
    · cases h
    · cases h
  | cons f fields ih =>
    obtain ⟨hf, hfields⟩ := List.forall_mem_cons.1 hfields
    unfold moreFields at h
    split at h
    · cases h
    · cases h
      exact hdraft
    · rename_i heq
      cases heq
      split at h
      · cases h
      · split at h
        · cases h
        · rename_i hread
          exact ih hfields (hf _ _ _ _ hdraft hread) h
    · rename_i heq
      cases heq
    · cases h
    · cases h

theorem invariant_of_readFields {fields : List (RecordField δ)} (hfields : Keeps I fields)
    (hdraft : I draft) (h : readFields fields draft s = .ok (draft', rest)) : I draft' := by
  unfold readFields at h
  split at h
  · cases h
  · cases h
    exact hdraft
  · obtain ⟨hf, hfields⟩ := List.forall_mem_cons.1 hfields
    split at h
    · cases h
    · rename_i hread
      exact invariant_of_moreFields hfields (hf _ _ _ _ hdraft hread) h
  · cases h

theorem exists_of_close {missing : String → Json.Cause} {read : Except Fault (δ × Input)}
    {message : α} (h : record.close missing read = .ok (message, rest)) :
    ∃ draft, read = .ok (draft, rest) ∧ record.finish draft = .ok message := by
  cases read with
  | error fault => cases h
  | ok found =>
    obtain ⟨draft, rest'⟩ := found
    simp only [Record.close] at h
    split at h
    · rename_i hfinish
      cases h
      exact ⟨draft, rfl, hfinish⟩
    · cases h

theorem eq_of_atEnd {x y : α} (h : Json.atEnd x s = .ok y) : x = y := by
  rw [Json.atEnd] at h
  split at h
  · exact Except.ok.inj h
  · cases h

/-- A record that is read comes from a draft that has what every field keeps, whether it is written
as an object or as an array. -/
theorem exists_of_ofSymbols (hfields : Keeps I record.fields) (hempty : I record.empty)
    {message : α} (h : record.ofSymbols s = .ok message) :
    ∃ draft, I draft ∧ record.finish draft = .ok message := by
  rw [Record.ofSymbols] at h
  split at h
  · cases h
  · rename_i hstart
    obtain rfl := eq_of_atEnd h
    rw [Record.readStart] at hstart
    split at hstart
    · obtain ⟨draft, hread, hfinish⟩ := exists_of_close hstart
      exact ⟨draft, Json.invariant_of_readMembers (invariant_of_fieldMember hfields) hempty hread,
        hfinish⟩
    · obtain ⟨draft, hread, hfinish⟩ := exists_of_close hstart
      exact ⟨draft, invariant_of_readFields hfields hempty hread, hfinish⟩
    · cases hstart

end Records

end Wire

/-! ### Requests and responses that are read -/

/-- What is given of a request fits. -/
structure Request.Draft.Fits (d : Request.Draft) : Prop where
  generation : ∀ n, d.generation = some n → n < bound64
  bindings : ∀ b, d.bindings = some b → b.Fits

/-- What is given of a response fits. -/
structure Response.Draft.Fits (d : Response.Draft) : Prop where
  seconds : ∀ x, d.seconds = some x → Decimal.isFinite x = true
  bindings : ∀ b, d.bindings = some b → b.Fits

theorem Request.keeps_fits : Keeps Request.Draft.Fits Request.record.fields := by
  intro f hf draft s draft' rest hdraft hread
  simp only [Request.record, List.mem_cons, List.not_mem_nil, or_false] at hf
  rcases hf with rfl | rfl | rfl | rfl
  · obtain ⟨⟨n, _⟩, hn, heq⟩ := Json.exists_of_map_eq_ok hread
    cases heq
    exact ⟨fun _ h ↦ Option.some.inj h ▸ lt_of_readNatural hn, hdraft.bindings⟩
  · obtain ⟨⟨b, _⟩, -, heq⟩ := Json.exists_of_map_eq_ok hread
    cases heq
    exact ⟨hdraft.generation, hdraft.bindings⟩
  · obtain ⟨⟨text, _⟩, -, heq⟩ := Json.exists_of_map_eq_ok hread
    cases heq
    exact ⟨hdraft.generation, hdraft.bindings⟩
  · obtain ⟨⟨b, _⟩, hb, heq⟩ := Json.exists_of_map_eq_ok hread
    cases heq
    exact ⟨hdraft.generation, fun _ h ↦ Option.some.inj h ▸ fits_of_readBindings hb⟩

theorem Response.keeps_fits : Keeps Response.Draft.Fits Response.record.fields := by
  intro f hf draft s draft' rest hdraft hread
  simp only [Response.record, List.mem_cons, List.not_mem_nil, or_false] at hf
  rcases hf with rfl | rfl | rfl | rfl | rfl
  · obtain ⟨⟨ok, _⟩, -, heq⟩ := Json.exists_of_map_eq_ok hread
    cases heq
    exact ⟨hdraft.seconds, hdraft.bindings⟩
  · obtain ⟨⟨text, _⟩, -, heq⟩ := Json.exists_of_map_eq_ok hread
    cases heq
    exact ⟨hdraft.seconds, hdraft.bindings⟩
  · obtain ⟨⟨x, _⟩, hx, heq⟩ := Json.exists_of_map_eq_ok hread
    cases heq
    exact ⟨fun _ h ↦ Option.some.inj h ▸ isFinite_of_readSeconds hx, hdraft.bindings⟩
  · obtain ⟨⟨b, _⟩, hb, heq⟩ := Json.exists_of_map_eq_ok hread
    cases heq
    exact ⟨hdraft.seconds, fun _ h ↦ Option.some.inj h ▸ fits_of_readBindings hb⟩
  · obtain ⟨⟨text, _⟩, -, heq⟩ := Json.exists_of_map_eq_ok hread
    cases heq
    exact ⟨hdraft.seconds, hdraft.bindings⟩

theorem Request.fits_of_ofSymbols {s : Input} {r : Request} (h : Request.ofSymbols s = .ok r) :
    r.Fits := by
  obtain ⟨draft, hdraft, hfinish⟩ := exists_of_ofSymbols Request.keeps_fits
    ⟨by simp [Request.record], by simp [Request.record]⟩ h
  obtain ⟨_ | generation, _ | wholeProgram, _ | source, _ | bindings⟩ := draft <;> cases hfinish
  exact ⟨hdraft.generation _ rfl, hdraft.bindings _ rfl⟩

theorem Response.fits_of_ofSymbols {s : Input} {r : Response} (h : Response.ofSymbols s = .ok r) :
    r.Fits := by
  obtain ⟨draft, hdraft, hfinish⟩ := exists_of_ofSymbols Response.keeps_fits
    ⟨by simp [Response.record], by simp [Response.record]⟩ h
  obtain ⟨_ | ok, output, seconds, bindings, lastValue⟩ := draft
  · cases hfinish
  · cases hfinish
    refine ⟨?_, ?_⟩
    · cases seconds with
      | none => exact Decimal.isFinite_ofNat (n := 0) (by decide)
      | some x => exact hdraft.seconds x rfl
    · cases bindings with
      | none => exact Bindings.fits_empty
      | some b => exact hdraft.bindings b rfl

/-! ### Bytes -/

/-- The bytes of a text that is written. -/
def Wire.encode (text : List Char) : List UInt8 :=
  Text.bytesOf (String.ofList text)

/-- The request that some bytes stand for. -/
def Request.decode (bytes : List UInt8) : Except Fault Request :=
  Request.ofSymbols (Text.symbols bytes)

/-- The response that some bytes stand for. -/
def Response.decode (bytes : List UInt8) : Except Fault Response :=
  Response.ofSymbols (Text.symbols bytes)

theorem Wire.symbols_encode (text : List Char) : Text.symbols (encode text) = text.map .char := by
  rw [encode, Text.symbols_bytesOf, Text.symbolsOfText, String.toList_ofList]

theorem Request.decode_encode {r : Request} (hfits : r.Fits)
    (hdoubles : ∀ x ∈ r.doubles, ReadsBack x) : Request.decode (encode r.print) = .ok r := by
  have hnothing : Json.skipSpace [] = [] := rfl
  have hread := Request.ofSymbols_print hfits hdoubles hnothing
  rw [List.append_nil] at hread
  rw [Request.decode, symbols_encode, hread]

/-- The newline behind a request, as it is sent to an interpreter, makes no difference. -/
theorem Request.decode_encode_line {r : Request} (hfits : r.Fits)
    (hdoubles : ∀ x ∈ r.doubles, ReadsBack x) : Request.decode (encode r.line) = .ok r := by
  have hnewline : Json.skipSpace [.char '\n'] = [] := by decide
  have hread := Request.ofSymbols_print hfits hdoubles hnewline
  rw [Request.decode, symbols_encode, Request.line, List.map_append]
  exact hread

theorem Response.decode_encode {r : Response} (hfits : r.Fits)
    (hdoubles : ∀ x ∈ r.doubles, ReadsBack x) : Response.decode (encode r.print) = .ok r := by
  have hnothing : Json.skipSpace [] = [] := rfl
  have hread := Response.ofSymbols_print hfits hdoubles hnothing
  rw [List.append_nil] at hread
  rw [Response.decode, symbols_encode, hread]

/-- Requests and responses that fit are read back from the bytes that are written for them, if their
doubles are. Whatever is read fits; so it is read again from the bytes that are written for it. And
if a request carries the bindings of a response that was read, these are what its reader finds. -/
theorem messages_read_back :
    (∀ r : Request, r.Fits → (∀ x ∈ r.doubles, ReadsBack x) →
        Request.decode (encode r.print) = .ok r) ∧
      (∀ r : Response, r.Fits → (∀ x ∈ r.doubles, ReadsBack x) →
        Response.decode (encode r.print) = .ok r) ∧
      (∀ bytes r, Request.decode bytes = .ok r →
        r.Fits ∧ ((∀ x ∈ r.doubles, ReadsBack x) → Request.decode (encode r.print) = .ok r)) ∧
      (∀ bytes r, Response.decode bytes = .ok r →
        r.Fits ∧ ((∀ x ∈ r.doubles, ReadsBack x) → Response.decode (encode r.print) = .ok r)) ∧
      ∀ bytes response request, Response.decode bytes = .ok response →
        request.generation < bound64 → request.bindings = response.bindings →
        (∀ x ∈ response.bindings.doubles, ReadsBack x) →
        Request.decode (encode request.line) = .ok request := by
  refine ⟨fun r ↦ Request.decode_encode, fun r ↦ Response.decode_encode, fun bytes r hread ↦ ?_,
    fun bytes r hread ↦ ?_, fun bytes response request hread hgeneration hbindings hdoubles ↦ ?_⟩
  · have hfits := Request.fits_of_ofSymbols hread
    exact ⟨hfits, Request.decode_encode hfits⟩
  · have hfits := Response.fits_of_ofSymbols hread
    exact ⟨hfits, Response.decode_encode hfits⟩
  · have hfits := (Response.fits_of_ofSymbols hread).bindings
    rw [← hbindings] at hfits hdoubles
    exact Request.decode_encode_line ⟨hgeneration, hfits⟩ hdoubles

/-- A request with the greatest generation carries the bindings of a response: an array of a whole
number, a double and a string that is escaped. -/
theorem messages_read_back_nested :
    let items : Json := .array [.ofInt (-7), .number (.double 0.5), .string "\n\x01"]
    let response : Response := ⟨true, "\t✓", 0.25, (∅ : Bindings).insert "x" items, some "-7"⟩
    let request : Request := ⟨18446744073709551615, true, "print x", response.bindings⟩
    (request.Fits ∧ response.Fits ∧ ∀ x ∈ response.doubles, ReadsBack x) ∧
      Request.decode (encode request.print) = .ok request ∧
      Response.decode (encode response.print) = .ok response ∧
      Request.decode (encode request.line) = .ok request := by
  intro items response request
  have hvalid : items.Valid := by
    have hwhole : (Number.whole (-7)).Valid := ⟨by decide, by decide⟩
    have hdouble : (Number.double 0.5).Valid := by
      change Decimal.isFinite 0.5 = true
      decide +kernel
    simp only [items, Json.ofInt]
    refine .array fun x hx ↦ ?_
    simp only [List.mem_cons, List.not_mem_nil, or_false] at hx
    rcases hx with rfl | rfl | rfl
    · exact .number hwhole
    · exact .number hdouble
    · exact .string _
  have hbindings : response.bindings.Fits := Bindings.fits_empty.insert "x" hvalid (by decide)
  have hseconds : Decimal.isFinite response.seconds = true := by
    change Decimal.isFinite 0.25 = true
    decide +kernel
  have hgeneration : request.generation < bound64 := by decide
  have hdoubles : ∀ x ∈ response.doubles, ReadsBack x := by decide +kernel
  have hcarried : ∀ x ∈ response.bindings.doubles, ReadsBack x :=
    (List.forall_mem_cons.1 hdoubles).2
  obtain ⟨hrequest, hresponse, -, -, hnext⟩ := messages_read_back
  have hread := hresponse response ⟨hseconds, hbindings⟩ hdoubles
  exact ⟨⟨⟨hgeneration, hbindings⟩, ⟨hseconds, hbindings⟩, hdoubles⟩,
    hrequest request ⟨hgeneration, hbindings⟩ hcarried, hread,
    hnext _ response request hread hgeneration rfl hcarried⟩

end Workbench
