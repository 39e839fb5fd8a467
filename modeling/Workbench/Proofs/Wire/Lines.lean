import Workbench.Proofs.Json.Rendering
import Workbench.Proofs.Wire.RoundTrip

/-!
# A request is one line

What is written for a request holds no character below U+0020 (`Text.Unbroken`), whatever the source
and the bindings hold: such characters can only come from a string or a key, and there they are
escaped. None of them comes back when the text is encoded, since the bytes of a character that is
not below U+0020 are not either. So the newline that ends the request is the only one, and whoever
reads a line (`Wire.ReadsLine`) has the whole request and nothing else: what comes before the
newline is JSON text of the request (`Request.toJson`), and a request that fits is decoded from it.
-/

namespace Workbench

open Text (digitChar digitValues)

/-- No character of a text is below U+0020. -/
def Text.Unbroken (text : List Char) : Prop :=
  ∀ c ∈ text, 0x20 ≤ c.toNat

instance (text : List Char) : Decidable (Text.Unbroken text) :=
  List.decidableBAll _ text

namespace Text.Unbroken

@[simp]
theorem nil : Unbroken [] := by
  simp [Unbroken]

@[simp]
theorem cons_iff {c : Char} {text : List Char} :
    Unbroken (c :: text) ↔ 0x20 ≤ c.toNat ∧ Unbroken text := by
  simp [Unbroken]

@[simp]
theorem append_iff {text after : List Char} :
    Unbroken (text ++ after) ↔ Unbroken text ∧ Unbroken after := by
  simp [Unbroken, or_imp, forall_and]

theorem of_subset {text part : List Char} (h : Unbroken text) (hpart : part ⊆ text) :
    Unbroken part :=
  fun c hc ↦ h c (hpart hc)

/-- Digits are above U+0020. -/
theorem digits (n : Nat) : Unbroken (Text.digits n) := by
  have hdigit : ∀ d < 10, 0x20 ≤ (digitChar d).toNat := by decide
  intro c hc
  rw [digits_eq_map] at hc
  obtain ⟨d, hd, rfl⟩ := List.mem_map.1 hc
  exact hdigit d (lt_of_mem_digitValues hd)

theorem integerDigits (n : Int) : Unbroken (Text.integerDigits n) := by
  rw [Text.integerDigits]
  split
  · exact cons_iff.2 ⟨by decide, digits _⟩
  · exact digits _

end Text.Unbroken

open Text (Unbroken)

/-! ### Doubles -/

section Doubles

open Decimal (Layout)

variable {layout : Layout} {ds : List Char}

theorem unbroken_replicate_zero (k : Nat) : Unbroken (List.replicate k '0') := by
  intro c hc
  obtain rfl := List.eq_of_mem_replicate hc
  decide

theorem unbroken_positionalForm (hmark : Unbroken layout.wholeMark) (hds : Unbroken ds)
    (e : Int) : Unbroken (layout.positionalForm ds e) := by
  have hzeros := unbroken_replicate_zero
  have htake := fun k ↦ hds.of_subset (List.take_subset k ds)
  have hdrop := fun k ↦ hds.of_subset (List.drop_subset k ds)
  rw [Layout.positionalForm]
  dsimp only
  split
  · simp [hds, hzeros, hmark]
  · split
    · simp [htake, hdrop]
    · simp [hds, hzeros]

theorem unbroken_scientificForm (hds : Unbroken ds) (e : Int) :
    Unbroken (Layout.scientificForm ds e) := by
  unfold Layout.scientificForm
  refine Unbroken.append_iff.2 ⟨?_, ?_⟩
  · split
    · simpa using hds
    · exact hds
  · refine Unbroken.cons_iff.2 ⟨by decide, Unbroken.cons_iff.2 ⟨?_, Unbroken.digits _⟩⟩
    split <;> decide

theorem unbroken_magnitude (hmark : Unbroken layout.wholeMark) (x : Decimal.Binary) :
    Unbroken (layout.magnitude x) := by
  rw [Layout.magnitude]
  dsimp only
  split
  · simp [hmark]
  · split
    · exact unbroken_positionalForm hmark (Unbroken.digits _) _
    · exact unbroken_scientificForm (Unbroken.digits _) _

theorem unbroken_write (hmark : Unbroken layout.wholeMark) (hnan : Unbroken layout.notANumber)
    (hinfinity : Unbroken layout.infinity) (x : Float) : Unbroken (layout.write x) := by
  have hmagnitude := unbroken_magnitude hmark
  rw [Layout.write]
  split
  · exact hnan
  · split <;> simp [hinfinity]
  · split <;> simp [hmagnitude]

end Doubles

/-! ### Values -/

namespace Json

theorem unbroken_printDouble (x : Float) : Unbroken (printDouble x) := by
  rw [printDouble]
  split
  · exact unbroken_write (by decide) (by decide) (by decide) x
  · decide

theorem unbroken_printNumber (n : Number) : Unbroken (printNumber n) := by
  cases n with
  | whole n => exact Unbroken.integerDigits n
  | double x => exact unbroken_printDouble x

theorem unbroken_printBool (b : Bool) : Unbroken (printBool b) := by
  cases b <;> decide

/-- The one place where the characters of a string are written: those below U+0020 are replaced. -/
theorem unbroken_escape (c : Char) : Unbroken (escape c) := by
  have hdigit : ∀ d < 16, 0x20 ≤ (hexDigit d).toNat := by decide
  rw [escape]
  iterate 7
    split
    · decide
  split
  · -- A control character without a letter of its own is written in hexadecimal digits.
    have hhigh := hdigit (c.toNat / 16) (by omega)
    have hlow := hdigit (c.toNat % 16) (by omega)
    simp [hhigh, hlow]
  · rename_i hcontrol
    have hc : 0x20 ≤ c.toNat := by omega
    simp [hc]

theorem unbroken_printString (s : String) : Unbroken (printString s) := by
  have hescaped : Unbroken (s.toList.flatMap escape) := by
    intro c hc
    obtain ⟨d, -, hmem⟩ := List.mem_flatMap.1 hc
    exact unbroken_escape d c hmem
  simp [printString, hescaped]

theorem unbroken_commaSeparated {texts : List (List Char)} (h : ∀ text ∈ texts, Unbroken text) :
    Unbroken (commaSeparated texts) := by
  fun_induction commaSeparated texts with
  | case1 => exact Unbroken.nil
  | case2 text => exact h text List.mem_cons_self
  | case3 text next rest ih =>
    have hfirst := h text List.mem_cons_self
    have hrest := ih fun text hmem ↦ h text (List.mem_cons_of_mem _ hmem)
    simp [hfirst, hrest]

theorem unbroken_record {members : List (String × List Char)}
    (h : ∀ member ∈ members, Unbroken member.2) : Unbroken (record members) := by
  rw [record]
  refine Unbroken.cons_iff.2 ⟨by decide, Unbroken.append_iff.2 ⟨?_, by decide⟩⟩
  refine unbroken_commaSeparated fun text hmem ↦ ?_
  obtain ⟨member, hmember, rfl⟩ := List.mem_map.1 hmem
  simp [unbroken_printString, h member hmember]

mutual

/-- A value is written without characters below U+0020, at every depth. -/
theorem unbroken_print : (x : Json) → Unbroken (print x)
  | null => by decide
  | bool b => unbroken_printBool b
  | number n => unbroken_printNumber n
  | string s => unbroken_printString s
  | array items => by
    have hitems := unbroken_commaSeparated (unbroken_printItems items)
    simp [print, hitems]
  | object members => unbroken_record (unbroken_printMembers members)

theorem unbroken_printItems : (items : List Json) → ∀ text ∈ printItems items, Unbroken text
  | [] => by simp [printItems]
  | x :: rest => by
    intro text hmem
    rcases List.mem_cons.1 hmem with rfl | hmem
    · exact unbroken_print x
    · exact unbroken_printItems rest text hmem

theorem unbroken_printMembers : (members : List (String × Json)) →
    ∀ member ∈ printMembers members, Unbroken member.2
  | [] => by simp [printMembers]
  | (key, x) :: rest => by
    intro member hmem
    rcases List.mem_cons.1 hmem with rfl | hmem
    · exact unbroken_print x
    · exact unbroken_printMembers rest member hmem

end

end Json

theorem Request.unbroken_print (r : Request) : Unbroken r.print := by
  refine Json.unbroken_record ?_
  simp [Unbroken.digits, Json.unbroken_printBool, Json.unbroken_printString, Bindings.print,
    Json.unbroken_print]

/-! ### Bytes -/

/-- The bytes of a character that is not below U+0020 are not either: it is its only byte, or each
of them marks its place in a sequence of several. -/
theorem le_of_mem_utf8EncodeChar {c : Char} (hc : 0x20 ≤ c.toNat) :
    ∀ b ∈ String.utf8EncodeChar c, 0x20 ≤ b.toNat := by
  have hvalue : c.val.toNat = c.toNat := rfl
  intro b
  fun_cases String.utf8EncodeChar c with
  | case1 v hone =>
    intro hb
    obtain rfl := List.mem_singleton.1 hb
    rw [Text.toNat_ofNat_of_lt (by omega)]
    omega
  | case2 | case3 | case4 =>
    intro hb
    simp only [List.mem_cons, List.not_mem_nil, or_false] at hb
    rcases hb with rfl | rfl | rfl | rfl <;> rw [Text.toNat_ofNat_of_lt (by omega)] <;> omega

namespace Wire

theorem le_of_mem_encode {text : List Char} (h : Unbroken text) {b : UInt8}
    (hb : b ∈ encode text) : 0x20 ≤ b.toNat := by
  rw [encode, Text.bytesOf_eq_flatMap, String.toList_ofList] at hb
  obtain ⟨c, hc, hmem⟩ := List.mem_flatMap.1 hb
  exact le_of_mem_utf8EncodeChar (h c hc) b hmem

theorem encode_append (text after : List Char) :
    encode (text ++ after) = encode text ++ encode after := by
  simp [encode, Text.bytesOf_eq_flatMap]

/-! ### Lines -/

/-- The byte that ends a line. -/
def newline : UInt8 :=
  0x0A

/-- Whoever reads a line of what is sent gets some content and leaves the rest: the content goes up
to the first newline, which is taken with it. -/
structure ReadsLine (sent content rest : List UInt8) : Prop where
  unbroken : newline ∉ content
  sent_eq : sent = content ++ newline :: rest

theorem encode_newline : encode ['\n'] = [newline] := by
  rw [encode, Text.bytesOf_eq_flatMap, String.toList_ofList]
  decide

/-- There is one line to be read first. -/
theorem readsLine_iff {content rest content' rest' : List UInt8} (h : newline ∉ content) :
    ReadsLine (content ++ newline :: rest) content' rest' ↔ content' = content ∧ rest' = rest := by
  constructor
  · intro hread
    -- Both contents end where the first newline is.
    have hlength := congrArg (List.idxOf newline) hread.sent_eq
    rw [List.idxOf_append_of_notMem h, List.idxOf_append_of_notMem hread.unbroken,
      List.idxOf_cons_self, List.idxOf_cons_self] at hlength
    obtain ⟨rfl, hrest⟩ := List.append_inj hread.sent_eq hlength
    exact ⟨rfl, (List.cons.inj hrest).2.symm⟩
  · rintro ⟨rfl, rfl⟩
    exact ⟨h, rfl⟩

end Wire

/-! ### Requests -/

namespace Request

/-- A request as a JSON value. -/
def toJson (r : Request) : Json :=
  .object [
    ("generation", .ofInt r.generation),
    ("is_main_run", .bool r.wholeProgram),
    ("source_text", .string r.source),
    ("environment_in", .object r.bindings.entries)]

theorem print_toJson (r : Request) : Json.print r.toJson = r.print := by
  have hgeneration := Wire.printNumber_natCast r.generation
  simp [toJson, Json.ofInt, Json.print, Json.printMembers, Request.print, Bindings.print,
    hgeneration]

end Request

open Wire
open Json (Renders ReadsBack)

/-- Whatever its source and its bindings are, a request is written as one line: its only character
below U+0020 is the newline at its end, and the same is true of its bytes. So whoever reads one line
of them has the whole request, and nothing is left. The line tells the request: it is JSON text of
its fields and all of its bindings, however deep they are, and a request that fits is decoded from
it, with the newline or without. -/
theorem Request.line_is_one_line (r : Request) :
    (Unbroken r.print ∧ r.line = r.print ++ ['\n'] ∧ r.line.count '\n' = 1) ∧
      ((∀ b ∈ encode r.print, 0x20 ≤ b.toNat) ∧ encode r.line = encode r.print ++ [newline] ∧
        (encode r.line).count newline = 1) ∧
      (∀ content rest, ReadsLine (encode r.line) content rest ↔
        content = encode r.print ∧ rest = []) ∧
      Renders r.toJson (Text.symbols (encode r.print)) [] ∧
      (r.Fits → (∀ x ∈ r.doubles, ReadsBack x) →
        Request.decode (encode r.print) = .ok r ∧ Request.decode (encode r.line) = .ok r) := by
  have hchars := r.unbroken_print
  have hbytes : ∀ b ∈ encode r.print, 0x20 ≤ b.toNat := fun b ↦ le_of_mem_encode hchars
  have hnoChar : '\n' ∉ r.print := fun hmem ↦ absurd (hchars _ hmem) (by decide)
  have hnoByte : newline ∉ encode r.print := fun hmem ↦ absurd (hbytes _ hmem) (by decide)
  have hline : encode r.line = encode r.print ++ [newline] := by
    rw [Request.line, encode_append, encode_newline]
  have hrenders := Json.renders_print r.toJson []
  rw [List.append_nil, r.print_toJson, ← symbols_encode] at hrenders
  refine ⟨⟨hchars, rfl, ?_⟩, ⟨hbytes, hline, ?_⟩, fun content rest ↦ ?_, hrenders,
    fun hfits hdoubles ↦ ⟨Request.decode_encode hfits hdoubles,
      Request.decode_encode_line hfits hdoubles⟩⟩
  · rw [Request.line, List.count_append, List.count_eq_zero.2 hnoChar, List.count_singleton_self]
  · rw [hline, List.count_append, List.count_eq_zero.2 hnoByte, List.count_singleton_self]
  · rw [hline]
    exact readsLine_iff hnoByte

/-- A program of two lines goes out with an object whose key holds a newline, quotes, a backslash
and a control character. -/
theorem Request.line_is_one_line_nested :
    let value : Json := .object [("a \"key\"\n\\\x01", .array [.number (.double 0.5)])]
    let request : Request := ⟨3, true, "x = 1\nprint \"x\"", (∅ : Bindings).insert "x" value⟩
    (request.Fits ∧ ∀ x ∈ request.doubles, ReadsBack x) ∧
      (encode request.line).count newline = 1 ∧
      ReadsLine (encode request.line) (encode request.print) [] ∧
      Request.decode (encode request.print) = .ok request := by
  intro value request
  have hdouble : (Json.Number.double 0.5).Valid := by
    change Decimal.isFinite 0.5 = true
    decide +kernel
  have hitems : (Json.array [.number (.double 0.5)]).Valid :=
    .array (List.forall_mem_singleton.2 (.number hdouble))
  have hvalue : value.Valid :=
    .object (List.pairwise_singleton _ _) (List.forall_mem_singleton.2 hitems)
  have hfits : request.Fits := ⟨by decide, Bindings.fits_empty.insert "x" hvalue (by decide)⟩
  have hdoubles : ∀ x ∈ request.doubles, ReadsBack x := by decide +kernel
  obtain ⟨-, ⟨-, -, hcount⟩, hline, -, hdecode⟩ := request.line_is_one_line
  exact ⟨⟨hfits, hdoubles⟩, hcount, (hline _ _).2 ⟨rfl, rfl⟩, (hdecode hfits hdoubles).1⟩

end Workbench
