import Workbench.Proofs.Json.Accepting
import Workbench.Proofs.Wire.RoundTrip

/-!
# The values of fields

Each field of a message has a value of one type. The reader of a field gives what the value is, as a
value of that type, for every text of the value; and it reads nothing else.
-/

namespace Workbench.Wire

open Json (Fault Input Space Denotes Spells endsNumber)

/-- The truth value that a value is. -/
def boolValue? : Json → Option Bool
  | .bool b => some b
  | _ => none

/-- The text that a value is. -/
def textValue? : Json → Option String
  | .string text => some text
  | _ => none

/-- The text that a value is, or that it is `null`. -/
def textOrNullValue? : Json → Option (Option String)
  | .null => some none
  | .string text => some (some text)
  | _ => none

/-- The natural number that a value is. A double is none. -/
def naturalValue? : Json → Option Nat
  | .number (.whole n) => if 0 ≤ n then some n.toNat else none
  | _ => none

/-- The double that a number is, or the double next to it. -/
def secondsValue? : Json → Option Float
  | .number (.whole n) => some (Float.ofInt n)
  | .number (.double x) => some x
  | _ => none

/-- The bindings that an object is. -/
def bindingsValue? : Json → Option Bindings
  | .object members => some (.ofList members)
  | _ => none

section Values

variable {α : Type} {s rest : Input}

/-- A reader gives what `value?` makes of a value, for each text of the value, and gives nothing for
any other text. The containers of the value are open inside of a message. -/
structure ReadAs (read : Input → Except Fault (α × Input)) (value? : Json → Option α) : Prop where
  reads {x : Json} {a : α} {s t rest : Input} (space : Space s t)
    (spelled : Spells (valueRoom + 1) x t rest) (ha : value? x = some a)
    (hrest : endsNumber rest = true) : read s = .ok (a, rest)
  spelled {a : α} {s rest : Input} (h : read s = .ok (a, rest)) :
    ∃ x t, Space s t ∧ Spells (valueRoom + 1) x t rest ∧ value? x = some a

theorem readAs_bool : ReadAs readBool boolValue? where
  reads {x b s t rest} space h hb _ := by
    rw [readBool, space.skipSpace_eq, ← readBool]
    cases h with
    | bool room b =>
      obtain rfl := Option.some.inj hb
      cases b <;> rfl
    | null | number | string | array | object => cases hb
  spelled {b s rest} h := by
    have hspace := Space.of_skipSpace s
    rw [readBool] at h
    split at h
    · rename_i t heq
      obtain ⟨_, hread, hb⟩ := Json.exists_of_map_eq_ok h
      cases hb
      obtain rfl := Json.eq_of_readLiteral hread
      rw [heq] at hspace
      exact ⟨.bool true, _, hspace, .bool _ true rest, rfl⟩
    · rename_i t heq
      obtain ⟨_, hread, hb⟩ := Json.exists_of_map_eq_ok h
      cases hb
      obtain rfl := Json.eq_of_readLiteral hread
      rw [heq] at hspace
      exact ⟨.bool false, _, hspace, .bool _ false rest, rfl⟩
    · cases h

theorem readAs_text : ReadAs readText textValue? where
  reads {x text s t rest} space h ht _ := by
    rw [readText, space.skipSpace_eq, ← readText]
    cases h with
    | string room h =>
      obtain rfl := Option.some.inj ht
      exact h.readString_eq
    | null | bool | number | array | object => cases ht
  spelled {text s rest} h := by
    have hspace := Space.of_skipSpace s
    rw [readText] at h
    split at h
    · rename_i t heq
      obtain ⟨_, ht, denotes⟩ := Denotes.of_readString h
      cases ht
      refine ⟨_, _, heq ▸ hspace, .string _ denotes, ?_⟩
      rw [String.ofList_toList, textValue?]
    · cases h

theorem readAs_textOrNull : ReadAs readTextOrNull textOrNullValue? where
  reads {x text s t rest} space h ht _ := by
    rw [readTextOrNull, space.skipSpace_eq, ← readTextOrNull]
    cases h with
    | null =>
      obtain rfl := Option.some.inj ht
      rfl
    | string room h =>
      obtain rfl := Option.some.inj ht
      exact map_eq_ok h.readString_eq
    | bool | number | array | object => cases ht
  spelled {text s rest} h := by
    have hspace := Space.of_skipSpace s
    rw [readTextOrNull] at h
    split at h
    · rename_i t heq
      obtain ⟨_, hread, ht⟩ := Json.exists_of_map_eq_ok h
      cases ht
      obtain rfl := Json.eq_of_readLiteral hread
      rw [heq] at hspace
      exact ⟨.null, _, hspace, .null _ rest, rfl⟩
    · obtain ⟨⟨text, _⟩, hread, ht⟩ := Json.exists_of_map_eq_ok h
      cases ht
      obtain ⟨x, t, space, spelled, hx⟩ := readAs_text.spelled hread
      refine ⟨x, t, hspace.trans space, spelled, ?_⟩
      cases x with
      | string text' =>
        obtain rfl := Option.some.inj hx
        rfl
      | null | bool | number | array | object => cases hx

theorem readConverted_numeral {expected : String} {convert : Json.Number → Except Json.Cause α}
    {token : Json.Token} {text : List Char} {n : Json.Number} {a : α} (h : Json.Numeral token text)
    (hn : token.value? = some n) (hconvert : convert n = .ok a) (hrest : endsNumber rest = true) :
    readConverted expected convert (text.map .char ++ rest) = .ok (a, rest) := by
  have hread := h.readNumber_eq hn hrest
  obtain ⟨c, cs, rfl, hc⟩ := h.starts
  rw [List.map_cons, List.cons_append] at hread ⊢
  rw [readConverted, Json.skipSpace_of_startsNumber hc]
  simp only [if_pos hc, hread, hconvert]

theorem spells_of_readConverted {expected : String}
    {convert : Json.Number → Except Json.Cause α} {a : α}
    (h : readConverted expected convert s = .ok (a, rest)) :
    ∃ n t, Space s t ∧ Spells (valueRoom + 1) (.number n) t rest ∧ convert n = .ok a := by
  have hspace := Space.of_skipSpace s
  rw [readConverted] at h
  split at h
  · rename_i c t heq
    split at h
    · split at h
      · cases h
      · rename_i n _ hread
        split at h
        · rename_i hconvert
          cases h
          exact ⟨n, _, heq ▸ hspace, .of_readNumber hread _, hconvert⟩
        · cases h
    · cases h
  · cases h

theorem readAs_natural : ReadAs readNatural naturalValue? where
  reads {x n s t rest} space h hn hrest := by
    rw [readNatural, readConverted, space.skipSpace_eq, ← readConverted]
    cases h with
    | @number room token text number h hvalue =>
      refine readConverted_numeral h hvalue ?_ hrest
      cases number with
      | whole m =>
        simp only [naturalValue?] at hn
        split at hn
        · rename_i hm
          obtain rfl := Option.some.inj hn
          exact if_pos hm
        · cases hn
      | double y => cases hn
    | null | bool | string | array | object => cases hn
  spelled {n s rest} h := by
    obtain ⟨number, t, space, spelled, hconvert⟩ := spells_of_readConverted h
    refine ⟨.number number, t, space, spelled, ?_⟩
    cases number with
    | whole m =>
      simp only at hconvert
      split at hconvert
      · rename_i hm
        cases hconvert
        exact if_pos hm
      · cases hconvert
    | double y => cases hconvert

theorem readAs_seconds : ReadAs readSeconds secondsValue? where
  reads {x seconds s t rest} space h hseconds hrest := by
    rw [readSeconds, readConverted, space.skipSpace_eq, ← readConverted]
    cases h with
    | @number room token text number h hvalue =>
      refine readConverted_numeral h hvalue ?_ hrest
      cases number <;> exact congrArg _ (Option.some.inj hseconds)
    | null | bool | string | array | object => cases hseconds
  spelled {seconds s rest} h := by
    obtain ⟨number, t, space, spelled, hconvert⟩ := spells_of_readConverted h
    refine ⟨.number number, t, space, spelled, ?_⟩
    cases number <;> exact congrArg _ (Except.ok.inj hconvert)

/-- Members put away one by one are the bindings of the object that they make up. -/
theorem foldl_insert_eq_ofList (pairs : List (String × Json)) :
    pairs.foldl (fun b pair ↦ b.insert pair.1 pair.2) ∅ = Bindings.ofList (Keyed.ofList pairs) := by
  have hentries : (pairs.foldl (fun b pair ↦ b.insert pair.1 pair.2) (∅ : Bindings)).entries =
      Keyed.ofList pairs :=
    entries_foldl_insert pairs ∅
  have hordered := Keyed.foldl_insert_nil (Keyed.ordered_ofList pairs)
  generalize pairs.foldl _ (∅ : Bindings) = b at hentries
  cases b
  cases hentries
  simp only [Bindings.ofList, Bindings.mk.injEq]
  exact hordered.symm

theorem readAs_bindings : ReadAs (readBindings valueRoom) bindingsValue? where
  reads {x b s t rest} space h hb hrest := by
    rw [readBindings, space.skipSpace_eq, ← readBindings]
    cases h with
    | object h laid =>
      obtain rfl := Option.some.inj hb
      obtain ⟨t, rfl, hread⟩ := Json.readMembers_values Bindings.insert ∅ h
        (fun member hmem ↦ (h member hmem).readValue_eq) laid
      rw [readBindings, Json.skipSpace_char (by decide)]
      simp only [hread, foldl_insert_eq_ofList]
    | null | bool | number | string | array => cases hb
  spelled {b s rest} h := by
    have hspace := Space.of_skipSpace s
    rw [readBindings] at h
    split at h
    · rename_i t heq
      obtain ⟨members, laid, rfl, hvalues⟩ :=
        Json.exists_of_readMembers_values (fun _ _ _ ↦ Spells.of_readValue) h
      refine ⟨_, _, heq ▸ hspace, .object hvalues laid, ?_⟩
      rw [foldl_insert_eq_ofList, bindingsValue?]
    · cases h

end Values

end Workbench.Wire
