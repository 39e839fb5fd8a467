import Workbench.Proofs.Json.Accepting

/-!
# What is written is JSON

The text that is written for a value is JSON text of this value, whatever the value is: `Renders`
says so in terms of the grammar, and not of a reader. It asks less than `Spells`. No reader has to
have room for the containers, and a number stands for itself by its own text, whether or not that is
read back. Items and members are there one for one, in their order.
-/

namespace Workbench.Json

open Text (Symbol)

/-- A text starts with JSON text of a value: with the value's own numbers, with strings and names
that denote the value's, and with its items and members in their order. -/
inductive Renders : Json → Input → Input → Prop
  | null (rest : Input) : Renders .null ("null".toList.map .char ++ rest) rest
  | bool (b : Bool) (rest : Input) : Renders (.bool b) ((printBool b).map .char ++ rest) rest
  | number (n : Number) (rest : Input) :
    Renders (.number n) ((printNumber n).map .char ++ rest) rest
  | string {text : String} {s rest : Input} (h : Denotes text.toList s rest) :
    Renders (.string text) (.char '"' :: s) rest
  | array {items : List Json} {values : List Span} {s rest : Input}
    (h : List.Forall₂ (fun item value ↦ Renders item value.1 value.2) items values)
    (laid : Laid ItemAt '[' ']' values s rest) : Renders (.array items) s rest
  | object {members : List (String × Json)} {named : List (String × Span)} {s rest : Input}
    (names : members.map (·.1) = named.map (·.1))
    (h : List.Forall₂ (fun member value ↦ Renders member.2 value.2.1 value.2.2) members named)
    (laid : Laid NamedAt '{' '}' named s rest) : Renders (.object members) s rest

/-! ### Containers -/

section Containers

variable {α ε : Type} {El : ε → Input → Input → Prop} {R : α → ε → Prop} {xs : List α}
  {texts : List (List Char)}

/-- Texts of elements with commas in front of them are further elements of a container. -/
theorem exists_more
    (h : List.Forall₂ (fun x text ↦
      ∀ rest, ∃ e, El e (text.map Symbol.char ++ rest) rest ∧ R x e) xs texts)
    (rest : Input) :
    ∃ es, More El es ((texts.flatMap (',' :: ·)).map .char ++ rest) rest ∧
      List.Forall₂ R xs es := by
  induction h with
  | nil => exact ⟨[], .nil rest, .nil⟩
  | @cons x text xs texts hx hxs ih =>
    obtain ⟨es, more, hes⟩ := ih
    obtain ⟨e, element, he⟩ := hx ((texts.flatMap (',' :: ·)).map .char ++ rest)
    rw [List.flatMap_cons, List.map_append, List.append_assoc]
    exact ⟨e :: es, .cons ⟨.nil _, .nil _⟩ element more, .cons he hes⟩

/-- Texts of elements with commas between them are a container, inside its brackets. -/
theorem exists_laid
    (h : List.Forall₂ (fun x text ↦
      ∀ rest, ∃ e, El e (text.map Symbol.char ++ rest) rest ∧ R x e) xs texts)
    (opening closing : Char) (rest : Input) :
    ∃ es, Laid El opening closing es
        (.char opening :: ((commaSeparated texts).map .char ++ .char closing :: rest)) rest ∧
      List.Forall₂ R xs es := by
  cases h with
  | nil => exact ⟨[], .empty (.nil _), .nil⟩
  | @cons x text xs texts hx hxs =>
    -- The first element has no comma in front of it; the others are what follows in the container.
    obtain ⟨es, more, hes⟩ := exists_more hxs (.char closing :: rest)
    obtain ⟨e, element, he⟩ := hx ((texts.flatMap (',' :: ·)).map .char ++ .char closing :: rest)
    rw [commaSeparated_cons, List.map_append, List.append_assoc]
    exact ⟨e :: es, .elements (.nil _) element more (.nil _), .cons he hes⟩

end Containers

/-- A name, a colon and a value are a member. -/
theorem namedAt_memberText (name : String) (text : List Char) (rest : Input) :
    NamedAt (name, text.map .char ++ rest, rest) ((memberText (name, text)).map .char ++ rest)
      rest := by
  obtain ⟨s, htext, hread⟩ := exists_map_memberText name text rest
  obtain ⟨t, heq, named⟩ := Denotes.of_readString hread
  cases heq
  rw [htext]
  exact .mk named ⟨.nil _, .nil _⟩

/-! ### Values -/

theorem renders_array {items : List Json} {texts : List (List Char)}
    (h : List.Forall₂ (fun item text ↦ ∀ rest, Renders item (text.map Symbol.char ++ rest) rest)
      items texts) (rest : Input) :
    Renders (.array items)
      (.char '[' :: ((commaSeparated texts).map .char ++ .char ']' :: rest)) rest := by
  have hitems : List.Forall₂ (fun item text ↦ ∀ rest, ∃ value : Span,
      ItemAt value (text.map Symbol.char ++ rest) rest ∧ Renders item value.1 value.2)
      items texts := by
    refine h.imp ?_
    intro item text htext rest
    exact ⟨(text.map Symbol.char ++ rest, rest), rfl, htext rest⟩
  obtain ⟨values, laid, hvalues⟩ := exists_laid hitems '[' ']' rest
  exact .array hvalues laid

theorem renders_object {members : List (String × Json)} {texts : List (String × List Char)}
    (h : List.Forall₂ (fun member text ↦ member.1 = text.1 ∧
      ∀ rest, Renders member.2 (text.2.map Symbol.char ++ rest) rest) members texts)
    (rest : Input) : Renders (.object members) ((record texts).map .char ++ rest) rest := by
  have hmembers : List.Forall₂ (fun member text ↦ ∀ rest, ∃ value : String × Span,
      NamedAt value (text.map Symbol.char ++ rest) rest ∧
        member.1 = value.1 ∧ Renders member.2 value.2.1 value.2.2)
      members (texts.map memberText) := by
    refine List.forall₂_map_right_iff.2 (h.imp ?_)
    intro member text hmember rest
    exact ⟨(text.1, text.2.map .char ++ rest, rest), namedAt_memberText text.1 text.2 rest,
      hmember.1, hmember.2 rest⟩
  obtain ⟨named, laid, hnamed⟩ := exists_laid hmembers '{' '}' rest
  have hnames : List.Forall₂ Eq (members.map (·.1)) (named.map (·.1)) :=
    List.forall₂_map_left_iff.2 (List.forall₂_map_right_iff.2 (hnamed.imp fun _ _ h ↦ h.1))
  refine .object (List.forall₂_eq_eq_eq ▸ hnames) (hnamed.imp fun _ _ h ↦ h.2) ?_
  simpa [record_eq] using laid

mutual

/-- The text that is written for a value is one of its texts, whatever follows it. -/
theorem renders_print : (x : Json) → (rest : Input) →
    Renders x ((print x).map .char ++ rest) rest
  | null, rest => .null rest
  | bool b, rest => .bool b rest
  | number n, rest => .number n rest
  | string text, rest => by
    obtain ⟨s, htext, denotes⟩ := Denotes.of_readString (readString_printString text rest)
    rw [print, htext]
    exact .string denotes
  | array items, rest => by
    have hitems := renders_array (renders_printItems items) rest
    simpa [print] using hitems
  | object members, rest => renders_object (renders_printMembers members) rest

theorem renders_printItems : (items : List Json) →
    List.Forall₂ (fun item text ↦ ∀ rest, Renders item (text.map Symbol.char ++ rest) rest)
      items (printItems items)
  | [] => .nil
  | x :: rest => .cons (renders_print x) (renders_printItems rest)

theorem renders_printMembers : (members : List (String × Json)) →
    List.Forall₂ (fun member text ↦ member.1 = text.1 ∧
      ∀ rest, Renders member.2 (text.2.map Symbol.char ++ rest) rest)
      members (printMembers members)
  | [] => .nil
  | (_, x) :: rest => .cons ⟨rfl, renders_print x⟩ (renders_printMembers rest)

end

end Workbench.Json
