import Mathlib.Data.List.Basic
import Mathlib.Data.List.TakeWhile
import Workbench.Text.Blank

/-!
# Texts and the blanks around them

A text is bare if it neither starts nor ends with a blank, and trimming finds the bare text in the
middle of a line, whatever blanks are around it: a line is some text with blanks around it just if
that is the line, trimmed (`framed_iff`). Trimming is described by this one fact, without a word on
how the blanks are found.

Besides, `splitFirst?` cuts a text at the first separator, if there is one.
-/

namespace Workbench.Text

variable {sep : Char → Bool} {s before after left right : List Char}

/-! ### Splitting -/

theorem of_splitFirst?_eq_none (h : splitFirst? sep s = none) : ∀ c ∈ s, sep c = false := by
  induction s with
  | nil => simp
  | cons c rest ih =>
    rw [splitFirst?] at h
    split at h
    · simp at h
    · rename_i hc
      have hrest : splitFirst? sep rest = none := by simpa using h
      exact List.forall_mem_cons.2 ⟨Bool.eq_false_iff.2 hc, ih hrest⟩

theorem of_splitFirst?_eq_some (h : splitFirst? sep s = some (before, after)) :
    ∃ c, sep c = true ∧ s = before ++ c :: after ∧ ∀ d ∈ before, sep d = false := by
  induction s generalizing before with
  | nil => simp [splitFirst?] at h
  | cons c rest ih =>
    rw [splitFirst?] at h
    split at h
    · rename_i hc
      obtain ⟨rfl, rfl⟩ := Prod.mk.inj (Option.some.inj h)
      exact ⟨c, hc, rfl, by simp⟩
    · rename_i hc
      obtain ⟨⟨before', after'⟩, hrest, heq⟩ := Option.map_eq_some_iff.1 h
      obtain ⟨rfl, rfl⟩ := Prod.mk.inj heq
      obtain ⟨d, hd, rfl, hbefore⟩ := ih hrest
      exact ⟨d, hd, rfl, List.forall_mem_cons.2 ⟨Bool.eq_false_iff.2 hc, hbefore⟩⟩

theorem splitFirst?_of_forall (h : ∀ c ∈ s, sep c = false) : splitFirst? sep s = none := by
  induction s with
  | nil => rfl
  | cons c rest ih =>
    obtain ⟨hc, hrest⟩ := List.forall_mem_cons.1 h
    rw [splitFirst?, hc, ih hrest]
    rfl

theorem splitFirst?_append {c : Char} (hbefore : ∀ d ∈ before, sep d = false)
    (hc : sep c = true) : splitFirst? sep (before ++ c :: after) = some (before, after) := by
  induction before with
  | nil => rw [List.nil_append, splitFirst?, if_pos hc]
  | cons d rest ih =>
    obtain ⟨hd, hrest⟩ := List.forall_mem_cons.1 hbefore
    rw [List.cons_append, splitFirst?, hd, ih hrest]
    rfl

/-! ### Trimming -/

theorem trimEnd_cons {c : Char} (hc : isBlank c = false) (s : List Char) :
    trimEnd (c :: s) = c :: trimEnd s := by
  rw [trimEnd, List.reverse_cons, List.dropWhile_append]
  split
  · rename_i hblank
    have hnil : s.reverse.dropWhile isBlank = [] := List.isEmpty_iff.1 hblank
    simp [trimEnd, hnil, hc]
  · simp [trimEnd]

/-- The first character of a trimmed text is the first one that is not blank. -/
theorem head?_trim (s : List Char) : (trim s).head? = s.find? fun c ↦ !isBlank c := by
  rw [trim, trimStart, List.find?_eq_head?_dropWhile_not]
  simp only [Bool.not_not]
  cases hstart : s.dropWhile isBlank with
  | nil => rfl
  | cons c rest =>
    have hc : isBlank c = false := by
      have := List.head?_dropWhile_not isBlank s
      rwa [hstart] at this
    rw [trimEnd_cons hc]
    rfl

theorem trim_blanks_append (hleft : ∀ c ∈ left, isBlank c = true) (s : List Char) :
    trim (left ++ s) = trim s := by
  rw [trim, trimStart, List.dropWhile_append_of_pos hleft, ← trimStart, ← trim]

theorem trimEnd_append_blanks (hright : ∀ c ∈ right, isBlank c = true) (s : List Char) :
    trimEnd (s ++ right) = trimEnd s := by
  have hreverse : ∀ c ∈ right.reverse, isBlank c = true := fun c hc ↦
    hright c (List.mem_reverse.1 hc)
  rw [trimEnd, List.reverse_append, List.dropWhile_append_of_pos hreverse, ← trimEnd]

theorem trim_append_blanks (hright : ∀ c ∈ right, isBlank c = true) (s : List Char) :
    trim (s ++ right) = trim s := by
  rw [trim, trim, trimStart, trimStart, List.dropWhile_append]
  split
  · -- The text is all blank, and so is what is behind it.
    rename_i hblank
    rw [List.isEmpty_iff.1 hblank, List.dropWhile_eq_nil_iff.2 hright]
  · exact trimEnd_append_blanks hright _

/-- Blanks around a text are no matter. -/
theorem trim_surrounded (hleft : ∀ c ∈ left, isBlank c = true)
    (hright : ∀ c ∈ right, isBlank c = true) (s : List Char) :
    trim (left ++ s ++ right) = trim s := by
  rw [trim_append_blanks hright, trim_blanks_append hleft]

theorem exists_eq_surrounded_trim (s : List Char) :
    ∃ left right, (∀ c ∈ left, isBlank c = true) ∧ (∀ c ∈ right, isBlank c = true) ∧
      s = left ++ trim s ++ right := by
  refine ⟨s.takeWhile isBlank, ((trimStart s).reverse.takeWhile isBlank).reverse, fun c hc ↦ ?_,
    fun c hc ↦ ?_, ?_⟩
  · exact List.mem_takeWhile_imp hc
  · exact List.mem_takeWhile_imp (List.mem_reverse.1 hc)
  · have hend : trim s ++ ((trimStart s).reverse.takeWhile isBlank).reverse = trimStart s := by
      rw [trim, trimEnd, ← List.reverse_append, List.takeWhile_append_dropWhile,
        List.reverse_reverse]
    rw [List.append_assoc, hend, trimStart, List.takeWhile_append_dropWhile]

/-! ### Bare texts and words -/

/-- No blank stands at the start or at the end of a text. -/
structure Bare (s : List Char) : Prop where
  start : ∀ c ∈ s.head?, isBlank c = false
  stop : ∀ c ∈ s.getLast?, isBlank c = false

theorem bare_iff : Bare s ↔ s.head?.all (!isBlank ·) ∧ s.getLast?.all (!isBlank ·) := by
  simp only [Option.all_eq_true, Bool.not_eq_true']
  exact ⟨fun h ↦ ⟨h.start, h.stop⟩, fun h ↦ ⟨h.1, h.2⟩⟩

instance (s : List Char) : Decidable (Bare s) :=
  decidable_of_iff _ bare_iff.symm

/-- A text that is not empty and holds no blank at all. -/
structure IsWord (s : List Char) : Prop where
  ne_nil : s ≠ []
  no_blank : ∀ c ∈ s, isBlank c = false

theorem isWord_iff : IsWord s ↔ s ≠ [] ∧ s.all (!isBlank ·) := by
  simp only [List.all_eq_true, Bool.not_eq_true']
  exact ⟨fun h ↦ ⟨h.ne_nil, h.no_blank⟩, fun h ↦ ⟨h.1, h.2⟩⟩

instance (s : List Char) : Decidable (IsWord s) :=
  decidable_of_iff _ isWord_iff.symm

theorem bare_trim (s : List Char) : Bare (trim s) where
  start c hc := by
    rw [head?_trim] at hc
    simpa using List.find?_some hc
  stop c hc := by
    rw [trim, trimEnd, List.getLast?_reverse] at hc
    have hkept := List.head?_dropWhile_not isBlank (trimStart s).reverse
    rwa [hc] at hkept

theorem Bare.trimStart_eq (h : Bare s) : trimStart s = s := by
  cases s with
  | nil => rfl
  | cons c rest => exact List.dropWhile_cons_of_neg (by simp [h.start c rfl])

theorem Bare.reverse (h : Bare s) : Bare s.reverse where
  start c hc := h.stop c (by rwa [List.head?_reverse] at hc)
  stop c hc := h.start c (by rwa [List.getLast?_reverse] at hc)

theorem Bare.trim_eq (h : Bare s) : trim s = s := by
  have hend : s.reverse.dropWhile isBlank = s.reverse := h.reverse.trimStart_eq
  rw [trim, h.trimStart_eq, trimEnd, hend, List.reverse_reverse]

/-- Of a text that ends in no blank, each part at the end holds something else, too. -/
theorem Bare.trimStart_ne_nil (h : Bare (before ++ after)) (hne : after ≠ []) :
    trimStart after ≠ [] := by
  intro hnil
  have hblank : isBlank (after.getLast hne) = true :=
    List.dropWhile_eq_nil_iff.1 hnil _ (List.getLast_mem hne)
  have hstop : isBlank (after.getLast hne) = false :=
    h.stop _ (List.mem_getLast?_append_of_mem_getLast? (List.getLast?_eq_some_getLast hne))
  rw [hblank] at hstop
  simp at hstop

theorem Bare.bare_trimStart (h : Bare (before ++ after)) : Bare (trimStart after) where
  start c hc := by
    have hkept := List.head?_dropWhile_not isBlank after
    rw [trimStart] at hc
    rwa [hc] at hkept
  stop c hc := by
    have hafter : c ∈ (after.takeWhile isBlank ++ after.dropWhile isBlank).getLast? :=
      List.mem_getLast?_append_of_mem_getLast? hc
    rw [List.takeWhile_append_dropWhile] at hafter
    exact h.stop c (List.mem_getLast?_append_of_mem_getLast? hafter)

/-! ### Lines -/

variable {line text : String}

theorem allBlank_iff : allBlank line = true ↔ ∀ c ∈ line.toList, isBlank c = true :=
  List.all_eq_true

/-- The line is the text with blanks around it, and these are all the blanks at the ends. -/
def Framed (line text : String) : Prop :=
  Bare text.toList ∧
    ∃ left right, allBlank left ∧ allBlank right ∧ line = left ++ text ++ right

theorem framed_trimmed (line : String) : Framed line (trimmed line) := by
  obtain ⟨left, right, hleft, hright, heq⟩ := exists_eq_surrounded_trim line.toList
  refine ⟨?_, .ofList left, .ofList right, ?_, ?_, ?_⟩
  · rw [trimmed, String.toList_ofList]
    exact bare_trim line.toList
  · rwa [allBlank_iff, String.toList_ofList]
  · rwa [allBlank_iff, String.toList_ofList]
  · rw [trimmed, ← String.ofList_append, ← String.ofList_append, ← heq, String.ofList_toList]

theorem Framed.trim_eq (h : Framed line text) : trim line.toList = text.toList := by
  obtain ⟨hbare, left, right, hleft, hright, rfl⟩ := h
  rw [String.toList_append, String.toList_append,
    trim_surrounded (allBlank_iff.1 hleft) (allBlank_iff.1 hright), hbare.trim_eq]

theorem framed_iff : Framed line text ↔ text = trimmed line := by
  constructor
  · intro h
    rw [trimmed, h.trim_eq, String.ofList_toList]
  · rintro rfl
    exact framed_trimmed line

end Workbench.Text
