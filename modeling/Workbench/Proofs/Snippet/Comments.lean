import Workbench.Proofs.Snippet.Sequence
import Workbench.Proofs.Text.Blank

/-!
# Comments

A comment is a statement that starts with `#`, and statements end at semicolons as well as at
newlines. So a line that starts with `#` is not a comment as a whole: what stands behind its first
semicolon is run. `semicolon_ends_comment` is such a source. Up to there nothing in the line counts,
whatever it is: `comments_are_ignored` says that the outcome stays the same if every line that
starts with `#` and holds no semicolon is deleted, and also if of every other one only what stands
behind its first semicolon is kept.

A source is taken apart into lines for this, and the statements of a source are those of its lines,
one after the other (`statementTexts_eq_flatMap_linesOf`).
-/

namespace Workbench

namespace Text

variable {sep : Char → Bool} {s piece : List Char}

theorem pieces_of_forall (h : ∀ c ∈ s, sep c = false) : pieces sep s = [s] := by
  induction s with
  | nil => rfl
  | cons c rest ih =>
    obtain ⟨hc, hrest⟩ := List.forall_mem_cons.1 h
    rw [pieces, hc, ih hrest]
    rfl

theorem forall_mem_of_mem_pieces (h : piece ∈ pieces sep s) : ∀ c ∈ piece, sep c = false := by
  induction s generalizing piece with
  | nil =>
    obtain rfl := List.mem_singleton.1 h
    simp
  | cons d rest ih =>
    rw [pieces] at h
    cases hd : sep d with
    | true =>
      rw [hd, if_pos rfl] at h
      rcases List.mem_cons.1 h with rfl | h
      · simp
      · exact ih h
    | false =>
      obtain ⟨first, others, heq⟩ := List.exists_cons_of_ne_nil (pieces_ne_nil sep rest)
      rw [hd, heq] at h
      rcases List.mem_cons.1 h with rfl | h
      · exact List.forall_mem_cons.2 ⟨hd, ih (heq ▸ List.mem_cons_self)⟩
      · exact ih (heq ▸ List.mem_cons_of_mem _ h)

end Text

namespace Snippet

open Context (Signals Ending)

/-! ### Lines -/

/-- The lines of a source. -/
def linesOf (source : List Char) : List (List Char) :=
  Text.pieces (· = '\n') source

/-- The source with these lines. -/
def ofLines (lines : List (List Char)) : List Char :=
  ['\n'].intercalate lines

theorem ofLines_linesOf (source : List Char) : ofLines (linesOf source) = source := by
  induction source with
  | nil => rfl
  | cons c rest ih =>
    obtain ⟨first, others, heq⟩ := List.exists_cons_of_ne_nil (Text.pieces_ne_nil (· = '\n') rest)
    rw [ofLines, linesOf, heq] at ih
    by_cases hc : c = '\n'
    · rw [ofLines, linesOf, Text.pieces, if_pos (by simpa using hc), heq,
        List.intercalate_cons_cons, ih, hc]
      rfl
    · rw [ofLines, linesOf, Text.pieces, if_neg (by simpa using hc), heq, List.modifyHead_cons,
        ← ih]
      cases others <;> rfl

/-- The statements of a source are those of its lines. -/
theorem statementTexts_ofLines (lines : List (List Char)) :
    statementTexts (ofLines lines) = lines.flatMap statementTexts := by
  induction lines with
  | nil => rfl
  | cons line lines ih =>
    cases lines with
    | nil => simp [ofLines]
    | cons next lines =>
      have hjoin : ofLines (line :: next :: lines) = line ++ '\n' :: ofLines (next :: lines) := by
        simp [ofLines, List.intercalate_cons_cons]
      rw [hjoin, statementTexts_append, ih]
      rfl

theorem statementTexts_eq_flatMap_linesOf (source : List Char) :
    statementTexts source = (linesOf source).flatMap statementTexts := by
  have hlines := statementTexts_ofLines (linesOf source)
  rwa [ofLines_linesOf] at hlines

theorem newline_not_mem_line {source line : List Char} (h : line ∈ linesOf source) :
    '\n' ∉ line := by
  intro hmem
  have := Text.forall_mem_of_mem_pieces h '\n' hmem
  simp at this

/-! ### Comment lines -/

/-- A comment line: its first character that is not blank is `#`. -/
def IsComment (line : List Char) : Prop :=
  line.find? (fun c ↦ !Text.isBlank c) = some '#'

instance (line : List Char) : Decidable (IsComment line) :=
  inferInstanceAs (Decidable (_ = _))

variable {line before after : List Char}

/-- Nothing in a comment line without a semicolon is a statement. -/
theorem IsComment.statementTexts_eq_nil (h : IsComment line) (hnewline : '\n' ∉ line)
    (hsemicolon : ';' ∉ line) : statementTexts line = [] := by
  have hpieces : Text.pieces isSeparator line = [line] := by
    refine Text.pieces_of_forall fun c hc ↦ ?_
    have h₁ : c ≠ '\n' := fun heq ↦ hnewline (heq ▸ hc)
    have h₂ : c ≠ ';' := fun heq ↦ hsemicolon (heq ▸ hc)
    simp [isSeparator, h₁, h₂]
  have hhead : (Text.trim line).head? = some '#' := (Text.head?_trim line).trans h
  simp [statementTexts, hpieces, hhead]

/-- The part of a comment line in front of its first semicolon is a comment, too. -/
theorem IsComment.of_append_semicolon (h : IsComment (before ++ ';' :: after)) :
    IsComment before := by
  rw [IsComment, List.find?_append] at h
  rw [IsComment]
  cases hfind : before.find? fun c ↦ !Text.isBlank c with
  | some c => simpa [hfind] using h
  | none =>
    -- All in front of the semicolon is blank, so the line would begin with the semicolon.
    have hsemicolon : Text.isBlank ';' = false := by decide
    simp [hfind, hsemicolon] at h

theorem IsComment.statementTexts_append_semicolon (h : IsComment (before ++ ';' :: after))
    (hnewline : '\n' ∉ before) (hsemicolon : ';' ∉ before) :
    statementTexts (before ++ ';' :: after) = statementTexts after := by
  rw [statementTexts_append_of_isSeparator rfl,
    h.of_append_semicolon.statementTexts_eq_nil hnewline hsemicolon, List.nil_append]

/-! ### Leaving comments out -/

/-- A source without the lines that satisfy `p`. -/
def withoutLines (p : List Char → Prop) [DecidablePred p] (source : String) : String :=
  String.ofList (ofLines ((linesOf source.toList).filter fun line ↦ ¬p line))

/-- What is left of a line without its comment, which ends behind the first semicolon. -/
def uncommentedLine (line : List Char) : Option (List Char) :=
  if IsComment line then (Text.splitFirst? (· = ';') line).map (·.2) else some line

/-- A source without its comments. -/
def uncommented (source : String) : String :=
  String.ofList (ofLines ((linesOf source.toList).filterMap uncommentedLine))

/-- A source of which, line by line, only such parts are left out as hold no statement. -/
theorem statements_filterMap {source : String} {left? : List Char → Option (List Char)}
    (h : ∀ line ∈ linesOf source.toList,
      (left? line).elim [] statementTexts = statementTexts line) :
    statements (String.ofList (ofLines ((linesOf source.toList).filterMap left?))) =
      statements source := by
  have htexts (lines : List (List Char))
      (hlines : ∀ line ∈ lines, (left? line).elim [] statementTexts = statementTexts line) :
      (lines.filterMap left?).flatMap statementTexts = lines.flatMap statementTexts := by
    induction lines with
    | nil => rfl
    | cons line lines ih =>
      obtain ⟨hline, hrest⟩ := List.forall_mem_cons.1 hlines
      rw [List.flatMap_cons, ← hline, ← ih hrest, List.filterMap_cons]
      cases left? line <;> rfl
  rw [statements, statements, String.toList_ofList, statementTexts_ofLines, htexts _ h,
    ← statementTexts_eq_flatMap_linesOf]

theorem statements_withoutLines (source : String) :
    statements (withoutLines (fun line ↦ IsComment line ∧ ';' ∉ line) source) =
      statements source := by
  rw [withoutLines, ← List.filterMap_eq_filter]
  refine statements_filterMap fun line hline ↦ ?_
  by_cases hcomment : IsComment line ∧ ';' ∉ line
  · have hnothing := hcomment.1.statementTexts_eq_nil (newline_not_mem_line hline) hcomment.2
    simp [Option.guard, hcomment, hnothing]
  · simp [Option.guard, hcomment]

theorem statements_uncommented (source : String) :
    statements (uncommented source) = statements source := by
  refine statements_filterMap fun line hline ↦ ?_
  have hnewline := newline_not_mem_line hline
  by_cases hcomment : IsComment line
  · rw [uncommentedLine, if_pos hcomment]
    cases hsplit : Text.splitFirst? (· = ';') line with
    | none =>
      have hsemicolon : ';' ∉ line := by
        intro hmem
        simpa using Text.of_splitFirst?_eq_none hsplit ';' hmem
      exact (hcomment.statementTexts_eq_nil hnewline hsemicolon).symm
    | some parts =>
      obtain ⟨before, after⟩ := parts
      obtain ⟨c, hc, rfl, hbefore⟩ := Text.of_splitFirst?_eq_some hsplit
      obtain rfl : c = ';' := by simpa using hc
      have hsemicolon : ';' ∉ before := by
        intro hmem
        simpa using hbefore ';' hmem
      have hnewline : '\n' ∉ before := fun hmem ↦ hnewline (List.mem_append_left _ hmem)
      exact (hcomment.statementTexts_append_semicolon hnewline hsemicolon).symm
  · rw [uncommentedLine, if_neg hcomment]
    rfl

theorem execute_congr {signals : Signals} {request : Request} {source : String}
    (h : statements source = statements request.source) :
    execute signals { request with source } = execute signals request := by
  rw [execute, execute, h]

/-- Running a source, in any bindings and whatever the signals are, ends in the same way if every
comment line without a semicolon is deleted, and also if every comment is deleted up to the first
semicolon behind it, or to the end of its line if there is none. -/
theorem comments_are_ignored (signals : Signals) (request : Request) :
    execute signals { request with
        source := withoutLines (fun line ↦ IsComment line ∧ ';' ∉ line) request.source } =
      execute signals request ∧
    execute signals { request with source := uncommented request.source } =
      execute signals request :=
  ⟨execute_congr (statements_withoutLines request.source),
    execute_congr (statements_uncommented request.source)⟩

/-- If the whole line of a comment is deleted, the statement behind a semicolon in it is not run. -/
theorem semicolon_ends_comment :
    ¬∀ (signals : Signals) (request : Request),
      (execute signals { request with source := withoutLines IsComment request.source }).untimed =
        (execute signals request).untimed := by
  intro h
  have hsame := h {} ⟨0, false, "x = 1\n# twice that; x = 2\nprint x", ∅⟩
  revert hsame
  decide +kernel

end Snippet

end Workbench
