import Workbench.Console.Command
import Workbench.Proofs.Text.Blank

/-!
# The grammar of command lines

A command line holds, between the blanks around it, a word that starts with a colon, and perhaps an
argument behind it, with blanks in between. `Phrase` says how a text is made of these parts, and
`Meaning` which command a word and an argument are. Neither says how a line is read. A line is a
command just if it is a phrase that means it (`ofLine?_eq_some_iff`), and what becomes of an
argument, and where one is missed, follows from this by cases (`lines_read_as_commands`).
-/

namespace Workbench.Command

open Text (Bare Framed IsWord allBlank)

variable {line text word argument : String} {command : Command}

/-! ### Words and arguments -/

/-- The text is a word, with an argument behind it unless that is empty. -/
inductive Phrase : (text word argument : String) → Prop where
  | word {word : String} (hword : IsWord word.toList) : Phrase word word ""
  | argued {word gap argument : String} (hword : IsWord word.toList) (hgap : gap ≠ "")
    (hblank : allBlank gap) (hne : argument ≠ "") (hbare : Bare argument.toList) :
    Phrase (word ++ gap ++ argument) word argument

theorem isWord_of_colon (hcolon : word.toList.head? = some ':')
    (hblank : ∀ c ∈ word.toList, Text.isBlank c = false) : IsWord word.toList where
  ne_nil := by
    intro hnil
    simp [hnil] at hcolon
  no_blank := hblank

theorem Phrase.isWord (h : Phrase text word argument) : IsWord word.toList := by
  cases h <;> assumption

theorem Phrase.head?_eq (h : Phrase text word argument) :
    text.toList.head? = word.toList.head? := by
  cases h with
  | word => rfl
  | argued hword =>
    rw [String.toList_append, String.toList_append, List.append_assoc,
      List.head?_append_of_ne_nil _ hword.ne_nil]

theorem Phrase.argument_bare (h : Phrase text word argument) : Bare argument.toList := by
  cases h with
  | word => exact ⟨by simp, by simp⟩
  | argued _ _ _ _ hbare => exact hbare

theorem Phrase.bare (h : Phrase text word argument) : Bare text.toList where
  start c hc := by
    rw [h.head?_eq] at hc
    exact h.isWord.no_blank c (List.mem_of_mem_head? hc)
  stop c hc := by
    cases h with
    | word hword => exact hword.no_blank c (List.mem_of_mem_getLast? hc)
    | argued _ _ _ hne hbare =>
      have hne : argument.toList ≠ [] := fun hnil ↦ hne (String.toList_eq_nil_iff.1 hnil)
      rw [String.toList_append, List.getLast?_append_of_ne_nil _ hne] at hc
      exact hbare.stop c hc

/-- A bare text is a word, or its first blanks are followed by a bare argument. -/
theorem exists_phrase (hbare : Bare text.toList) (hne : text ≠ "") :
    ∃ word argument, Phrase text word argument := by
  have hnil : text.toList ≠ [] := fun hnil ↦ hne (String.toList_eq_nil_iff.1 hnil)
  cases hsplit : Text.splitFirst? Text.isBlank text.toList with
  | none => exact ⟨text, "", .word ⟨hnil, Text.of_splitFirst?_eq_none hsplit⟩⟩
  | some parts =>
    obtain ⟨word, rest⟩ := parts
    obtain ⟨c, hc, heq, hword⟩ := Text.of_splitFirst?_eq_some hsplit
    -- Some other character ends the run of blanks, as the text does not end in a blank.
    have hgap : (c :: rest).takeWhile Text.isBlank ++ Text.trimStart (c :: rest) = c :: rest :=
      List.takeWhile_append_dropWhile
    rw [heq] at hbare
    have hword : IsWord word := by
      refine ⟨?_, hword⟩
      rintro rfl
      simpa [hc] using hbare.start c rfl
    have htext : text = String.ofList word ++
        String.ofList ((c :: rest).takeWhile Text.isBlank) ++
        String.ofList (Text.trimStart (c :: rest)) := by
      rw [← String.ofList_append, ← String.ofList_append, List.append_assoc, hgap, ← heq,
        String.ofList_toList]
    rw [htext]
    refine ⟨_, _, .argued ?_ ?_ ?_ ?_ ?_⟩
    · rwa [String.toList_ofList]
    · simp [hc]
    · rw [Text.allBlank_iff, String.toList_ofList]
      exact fun d hd ↦ List.mem_takeWhile_imp hd
    · simpa using hbare.trimStart_ne_nil (List.cons_ne_nil c rest)
    · rw [String.toList_ofList]
      exact hbare.bare_trimStart

/-! ### What a phrase means -/

/-- The words of all commands. -/
def knownWords : List String :=
  ":open" :: ":append" :: plainWords.map (·.1)

/-- What a word and an argument, which may be empty, ask for. -/
inductive Meaning : (word argument : String) → Command → Prop where
  | openFile {argument : String} (hne : argument ≠ "") :
    Meaning ":open" argument (.openFile argument)
  | append {argument : String} (hne : argument ≠ "") :
    Meaning ":append" argument (.append argument)
  | missing {word : String} (hword : word = ":open" ∨ word = ":append") :
    Meaning word "" (.missingArgument word)
  | plain {word : String} {command : Command} (hword : (word, command) ∈ plainWords)
    (argument : String) : Meaning word argument command
  | unknown {word : String} (hword : word ∉ knownWords) (argument : String) :
    Meaning word argument (.unknown word)

theorem not_mem_knownWords_iff : word ∉ knownWords ↔
    word ≠ ":open" ∧ word ≠ ":append" ∧ plainWords.lookup word = none := by
  have hplain : word ∉ plainWords.map (·.1) ↔ plainWords.lookup word = none := by
    simp only [List.lookup_eq_none_iff, List.mem_map, not_exists, not_and, bne_iff_ne]
    exact ⟨fun h entry hmem heq ↦ h entry hmem heq.symm, fun h entry hmem heq ↦
      h entry hmem heq.symm⟩
  rw [knownWords, List.mem_cons, List.mem_cons, not_or, not_or, hplain]

/-- The words that stand by themselves are different from each other and from the other two. -/
theorem of_mem_plainWords (h : (word, command) ∈ plainWords) :
    word ≠ ":open" ∧ word ≠ ":append" ∧ plainWords.lookup word = some command := by
  have htable : ∀ entry ∈ plainWords, entry.1 ≠ ":open" ∧ entry.1 ≠ ":append" ∧
      plainWords.lookup entry.1 = some entry.2 := by
    decide
  exact htable (word, command) h

theorem ofWord_of_ne (hopen : word ≠ ":open") (happend : word ≠ ":append") (argument : String) :
    ofWord word argument = (plainWords.lookup word).getD (unknown word) := by
  rw [ofWord, if_neg hopen, if_neg happend]

theorem Meaning.ofWord_eq (h : Meaning word argument command) : ofWord word argument = command := by
  cases h with
  | openFile hne | append hne => simp [ofWord, hne]
  | missing hword => rcases hword with rfl | rfl <;> rfl
  | plain hword =>
    obtain ⟨hopen, happend, hlookup⟩ := of_mem_plainWords hword
    rw [ofWord_of_ne hopen happend, hlookup, Option.getD_some]
  | unknown hword =>
    obtain ⟨hopen, happend, hlookup⟩ := not_mem_knownWords_iff.1 hword
    rw [ofWord_of_ne hopen happend, hlookup, Option.getD_none]

/-- Every word asks for something, whatever is behind it. -/
theorem exists_meaning (word argument : String) : ∃ command, Meaning word argument command := by
  by_cases hneeds : word = ":open" ∨ word = ":append"
  · by_cases hne : argument = ""
    · subst hne
      exact ⟨_, .missing hneeds⟩
    · rcases hneeds with rfl | rfl
      · exact ⟨_, .openFile hne⟩
      · exact ⟨_, .append hne⟩
  · obtain ⟨hopen, happend⟩ := not_or.1 hneeds
    cases hlookup : plainWords.lookup word with
    | some command =>
      obtain ⟨before, after, heq, -⟩ := List.lookup_eq_some_iff.1 hlookup
      have hmem : (word, command) ∈ plainWords := by
        rw [heq]
        exact List.mem_append_right _ List.mem_cons_self
      exact ⟨command, .plain hmem argument⟩
    | none => exact ⟨_, .unknown (not_mem_knownWords_iff.2 ⟨hopen, happend, hlookup⟩) argument⟩

theorem meaning_iff : Meaning word argument command ↔ ofWord word argument = command := by
  refine ⟨Meaning.ofWord_eq, ?_⟩
  rintro rfl
  obtain ⟨command, hmeaning⟩ := exists_meaning word argument
  rwa [hmeaning.ofWord_eq]

/-- A text that a command carries to open or to append is its argument. -/
theorem Meaning.argument_eq (h : Meaning word argument command)
    (hcommand : command = .openFile text ∨ command = .append text) :
    argument = text ∧ argument ≠ "" := by
  cases h with
  | openFile hne | append hne => simpa [hne] using hcommand
  | missing | unknown => simp at hcommand
  | plain hword => rcases hcommand with rfl | rfl <;> simp [plainWords] at hword

/-! ### Lines -/

theorem ofLine?_eq_none_iff (h : Framed line text) :
    ofLine? line = none ↔ text.toList.head? ≠ some ':' := by
  rw [ofLine?, h.trim_eq]
  split
  · rename_i hcolon
    simp [hcolon]
  · rename_i hcolon
    split <;> simp [not_not.1 hcolon]

theorem ofLine?_surrounded {left right : String} (hleft : allBlank left) (hright : allBlank right)
    (line : String) : ofLine? (left ++ line ++ right) = ofLine? line := by
  rw [ofLine?, ofLine?, String.toList_append, String.toList_append,
    Text.trim_surrounded (Text.allBlank_iff.1 hleft) (Text.allBlank_iff.1 hright)]

/-- A phrase is read as the command that its parts stand for. -/
theorem Phrase.ofLine?_eq (h : Phrase line word argument) (hcolon : word.toList.head? = some ':') :
    ofLine? line = some (ofWord word argument) := by
  have hline : ¬line.toList.head? ≠ some ':' := by
    rw [h.head?_eq]
    exact not_not.2 hcolon
  rw [ofLine?, h.bare.trim_eq, if_neg hline]
  cases h with
  | word hword => rw [Text.splitFirst?_of_forall hword.no_blank, String.ofList_toList]
  | @argued _ gap _ hword hgap hblank hne hbare =>
    -- The line is cut at the first blank of the gap, and trimming takes away the others.
    have hgap : gap.toList ≠ [] := fun hnil ↦ hgap (String.toList_eq_nil_iff.1 hnil)
    obtain ⟨c, blanks, heq⟩ := List.exists_cons_of_ne_nil hgap
    obtain ⟨hc, hblanks⟩ := List.forall_mem_cons.1 (heq ▸ Text.allBlank_iff.1 hblank)
    have hargument : Text.trim (blanks ++ argument.toList) = argument.toList := by
      rw [Text.trim_blanks_append hblanks, hbare.trim_eq]
    rw [String.toList_append, String.toList_append, heq, List.append_assoc, List.cons_append,
      Text.splitFirst?_append hword.no_blank hc]
    simp only [hargument, String.ofList_toList]

theorem ofLine?_of_framed (h : Framed line text) : ofLine? line = ofLine? text := by
  obtain ⟨-, left, right, hleft, hright, rfl⟩ := h
  exact ofLine?_surrounded hleft hright text

/-- A line is a command just if it is a phrase that means it, with blanks around it. -/
theorem ofLine?_eq_some_iff : ofLine? line = some command ↔
    ∃ text word argument, Framed line text ∧ Phrase text word argument ∧
      word.toList.head? = some ':' ∧ Meaning word argument command := by
  constructor
  · intro h
    have hframed := Text.framed_trimmed line
    have hcolon : (Text.trimmed line).toList.head? = some ':' := by
      have hsome : ofLine? line ≠ none := by simp [h]
      rwa [ne_eq, ofLine?_eq_none_iff hframed, not_not] at hsome
    have hne : Text.trimmed line ≠ "" := by
      intro hempty
      simp [hempty] at hcolon
    obtain ⟨word, argument, hphrase⟩ := exists_phrase hframed.1 hne
    have hword : word.toList.head? = some ':' := hphrase.head?_eq ▸ hcolon
    refine ⟨_, word, argument, hframed, hphrase, hword, meaning_iff.2 ?_⟩
    rw [ofLine?_of_framed hframed, hphrase.ofLine?_eq hword] at h
    exact Option.some.inj h
  · rintro ⟨text, word, argument, hframed, hphrase, hword, hmeaning⟩
    rw [ofLine?_of_framed hframed, hphrase.ofLine?_eq hword, hmeaning.ofWord_eq]

/-- What is opened or appended is there, and no blanks are around it. -/
theorem argument_of_ofLine? {argument : String}
    (h : ofLine? line = some (.openFile argument) ∨ ofLine? line = some (.append argument)) :
    argument ≠ "" ∧ Bare argument.toList := by
  obtain ⟨command, hline, hcommand⟩ : ∃ command, ofLine? line = some command ∧
      (command = .openFile argument ∨ command = .append argument) := by
    rcases h with h | h
    · exact ⟨_, h, .inl rfl⟩
    · exact ⟨_, h, .inr rfl⟩
  obtain ⟨text, word, argument', -, hphrase, -, hmeaning⟩ := ofLine?_eq_some_iff.1 hline
  obtain ⟨rfl, hne⟩ := hmeaning.argument_eq hcommand
  exact ⟨hne, hphrase.argument_bare⟩

theorem missingArgument_iff : ofLine? line = some (.missingArgument word) ↔
    (word = ":open" ∨ word = ":append") ∧ Framed line word := by
  rw [ofLine?_eq_some_iff]
  constructor
  · rintro ⟨text, _, argument, hframed, hphrase, -, hmeaning⟩
    cases hmeaning with
    | missing hword =>
      cases hphrase with
      | word => exact ⟨hword, hframed⟩
      | argued _ _ _ hne => exact absurd rfl hne
    | plain hword => simp [plainWords] at hword
  · rintro ⟨hword, hframed⟩
    have hcolon : word.toList.head? = some ':' := by
      rcases hword with rfl | rfl <;> rfl
    have hisWord : IsWord word.toList := by
      rcases hword with rfl | rfl <;> decide
    exact ⟨word, word, "", hframed, .word hisWord, hcolon, .missing hword⟩

/-- A line is no command just if, without the blanks around it, it does not start with a colon, and
these blanks are no matter. Behind a word and some blanks, an argument is taken as it stands by the
two commands that need one; for every other word the line reads as the word alone, known or not.
What is opened or appended is never empty and never has blanks around it, and an argument is missed
just where one of the two words stands alone. -/
theorem lines_read_as_commands :
    (∀ line : String, (∃ text, Framed line text) ∧
        ∀ text, Framed line text → (ofLine? line = none ↔ text.toList.head? ≠ some ':')) ∧
      (∀ left line right : String, allBlank left → allBlank right →
        ofLine? (left ++ line ++ right) = ofLine? line) ∧
      (∀ word gap argument : String, word.toList.head? = some ':' →
        (∀ c ∈ word.toList, Text.isBlank c = false) → gap ≠ "" → allBlank gap →
        argument ≠ "" → Bare argument.toList →
        let line := word ++ gap ++ argument
        (word = ":open" → ofLine? line = some (.openFile argument)) ∧
          (word = ":append" → ofLine? line = some (.append argument)) ∧
          (word ≠ ":open" → word ≠ ":append" → ofLine? line = ofLine? word) ∧
          (∀ command, (word, command) ∈ plainWords → ofLine? line = some command) ∧
          (word ∉ knownWords → ofLine? line = some (.unknown word))) ∧
      (∀ line argument : String,
        ofLine? line = some (.openFile argument) ∨ ofLine? line = some (.append argument) →
        argument ≠ "" ∧ Bare argument.toList) ∧
      ∀ line word : String, ofLine? line = some (.missingArgument word) ↔
        (word = ":open" ∨ word = ":append") ∧ Framed line word := by
  refine ⟨fun line ↦ ⟨⟨_, Text.framed_trimmed line⟩, fun text ↦ ofLine?_eq_none_iff⟩,
    fun left line right hleft hright ↦ ofLine?_surrounded hleft hright line, ?_,
    fun line argument ↦ argument_of_ofLine?, fun line word ↦ missingArgument_iff⟩
  intro word gap argument hcolon hnoblank hgap hblank hne hbare line
  have hword : IsWord word.toList := isWord_of_colon hcolon hnoblank
  have hline {command : Command} (hmeaning : Meaning word argument command) :
      ofLine? line = some command := by
    rw [(Phrase.argued hword hgap hblank hne hbare).ofLine?_eq hcolon, hmeaning.ofWord_eq]
  refine ⟨?_, ?_, fun hopen happend ↦ ?_, fun command hplain ↦ hline (.plain hplain argument),
    fun hunknown ↦ hline (.unknown hunknown argument)⟩
  · rintro rfl
    exact hline (.openFile hne)
  · rintro rfl
    exact hline (.append hne)
  · -- For any other word, both sides are looked up in the same table.
    rw [(Phrase.word hword).ofLine?_eq hcolon, ofWord_of_ne hopen happend,
      ← ofWord_of_ne hopen happend argument]
    exact hline (meaning_iff.2 rfl)

/-- A line that appends, with blanks of several kinds, what is read of it without its argument or
without its command, and a line that opens a file with a blank in its name. -/
theorem lines_read_as_commands_appending :
    let left := "\t"
    let gap := " \u2003"
    let code := "x =  1"
    let right := "\u3000\n"
    (allBlank left ∧ allBlank gap ∧ gap ≠ "" ∧ allBlank right ∧ code ≠ "" ∧ Bare code.toList ∧
        ":append".toList.head? = some ':' ∧ ∀ c ∈ ":append".toList, Text.isBlank c = false) ∧
      ofLine? (left ++ (":append" ++ gap ++ code) ++ right) = some (.append code) ∧
      ofLine? (left ++ ":append" ++ right) = some (.missingArgument ":append") ∧
      ofLine? (left ++ code ++ right) = none ∧
      ofLine? ":open  a b " = some (.openFile "a b") ∧ "a b" ≠ "" ∧ Bare "a b".toList := by
  intro left gap code right
  have hleft : allBlank left := by decide
  have hgap : allBlank gap := by decide
  have hright : allBlank right := by decide
  have hcode : Bare code.toList := by decide
  have happend : Bare ":append".toList := by decide
  have hword : IsWord ":append".toList := by decide
  have hopened : ofLine? ":open  a b " = some (.openFile "a b") := by decide +kernel
  obtain ⟨hordinary, hsurrounded, hargued, hcarried, hmissing⟩ := lines_read_as_commands
  refine ⟨⟨hleft, hgap, by decide, hright, by decide, hcode, rfl, hword.no_blank⟩, ?_, ?_, ?_,
    hopened, hcarried _ _ (.inl hopened)⟩
  · rw [hsurrounded left _ right hleft hright]
    exact (hargued ":append" gap code rfl hword.no_blank (by decide) hgap (by decide) hcode).2.1 rfl
  · exact (hmissing _ _).2 ⟨.inr rfl, happend, left, right, hleft, hright, rfl⟩
  · exact ((hordinary _).2 code ⟨hcode, left, right, hleft, hright, rfl⟩).2 (by decide)

end Workbench.Command
