import Workbench.Proofs.Session.Rejections

/-!
# The history of a session

The lines of the history are those that were submitted and not rejected, in order; whether they
could be run makes no difference, and nothing else touches them. `Seen.noted?` reads the line off
what was seen of an operation, and `Chronicle.notes_after` follows the lines through all operations.

Recalling moves the cursor by one place and answers what it is on then. There is a place behind the
last line, the draft, which reads as an empty text. No line in the history is empty, since blank
lines are rejected when they are submitted; that is why an empty answer can mean the draft and
nothing else (`Recalls.draft_of_empty`).
-/

namespace Workbench

namespace History

variable {history : History} {place : Nat}

/-- The history with the cursor on a place, or on the draft if there are fewer lines. -/
def moved (history : History) (place : Nat) : History :=
  ⟨history.lines, min place history.lines.length, Nat.min_le_right _ _⟩

theorem cursor_moved (h : place ≤ history.lines.length) : (history.moved place).cursor = place :=
  Nat.min_eq_left h

theorem moved_moved (history : History) (place other : Nat) :
    (history.moved place).moved other = history.moved other :=
  rfl

theorem moved_cursor (history : History) : history.moved history.cursor = history := by
  obtain ⟨lines, cursor, hle⟩ := history
  simp only [moved, Nat.min_eq_left hle]

theorem previous_of_zero (h : history.cursor = 0) : history.previous = (none, history) := by
  obtain ⟨lines, cursor, hle⟩ := history
  obtain rfl : cursor = 0 := h
  rfl

theorem previous_of_succ (h : history.cursor = place + 1) :
    ∃ line, history.lines[place]? = some line ∧
      history.previous = (some line, history.moved place) := by
  obtain ⟨lines, cursor, hle⟩ := history
  obtain rfl : cursor = place + 1 := h
  have hplace : place < lines.length := hle
  refine ⟨lines[place], List.getElem?_eq_getElem hplace, ?_⟩
  simp only [previous, moved, Nat.min_eq_left (Nat.le_of_lt hplace)]

theorem next_of_lt (h : history.cursor < history.lines.length) :
    history.next =
      (some (history.lines[history.cursor + 1]?.getD ""), history.moved (history.cursor + 1)) := by
  rw [next, dif_pos h]
  simp only [moved, Nat.min_eq_left (Nat.succ_le_of_lt h)]

theorem next_of_draft (h : history.cursor = history.lines.length) :
    history.next = (none, history) := by
  rw [next, dif_neg (by omega)]

/-- Stepping forward undoes stepping back. -/
theorem next_previous (h : 0 < history.cursor) : history.previous.2.next.2 = history := by
  obtain ⟨place, hplace⟩ := Nat.exists_eq_succ_of_ne_zero (Nat.ne_of_gt h)
  obtain ⟨line, -, hprevious⟩ := previous_of_succ hplace
  have hle := history.cursor_le
  have hcursor : (history.moved place).cursor = place := cursor_moved (by omega)
  have hnext : (history.moved place).cursor < (history.moved place).lines.length := by
    rw [hcursor]
    show place < history.lines.length
    omega
  rw [hprevious, next_of_lt hnext, hcursor, moved_moved, ← Nat.succ_eq_add_one, ← hplace,
    moved_cursor]

theorem lines_previous (history : History) : history.previous.2.lines = history.lines := by
  cases hcursor : history.cursor with
  | zero => rw [previous_of_zero hcursor]
  | succ place =>
    obtain ⟨line, -, hprevious⟩ := previous_of_succ hcursor
    rw [hprevious]
    rfl

theorem lines_next (history : History) : history.next.2.lines = history.lines := by
  rcases Nat.lt_or_eq_of_le history.cursor_le with hlt | hdraft
  · rw [next_of_lt hlt]
    rfl
  · rw [next_of_draft hdraft]

end History

namespace Session

variable {η : Type} {host : ContextHost η} {s : Session} {c : Chronicle η} {op : Op}

/-! ### Lines -/

/-- Whether an operation was rejected: it answered a rejection, and the host was not asked. -/
def Seen.rejected (seen : Seen) : Bool :=
  seen.answer.error?.any SessionError.isRejection && seen.calls.isEmpty

/-- The line that an operation noted: the one it was given to submit, unless it was rejected. -/
def Seen.noted? (seen : Seen) : Option String :=
  if seen.rejected then none else seen.op.noted?

theorem Chronicle.rejected_see (host : ContextHost η) (op : Op) (c : Chronicle η) :
    (c.see host op).rejected = (op.rejection? c.session).isSome := by
  cases hrejected : op.rejection? c.session with
  | some error =>
    obtain ⟨hanswer, hsame⟩ :=
      perform_of_rejection host.recorded (c.host, []) hrejected
    have hcalls : (c.see host op).calls = [] := congrArg (fun left ↦ left.2.2) hsame
    have hanswer : (c.see host op).answer.error? = some error := hanswer
    simp [Seen.rejected, hanswer, hcalls, isRejection_of_rejection? hrejected]
  | none =>
    cases hanswer : (c.see host op).answer.error? with
    | none => simp [Seen.rejected, hanswer]
    | some error =>
      -- Whatever the error is, it is the host's.
      have hfailed := (perform_of_allowed host.recorded (c.host, []) hrejected).2
        error hanswer
      obtain ⟨request, hstart⟩ := hfailed.refused
      have hcalls : (c.see host op).calls = [.refused request error] := recorded_start_error hstart
      simp [Seen.rejected, hcalls]

theorem Chronicle.history_step (host : ContextHost η) (op : Op) (c : Chronicle η) :
    (c.step host op).session.history =
      if (c.see host op).rejected then c.session.history else op.recall c.session.history := by
  rw [rejected_see]
  cases hrejected : op.rejection? c.session with
  | some error =>
    have hsame := (perform_of_rejection host.recorded (c.host, []) hrejected).2
    exact congrArg (fun left ↦ left.1.history) hsame
  | none => exact (perform_of_allowed host.recorded (c.host, []) hrejected).1

/-- All lines that were noted, in order. -/
def Chronicle.noted (c : Chronicle η) : List String :=
  c.past.reverse.filterMap Seen.noted?

theorem Chronicle.noted_step (host : ContextHost η) (op : Op) (c : Chronicle η) :
    (c.step host op).noted = c.noted ++ (c.see host op).noted?.toList := by
  rw [noted, step, List.reverse_cons, List.filterMap_append, noted]
  cases hnoted : (c.see host op).noted? <;> simp [hnoted]

/-- What a step does with the history, by the line that was noted. -/
theorem Chronicle.history_of_noted {line : String} (hnoted : (c.see host op).noted? = some line) :
    (c.step host op).session.history = c.session.history.record line ∧
      Text.allBlank line = false := by
  have hopen : (c.see host op).rejected = false ∧ op.noted? = some line := by
    rw [Seen.noted?] at hnoted
    split at hnoted
    · simp at hnoted
    · rename_i hrejected
      exact ⟨Bool.eq_false_iff.2 hrejected, hnoted⟩
  have hallowed : op.rejection? c.session = none := by
    simpa [rejected_see] using hopen.1
  rw [history_step, hopen.1]
  -- The operations that note a line are given that same line.
  cases op with
  | runLine text | submit text =>
    obtain rfl : text = line := Option.some.inj hopen.2
    exact ⟨rfl, Bool.eq_false_iff.2 (not_allBlank_of_allowed hallowed rfl)⟩
  | _ => simp [Op.noted?] at hopen

theorem Chronicle.history_of_not_noted (hnoted : (c.see host op).noted? = none)
    (hprevious : op ≠ .previous) (hnext : op ≠ .next) :
    (c.step host op).session.history = c.session.history := by
  rw [history_step]
  split
  · rfl
  · rename_i hrejected
    have hnone : op.noted? = none := by
      rwa [Seen.noted?, if_neg hrejected] at hnoted
    cases op with
    | previous => exact absurd rfl hprevious
    | next => exact absurd rfl hnext
    | _ => simp_all [Op.recall, Op.noted?]

theorem Chronicle.lines_step (host : ContextHost η) (op : Op) (c : Chronicle η) :
    (c.step host op).session.history.lines =
      c.session.history.lines ++ (c.see host op).noted?.toList := by
  cases hnoted : (c.see host op).noted? with
  | some line =>
    rw [(history_of_noted hnoted).1]
    rfl
  | none =>
    rw [Option.toList_none, List.append_nil]
    cases op with
    | previous => exact c.session.history.lines_previous
    | next => exact c.session.history.lines_next
    | _ => rw [history_of_not_noted hnoted (by simp) (by simp)]

/-- The lines of the history are those that were noted, and none of them is blank. -/
structure Chronicle.Notes (c : Chronicle η) : Prop where
  lines : c.session.history.lines = c.noted
  notBlank : ∀ line ∈ c.session.history.lines, Text.allBlank line = false

theorem Chronicle.Notes.step (h : c.Notes) (host : ContextHost η) (op : Op) :
    (c.step host op).Notes where
  lines := by rw [lines_step, noted_step, h.lines]
  notBlank := by
    intro line hmem
    rw [lines_step] at hmem
    rcases List.mem_append.1 hmem with hold | hnew
    · exact h.notBlank line hold
    · exact (history_of_noted (Option.mem_toList.1 hnew)).2

theorem Chronicle.notes_after (host : ContextHost η) (ops : List Op) (h : c.Notes) :
    (c.after host ops).Notes := by
  induction ops generalizing c with
  | nil => exact h
  | cons op ops ih => exact ih (h.step host op)

/-! ### Recalling -/

/-- What recalling the line before the cursor answers some times in a row. -/
def recallBack : Nat → Session → List (Option String)
  | 0, _ => []
  | times + 1, s => s.previous.1 :: recallBack times s.previous.2

/-- The lines in front of the cursor come back, the nearest one first, and then nothing. -/
theorem recallBack_eq (times : Nat) (s : Session) :
    s.recallBack times =
      ((s.history.lines.take s.history.cursor).reverse.take times).map some ++
        List.replicate (times - s.history.cursor) none := by
  induction times generalizing s with
  | zero => simp [recallBack]
  | succ times ih =>
    cases hcursor : s.history.cursor with
    | zero =>
      have hprevious : s.previous = (none, s) := by
        rw [previous, History.previous_of_zero hcursor]
      rw [recallBack, hprevious, ih, hcursor]
      simp [List.replicate_succ]
    | succ place =>
      obtain ⟨line, hline, hprevious⟩ := History.previous_of_succ hcursor
      have hle := s.history.cursor_le
      have hmoved : (s.history.moved place).cursor = place := History.cursor_moved (by omega)
      have hlines : (s.history.moved place).lines = s.history.lines := rfl
      have htake : (s.history.lines.take (place + 1)).reverse =
          line :: (s.history.lines.take place).reverse := by
        rw [List.take_add_one, hline]
        simp
      rw [recallBack, previous, hprevious, ih, hmoved, hlines, htake]
      simp

/-- What recalling does in a session. -/
structure Recalls (s : Session) : Prop where
  /-- Behind a line, stepping back goes to that line and answers it. -/
  previous_of_succ : ∀ place, s.history.cursor = place + 1 →
    ∃ line, s.history.lines[place]? = some line ∧
      s.previous = (some line, { s with history := s.history.moved place })
  /-- On the first line, or if there is none, stepping back does nothing. -/
  previous_of_zero : s.history.cursor = 0 → s.previous = (none, s)
  /-- On a line, stepping forward goes to the next line and answers it, and from the last line to
  the draft. The answer is empty exactly then. -/
  next_of_lt : ∀ place, s.history.cursor = place → place < s.history.lines.length →
    ∃ line, s.next = (some line, { s with history := s.history.moved (place + 1) }) ∧
      (place + 1 < s.history.lines.length → s.history.lines[place + 1]? = some line) ∧
      (line = "" ↔ place + 1 = s.history.lines.length)
  /-- On the draft, stepping forward does nothing. -/
  next_of_draft : s.history.cursor = s.history.lines.length → s.next = (none, s)
  /-- Stepping forward undoes stepping back. -/
  next_previous : 0 < s.history.cursor → s.previous.2.next.2 = s
  /-- From the draft the last lines come back, the latest first, and behind all lines nothing. -/
  back : s.history.cursor = s.history.lines.length → ∀ times, s.recallBack times =
    (s.history.lines.reverse.take times).map some ++
      List.replicate (times - s.history.lines.length) none
  /-- Stepping back never answers an empty text. -/
  previous_ne_empty : s.previous.1 ≠ some ""
  /-- An empty answer means the draft. -/
  draft_of_empty : s.next.1 = some "" → s.next.2.history.cursor = s.history.lines.length

theorem Chronicle.Notes.ne_empty (h : c.Notes) {place : Nat} {line : String}
    (hline : c.session.history.lines[place]? = some line) : line ≠ "" := by
  rintro rfl
  have hblank := h.notBlank "" (List.mem_of_getElem? hline)
  simp [Text.allBlank] at hblank

/-- The place behind a line reads as empty only if it is the draft. -/
theorem Chronicle.Notes.eq_length_of_empty (h : c.Notes) {place : Nat}
    (hle : place ≤ c.session.history.lines.length)
    (hempty : c.session.history.lines[place]?.getD "" = "") :
    place = c.session.history.lines.length := by
  rcases Nat.lt_or_eq_of_le hle with hlt | hdraft
  · have hline := List.getElem?_eq_getElem hlt
    rw [hline] at hempty
    exact absurd hempty (h.ne_empty hline)
  · exact hdraft

theorem Chronicle.Notes.recalls (h : c.Notes) : c.session.Recalls where
  previous_of_succ := by
    intro place hcursor
    obtain ⟨line, hline, hprevious⟩ := History.previous_of_succ hcursor
    exact ⟨line, hline, by rw [previous, hprevious]⟩
  previous_of_zero := by
    intro hcursor
    rw [previous, History.previous_of_zero hcursor]
  next_of_lt := by
    rintro place rfl hlt
    have hnext := History.next_of_lt hlt
    refine ⟨_, by rw [next, hnext], fun hline ↦ ?_, h.eq_length_of_empty hlt, fun hlast ↦ ?_⟩
    · rw [List.getElem?_eq_getElem hline]
      rfl
    · rw [hlast, List.getElem?_eq_none (Nat.le_refl _)]
      rfl
  next_of_draft := by
    intro hcursor
    rw [next, History.next_of_draft hcursor]
  next_previous := by
    intro hcursor
    simp only [next, previous, History.next_previous hcursor]
  back := by
    intro hcursor times
    rw [recallBack_eq, hcursor, List.take_length]
  previous_ne_empty := by
    cases hcursor : c.session.history.cursor with
    | zero => simp [previous, History.previous_of_zero hcursor]
    | succ place =>
      obtain ⟨line, hline, hprevious⟩ := History.previous_of_succ hcursor
      have hne := h.ne_empty hline
      simpa [previous, hprevious] using hne
  draft_of_empty := by
    intro hempty
    rcases Nat.lt_or_eq_of_le c.session.history.cursor_le with hlt | hdraft
    · have hnext := History.next_of_lt hlt
      simp only [next, hnext, Option.some.injEq] at hempty ⊢
      rw [History.cursor_moved hlt]
      exact h.eq_length_of_empty hlt hempty
    · simp [next, History.next_of_draft hdraft] at hempty

/-- After all sequences of operations, with any policy, any host and any results offered:

* the lines of the history are those that were given to an operation that notes its line and was not
  rejected, in order, whether or not the host could start a run for them; none of them is blank, and
  the cursor is on one of them or on the draft;
* an operation that notes a line puts it at the end and the cursor on the draft behind it, and all
  other operations but recalling leave lines and cursor alone;
* recalling steps through the lines and says when it has come to the draft. -/
theorem history_holds_noted_lines (host : ContextHost η) (policy : CommitPolicy) (h : η)
    (ops : List Op) :
    let c := (Chronicle.new policy h).after host ops
    let history := c.session.history
    history.lines = c.past.reverse.filterMap Seen.noted? ∧
      (∀ line ∈ history.lines, Text.allBlank line = false) ∧
      history.cursor ≤ history.lines.length ∧
      (∀ op line, (c.see host op).noted? = some line →
        let after := (c.step host op).session.history
        after.lines = history.lines ++ [line] ∧ after.cursor = after.lines.length) ∧
      (∀ op, (c.see host op).noted? = none → op ≠ .previous → op ≠ .next →
        (c.step host op).session.history = history) ∧
      c.session.Recalls := by
  intro c history
  have hnotes : c.Notes :=
    Chronicle.notes_after host ops ⟨rfl, by simp [Chronicle.new, History.empty]⟩
  refine ⟨hnotes.lines, hnotes.notBlank, history.cursor_le, fun op line hnoted ↦ ?_,
    fun op ↦ Chronicle.history_of_not_noted, hnotes.recalls⟩
  intro after
  have hrecord : after = history.record line := (Chronicle.history_of_noted hnoted).1
  rw [hrecord]
  exact ⟨rfl, by simp [History.record]⟩

end Session

end Workbench
