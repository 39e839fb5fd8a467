/-!
# Input history

The lines that were submitted, with a cursor that steps through them. The cursor stands on a line
or, at the end, on the *draft*, which is empty. Submitting a line puts the cursor back on the draft.
-/

namespace Workbench

/-- Submitted lines and a cursor. -/
structure History where
  lines : List String := []
  cursor : Nat := 0
  /-- The cursor stands on a line or on the draft behind the last one. -/
  cursor_le : cursor ≤ lines.length := by omega
  deriving DecidableEq

namespace History

/-- No lines. -/
def empty : History :=
  { cursor_le := Nat.le_refl 0 }

instance : Inhabited History :=
  ⟨empty⟩

/-- Submits a line. -/
def record (h : History) (line : String) : History :=
  ⟨h.lines ++ [line], h.lines.length + 1, by simp⟩

/-- Steps back to the line before the cursor; nothing if there is none. -/
def previous (h : History) : Option String × History :=
  match hc : h.cursor with
  | 0 => (none, h)
  | n + 1 =>
    have hn : n < h.lines.length := by have := h.cursor_le; omega
    (some (h.lines[n]), ⟨h.lines, n, Nat.le_of_lt hn⟩)

/-- Steps forward to the line behind the cursor, or to the empty draft behind the last line; nothing
if the cursor is on the draft. -/
def next (h : History) : Option String × History :=
  if hc : h.cursor < h.lines.length then
    (some (h.lines[h.cursor + 1]?.getD ""), ⟨h.lines, h.cursor + 1, hc⟩)
  else (none, h)

end History

end Workbench
