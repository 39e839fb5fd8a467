import Mathlib.Algebra.Group.Int.Defs
import Workbench.Snippet.Expr

/-!
# Sums, from left to right

`eval` takes the last plus sign outside quotes and evaluates what stands on either side of it, each
side as an expression of its own. A reader goes through the text once instead: the quotes say which
plus signs separate operands, the operands are evaluated one after the other, and each is added to
the sum of those before it. `sum_from_left` says that both come to the same, errors included.

What has to be seen is that scanning the two sides anew, each from outside of quotes, finds the
quotes where the first scan found them. The left side begins where the text begins. The right side
begins behind a plus sign outside quotes, and it holds no other one
(`operands_of_splitSum?_eq_some`), so it is an atom.

Quotes toggle, whether they are balanced or not: behind an odd number of them a plus sign is part of
an operand.
-/

namespace Workbench

namespace Snippet

/-- The whole numbers of 64 signed bits. -/
def Fits64 (n : Int) : Prop :=
  -2 ^ 63 ≤ n ∧ n ≤ 2 ^ 63 - 1

instance (n : Int) : Decidable (Fits64 n) :=
  inferInstanceAs (Decidable (_ ∧ _))

theorem fitsSigned64_iff {n : Int} : Text.fitsSigned64 n = true ↔ Fits64 n := by
  rw [Text.fitsSigned64, Bool.and_eq_true, decide_eq_true_iff, decide_eq_true_iff, Text.bound63,
    Fits64]
  omega

variable {bindings : Bindings} {inQuotes : Bool} {s before after : List Char}

/-! ### Operands -/

/-- The operands of a sum: the texts between the plus signs outside quotes. The flag says whether
the text starts inside quotes, and every quote toggles it. -/
def operands : (inQuotes : Bool) → List Char → List (List Char)
  | _, [] => [[]]
  | inQuotes, c :: rest =>
    if c = '+' ∧ inQuotes = false then [] :: operands inQuotes rest
    else (operands (if c = '"' then !inQuotes else inQuotes) rest).modifyHead (c :: ·)

example : operands false "1 + \"a+b\" + c".toList =
    ["1 ".toList, " \"a+b\" ".toList, " c".toList] := by decide +kernel

theorem operands_ne_nil (inQuotes : Bool) (s : List Char) : operands inQuotes s ≠ [] := by
  induction s generalizing inQuotes with
  | nil => simp [operands]
  | cons c rest ih =>
    rw [operands]
    split
    · exact List.cons_ne_nil _ _
    · simpa using ih _

/-- A text that is not split is its own only operand. -/
theorem operands_of_splitSum?_eq_none (h : splitSum? inQuotes s = none) :
    operands inQuotes s = [s] := by
  induction s generalizing inQuotes with
  | nil => rfl
  | cons c rest ih =>
    rw [splitSum?] at h
    split at h
    · simp at h
    · rename_i hrest
      have hplus : ¬(c = '+' ∧ inQuotes = false) := by
        intro hplus
        simp [hplus] at h
      rw [operands, if_neg hplus, ih hrest, List.modifyHead_cons]

/-- A text is split in front of its last operand, which is not split any more, although it is now
scanned from outside of quotes. -/
theorem operands_of_splitSum?_eq_some (h : splitSum? inQuotes s = some (before, after)) :
    operands inQuotes s = operands inQuotes before ++ [after] ∧ splitSum? false after = none := by
  -- The flag at the start of `s` is arbitrary: behind a quote the scan goes on inside of quotes.
  induction s generalizing inQuotes before with
  | nil => simp [splitSum?] at h
  | cons c rest ih =>
    rw [splitSum?] at h
    split at h
    · -- The last plus sign is in `rest`, so `c` belongs to the left side.
      rename_i before' after' hrest
      obtain ⟨rfl, rfl⟩ := Prod.mk.inj (Option.some.inj h)
      obtain ⟨hoperands, hafter⟩ := ih hrest
      refine ⟨?_, hafter⟩
      by_cases hplus : c = '+' ∧ inQuotes = false
      · obtain ⟨rfl, rfl⟩ := hplus
        have hrest : operands false rest = operands false before' ++ [after'] := hoperands
        show [] :: operands false rest = [] :: operands false before' ++ [after']
        rw [hrest, List.cons_append]
      · obtain ⟨first, others, heq⟩ := List.exists_cons_of_ne_nil
          (operands_ne_nil (if c = '"' then !inQuotes else inQuotes) before')
        rw [operands, operands, if_neg hplus, if_neg hplus, hoperands, heq]
        rfl
    · -- There is none in `rest`, so `c` is the last plus sign itself.
      rename_i hrest
      split at h
      · rename_i hplus
        obtain ⟨rfl, rfl⟩ := Prod.mk.inj (Option.some.inj h)
        obtain ⟨rfl, rfl⟩ := hplus
        have hafter : splitSum? false rest = none := hrest
        refine ⟨?_, hafter⟩
        show [] :: operands false rest = [[], rest]
        rw [operands_of_splitSum?_eq_none hafter]
      · simp at h

/-! ### Evaluation -/

theorem eval_of_splitSum?_eq_none (h : splitSum? false s = none) :
    eval bindings s = evalAtom bindings s := by
  rw [eval]
  split
  · rename_i heq
    simp [h] at heq
  · rfl

theorem eval_of_splitSum?_eq_some (h : splitSum? false s = some (before, after)) :
    eval bindings s =
      (do let x ← eval bindings before
          let y ← eval bindings after
          add x y) := by
  rw [eval]
  split
  · rename_i lhs rhs heq
    obtain ⟨rfl, rfl⟩ := Prod.mk.inj (Option.some.inj (heq.symm.trans h))
    cases eval bindings lhs with
    | error e => rfl
    | ok x => cases eval bindings rhs <;> rfl
  · rename_i heq
    simp [h] at heq

/-- Adds operands to a value, from left to right. Each one is evaluated when its turn has come, and
the first error ends it all. -/
def addAll (bindings : Bindings) (x : Json) (operands : List (List Char)) :
    Except EvalError Json :=
  operands.foldlM (fun x operand ↦ do add x (← evalAtom bindings operand)) x

theorem addAll_concat (bindings : Bindings) (x : Json) (operands : List (List Char))
    (last : List Char) :
    addAll bindings x (operands ++ [last]) =
      (do let sum ← addAll bindings x operands
          let y ← evalAtom bindings last
          add sum y) := by
  rw [addAll, List.foldlM_append]
  simp [addAll]

/-- An expression is its first operand, evaluated, to which the others are added. -/
theorem eval_eq_addAll (bindings : Bindings) (expr : List Char) :
    ∃ first others, operands false expr = first :: others ∧
      eval bindings expr =
        (do let x ← evalAtom bindings first
            addAll bindings x others) := by
  induction hn : expr.length using Nat.strongRecOn generalizing expr with
  | ind n ih =>
    cases hsplit : splitSum? false expr with
    | none =>
      refine ⟨expr, [], operands_of_splitSum?_eq_none hsplit, ?_⟩
      rw [eval_of_splitSum?_eq_none hsplit]
      cases evalAtom bindings expr <;> rfl
    | some sides =>
      obtain ⟨before, after⟩ := sides
      obtain ⟨hoperands, hafter⟩ := operands_of_splitSum?_eq_some hsplit
      have hshorter : before.length < n := by
        have := length_of_splitSum? hsplit
        omega
      obtain ⟨first, others, hbefore, heval⟩ := ih before.length hshorter before rfl
      refine ⟨first, others ++ [after], ?_, ?_⟩
      · rw [hoperands, hbefore, List.cons_append]
      · rw [eval_of_splitSum?_eq_some hsplit, heval, eval_of_splitSum?_eq_none hafter]
        simp only [addAll_concat, bind_assoc]

/-! ### Adding two values -/

/-- Two values are added only if they are whole numbers of 64 signed bits, or strings. -/
theorem add_eq (x y : Json) :
    add x y =
      match x, y with
      | .number (.whole m), .number (.whole n) =>
        if Fits64 m ∧ Fits64 n then
          if Fits64 (m + n) then .ok (.number (.whole (m + n))) else .error .overflow
        else .error (.cannotAdd x y)
      | .string s, .string t => .ok (.string (s ++ t))
      | _, _ => .error (.cannotAdd x y) := by
  cases x with
  | number a =>
    cases y with
    | number b =>
      cases a with
      | double => rfl
      | whole m =>
        cases b with
        | double => cases hm : Text.fitsSigned64 m <;> simp [add, signed64?, hm]
        | whole n =>
          by_cases hm : Fits64 m <;> by_cases hn : Fits64 n <;>
            simp [add, signed64?, Json.ofInt, fitsSigned64_iff, hm, hn]
    | _ => cases a <;> rfl
  | string s => cases y <;> rfl
  | _ => rfl

/-- The value of an expression, in any bindings, is that of its first operand, to which the other
operands are added from left to right; the first error on the way is the error of the whole. Whole
numbers of 64 signed bits have their exact sum if that is one of them, and overflow exactly if it is
not; strings are joined; all other pairs, doubles and greater whole numbers among them, cannot be
added. -/
theorem sum_from_left :
    (∀ (bindings : Bindings) (expr : List Char),
        ∃ first others, operands false expr = first :: others ∧
          eval bindings expr =
            (do let x ← evalAtom bindings first
                others.foldlM (fun x operand ↦ do add x (← evalAtom bindings operand)) x)) ∧
      (∀ x y : Json, add x y =
        match x, y with
        | .number (.whole m), .number (.whole n) =>
          if Fits64 m ∧ Fits64 n then
            if Fits64 (m + n) then .ok (.number (.whole (m + n))) else .error .overflow
          else .error (.cannotAdd x y)
        | .string s, .string t => .ok (.string (s ++ t))
        | _, _ => .error (.cannotAdd x y)) ∧
      EvalError.overflow.message = "integer overflow" ∧
      ∀ x y, (EvalError.cannotAdd x y).message = "cannot add " ++ x.text ++ " and " ++ y.text :=
  ⟨eval_eq_addAll, add_eq, rfl, fun _ _ ↦ rfl⟩

end Snippet

end Workbench
