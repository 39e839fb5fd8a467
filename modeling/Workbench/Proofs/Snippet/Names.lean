import Mathlib.Data.List.Infix
import Workbench.Proofs.Snippet.Comments
import Workbench.Proofs.Snippet.Sums

/-!
# Names that a source does not hold

Whatever a run looks up or binds is a name in the text of its source: the source is cut into
statements, a statement into a name and an expression, an expression into operands, and every part
is a stretch of the whole. So a name that is no stretch of the source is out of reach. Two runs of
the source whose bindings differ at that name alone do the same, statement by statement, and each
leaves at that name what it has found there.

`Outcome.Related` carries a relation between what two runs have done from their statements to their
outcomes, and `Progress.Twin` is the relation for a name that no statement holds. Besides, a run
never loses a name that was bound, whatever its source. `absent_names_are_inert` says both.
-/

namespace Workbench

namespace Text

variable {sep : Char → Bool} {s before after start rest : List Char} {parts : List (List Char)}

/-- The parts are stretches of the text, and it begins with the first one. -/
def Stretches (s : List Char) (parts : List (List Char)) : Prop :=
  (∀ first ∈ parts.head?, first <+: s) ∧ ∀ part ∈ parts, part <:+: s

namespace Stretches

theorem cut (h : Stretches s parts) (c : Char) : Stretches (c :: s) ([] :: parts) := by
  refine ⟨?_, List.forall_mem_cons.2 ⟨List.nil_infix, fun part hpart ↦ ?_⟩⟩
  · rintro _ ⟨⟩
    exact List.nil_prefix
  · exact List.infix_cons (h.2 part hpart)

theorem extend (h : Stretches s parts) (c : Char) :
    Stretches (c :: s) (parts.modifyHead (c :: ·)) := by
  cases parts with
  | nil => exact ⟨by simp, by simp⟩
  | cons first others =>
    have hfirst : c :: first <+: c :: s := List.prefix_cons_inj c |>.2 (h.1 first rfl)
    refine ⟨?_, List.forall_mem_cons.2 ⟨hfirst.isInfix, fun part hpart ↦ ?_⟩⟩
    · rintro _ ⟨⟩
      exact hfirst
    · exact List.infix_cons (h.2 part (List.mem_cons_of_mem first hpart))

end Stretches

theorem stretches_nil : Stretches [] [[]] := by
  simp [Stretches]

theorem stretches_pieces (sep : Char → Bool) (s : List Char) : Stretches s (pieces sep s) := by
  induction s with
  | nil => exact stretches_nil
  | cons c s ih =>
    rw [pieces]
    split
    · exact ih.cut c
    · exact ih.extend c

theorem trim_infix (s : List Char) : trim s <:+: s := by
  obtain ⟨left, right, -, -, heq⟩ := exists_eq_surrounded_trim s
  exact ⟨left, right, heq.symm⟩

theorem infix_of_splitFirst? (h : splitFirst? sep s = some (before, after)) :
    before <:+: s ∧ after <:+: s := by
  obtain ⟨c, -, rfl, -⟩ := of_splitFirst?_eq_some h
  exact ⟨(List.prefix_append before (c :: after)).isInfix,
    (List.suffix_append_of_suffix (List.suffix_cons c after)).isInfix⟩

theorem infix_of_afterPrefix? (h : afterPrefix? start s = some rest) : rest <:+: s := by
  induction start generalizing s with
  | nil =>
    obtain rfl := Option.some.inj h
    exact List.infix_rfl
  | cons p start ih =>
    cases s with
    | nil => simp [afterPrefix?] at h
    | cons c s =>
      rw [afterPrefix?] at h
      split at h
      · exact List.infix_cons (ih h)
      · simp at h

end Text

/-! ### Looking a name up -/

theorem Keyed.get?_insert {α : Type} (key : String) (value : α) (l : Keyed α) (other : String) :
    (l.insert key value).get? other = if key = other then some value else l.get? other := by
  induction l with
  | nil => rfl
  | cons head rest ih =>
    obtain ⟨k, v⟩ := head
    rw [insert]
    split
    · rfl
    · split
      · rename_i heq
        rw [get?, get?, heq]
        split <;> rfl
      · rename_i hne
        rw [get?, get?, ih]
        split
        · rename_i heq
          rw [if_neg (heq ▸ hne)]
        · rfl

namespace Bindings

theorem get?_insert (b : Bindings) (name : String) (value : Json) (other : String) :
    (b.insert name value).get? other = if name = other then some value else b.get? other :=
  Keyed.get?_insert name value b.entries other

/-- All names that are bound in `b` are bound in `b'`, too. -/
def Kept (b b' : Bindings) : Prop :=
  ∀ name, (b.get? name).isSome → (b'.get? name).isSome

theorem kept_refl (b : Bindings) : b.Kept b :=
  fun _ hbound ↦ hbound

theorem kept_insert (b : Bindings) (name : String) (value : Json) :
    b.Kept (b.insert name value) := by
  intro other hbound
  rw [get?_insert]
  split
  · rfl
  · exact hbound

end Bindings

namespace Snippet

open Context (Signals Ending)

variable {signals : Signals} {name : String} {bindings bindings' : Bindings}
  {expr s : List Char} {x x' : Option Json} {p p' : Progress}

/-! ### Names in expressions -/

theorem stretches_operands (inQuotes : Bool) (s : List Char) :
    Text.Stretches s (operands inQuotes s) := by
  induction s generalizing inQuotes with
  | nil => exact Text.stretches_nil
  | cons c s ih =>
    rw [operands]
    split
    · exact (ih inQuotes).cut c
    · exact (ih _).extend c

/-- The bindings agree about all names but this one. -/
def AgreeOff (name : String) (bindings bindings' : Bindings) : Prop :=
  ∀ other, other ≠ name → bindings'.get? other = bindings.get? other

theorem AgreeOff.insert (h : AgreeOff name bindings bindings') (target : String) (value : Json) :
    AgreeOff name (bindings.insert target value) (bindings'.insert target value) := by
  intro other hother
  rw [Bindings.get?_insert, Bindings.get?_insert, h other hother]

theorem evalAtom_congr (hagree : AgreeOff name bindings bindings')
    (habsent : ¬name.toList <:+: expr) : evalAtom bindings' expr = evalAtom bindings expr := by
  have hother : String.ofList (Text.trim expr) ≠ name := by
    rintro rfl
    rw [String.toList_ofList] at habsent
    exact habsent (Text.trim_infix expr)
  rw [evalAtom, evalAtom]
  simp only [hagree _ hother]

theorem addAll_congr (hagree : AgreeOff name bindings bindings') {operands : List (List Char)}
    (habsent : ∀ operand ∈ operands, ¬name.toList <:+: operand) (x : Json) :
    addAll bindings' x operands = addAll bindings x operands := by
  induction operands generalizing x with
  | nil => rfl
  | cons operand operands ih =>
    obtain ⟨hoperand, hrest⟩ := List.forall_mem_cons.1 habsent
    have ih (x : Json) : addAll bindings' x operands = addAll bindings x operands := ih hrest x
    simp only [addAll] at ih ⊢
    simp only [List.foldlM_cons, evalAtom_congr hagree hoperand, ih]

theorem eval_congr (hagree : AgreeOff name bindings bindings') (habsent : ¬name.toList <:+: expr) :
    eval bindings' expr = eval bindings expr := by
  obtain ⟨first, others, hoperands, heval⟩ := eval_eq_addAll bindings expr
  obtain ⟨first', others', hoperands', heval'⟩ := eval_eq_addAll bindings' expr
  obtain ⟨rfl, rfl⟩ := List.cons.inj (hoperands.symm.trans hoperands')
  have hparts : ∀ operand ∈ first :: others, ¬name.toList <:+: operand := by
    intro operand hoperand hstretch
    rw [← hoperands] at hoperand
    exact habsent (hstretch.trans ((stretches_operands false expr).2 operand hoperand))
  obtain ⟨hfirst, hothers⟩ := List.forall_mem_cons.1 hparts
  rw [heval, heval', evalAtom_congr hagree hfirst]
  simp only [addAll_congr hagree hothers]

/-! ### Names in statements -/

/-- No expression of the statement holds the name, and it is not bound. -/
def Statement.Omits (name : String) : Statement → Prop
  | .print expr | .expr expr => ¬name.toList <:+: expr
  | .assign target expr => target ≠ name ∧ ¬name.toList <:+: expr
  | .fail _ | .sleep _ | .spin => True

theorem Statement.omits_of_fail? {statement : Statement} (h : fail? s = some statement)
    (name : String) : statement.Omits name := by
  rw [fail?] at h
  split at h
  · simp at h
  · split at h
    · obtain rfl := Option.some.inj h
      trivial
    · simp at h

theorem Statement.omits_of_sleep? {statement : Statement} (h : sleep? s = some statement)
    (name : String) : statement.Omits name := by
  rw [sleep?] at h
  split at h
  · simp at h
  · obtain ⟨millis, -, rfl⟩ := Option.map_eq_some_iff.1 h
    trivial

theorem Statement.omits_of_assign? {statement : Statement} (h : assign? s = some statement)
    (habsent : ¬name.toList <:+: s) : statement.Omits name := by
  rw [assign?] at h
  split at h
  · simp at h
  · rename_i target value hsplit
    obtain ⟨htarget, hvalue⟩ := Text.infix_of_splitFirst? hsplit
    split at h
    · obtain rfl := Option.some.inj h
      refine ⟨?_, fun hstretch ↦ habsent (hstretch.trans ((Text.trim_infix value).trans hvalue))⟩
      rintro rfl
      rw [String.toList_ofList] at habsent
      exact habsent ((Text.trim_infix target).trans htarget)
    · simp at h

theorem Statement.omits_ofText (habsent : ¬name.toList <:+: s) : (ofText s).Omits name := by
  rw [ofText]
  split
  · trivial
  · split
    · rename_i rest hrest
      intro hstretch
      exact habsent
        (hstretch.trans ((Text.trim_infix rest).trans (Text.infix_of_afterPrefix? hrest)))
    · cases hfail : fail? s with
      | some statement => exact omits_of_fail? hfail name
      | none =>
        cases hsleep : sleep? s with
        | some statement => exact omits_of_sleep? hsleep name
        | none =>
          cases hassign : assign? s with
          | some statement => exact omits_of_assign? hassign habsent
          | none => exact habsent

/-- A name that is no stretch of a source is in none of its statements. -/
theorem omits_of_mem_statements {source : String} (habsent : ¬name.toList <:+: source.toList) :
    ∀ statement ∈ statements source, statement.Omits name := by
  intro statement hmem
  obtain ⟨text, htext, rfl⟩ := List.mem_map.1 hmem
  obtain ⟨piece, hpiece, rfl⟩ := List.mem_map.1 (List.mem_filter.1 htext).1
  have hstretch : Text.trim piece <:+: source.toList :=
    (Text.trim_infix piece).trans ((Text.stretches_pieces isSeparator source.toList).2 piece hpiece)
  exact Statement.omits_ofText fun hname ↦ habsent (hname.trans hstretch)

/-! ### Two runs -/

/-- Two statements that came to the same, but for what they have done. -/
inductive Step.Related (R : Progress → Progress → Prop) : Step → Step → Prop where
  | next {p p' : Progress} (h : R p p') : Related R (.next p) (.next p')
  | failed (message : String) : Related R (.failed message) (.failed message)
  | stopped : Related R .stopped .stopped
  | endless : Related R .endless .endless

theorem Step.related_ofValue {R : Progress → Progress → Prop} {use use' : Json → Progress}
    (value : Except EvalError Json) (h : ∀ x, R (use x) (use' x)) :
    Related R (ofValue value use) (ofValue value use') := by
  cases value with
  | ok x => exact .next (h x)
  | error e => exact .failed e.message

/-- Two runs that ended in the same way, but for what they have done. -/
inductive Outcome.Related (R : Progress → Progress → Prop) : Outcome → Outcome → Prop where
  | finished {p p' : Progress} (h : R p p') : Related R (.finished p) (.finished p')
  | failed {p p' : Progress} (h : R p p') (message : String) :
      Related R (.failed p message) (.failed p' message)
  | stopped : Related R .stopped .stopped
  | endless : Related R .endless .endless

/-- What every statement keeps of two runs, all of them keep. -/
theorem related_runAll {R : Progress → Progress → Prop} {statements : List Statement}
    (hstep : ∀ s ∈ statements, ∀ p p', R p p' → (s.run signals p).Related R (s.run signals p'))
    (h : R p p') : (runAll signals statements p).Related R (runAll signals statements p') := by
  induction statements generalizing p p' with
  | nil => exact .finished h
  | cons s rest ih =>
    obtain ⟨hs, hrest⟩ := List.forall_mem_cons.1 hstep
    have hrelated := hs p p' h
    rw [runAll, runAll]
    generalize s.run signals p = step, s.run signals p' = step' at hrelated ⊢
    cases hrelated with
    | next hnext => exact ih hrest hnext
    | failed message => exact .failed h message
    | stopped => exact .stopped
    | endless => exact .endless

/-- Two runs have done the same on bindings that agree about all names but this one, for which they
have `x` and `x'`. -/
structure Progress.Twin (name : String) (x x' : Option Json) (p p' : Progress) : Prop where
  output_eq : p'.output = p.output
  lastValue_eq : p'.lastValue = p.lastValue
  clock_eq : p'.clock = p.clock
  agree : AgreeOff name p.bindings p'.bindings
  here : p.bindings.get? name = x
  here' : p'.bindings.get? name = x'

theorem Statement.Omits.related_run {statement : Statement} (homits : statement.Omits name)
    (htwin : p.Twin name x x' p') :
    (statement.run signals p).Related (Progress.Twin name x x') (statement.run signals p') := by
  obtain ⟨houtput, hlast, hclock, hagree, hhere, hhere'⟩ := htwin
  cases statement with
  | print expr =>
    rw [run, run, eval_congr hagree homits]
    exact Step.related_ofValue _ fun y ↦ ⟨by rw [houtput], hlast, hclock, hagree, hhere, hhere'⟩
  | expr expr =>
    rw [run, run, eval_congr hagree homits]
    exact Step.related_ofValue _ fun y ↦ ⟨houtput, rfl, hclock, hagree, hhere, hhere'⟩
  | assign target expr =>
    obtain ⟨hne, habsent⟩ := homits
    rw [run, run, eval_congr hagree habsent]
    refine Step.related_ofValue _ fun y ↦
      ⟨houtput, rfl, hclock, hagree.insert target y, ?_, ?_⟩
    · rw [Bindings.get?_insert, if_neg hne, hhere]
    · rw [Bindings.get?_insert, if_neg hne, hhere']
  | fail message => exact .failed message
  | sleep millis =>
    -- The clocks agree, so both runs are stopped while they sleep, or neither is.
    rw [run, run, hclock]
    split
    · exact .stopped
    · exact .next ⟨houtput, hlast, rfl, hagree, hhere, hhere'⟩
  | spin =>
    rw [run, run]
    split
    · exact .stopped
    · exact .endless

/-! ### No name is lost -/

theorem Step.exists_of_ofValue {value : Except EvalError Json} {use : Json → Progress}
    (h : ofValue value use = .next p) : ∃ x, p = use x := by
  cases value with
  | ok x => exact ⟨x, (Step.next.inj h).symm⟩
  | error e => simp [ofValue] at h

theorem Statement.kept_of_run {statement : Statement} (h : statement.run signals p = .next p') :
    p.bindings.Kept p'.bindings := by
  cases statement with
  | print | expr =>
    obtain ⟨x, rfl⟩ := Step.exists_of_ofValue h
    exact p.bindings.kept_refl
  | assign target expr =>
    obtain ⟨x, rfl⟩ := Step.exists_of_ofValue h
    exact p.bindings.kept_insert target x
  | fail message => simp [run] at h
  | sleep millis =>
    rw [run] at h
    split at h
    · simp at h
    · obtain rfl := Step.next.inj h
      exact p.bindings.kept_refl
  | spin =>
    rw [run] at h
    split at h
    · simp at h
    · simp at h

/-- What a run has done when it ends by itself. -/
def Outcome.progress? : Outcome → Option Progress
  | finished p | failed p _ => some p
  | stopped | endless => none

theorem kept_of_runAll {statements : List Statement}
    (h : (runAll signals statements p).progress? = some p') : p.bindings.Kept p'.bindings := by
  induction statements generalizing p with
  | nil =>
    obtain rfl := Option.some.inj h
    exact p.bindings.kept_refl
  | cons s rest ih =>
    rw [runAll] at h
    cases hrun : s.run signals p with
    | next q =>
      rw [hrun] at h
      exact fun name hbound ↦ ih h name (Statement.kept_of_run hrun name hbound)
    | failed message =>
      rw [hrun] at h
      obtain rfl := Option.some.inj h
      exact p.bindings.kept_refl
    | stopped | endless =>
      rw [hrun] at h
      simp [Outcome.progress?] at h

theorem Outcome.exists_progress {outcome : Outcome} {response : Response}
    (h : outcome.ending = .responded response) :
    ∃ p, outcome.progress? = some p ∧ response.bindings = p.bindings := by
  cases outcome with
  | finished p | failed p message =>
    obtain rfl := Ending.responded.inj h
    exact ⟨p, rfl, rfl⟩
  | stopped | endless => simp [ending] at h

/-! ### Endings -/

/-- Two endings of one kind, with the same message, or with responses that are the same but for the
bindings (and the time): these agree about all names but this one, for which they have `x` and
`x'`. -/
inductive AlikeOff (name : String) (x x' : Option Json) : Ending → Ending → Prop where
  | responded {response response' : Response} (ok : response'.ok = response.ok)
      (output : response'.output = response.output)
      (lastValue : response'.lastValue = response.lastValue)
      (agree : ∀ other, other ≠ name →
        response'.bindings.get? other = response.bindings.get? other)
      (here : response.bindings.get? name = x) (here' : response'.bindings.get? name = x') :
      AlikeOff name x x' (.responded response) (.responded response')
  | broke (message : String) : AlikeOff name x x' (.broke message) (.broke message)
  | never : AlikeOff name x x' .never .never

theorem Outcome.Related.alikeOff {outcome outcome' : Outcome}
    (h : outcome.Related (Progress.Twin name x x') outcome') :
    AlikeOff name x x' outcome.ending outcome'.ending := by
  cases h with
  | finished htwin =>
    exact .responded rfl htwin.output_eq htwin.lastValue_eq htwin.agree htwin.here htwin.here'
  | failed htwin message =>
    exact .responded rfl (congrArg (· ++ message) htwin.output_eq) rfl htwin.agree htwin.here
      htwin.here'
  | stopped => exact .broke _
  | endless => exact .never

/-- Whatever the signals are:

* a name that is no stretch of the source is inert. If the bindings of a request are changed at that
  name alone, the run ends in the same way, with the same output and last value or the same error.
  The bindings that it leaves are the same, too, but for that name, which has what it had before,
  in either run;
* every name that is bound at first is bound in the response. -/
theorem absent_names_are_inert (signals : Signals) (request : Request) :
    (∀ (name : String) (bindings' : Bindings), ¬name.toList <:+: request.source.toList →
        (∀ other, other ≠ name → bindings'.get? other = request.bindings.get? other) →
        AlikeOff name (request.bindings.get? name) (bindings'.get? name) (execute signals request)
          (execute signals { request with bindings := bindings' })) ∧
      ∀ response, execute signals request = .responded response → ∀ name,
        (request.bindings.get? name).isSome → (response.bindings.get? name).isSome := by
  refine ⟨fun name bindings' habsent hagree ↦ ?_, fun response hexecute ↦ ?_⟩
  · rw [execute, execute]
    split
    · exact .broke _
    · have htwin : Progress.Twin name (request.bindings.get? name) (bindings'.get? name)
          { bindings := request.bindings } { bindings := bindings' } :=
        ⟨rfl, rfl, rfl, hagree, rfl, rfl⟩
      have homits := omits_of_mem_statements habsent
      exact (related_runAll (fun s hs _ _ ↦ (homits s hs).related_run) htwin).alikeOff
  · rw [execute] at hexecute
    split at hexecute
    · simp at hexecute
    · obtain ⟨p, hprogress, hbindings⟩ := Outcome.exists_progress hexecute
      rw [hbindings]
      exact kept_of_runAll hprogress

/-- A run that fails behind an assignment, with a name bound that its source does not hold. -/
theorem absent_names_are_inert_failing :
    let request : Request := ⟨0, false, "y = x + 1; print w", Bindings.empty.insert "x" (.ofInt 1)⟩
    let bindings' := request.bindings.insert "z" (.string "w")
    (¬"z".toList <:+: request.source.toList ∧
        ∀ other, other ≠ "z" → bindings'.get? other = request.bindings.get? other) ∧
      AlikeOff "z" none (some (.string "w")) (execute {} request)
        (execute {} { request with bindings := bindings' }) ∧
      execute {} request = .responded (.failure "name 'w' is not defined" (seconds 0)
        (request.bindings.insert "y" (.ofInt 2))) := by
  intro request bindings'
  have habsent : ¬"z".toList <:+: request.source.toList := by decide +kernel
  have hagree : ∀ other, other ≠ "z" → bindings'.get? other = request.bindings.get? other := by
    intro other hother
    rw [Bindings.get?_insert, if_neg (Ne.symm hother)]
  exact ⟨⟨habsent, hagree⟩, (absent_names_are_inert {} request).1 "z" bindings' habsent hagree,
    by decide +kernel⟩

end Snippet

end Workbench
