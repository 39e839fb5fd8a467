import Workbench.Proofs.Session.Trace

/-!
# The transcript, run by run

Since the last reset, every attempt to start a run that reached the host has left one *block* of
entries in the transcript, and there is nothing else in it. Entries are made when a run starts and
when it ends, with anything in between: stale results, rejected operations, edits. That they stand
together is due to there being at most one run in flight, whose block is the last.

`Block.entries` writes a block out entry by entry; what blocks there are is found from the news
alone (`blocksOf`). `Unfolds` is what a session keeps: its transcript are the blocks, and a block
without an ending is the last one, of the run in flight.
-/

namespace Workbench

namespace Session

variable {η : Type}

/-- How a run ended, as far as the transcript tells. -/
inductive Ending where
  | aborted
  | broke (message : String)
  | responded (now : String) (response : Response)
  deriving DecidableEq

/-- An attempt to start a run. -/
inductive Block where
  /-- The host refused. -/
  | refused (error : SessionError)
  /-- A run was started; it may have ended. -/
  | run (mode : RunMode) (source : String) (ending? : Option Ending)
  deriving DecidableEq

namespace Block

/-- The entries of a run that ended. -/
def endingEntries (mode : RunMode) : Ending → List Entry
  | .aborted => [.banner "Program aborted."]
  | .broke message =>
    .output false message ::
      match mode with
      | .terminal => []
      | .program => [.banner "Program error."]
  | .responded now response =>
    (if response.output = "" then [] else [.output response.ok response.output]) ++
      match mode with
      | .terminal =>
        match response.lastValue with
        | some value => if response.ok then [.output true value] else []
        | none => []
      | .program =>
        if response.ok then
          [.banner "Program terminated successfully.", .timing response.seconds now]
        else [.banner "Program error."]

/-- The entries of a block. -/
def entries : Block → List Entry
  | refused error => [.banner s!"Run failed to start: {error.message}"]
  | run mode source ending? =>
    .banner "Running…" ::
      ((match mode with
        | .terminal => [.echo source]
        | .program => []) ++
        match ending? with
        | some ending => endingEntries mode ending
        | none => [])

/-- Whether nothing more can come to a block. -/
def isEnded : Block → Bool
  | refused _ => true
  | run _ _ ending? => ending?.isSome

/-- The block of a run that ends, unless it has. -/
def close (ending : Ending) : Block → Block
  | run mode source none => run mode source (some ending)
  | block => block

/-! ### Entries that the session makes -/

theorem entries_opening (mode : RunMode) (source : String) :
    (run mode source none).entries = opening mode source := by
  cases mode <;> rfl

/-- The entries of a run that ended are those it began with and those of its ending. -/
theorem entries_close (mode : RunMode) (source : String) (ending : Ending) :
    ((run mode source none).close ending).entries =
      (run mode source none).entries ++ endingEntries mode ending := by
  simp [close, entries]

theorem endingEntries_broke (mode : RunMode) (message : String) :
    endingEntries mode (.broke message) = breakdown mode message := by
  cases mode <;> rfl

theorem endingEntries_responded (mode : RunMode) (now : String) (response : Response) :
    endingEntries mode (.responded now response) = closing now mode response := by
  cases hok : response.ok <;> cases hvalue : response.lastValue <;> cases mode <;>
    simp [endingEntries, closing, hok, hvalue, Entry.succeeded, Entry.failed]

end Block

/-- The blocks since the last reset, latest first. -/
def blocksOf : List News → List Block
  | [] => []
  | .started request :: past => .run request.mode request.source none :: blocksOf past
  | .refused _ error :: past => .refused error :: blocksOf past
  | .responded now response :: past =>
    (blocksOf past).modifyHead (Block.close (.responded now response))
  | .broke message :: past => (blocksOf past).modifyHead (Block.close (.broke message))
  | .aborted :: past => (blocksOf past).modifyHead (Block.close .aborted)
  | .reset :: _ => []
  | .forgot :: past => blocksOf past

/-- The blocks since the last reset, in the order in which the host was asked to start runs. -/
def Chronicle.blocks (c : Chronicle η) : List Block :=
  (blocksOf c.news).reverse

theorem mode_requestFor (s : Session) (mode : RunMode) (source : String) :
    (s.requestFor mode source).mode = mode := by
  cases mode <;> rfl

/-- The block of the run in flight, if there is one. -/
def openBlock (s : Session) : List Block :=
  (s.flight.map fun flight ↦ Block.run flight.mode flight.source none).toList

/-- The transcript consists of the blocks that the news tell of. All are ended, up to the one of the
run in flight, which is the last. -/
structure Unfolds (past : List News) (s : Session) : Prop where
  transcript_eq : s.transcript = (blocksOf past).reverse.flatMap Block.entries
  ended : ∃ earlier, blocksOf past = s.openBlock ++ earlier ∧ ∀ block ∈ earlier, block.isEnded

namespace Unfolds

variable {past news : List News} {s s' : Session}

theorem start (policy : CommitPolicy) : Unfolds [] { policy } where
  transcript_eq := rfl
  ended := ⟨[], rfl, by simp⟩

/-- Without a run in flight all blocks are ended. -/
theorem ended_of_idle (h : Unfolds past s) (idle : s.flight = none) :
    ∀ block ∈ blocksOf past, block.isEnded := by
  obtain ⟨earlier, heq, hearlier⟩ := h.ended
  rw [heq, openBlock, idle]
  exact hearlier

/-- The block of a run that ends is closed, and the entries of its ending come behind it. -/
theorem settle (h : Unfolds past s) {flight : Flight} (running : s.flight = some flight)
    (ending : Ending) {new : News}
    (hblocks : blocksOf (new :: past) = (blocksOf past).modifyHead (Block.close ending))
    (hflight : s'.flight = none)
    (htranscript : s'.transcript = s.transcript ++ Block.endingEntries flight.mode ending) :
    Unfolds (new :: past) s' := by
  obtain ⟨earlier, heq, hearlier⟩ := h.ended
  have hopen : s.openBlock = [.run flight.mode flight.source none] := by
    rw [openBlock, running]
    rfl
  rw [hopen, List.singleton_append] at heq
  rw [heq, List.modifyHead_cons] at hblocks
  refine ⟨?_, ?_⟩
  · rw [htranscript, h.transcript_eq, heq, hblocks, List.reverse_cons, List.reverse_cons,
      List.flatMap_append, List.flatMap_append, List.flatMap_singleton, List.flatMap_singleton,
      Block.entries_close, List.append_assoc]
  · refine ⟨blocksOf (new :: past), ?_, ?_⟩
    · rw [openBlock, hflight]
      rfl
    · rw [hblocks, List.forall_mem_cons]
      exact ⟨rfl, hearlier⟩

/-- Every step keeps transcript and blocks together. -/
theorem step (h : Unfolds past s) (hstepped : Stepped s news s') :
    Unfolds (news.reverse ++ past) s' := by
  cases hstepped with
  | quiet history program => exact ⟨h.transcript_eq, h.ended⟩
  | refused idle mode source error history =>
    refine ⟨?_, blocksOf (.refused (s.requestFor mode source) error :: past), ?_, ?_⟩
    · simp [blocksOf, log, h.transcript_eq, Block.entries, startFailure]
    · simp [openBlock, log, idle]
    · rw [blocksOf, List.forall_mem_cons]
      exact ⟨rfl, h.ended_of_idle idle⟩
  | started idle mode source history =>
    have hblocks : blocksOf (.started (s.requestFor mode source) :: past) =
        .run mode source none :: blocksOf past := by
      rw [blocksOf, mode_requestFor]
      rfl
    refine ⟨?_, blocksOf past, hblocks, h.ended_of_idle idle⟩
    rw [List.reverse_singleton, List.singleton_append, hblocks, List.reverse_cons,
      List.flatMap_append, List.flatMap_singleton, Block.entries_opening, ← h.transcript_eq]
    rfl
  | @responded flight running now response =>
    refine h.settle running (.responded now response) rfl rfl ?_
    rw [Block.endingEntries_responded]
    rfl
  | @broke flight running message =>
    refine h.settle running (.broke message) rfl rfl ?_
    rw [Block.endingEntries_broke]
    rfl
  | aborted running => exact h.settle running .aborted rfl rfl rfl
  | cleared idle =>
    refine ⟨rfl, [], ?_, by simp⟩
    simp [openBlock, reset, idle, blocksOf]
  | opened generation program => exact ⟨rfl, [], rfl, by simp⟩
  | forgot => exact ⟨h.transcript_eq, h.ended⟩

end Unfolds

/-- Unless it is a reset, news leaves the transcript as the beginning of the later one. -/
theorem Stepped.transcript_grows {news : List News} {s s' : Session} (h : Stepped s news s')
    (hreset : .reset ∉ news) : s.transcript <+: s'.transcript := by
  cases h with
  | quiet | forgot => exact List.prefix_rfl
  | refused | started | responded | broke | aborted => exact List.prefix_append _ _
  | cleared | opened => exact absurd (List.mem_singleton_self _) hreset

/-- Only a successful clearing and taking another program are resets. -/
theorem reset_of_mem_news (host : ContextHost η) {op : Op} {c : Chronicle η}
    (hmem : .reset ∈ (c.see host op).news) :
    (op = .clear ∧ c.session.clear.1 = .ok ()) ∨ ∃ program, op = .openProgram program := by
  have hanswers := Chronicle.answers_of_mem_news host hmem (by simp) (by simp)
  generalize hanswer : (c.session.perform host.recorded op (c.host, [])).1 = answer at hanswers
  cases hanswers with
  | cleared => exact .inl ⟨rfl, Answer.cleared.inj hanswer⟩
  | opened program => exact .inr ⟨program, rfl⟩

/-- After all sequences of operations, with any host and any results offered: the transcript are
the blocks since the last reset, one for every attempt to start a run that reached the host, in this
order. All but the last block are ended; the last one is not exactly if a run is in flight, and
then it is the block of that run. And an operation that is no reset leaves the transcript as the
beginning of the later one. -/
theorem transcript_eq_blocks (host : ContextHost η) (policy : CommitPolicy) (h : η)
    (ops : List Op) :
    let c := (Chronicle.new policy h).after host ops
    c.session.transcript = c.blocks.flatMap Block.entries ∧
      (∀ block ∈ c.blocks.dropLast, block.isEnded) ∧
      (∀ mode source, c.blocks.getLast? = some (.run mode source none) ↔
        ∃ generation, c.session.flight = some ⟨generation, mode, source⟩) ∧
      ∀ op, (op = .clear ∧ c.session.clear.1 = .ok ()) ∨ (∃ program, op = .openProgram program) ∨
        c.session.transcript <+: (c.step host op).session.transcript := by
  intro c
  have hunfolds : Unfolds c.news c.session :=
    Chronicle.after_induction host policy h (Unfolds.start policy) Unfolds.step ops
  obtain ⟨earlier, heq, hearlier⟩ := hunfolds.ended
  refine ⟨hunfolds.transcript_eq, ?_, fun mode source ↦ ?_, fun op ↦ ?_⟩
  · rw [Chronicle.blocks, heq, openBlock]
    cases c.session.flight with
    | none =>
      intro block hmem
      exact hearlier block (List.mem_reverse.1 (List.dropLast_subset _ hmem))
    | some flight => simpa using hearlier
  · rw [Chronicle.blocks, List.getLast?_reverse, heq, openBlock]
    cases hflight : c.session.flight with
    | none =>
      have hended : ∀ block, earlier.head? = some block → block.isEnded := fun block hblock ↦
        hearlier block (List.mem_of_mem_head? hblock)
      simp only [Option.map_none, Option.toList_none, List.nil_append, reduceCtorEq, exists_false,
        iff_false]
      exact fun hblock ↦ absurd (hended _ hblock) (by simp [Block.isEnded])
    | some flight =>
      obtain ⟨generation, flightMode, flightSource⟩ := flight
      simp
  · by_cases hreset : .reset ∈ (c.see host op).news
    · exact or_assoc.1 (.inl (reset_of_mem_news host hreset))
    · exact .inr (.inr ((stepped host op c).transcript_grows hreset))

end Session

end Workbench
