import Workbench.Disk.Text
import Workbench.Disk.Tree
import Workbench.Proofs.Text.Decoding

/-!
# Files that nobody else writes

The answers to the requests of a task say what the files hold only if nobody else writes them, and
if a write that fails changes nothing. `Files.Answers` is what may be relied on then, request by
request, and `DiskTask.Leaves` follows the files through a task.

Files are known by their paths here, and two paths may lead to one file. So a write may change what
is read at other paths, too, but only to the bytes that were written. That is so for files in memory
(`Tree.answers_read`, `Tree.answers_write`): a file that is created makes paths lead somewhere that
led nowhere before, and they lead to nothing else than this file.
-/

namespace Workbench

/-- The bytes that are read at each path; nothing where no file is. -/
abbrev Files : Type :=
  String → Option (List UInt8)

namespace Files

/-- What files can be after a write that is answered so. -/
inductive Writes (f : Files) (path : String) (bytes : List UInt8) :
    Except DiskError Unit → Files → Prop where
  | done {f' : Files} (holds : f' path = some bytes)
      (others : ∀ other, f' other = f other ∨ f' other = some bytes) :
      Writes f path bytes (.ok ()) f'
  | refused (error : DiskError) : Writes f path bytes (.error error) f

/-- Whether files can answer a request so, and be like this afterwards. Nothing is said about
requests that neither read nor write a file. -/
def Answers (f : Files) : (request : DiskRequest) → request.Answer → Files → Prop
  | .read path, answer, f' => f' = f ∧ ∀ bytes, answer = .ok bytes → f path = some bytes
  | .write path bytes, answer, f' => f.Writes path bytes answer f'
  | .list _, _, _ | .make _, _, _ | .remove _ _, _, _ | .move _ _, _, _ | .here, _, _ => True

end Files

namespace DiskTask

variable {α β : Type} {answer : (request : DiskRequest) → request.Answer} {f f' : Files}

/-- Whether a task can turn files into others if its requests get these answers. -/
def Leaves (answer : (request : DiskRequest) → request.Answer) : DiskTask α → Files → Files → Prop
  | done _, f, f' => f' = f
  | ask request next, f, f' =>
    ∃ f₁ : Files, f.Answers request (answer request) f₁ ∧
      (next (answer request)).Leaves answer f₁ f'

theorem leaves_map (g : α → β) (task : DiskTask α) :
    (task.map g).Leaves answer f f' ↔ task.Leaves answer f f' := by
  induction task generalizing f with
  | done => rfl
  | ask request next ih =>
    exact exists_congr fun f₁ ↦ and_congr_right fun _ ↦ ih (answer request)

theorem decoded_eq_ok_iff {bytes : List UInt8} {text : String} :
    decoded bytes = .ok text ↔ bytes = Text.bytesOf text := by
  rw [decoded, ← Text.text?_eq_some_iff]
  cases Text.text? bytes <;> simp

theorem bind_decoded_eq_ok_iff {result : Except DiskError (List UInt8)} {text : String} :
    result.bind decoded = .ok text ↔ result = .ok (Text.bytesOf text) := by
  cases result with
  | error error => simp [Except.bind]
  | ok bytes => rw [Except.bind, decoded_eq_ok_iff, Except.ok.injEq]

/-- A text that was read is what the file holds, and nothing has changed. -/
theorem Leaves.of_readText {path : String} {next : Except DiskError String → DiskTask α}
    (h : (readText path next).Leaves answer f f') :
    (∀ text, (answer (.read path)).bind decoded = .ok text → f path = some (Text.bytesOf text)) ∧
      (next ((answer (.read path)).bind decoded)).Leaves answer f f' := by
  obtain ⟨_, ⟨rfl, hholds⟩, hnext⟩ := h
  exact ⟨fun text heq ↦ hholds _ (bind_decoded_eq_ok_iff.1 heq), hnext⟩

end DiskTask

/-! ### Files in memory -/

/-- The bytes of a file. -/
def Contents.bytes? : Contents → Option (List UInt8)
  | file bytes => some bytes
  | directory => none

namespace Tree

/-- What is read at each path. -/
def contents (t : Tree) : Files :=
  fun path ↦ (t.readBytes path).toOption

theorem contents_of_ok {t : Tree} {path : String} {q : Place} (h : t.locate path = .ok q) :
    t.contents path = (t.find? q).bind Contents.bytes? := by
  rw [contents, readBytes, h]
  dsimp only
  rcases t.find? q with _ | _ | _ <;> rfl

theorem contents_of_error {t : Tree} {path : String} {error : DiskError}
    (h : t.locate path = .error error) : t.contents path = none := by
  rw [contents, readBytes, h]
  rfl

theorem walk_cons (t : Tree) (q : Place) (name : String) (names : List String) :
    t.walk q (name :: names) = (t.step q name).bind fun r ↦ t.walk r names :=
  rfl

theorem walk_append (t : Tree) (q : Place) (names names' : List String) :
    t.walk q (names ++ names') = (t.walk q names).bind fun r ↦ t.walk r names' :=
  List.foldlM_append

theorem find?_put {place : Place} (hplace : place ≠ []) (contents : Contents) (t : Tree)
    (q : Place) :
    (t.put place contents).find? q = if q = place then some contents else t.find? q := by
  rw [find?, find?, put, List.find?_append]
  by_cases hq : q = place
  · subst hq
    have hnone : (t.entries.filter (·.1 ≠ q)).find? (·.1 = q) = none := by simp
    rw [if_neg hplace, if_pos rfl, hnone]
    simp
  · have hsame : (t.entries.filter (·.1 ≠ place)).find? (·.1 = q) = t.entries.find? (·.1 = q) := by
      rw [List.find?_filter]
      congr 1
      funext entry
      by_cases hentry : entry.1 = q <;> simp [hentry, hq]
    rw [if_neg hq, hsame]
    simp [Ne.symm hq]

/-- A tree in which a file has taken the place of another one, or of nothing. -/
structure Puts (t : Tree) (place : Place) (bytes : List UInt8) (t' : Tree) : Prop where
  home : t'.home = t.home
  find? : ∀ q, t'.find? q = if q = place then some (.file bytes) else t.find? q
  free : t.find? place ≠ some .directory

namespace Puts

variable {t t' : Tree} {place q r : Place} {bytes : List UInt8}

theorem of_put (hplace : place ≠ []) (hfree : t.find? place ≠ some .directory) :
    Puts t place bytes (t.put place (.file bytes)) :=
  ⟨rfl, find?_put hplace _ t, hfree⟩

variable (h : Puts t place bytes t')

include h

theorem isDirectory (q : Place) : t'.isDirectory q = t.isDirectory q := by
  rw [Tree.isDirectory, Tree.isDirectory, h.find?]
  split
  · rename_i heq
    simp [heq, h.free]
  · rfl

/-- A component leads where it led before, or it led nowhere and leads to the new file. -/
theorem step (q : Place) (name : String) :
    t'.step q name = t.step q name ∨
      t.step q name = .error .notFound ∧ t'.step q name = .ok place := by
  rw [Tree.step, Tree.step, h.isDirectory, h.find?]
  by_cases hnew : q ++ [name] = place
  · rw [if_pos hnew, hnew]
    cases t.find? place with
    | some => exact .inl rfl
    | none =>
      -- All questions but the last one, whether anything is there, are answered as before.
      simp only [Option.isSome_some, Option.isSome_none, Bool.false_eq_true, if_true, if_false]
      repeat' split
      all_goals first | exact .inl rfl | exact .inr ⟨rfl, rfl⟩
  · rw [if_neg hnew]
    exact .inl rfl

/-- There is no way on from the new file. -/
theorem walk_place {names : List String} (hnames : names ≠ []) :
    t'.walk place names = .error .notADirectory := by
  obtain ⟨name, names, rfl⟩ := List.exists_cons_of_ne_nil hnames
  have hplace : t'.isDirectory place = false := by
    rw [h.isDirectory, Tree.isDirectory]
    exact decide_eq_false h.free
  rw [walk_cons, Tree.step, if_pos (by simp [hplace])]
  rfl

/-- Some components lead where they led before, or they led nowhere and either lead to the new file
or still lead nowhere. -/
theorem walk (names : List String) (q : Place) :
    t'.walk q names = t.walk q names ∨
      (∃ error, t.walk q names = .error error) ∧
        (t'.walk q names = .ok place ∨ ∃ error, t'.walk q names = .error error) := by
  induction names generalizing q with
  | nil => exact .inl rfl
  | cons name names ih =>
    rw [walk_cons, walk_cons]
    rcases h.step q name with heq | ⟨hnowhere, hnew⟩
    · rw [heq]
      cases t.step q name with
      | error error => exact .inl rfl
      | ok r => exact ih r
    · rw [hnowhere, hnew]
      -- Behind the new file nothing is found, as behind any file.
      refine .inr ⟨⟨_, rfl⟩, ?_⟩
      by_cases hnames : names = []
      · exact .inl (hnames ▸ rfl)
      · exact .inr ⟨_, h.walk_place hnames⟩

theorem walk_of_ok {names : List String} (hwalk : t.walk q names = .ok r) :
    t'.walk q names = .ok r := by
  rcases h.walk names q with heq | ⟨⟨error, herror⟩, -⟩
  · rw [heq, hwalk]
  · exact absurd (hwalk.symm.trans herror) (by simp)

theorem start (path : String) : t'.start path = t.start path := by
  rw [Tree.start, Tree.start, h.home]

/-- A path leads where it led before, or it led nowhere and either leads to the new file or still
leads nowhere. -/
theorem locate (path : String) :
    t'.locate path = t.locate path ∨
      (∃ error, t.locate path = .error error) ∧
        (t'.locate path = .ok place ∨ ∃ error, t'.locate path = .error error) := by
  rw [Tree.locate, Tree.locate, h.start]
  cases pathFault? path with
  | some error => exact .inl rfl
  | none => exact h.walk _ _

theorem contents_of_ok (path : String) (hlocate : t'.locate path = .ok q) :
    t'.contents path = if q = place then some bytes else (t.find? q).bind Contents.bytes? := by
  rw [Tree.contents_of_ok hlocate, h.find?]
  split <;> rfl

theorem contents (path : String) :
    t'.contents path = t.contents path ∨ t'.contents path = some bytes := by
  rcases h.locate path with heq | ⟨⟨error, hnowhere⟩, hplace | ⟨error', hstill⟩⟩
  · cases hlocate : t.locate path with
    | error error =>
      rw [contents_of_error hlocate, contents_of_error (heq.trans hlocate)]
      exact .inl rfl
    | ok q =>
      rw [h.contents_of_ok path (heq.trans hlocate), Tree.contents_of_ok hlocate]
      split
      · exact .inr rfl
      · exact .inl rfl
  · rw [h.contents_of_ok path hplace, if_pos rfl]
    exact .inr rfl
  · rw [contents_of_error hnowhere, contents_of_error hstill]
    exact .inl rfl

end Puts

/-! ### What is written is read -/

variable {t t' : Tree} {path : String} {directory : Place} {name : String} {bytes : List UInt8}

/-- A path that ends in a name leads to a directory without it. -/
theorem of_target (hdot : name ≠ ".") (h : t.target path = .ok (directory, name, false)) :
    ∃ names, pathFault? path = none ∧ (t.start path).2 = names ++ [name] ∧ name ≠ "" ∧
      t.walk (t.start path).1 names = .ok directory ∧ t.isDirectory directory = true := by
  rw [target] at h
  split at h
  · cases h
  rename_i hfault
  dsimp only at h
  generalize (t.start path).1 = q, (t.start path).2 = names at h ⊢
  split at h
  · cases h
  rename_i hwalk
  split at h
  · cases h
  rename_i hdirectory
  obtain ⟨rfl, hlast, hnamed⟩ : _ ∧ _ ∧ _ := by simpa only [Except.ok.injEq, Prod.mk.injEq] using h
  have hnamed : (names.reverse.dropWhile (· = "")).reverse = names := by simpa using hnamed
  rw [hnamed] at hlast hwalk
  have hname : names.getLast? = some name := by
    cases hget : names.getLast? with
    | none => exact absurd (by simpa [hget] using hlast.symm) hdot
    | some last => exact congrArg some (by simpa [hget] using hlast)
  obtain ⟨front, rfl⟩ := List.getLast?_eq_some_iff.1 hname
  rw [List.dropLast_concat] at hwalk
  refine ⟨front, hfault, rfl, ?_, hwalk, by simpa using hdirectory⟩
  -- The last component that is kept is not empty.
  rintro rfl
  have hkept := List.head?_dropWhile_not (fun name : String ↦ decide (name = ""))
    (front ++ [""]).reverse
  rw [← List.getLast?_reverse, hnamed, hname] at hkept
  simp at hkept

/-- A file at a path that ends in its name is found there. -/
theorem Puts.locate_of_target (h : Puts t (directory ++ [name]) bytes t')
    (htarget : t.target path = .ok (directory, name, false)) (hdots : name ≠ "." ∧ name ≠ "..")
    (hsize : name.utf8ByteSize ≤ maxName) : t'.locate path = .ok (directory ++ [name]) := by
  obtain ⟨names, hfault, hnames, hname, hwalk, hdirectory⟩ := of_target hdots.1 htarget
  have hstep : t'.step directory name = .ok (directory ++ [name]) := by
    rw [Tree.step, h.isDirectory, h.find?, if_pos rfl, hdirectory, if_neg (by simp),
      if_neg (by simp [hname, hdots.1]), if_neg hdots.2, if_neg (Nat.not_lt.2 hsize)]
    rfl
  rw [Tree.locate, hfault, h.start]
  dsimp only
  rw [hnames, walk_append, h.walk_of_ok hwalk, Except.bind, walk_cons, hstep]
  rfl

/-- Files in memory answer what is read as files do that nobody else writes. -/
theorem answers_read (t : Tree) (path : String) :
    t.contents.Answers (.read path) (t.answer (.read path)).1
      (t.answer (.read path)).2.contents := by
  refine ⟨rfl, fun bytes heq ↦ ?_⟩
  have hread : t.readBytes path = .ok bytes := heq
  rw [contents, hread]
  rfl

/-- Files in memory answer what is written as files do that nobody else writes. -/
theorem answers_write (t : Tree) (path : String) (bytes : List UInt8) :
    t.contents.Answers (.write path bytes) (t.answer (.write path bytes)).1
      (t.answer (.write path bytes)).2.contents := by
  rw [Files.Answers, answer, writeBytes]
  split
  · exact .refused _
  rename_i directory name slashed htarget
  split
  · exact .refused _
  rename_i hnamed
  split
  · exact .refused _
  rename_i hsize
  split
  · exact .refused _
  rename_i hfree
  simp only [not_or] at hnamed
  obtain ⟨hslashed, hdots⟩ := hnamed
  obtain rfl : slashed = false := by simpa using hslashed
  have hputs : Puts t (directory ++ [name]) bytes (t.put (directory ++ [name]) (.file bytes)) :=
    .of_put (by simp) hfree
  refine .done ?_ hputs.contents
  rw [hputs.contents_of_ok path (hputs.locate_of_target htarget hdots (Nat.not_lt.1 hsize)),
    if_pos rfl]

/-- Files in memory answer every request as files do that nobody else writes. -/
theorem answers (t : Tree) (request : DiskRequest) :
    t.contents.Answers request (t.answer request).1 (t.answer request).2.contents := by
  cases request with
  | read path => exact t.answers_read path
  | write path bytes => exact t.answers_write path bytes
  | list | make | remove | move | here => trivial

end Tree

namespace DiskTask

variable {α β : Type}

/-- Whether a task makes no second request. -/
def AsksOnce : DiskTask α → Prop
  | done _ => True
  | ask request next => ∀ answer : request.Answer, ∃ result, next answer = done result

theorem AsksOnce.map {task : DiskTask α} (h : task.AsksOnce) (g : α → β) :
    (task.map g).AsksOnce := by
  cases task with
  | done => trivial
  | ask request next =>
    intro answer
    obtain ⟨result, heq⟩ := h answer
    exact ⟨g result, congrArg (DiskTask.map g) heq⟩

/-- Work on files in memory does what it can do with their answers. -/
theorem AsksOnce.leaves_onTree {task : DiskTask α} (h : task.AsksOnce) (t : Tree) :
    task.Leaves (fun request ↦ (t.answer request).1) t.contents (task.onTree t).2.contents := by
  cases task with
  | done => rfl
  | ask request next =>
    obtain ⟨result, heq⟩ := h (t.answer request).1
    refine ⟨(t.answer request).2.contents, t.answers request, ?_⟩
    rw [onTree, heq]
    rfl

end DiskTask

end Workbench
