import Workbench.Proofs.Console.Shown
import Workbench.Proofs.Console.Wake
import Workbench.Proofs.Runner.Contexts

/-!
# When a console stops

The owner of a console takes inputs until the user is done, or until the lines have ended and no run
is in flight. Whether they have ended it has to remember; whether a run is in flight it looks up
after every input, so a run that is in flight when the lines end is waited for, and it is the
wake-up for its result after which the owner stops.

A `Diary` notes the inputs that were put on the channel and, for each input that the owner received,
what the console answered and whether a run was in flight afterwards. `stopsAfter` says from the
notes alone whether the owner has to stop. It stops after the first input of which that is true and
after no other one (`Diary.Sound`), and left alone it goes on until it has left or waits with
nothing to receive (`leads_rest`).
-/

namespace Workbench

/-- Without a run in flight, a shutdown leaves the session as it is. -/
theorem Runner.session_shutdown_of_idle {r : Runner} (hidle : r.session.flight = none) :
    r.shutdown.session = r.session := by
  show (r.session.abort Slots.host r.slots).2.1 = r.session
  rw [Session.abort_of_idle hidle]

namespace Scene

variable {s : Scene} {now : String} {answer : (request : DiskRequest) → request.Answer}

/-! ### The owner left alone comes to rest -/

/-- Left alone, the owner gets to wait for the next input or to leave, without receiving one. -/
def Settles (now : String) (answer : (request : DiskRequest) → request.Answer) (s : Scene) : Prop :=
  ∃ s', Leads now answer s s' ∧ s'.channel = s.channel ∧ (s'.stage = .waiting ∨ s'.stage = .left)

theorem settles_of_leads {s' : Scene} (hleads : Leads now answer s s')
    (hchannel : s'.channel = s.channel) (hsettles : Settles now answer s') :
    Settles now answer s := by
  obtain ⟨s'', hleads', hchannel', hstage⟩ := hsettles
  exact ⟨s'', hleads.trans hleads', hchannel'.trans hchannel, hstage⟩

theorem settles_leaving (hstage : s.stage = .leaving) : Settles now answer s := by
  have hleaves : s.advance now answer = { s with loop := s.loop.close, stage := .left } := by
    rw [advance, hstage]
  exact ⟨_, .single hleaves, rfl, .inr rfl⟩

/-- The owner drains the queue, once it has let the event that it holds take effect. -/
theorem leads_showing {last : Bool} (hstage : s.stage = .draining last) :
    ∃ s', Leads now answer s s' ∧ s'.channel = s.channel ∧ s'.stage = .showing last := by
  cases holds : s.held 0 with
  | none => exact ⟨_, leads_drain holds hstage, rfl, rfl⟩
  | some event =>
    have happlies : s.advance now answer = s.act (.applies 0 now) := by
      rw [advance_draining hstage, drain_of_held last holds]
    have hact := act_applies now holds
    have hfree : (s.act (.applies 0 now)).held 0 = none := by
      simp only [hact, Function.update_self]
    have hdraining : (s.act (.applies 0 now)).stage = .draining last := by
      rw [hact]
      exact hstage
    exact ⟨_, .head happlies (leads_drain hfree hdraining), rfl, rfl⟩

theorem leads_present {last : Bool} (hstage : s.stage = .showing last) :
    Leads now answer s (s.present last) :=
  .single (by rw [advance, hstage])

theorem settles_last (hstage : s.stage = .draining true) : Settles now answer s := by
  obtain ⟨s', hleads, hchannel, hshowing⟩ := leads_showing hstage
  refine settles_of_leads (hleads.trans (leads_present hshowing)) hchannel ?_
  exact settles_leaving rfl

theorem settles_checking (hstage : s.stage = .checking) : Settles now answer s := by
  by_cases hends : s.loop.closed && !s.loop.console.session.isRunning
  · have hstops : s.advance now answer = { s with stage := .draining true } := by
      rw [advance, hstage]
      exact if_pos hends
    exact settles_of_leads (.single hstops) rfl (settles_last rfl)
  · have hwaits : s.advance now answer = { s with stage := .waiting } := by
      rw [advance, hstage]
      exact if_neg hends
    exact ⟨_, .single hwaits, rfl, .inl rfl⟩

theorem settles_showing {last : Bool} (hstage : s.stage = .showing last) :
    Settles now answer s := by
  refine settles_of_leads (leads_present hstage) rfl ?_
  cases last with
  | true => exact settles_leaving rfl
  | false => exact settles_checking rfl

theorem settles_draining {last : Bool} (hstage : s.stage = .draining last) :
    Settles now answer s := by
  obtain ⟨s', hleads, hchannel, hshowing⟩ := leads_showing hstage
  exact settles_of_leads hleads hchannel (settles_showing hshowing)

theorem settles_begin (begun : Console.Begun) : Settles now answer (s.begin begun) := by
  by_cases hdrains : begun.drains
  · exact settles_draining (if_pos hdrains)
  · by_cases hquits : begun.reply.quits
    · exact settles_leaving ((if_neg hdrains).trans (if_pos hquits))
    · exact settles_checking ((if_neg hdrains).trans (if_neg hquits))

theorem settles (now : String) (answer : (request : DiskRequest) → request.Answer) (s : Scene)
    (hunbroken : s.stage ≠ .broken) : Settles now answer s := by
  cases hstage : s.stage with
  | waiting => exact ⟨s, .refl, rfl, .inl hstage⟩
  | left => exact ⟨s, .refl, rfl, .inr hstage⟩
  | received input =>
    by_cases hend : input = .endOfInput
    · have hends : s.advance now answer = { s with loop.closed := true, stage := .checking } := by
        rw [advance, hstage]
        exact if_pos hend
      exact settles_of_leads (.single hends) rfl (settles_checking rfl)
    · have hbegins : s.advance now answer =
          s.begin ((s.loop.console.begin now input).result answer) := by
        rw [advance, hstage]
        exact if_neg hend
      exact settles_of_leads (.single hbegins) rfl (settles_begin _)
  | draining last => exact settles_draining hstage
  | showing last => exact settles_showing hstage
  | checking => exact settles_checking hstage
  | leaving => exact settles_leaving hstage
  | broken => exact absurd hstage hunbroken

/-- Left alone, the owner comes to leave, or to wait with no input left to receive. -/
theorem leads_rest (now : String) (answer : (request : DiskRequest) → request.Answer)
    (hunbroken : s.stage ≠ .broken) :
    ∃ s', Leads now answer s s' ∧ (s'.stage = .left ∨ s'.stage = .waiting ∧ s'.channel = []) := by
  generalize hchannel : s.channel = channel
  induction channel generalizing s with
  | nil =>
    obtain ⟨s', hleads, hsame, hwaiting | hleft⟩ := settles now answer s hunbroken
    · exact ⟨s', hleads, .inr ⟨hwaiting, hsame.trans hchannel⟩⟩
    · exact ⟨s', hleads, .inl hleft⟩
  | cons input rest ih =>
    obtain ⟨s', hleads, hsame, hwaiting | hleft⟩ := settles now answer s hunbroken
    · have hreceives : s'.advance now answer =
          { s' with stage := .received input, channel := rest } := by
        rw [advance, hwaiting, hsame, hchannel]
      obtain ⟨s'', hleads', hrest⟩ :=
        ih (s := { s' with stage := .received input, channel := rest }) (by simp) rfl
      exact ⟨s'', hleads.trans (.head hreceives hleads'), hrest⟩
    · exact ⟨s', hleads, .inl hleft⟩

end Scene

/-! ### What the owner received -/

/-- An input that the owner received, and what it found when it was done with it. -/
structure Round where
  input : Console.Input
  /-- Whether the console answered that the user is done. -/
  quits : Bool := false
  /-- Whether no run was in flight when the owner looked. -/
  idle : Bool := false
  deriving DecidableEq

/-- Whether the lines have ended. -/
def haveEnded (rounds : List Round) : Bool :=
  rounds.any fun round ↦ round.input = .endOfInput

/-- Whether the latest of some rounds is one to stop after: the user is done, or the lines have
ended and no run is in flight. -/
def stopsAfter : List Round → Bool
  | [] => false
  | round :: earlier => round.quits || haveEnded (round :: earlier) && round.idle

theorem stopsAfter_of_head {rounds : List Round} {round : Round}
    (hhead : rounds.head? = some round) :
    stopsAfter rounds = (round.quits || haveEnded rounds && round.idle) := by
  obtain ⟨earlier, rfl⟩ := List.head?_eq_some_iff.1 hhead
  rfl

/-- What came of the inputs so far. -/
structure Notes where
  /-- The inputs that were put on the channel, in order. -/
  sent : List Console.Input := []
  /-- A round for each input that was received, latest first. -/
  rounds : List Round := []
  /-- Whether the owner was told, while it waited with nothing left to receive, that there will be
  no more inputs. -/
  hungUp : Bool := false

namespace Notes

/-- What a step of the owner adds to the rounds. The end of the lines is not handed to the
console. -/
def roundsAfter (notes : Notes) (s : Scene) (now : String)
    (answer : (request : DiskRequest) → request.Answer) : List Round :=
  match s.stage, notes.rounds with
  | .waiting, rounds => (s.channel.head?.map fun input ↦ ({ input } : Round)).toList ++ rounds
  | .received input, round :: earlier =>
    let quits := input ≠ .endOfInput ∧ ((s.loop.console.take now input).result answer).quits = true
    { round with quits } :: earlier
  | .checking, round :: earlier =>
    { round with idle := !s.loop.console.session.isRunning } :: earlier
  | _, rounds => rounds

/-- The notes after a turn. -/
def note (notes : Notes) (s : Scene) (t : Turn) : Notes where
  sent := notes.sent ++ s.puts t
  rounds :=
    match t with
    | .advances now answer => notes.roundsAfter s now answer
    | _ => notes.rounds
  hungUp :=
    match t with
    | .hangsUp => notes.hungUp || (s.stage = .waiting ∧ s.channel = [])
    | _ => notes.hungUp

/-- Why the owner takes no more inputs; if it is because the lines have ended, this is known of the
scene. -/
inductive Reason (notes : Notes) (known : Prop) : Prop where
  | hungUp (h : notes.hungUp = true)
  | quits {input : Console.Input} (latest : notes.rounds.head? = some { input, quits := true })
  | ended {input : Console.Input} (latest : notes.rounds.head? = some { input, idle := true })
      (ended : haveEnded notes.rounds = true) (h : known)

/-- What is known of the latest round, by how far the owner is. -/
def Latest (notes : Notes) (s : Scene) : Prop :=
  match s.stage with
  | .waiting => stopsAfter notes.rounds = false
  | .received input => notes.rounds.head? = some { input }
  | .draining false | .showing false | .checking => ∃ input, notes.rounds.head? = some { input }
  | .draining true | .showing true =>
    ∃ input, notes.rounds.head? = some { input, idle := true } ∧ haveEnded notes.rounds = true ∧
      s.loop.console.session.flight = none
  | .leaving => notes.Reason (s.loop.console.session.flight = none)
  | .left =>
    notes.Reason (s.loop.console.printed = s.loop.console.session.transcript.length) ∧
      s.loop.console.session.flight = none ∧ s.runner.slots.active = none ∧
      s.runner.slots.idle = none
  | .broken => True

/-- The rounds that the owner has seen to: an input that it has just received is not among them. -/
def seenTo (notes : Notes) (s : Scene) : List Round :=
  match s.stage with
  | .received _ => notes.rounds.tail
  | _ => notes.rounds

/-- The notes are right about the scene. -/
structure Fit (notes : Notes) (s : Scene) : Prop where
  sent_eq : (notes.rounds.map (·.input)).reverse ++ s.channel = notes.sent
  closed_eq : s.loop.closed = haveEnded (notes.seenTo s)
  earlier : ∀ rounds, rounds <:+ notes.rounds.tail → stopsAfter rounds = false
  latest : notes.Latest s

end Notes

/-- A screen, and what came of the inputs. -/
structure Diary extends Notes where
  screen : Screen

namespace Diary

/-- A new console that has received nothing. -/
def new (policy : CommitPolicy) (supply : Supply) (exportDir : String) : Diary where
  screen := .new policy supply exportDir

/-- The diary after a turn. -/
def step (d : Diary) (t : Turn) : Diary where
  toNotes := d.note d.screen.scene t
  screen := d.screen.step (.turn t)

/-- The diary after some turns. -/
def after (d : Diary) (turns : List Turn) : Diary :=
  turns.foldl step d

end Diary

namespace Notes

variable {notes : Notes} {s s' : Scene}

theorem Reason.imp {known known' : Prop} (h : notes.Reason known) (himp : known → known') :
    notes.Reason known' := by
  cases h with
  | hungUp h => exact .hungUp h
  | quits latest => exact .quits latest
  | ended latest ended h => exact .ended latest ended (himp h)

/-- The owner has a reason if the latest round is one to stop after. -/
theorem Reason.stopsAfter {known : Prop} (h : notes.Reason known) :
    stopsAfter notes.rounds = true ∨ notes.hungUp = true := by
  cases h with
  | hungUp h => exact .inr h
  | quits latest => exact .inl (stopsAfter_of_head latest)
  | ended latest ended => exact .inl (by rw [stopsAfter_of_head latest, ended]; rfl)

/-- If the latest input was not one after which the user is done, and the owner was not told that
there will be no more, then the lines have ended. -/
theorem Reason.known {known : Prop} (h : notes.Reason known) (hhungUp : notes.hungUp = false)
    (hquits : ∀ round ∈ notes.rounds.head?, round.quits = false) : known := by
  cases h with
  | hungUp h => simp [h] at hhungUp
  | quits latest => simpa using hquits _ latest
  | ended latest ended h => exact h

/-- More may be known of whether the owner was told that there will be no more inputs. -/
theorem Reason.mono {notes' : Notes} {known : Prop} (h : notes.Reason known)
    (hrounds : notes'.rounds = notes.rounds)
    (hhungUp : notes.hungUp = true → notes'.hungUp = true) : notes'.Reason known := by
  cases h with
  | hungUp h => exact .hungUp (hhungUp h)
  | quits latest => exact .quits (hrounds ▸ latest)
  | ended latest ended h => exact .ended (hrounds ▸ latest) (hrounds ▸ ended) h

theorem roundsAfter_of_ne {now : String} {answer : (request : DiskRequest) → request.Answer}
    (hwaiting : s.stage ≠ .waiting) (hreceived : ∀ input, s.stage ≠ .received input)
    (hchecking : s.stage ≠ .checking) : notes.roundsAfter s now answer = notes.rounds := by
  rw [roundsAfter]
  split
  · exact absurd ‹_› hwaiting
  · exact absurd ‹_› (hreceived _)
  · exact absurd ‹_› hchecking
  · rfl

theorem seenTo_of_ne (hstage : ∀ input, s.stage ≠ .received input) :
    notes.seenTo s = notes.rounds := by
  rw [seenTo]
  split
  · rename_i input hreceived
    exact absurd hreceived (hstage input)
  · rfl

namespace Fit

variable (h : notes.Fit s)

include h

/-- The notes fit after a turn beside the owner. -/
theorem beside {t : Turn} (other : ∀ now answer, t ≠ .advances now answer)
    (hbeside : Scene.Beside t s s') : (notes.note s t).Fit s' := by
  have hrounds : (notes.note s t).rounds = notes.rounds := by
    cases t with
    | advances now answer => exact absurd rfl (other now answer)
    | _ => rfl
  have hhungUp (hup : notes.hungUp = true) : (notes.note s t).hungUp = true := by
    cases t with
    | hangsUp => exact Bool.or_eq_true_iff.2 (.inl hup)
    | _ => exact hup
  refine ⟨?_, ?_, ?_, ?_⟩
  · rw [hrounds, hbeside.channel, ← List.append_assoc, h.sent_eq]
    rfl
  · rw [hbeside.closed, h.closed_eq, seenTo, seenTo, hbeside.stage, hrounds]
  · rw [hrounds]
    exact h.earlier
  · have hlatest := h.latest
    rw [Latest, hbeside.stage, hrounds, hbeside.session, hbeside.printed, hbeside.active,
      hbeside.idle]
    rw [Latest] at hlatest
    cases hstage : s.stage with
    | leaving =>
      rw [hstage] at hlatest
      exact hlatest.mono hrounds hhungUp
    | left =>
      rw [hstage] at hlatest
      exact ⟨hlatest.1.mono hrounds hhungUp, hlatest.2⟩
    | draining last | showing last =>
      rw [hstage] at hlatest
      cases last <;> exact hlatest
    | waiting | received | checking | broken =>
      rw [hstage] at hlatest
      exact hlatest

/-- The latest round has only become more complete, and the inputs are the same. -/
theorem of_head {round round' : Round} {earlier : List Round}
    (hrounds : notes.rounds = round :: earlier) (hinput : round'.input = round.input)
    (hchannel : s'.channel = s.channel)
    (hclosed : s'.loop.closed = haveEnded ({ notes with rounds := round' :: earlier }.seenTo s'))
    (hlatest : { notes with rounds := round' :: earlier }.Latest s') :
    { notes with rounds := round' :: earlier }.Fit s' where
  sent_eq := by
    rw [hchannel, ← h.sent_eq, hrounds]
    simp only [List.map_cons, hinput]
  closed_eq := hclosed
  earlier := by
    have hearlier := h.earlier
    rw [hrounds] at hearlier
    exact hearlier
  latest := hlatest

/-- The rounds stay as they are while the owner drains the queue and shows the new entries. -/
theorem of_same (hchannel : s'.channel = s.channel) (hclosed : s'.loop.closed = s.loop.closed)
    (hseen : notes.seenTo s' = notes.seenTo s) (hlatest : notes.Latest s') : notes.Fit s' where
  sent_eq := by rw [hchannel, h.sent_eq]
  closed_eq := by rw [hclosed, h.closed_eq, hseen]
  earlier := h.earlier
  latest := hlatest

theorem receives {input : Console.Input} {rest : List Console.Input} (hstage : s.stage = .waiting)
    (hchannel : s.channel = input :: rest) :
    { notes with rounds := { input } :: notes.rounds }.Fit
      { s with stage := .received input, channel := rest } where
  sent_eq := by
    rw [← h.sent_eq, hchannel]
    simp
  closed_eq := by
    have hclosed := h.closed_eq
    rw [seenTo, hstage] at hclosed
    exact hclosed
  earlier := by
    intro rounds hsuffix
    have hlatest := h.latest
    rw [Latest, hstage] at hlatest
    -- The round that was the latest is one to go on after, since the owner waited.
    cases hrounds : notes.rounds with
    | nil =>
      obtain rfl : rounds = [] := List.suffix_nil.1 (hrounds ▸ hsuffix)
      rfl
    | cons round earlier =>
      have hcases : rounds <:+ round :: earlier := hrounds ▸ hsuffix
      rcases List.suffix_cons_iff.1 hcases with rfl | hearlier
      · exact hrounds ▸ hlatest
      · exact h.earlier rounds (hrounds ▸ hearlier)
  latest := rfl

/-- The owner was told that the lines have ended. -/
theorem ends (now : String) (answer : (request : DiskRequest) → request.Answer)
    (hstage : s.stage = .received .endOfInput) :
    { notes with rounds := notes.roundsAfter s now answer }.Fit
      { s with loop.closed := true, stage := .checking } := by
  have hlatest := h.latest
  rw [Latest, hstage] at hlatest
  obtain ⟨earlier, hrounds⟩ := List.head?_eq_some_iff.1 hlatest
  have hafter : notes.roundsAfter s now answer = { input := .endOfInput } :: earlier := by
    rw [roundsAfter, hstage, hrounds]
    simp
  rw [hafter]
  exact h.of_head hrounds rfl rfl rfl ⟨.endOfInput, rfl⟩

/-- The owner did what an input asks for, and knows whether the user is done. -/
theorem begins (now : String) (answer : (request : DiskRequest) → request.Answer)
    {input : Console.Input} (hstage : s.stage = .received input) (other : input ≠ .endOfInput) :
    { notes with rounds := notes.roundsAfter s now answer }.Fit
      (s.begin ((s.loop.console.begin now input).result answer)) := by
  have hlatest := h.latest
  rw [Latest, hstage] at hlatest
  obtain ⟨earlier, hrounds⟩ := List.head?_eq_some_iff.1 hlatest
  have hafter : notes.roundsAfter s now answer =
      { input, quits := ((s.loop.console.take now input).result answer).quits } :: earlier := by
    rw [roundsAfter, hstage, hrounds]
    simp [other]
  have hclosed : s.loop.closed = haveEnded earlier := by
    rw [h.closed_eq, seenTo, hstage, hrounds, List.tail_cons]
  have hseen (quits : Bool) : s.loop.closed = haveEnded ({ input, quits } :: earlier) := by
    simp [hclosed, haveEnded, other]
  rw [hafter, Console.take_eq, DiskTask.result_map]
  generalize (s.loop.console.begin now input).result answer = begun
  have hfit {stage : Stage} (hnext : (s.begin begun).stage = stage)
      (hne : ∀ input, stage ≠ .received input)
      (hlatest : { notes with
        rounds := { input, quits := (begun.finish now).quits } :: earlier }.Latest
          (s.begin begun)) :
      { notes with rounds := { input, quits := (begun.finish now).quits } :: earlier }.Fit
        (s.begin begun) := by
    refine h.of_head hrounds rfl rfl ?_ hlatest
    rw [seenTo_of_ne (hnext ▸ hne)]
    exact hseen _
  by_cases hdrains : begun.drains = true
  · have hnext : (s.begin begun).stage = .draining false := if_pos hdrains
    have hgoes : (begun.finish now).quits = false := by
      rw [Console.Begun.finish, if_pos hdrains]
      rfl
    refine hfit hnext (by simp) ?_
    rw [Latest, hnext, hgoes]
    exact ⟨input, rfl⟩
  · have hfinish : begun.finish now = begun.reply := if_neg hdrains
    by_cases hquits : begun.reply.quits = true
    · have hnext : (s.begin begun).stage = .leaving := (if_neg hdrains).trans (if_pos hquits)
      refine hfit hnext (by simp) ?_
      rw [Latest, hnext, hfinish, hquits]
      exact .quits rfl
    · have hnext : (s.begin begun).stage = .checking := (if_neg hdrains).trans (if_neg hquits)
      refine hfit hnext (by simp) ?_
      rw [Latest, hnext, hfinish, Bool.eq_false_iff.2 hquits]
      exact ⟨input, rfl⟩

/-- The owner looked whether a run is in flight, and stops. -/
theorem stops (now : String) (answer : (request : DiskRequest) → request.Answer)
    (hstage : s.stage = .checking) (closed : s.loop.closed = true)
    (idle : s.loop.console.session.isRunning = false) :
    { notes with rounds := notes.roundsAfter s now answer }.Fit
      { s with stage := .draining true } := by
  have hlatest := h.latest
  rw [Latest, hstage] at hlatest
  obtain ⟨input, hhead⟩ := hlatest
  obtain ⟨earlier, hrounds⟩ := List.head?_eq_some_iff.1 hhead
  have hafter : notes.roundsAfter s now answer = { input, idle := true } :: earlier := by
    rw [roundsAfter, hstage, hrounds, idle]
    rfl
  have hclosed : s.loop.closed = haveEnded ({ input, idle := true } :: earlier) := by
    rw [h.closed_eq, seenTo, hstage, hrounds]
    rfl
  have hflight : s.loop.console.session.flight = none :=
    Session.not_isRunning_iff.1 (Bool.eq_false_iff.1 idle)
  rw [hafter]
  exact h.of_head hrounds rfl rfl hclosed ⟨input, rfl, hclosed.symm.trans closed, hflight⟩

/-- The owner looked whether a run is in flight, and goes on. -/
theorem waits (now : String) (answer : (request : DiskRequest) → request.Answer)
    (hstage : s.stage = .checking)
    (more : s.loop.closed = false ∨ s.loop.console.session.isRunning = true) :
    { notes with rounds := notes.roundsAfter s now answer }.Fit { s with stage := .waiting } := by
  have hlatest := h.latest
  rw [Latest, hstage] at hlatest
  obtain ⟨input, hhead⟩ := hlatest
  obtain ⟨earlier, hrounds⟩ := List.head?_eq_some_iff.1 hhead
  generalize hidle : (!s.loop.console.session.isRunning) = idle
  have hafter : notes.roundsAfter s now answer = { input, idle } :: earlier := by
    rw [roundsAfter, hstage, hrounds, ← hidle]
  have hclosed : s.loop.closed = haveEnded ({ input, idle } :: earlier) := by
    rw [h.closed_eq, seenTo, hstage, hrounds]
    rfl
  rw [hafter]
  refine h.of_head hrounds rfl rfl hclosed ?_
  show stopsAfter ({ input, idle } :: earlier) = false
  rw [stopsAfter, ← hclosed, ← hidle]
  rcases more with hopen | hrunning
  · rw [hopen]
    rfl
  · rw [hrunning]
    simp

/-- The owner lets an event take effect. It has none when it drains the queue for the last time,
since no run is in flight then. -/
theorem applies (hcoherent : s.runner.Coherent) (now : String) {last : Bool} {event : RunEvent}
    (hstage : s.stage = .draining last) :
    notes.Fit
      { s with
        loop.console.runner := s.runner.apply now event
        held := Function.update s.held 0 none } := by
  have hlatest := h.latest
  rw [Latest, hstage] at hlatest
  refine h.of_same rfl rfl rfl ?_
  rw [Latest, hstage]
  cases last with
  | false => exact hlatest
  | true =>
    obtain ⟨input, hhead, hended, hflight⟩ := hlatest
    have hstale : ¬s.runner.slots.isActive event.ticket = true := by
      rw [Slots.isActive_of_none (hcoherent.active_eq_none hflight)]
      simp
    have hsame : s.runner.apply now event = s.runner := Runner.apply_of_not_isActive now hstale
    refine ⟨input, hhead, hended, ?_⟩
    simp only [hsame]
    exact hflight

/-- The owner finds the queue empty. -/
theorem finds {last : Bool} (hstage : s.stage = .draining last) :
    notes.Fit { s with stage := .showing last } := by
  have hlatest := h.latest
  rw [Latest, hstage] at hlatest
  refine h.of_same rfl rfl (by rw [seenTo, seenTo, hstage]) ?_
  cases last with
  | false => exact hlatest
  | true => exact hlatest

/-- The owner shows the entries that were not shown yet. -/
theorem presents {last : Bool} (hstage : s.stage = .showing last) :
    notes.Fit (s.present last) := by
  have hlatest := h.latest
  rw [Latest, hstage] at hlatest
  cases last with
  | false => exact h.of_same rfl rfl (by rw [seenTo, seenTo, hstage]; rfl) hlatest
  | true =>
    obtain ⟨input, hhead, hended, hflight⟩ := hlatest
    exact h.of_same rfl rfl (by rw [seenTo, seenTo, hstage]; rfl) (.ended hhead hended hflight)

/-- The owner shuts the runner down. -/
theorem leaves (hcoherent : s.runner.Coherent) (hstage : s.stage = .leaving)
    (hshown : s.loop.console.printed = s.loop.console.session.transcript.length) :
    notes.Fit { s with loop := s.loop.close, stage := .left } := by
  have hlatest := h.latest
  rw [Latest, hstage] at hlatest
  refine h.of_same rfl rfl (by rw [seenTo, seenTo, hstage]) ?_
  refine ⟨hlatest.imp fun hflight ↦ ?_, hcoherent.shutdown_free⟩
  -- There is no run to abort, so the transcript stays as it was shown.
  have hsession : s.runner.shutdown.session = s.runner.session :=
    Runner.session_shutdown_of_idle hflight
  exact hshown.trans (congrArg (fun session ↦ session.transcript.length) hsession).symm

/-- The notes fit after every step of the owner. -/
theorem advances {now : String} {answer : (request : DiskRequest) → request.Answer}
    (hcoherent : s.runner.Coherent)
    (hshown : s.stage = .leaving →
      s.loop.console.printed = s.loop.console.session.transcript.length)
    (hadvanced : Scene.Advanced now answer s s') :
    { notes with rounds := notes.roundsAfter s now answer }.Fit s' := by
  cases hadvanced with
  | rests stage =>
    have hafter : notes.roundsAfter s now answer = notes.rounds := by
      rcases stage with ⟨hwaiting, hchannel⟩ | hleft | hbroken
      · rw [roundsAfter, hwaiting, hchannel]
        rfl
      · exact roundsAfter_of_ne (by simp [hleft]) (by simp [hleft]) (by simp [hleft])
      · exact roundsAfter_of_ne (by simp [hbroken]) (by simp [hbroken]) (by simp [hbroken])
    rw [hafter]
    exact h
  | @receives input rest stage channel =>
    have hafter : notes.roundsAfter s now answer = { input } :: notes.rounds := by
      rw [roundsAfter, stage, channel]
      rfl
    rw [hafter]
    exact h.receives stage channel
  | ends stage => exact h.ends now answer stage
  | begins stage other => exact h.begins now answer stage other
  | takes stage =>
    rw [roundsAfter_of_ne (by simp [stage]) (by simp [stage]) (by simp [stage])]
    exact h.of_same rfl rfl rfl h.latest
  | applies stage =>
    rw [roundsAfter_of_ne (by simp [stage]) (by simp [stage]) (by simp [stage])]
    exact h.applies hcoherent now stage
  | finds stage =>
    rw [roundsAfter_of_ne (by simp [stage]) (by simp [stage]) (by simp [stage])]
    exact h.finds stage
  | presents stage =>
    rw [roundsAfter_of_ne (by simp [stage]) (by simp [stage]) (by simp [stage])]
    exact h.presents stage
  | stops stage closed idle => exact h.stops now answer stage closed idle
  | waits stage more => exact h.waits now answer stage more
  | leaves stage =>
    rw [roundsAfter_of_ne (by simp [stage]) (by simp [stage]) (by simp [stage])]
    exact h.leaves hcoherent stage (hshown stage)

/-- The notes fit when the owner was told that there will be no more inputs. -/
theorem hangsUp (hstage : s.stage = .waiting) (hchannel : s.channel = []) :
    (notes.note s .hangsUp).Fit { s with stage := .leaving } where
  sent_eq := h.sent_eq.trans (List.append_nil _).symm
  closed_eq := by
    have hclosed := h.closed_eq
    rw [seenTo, hstage] at hclosed
    exact hclosed
  earlier := h.earlier
  latest := .hungUp (by simp [note, hstage, hchannel])

/-- The notes fit after every turn, unless something cannot be shown. -/
theorem turn (hcoherent : s.runner.Coherent)
    (hshown : s.stage = .leaving →
      s.loop.console.printed = s.loop.console.session.transcript.length) (t : Turn) :
    (notes.note s t).Fit (s.turn t) ∨ (s.turn t).stage = .broken := by
  have hturned := Scene.turned t s
  generalize s.turn t = s' at hturned ⊢
  cases hturned with
  | beside other hbeside => exact .inl (h.beside other hbeside)
  | hangsUp hstage hchannel => exact .inl (h.hangsUp hstage hchannel)
  | @advances now answer _ hadvanced =>
    have hnote : notes.note s (.advances now answer) =
        { notes with rounds := notes.roundsAfter s now answer } := by
      have hputs : s.puts (.advances now answer) = [] := rfl
      rw [note, hputs, List.append_nil]
    rw [hnote]
    exact .inl (h.advances hcoherent hshown hadvanced)
  | breaks => exact .inr rfl

end Fit

end Notes

namespace Diary

/-- What is known of every diary. -/
structure Sound (d : Diary) : Prop where
  screen : d.screen.Sound
  scene : d.screen.scene.Sound
  fit : d.Fit d.screen.scene

theorem sound_new (policy : CommitPolicy) (supply : Supply) (exportDir : String) :
    (new policy supply exportDir).Sound where
  screen := Screen.sound_new policy supply exportDir
  scene := Scene.sound_new policy supply exportDir
  fit := ⟨rfl, rfl, fun _ hsuffix ↦ List.suffix_nil.1 hsuffix ▸ rfl, rfl⟩

variable {d : Diary}

/-- Every turn keeps the diary sound, unless something cannot be shown. -/
theorem Sound.step (h : d.Sound) (t : Turn) :
    (d.step t).Sound ∨ (d.step t).screen.scene.stage = .broken := by
  have hshown (hstage : d.screen.scene.stage = .leaving) :
      d.screen.printed = d.screen.transcript.length :=
    h.screen.all (hstage ▸ trivial)
  rcases h.screen.step (.turn t), h.fit.turn h.scene.world.coherent hshown t with
    ⟨hscreen | hbroken, hfit | hbroken'⟩
  · exact .inl ⟨hscreen, h.scene.turn t, hfit⟩
  · exact .inr hbroken'
  · exact .inr hbroken
  · exact .inr hbroken

theorem sound_after (h : d.Sound) (turns : List Turn) :
    (d.after turns).Sound ∨ (d.after turns).screen.scene.stage = .broken := by
  refine List.foldlRecOn (motive := fun d ↦ d.Sound ∨ d.screen.scene.stage = .broken) turns
    Diary.step (.inl h) fun d hor t _ ↦ ?_
  rcases hor with h | hbroken
  · exact h.step t
  · exact .inr (Scene.stage_step_of_broken hbroken (.turn t))

/-- For all inputs put on the channel, and whatever the threads of the runs do meanwhile, unless
something could not be shown:

* the inputs are received in the order in which they were sent, and none is lost;
* no input is received after one to stop after, that is after which the console has answered that
  the user is done, or after which no run is in flight while the lines have ended;
* an owner that waits for an input goes on: the latest one is not to be stopped after;
* an owner that takes no more inputs has a reason: the latest one is to be stopped after, or there
  are no more inputs at all;
* once it has left, no run is in flight, and every context that was created is destroyed. If it left
  because the lines had ended, all entries of the transcript are on the screen;
* left alone, it comes to leave, or to wait with no input left to receive. -/
theorem inputs_taken_until_done (policy : CommitPolicy) (supply : Supply) (exportDir : String)
    (turns : List Turn) :
    let d := (new policy supply exportDir).after turns
    let s := d.screen.scene
    s.stage ≠ .broken →
      (d.rounds.map (·.input)).reverse ++ s.channel = d.sent ∧
      (∀ rounds, rounds <:+ d.rounds → rounds ≠ d.rounds → stopsAfter rounds = false) ∧
      (s.stage = .waiting → stopsAfter d.rounds = false) ∧
      (s.stage = .leaving ∨ s.stage = .left → stopsAfter d.rounds = true ∨ d.hungUp = true) ∧
      (s.stage = .left →
        s.runner.session.isRunning = false ∧
        (∀ context < s.runner.slots.created, s.runner.slots.destroyed.count context = 1) ∧
        (d.hungUp = false → (∀ round ∈ d.rounds.head?, round.quits = false) →
          d.screen.printed = d.screen.transcript.length ∧
          d.screen.shown = d.screen.transcript.map Chunk.ofEntry)) ∧
      ∀ now answer, ∃ s', Scene.Leads now answer s s' ∧
        (s'.stage = .left ∨ s'.stage = .waiting ∧ s'.channel = []) := by
  intro d s hunbroken
  have h : d.Sound := (sound_after (sound_new policy supply exportDir) turns).resolve_right
    hunbroken
  have hlatest := h.fit.latest
  refine ⟨h.fit.sent_eq, fun rounds hsuffix hne ↦ ?_, fun hstage ↦ ?_, fun hstage ↦ ?_,
    fun hstage ↦ ?_, fun now answer ↦ Scene.leads_rest now answer hunbroken⟩
  · refine h.fit.earlier rounds ?_
    cases hrounds : d.rounds with
    | nil =>
      rw [hrounds] at hsuffix
      exact hsuffix
    | cons round earlier =>
      rw [hrounds] at hsuffix hne
      exact (List.suffix_cons_iff.1 hsuffix).resolve_left hne
  · rw [Notes.Latest, hstage] at hlatest
    exact hlatest
  · rcases hstage with hleaving | hleft
    · rw [Notes.Latest, hleaving] at hlatest
      exact hlatest.stopsAfter
    · rw [Notes.Latest, hleft] at hlatest
      exact hlatest.1.stopsAfter
  · rw [Notes.Latest, hstage] at hlatest
    obtain ⟨hreason, hidle, hactive, hfree⟩ := hlatest
    refine ⟨Bool.eq_false_iff.2 (Session.not_isRunning_iff.2 hidle), fun context hcreated ↦ ?_,
      fun hhungUp hquits ↦ ?_⟩
    · exact h.scene.world.coherent.slots.destroyed_of_free hactive hfree hcreated
    · have hall : d.screen.printed = d.screen.transcript.length := hreason.known hhungUp hquits
      refine ⟨hall, ?_⟩
      rw [h.screen.shown_eq, hall, List.take_length]

/-- The lines end while a run is in flight. The owner waits for its result and shows it. -/
theorem inputs_taken_until_done_waits :
    let advances (n : Nat) := List.replicate n (Turn.advances "" fun _ ↦ .error .notFound)
    let d := (new .always {} "").after
      ([.sends (.line "1"), .sends .endOfInput] ++ advances 10 ++
        [.returns 0 (.broke "2"), .pushes (.worker 0), .wakes (.worker 0)] ++ advances 12)
    (d.screen.scene.stage ≠ .broken ∧ d.screen.scene.stage = .left ∧ d.hungUp = false ∧
        ∀ round ∈ d.rounds.head?, round.quits = false) ∧
      d.rounds = [{ input := .wake, idle := true }, { input := .endOfInput },
        { input := .line "1" }] ∧
      d.screen.transcript = [Entry.running, .echo "1", .output false "2"] ∧
      d.screen.shown = d.screen.transcript.map Chunk.ofEntry := by
  intro advances d
  have hunbroken : d.screen.scene.stage ≠ .broken := by decide +kernel
  have hleft : d.screen.scene.stage = .left := by decide +kernel
  have hhungUp : d.hungUp = false := by decide +kernel
  have hquits : ∀ round ∈ d.rounds.head?, round.quits = false := by decide +kernel
  obtain ⟨-, -, -, -, hreturns, -⟩ := inputs_taken_until_done _ _ _ _ hunbroken
  obtain ⟨-, -, hshown⟩ := hreturns hleft
  exact ⟨⟨hunbroken, hleft, hhungUp, hquits⟩, by decide +kernel, by decide +kernel,
    (hshown hhungUp hquits).2⟩

end Diary

end Workbench
