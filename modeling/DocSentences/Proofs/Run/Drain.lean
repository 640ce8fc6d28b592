import DocSentences.Proofs.Run.Course
import DocSentences.Proofs.Run.Termination

/-!
# How long documents in flight are waited for

Once a run is asked to end, or has to, the documents in flight are to be waited for only so long.
The controller keeps to that if documents of the corpus have not been started yet. The last
documents of the corpus it waits for without limit.

Time passes in these runs only while the controller has nothing to do.
-/

namespace DocSentences.Run

variable {setup : Setup} {sink : Sink} {choices : List Choice}

namespace State

/-- Whether a document that was started has not finished. -/
def HasUnfinished (s : State) : Prop := ∃ task ∈ s.tasks, task.isFinished = false

/-- Whether a document has finished with a failure on which the run has to stop. -/
def HasFatal (s : State) : Prop :=
  ∃ task ∈ s.tasks, ∃ failure, task.stage = .finished (some failure)

/-- Whether the run is asked to end, or a document has ended on which it has to stop. -/
def IsStopping (s : State) : Prop :=
  s.shutdownRequested = true ∨ s.fatal.isSome = true ∨ s.HasFatal

/-- Whether the controller has nothing to do but wait. -/
def Waits (setup : Setup) (s : State) : Prop := ∀ pick, s.controllerStep setup pick = none

/-- The failure with which the controller gives up. -/
def drainFailure (setup : Setup) (s : State) : Failure :=
  s.fatal.getD (.drainTimeout setup.settings.drainTimeout s.tasks.length)

end State

/-- The states that a run comes to if time passes only while the controller waits. -/
inductive LeadsTo (setup : Setup) (s : State) : State → Prop
  | refl : LeadsTo setup s s
  | step {m s' : State} {choice : Choice} :
      LeadsTo setup s m → m.step setup choice = some s' →
      (∀ nanoseconds, choice = .pass nanoseconds → m.Waits setup) → LeadsTo setup s s'

/-- Whether the controller, left to itself, gives up on the documents in flight, whichever of those
that have finished it gathers first. -/
inductive GivesUp (setup : Setup) : State → Prop
  | abandoned {s s' : State} (hstep : ∀ pick, s.controllerStep setup pick = some s')
      (hend : s'.ending? = some (.failed (s.drainFailure setup))) : GivesUp setup s
  | gathered {s : State} (hstep : ¬ s.Waits setup)
      (hnext : ∀ pick s', s.controllerStep setup pick = some s' → GivesUp setup s') :
      GivesUp setup s

/-- Whether the documents in flight are waited for only so long: if one of them has not finished
when the time is over, the controller gives up on it. -/
def BoundedDrain (setup : Setup) (s : State) : Prop :=
  ∀ s', LeadsTo setup s s' → s.clock + setup.settings.drainTimeout ≤ s'.clock →
    s'.hasEnded = false → s'.HasUnfinished → GivesUp setup s'

/-- A run in which only waiting is left does not give up. -/
theorem State.Waits.not_givesUp {s : State} (h : s.Waits setup) : ¬ GivesUp setup s := by
  intro hgives
  cases hgives with
  | abandoned hstep =>
      have hnone := h 0
      rw [hstep 0] at hnone
      cases hnone
  | gathered hstep => exact hstep h

theorem State.not_waits {s : State} {pick : Nat} (h : (s.controllerStep setup pick).isSome = true) :
    ¬ s.Waits setup := by
  intro hwaits
  rw [hwaits pick] at h
  cases h

namespace LeadsTo

variable {s m s' : State}

/-- What is reached from a state that is reached, is reached. -/
theorem trans (hfirst : LeadsTo setup s m) (hsecond : LeadsTo setup m s') :
    LeadsTo setup s s' := by
  induction hsecond with
  | refl => exact hfirst
  | step _ hstep hprompt ih => exact .step ih hstep hprompt

theorem controller {pick : Nat} (hopen : s.hasEnded = false)
    (hstep : s.controllerStep setup pick = some s') : LeadsTo setup s s' := by
  have hchoice : s.step setup (.controller pick) = some s' := by
    simpa [State.step, hopen] using hstep
  exact .step .refl hchoice (by simp)

end LeadsTo

/-! ## With documents left behind -/

/-- Whether the controller has stopped starting documents since a certain time, or will do so before
time passes. -/
def State.StopsBy (s : State) (time : Nat) : Prop :=
  (∃ since, s.phase = .draining since ∧ since ≤ time) ∨
    s.phase = .dispatching ∧ s.waiting ≠ [] ∧ s.clock = time ∧
      (s.shutdownRequested = true ∨ s.HasFatal)

/-- The documents around one that goes on or is gathered stay where they are. -/
theorem mem_live_of_ne {before after : List Entry} {e e' : Entry} {task : Task}
    (hmem : task ∈ live (before ++ e :: after)) (hne : task ≠ e.task) :
    task ∈ live (before ++ e' :: after) := by
  simp only [live, List.mem_map, List.mem_filter, List.mem_append, List.mem_cons] at hmem ⊢
  obtain ⟨other, ⟨hbefore | rfl | hafter, hlive⟩, rfl⟩ := hmem
  · exact ⟨other, ⟨.inl hbefore, hlive⟩, rfl⟩
  · exact absurd rfl hne
  · exact ⟨other, ⟨.inr (.inr hafter), hlive⟩, rfl⟩

/-- A document that has finished does nothing more. -/
theorem Work.isFinished_eq_false {e e' : Entry} {a b : Account} (hwork : Work setup e a e' b) :
    e.task.isFinished = false := by
  cases hwork <;> simp [Entry.task, Task.isFinished, *]

/-- A document with a failure of the run is finished. -/
theorem State.HasFatal.any_isFinished {s : State} (h : s.HasFatal) :
    s.tasks.any Task.isFinished = true := by
  obtain ⟨task, hmem, failure, hstage⟩ := h
  exact List.any_eq_true.mpr ⟨task, hmem, (isFinished_iff task).mpr ⟨_, hstage⟩⟩

/-- The controller does not wait before it has stopped starting documents. -/
theorem State.StopsBy.draining_of_waits {s : State} {time : Nat} (h : s.StopsBy time)
    (hwaits : s.Waits setup) : ∃ since, s.phase = .draining since ∧ since ≤ time := by
  rcases h with hdraining | ⟨hphase, hwaiting, -, hreason⟩
  · exact hdraining
  · obtain ⟨job, rest, hcons⟩ := List.exists_cons_of_ne_nil hwaiting
    have hopen := State.hasEnded_eq_false hphase (by simp)
    have hsome : (s.controllerStep setup 0).isSome = true := by
      rcases hreason with hshutdown | hfatal
      · simp [controllerStep, hphase, hcons, hshutdown]
      · exact State.isSome_controllerStep_of_finished hopen hfatal.any_isFinished
    exact absurd hwaits (State.not_waits hsome)

/-- Once it is certain that the controller stops, this stays so until the run has ended. -/
theorem Move.stopsBy {choice : Choice} {a b : Account} {time : Nat}
    (hmove : Move setup choice a b) (htasks : a.state.tasks = live a.entries)
    (hprompt : ∀ nanoseconds, choice = .pass nanoseconds → a.state.Waits setup)
    (h : a.state.StopsBy time) : b.state.hasEnded = true ∨ b.state.StopsBy time := by
  cases hmove with
  | @worked a b before after e e' index hopen hentries hgathered hwork =>
      refine .inr (h.imp ?_ ?_)
      · rintro ⟨since, hphase, hsince⟩
        exact ⟨since, hwork.phase_eq.trans hphase, hsince⟩
      · rintro ⟨hphase, hwaiting, hclock, hreason⟩
        refine ⟨hwork.phase_eq.trans hphase, ?_, hwork.clock_eq.trans hclock, hreason.imp ?_ ?_⟩
        · rwa [← hwork.waiting_eq] at hwaiting
        · exact hwork.shutdownRequested_eq.trans
        · rintro ⟨task, hmem, failure, hstage⟩
          -- the document that goes on is not the one that has finished
          rw [htasks, hentries] at hmem
          have hfinished := (isFinished_iff task).mpr ⟨_, hstage⟩
          refine ⟨task, mem_live_of_ne hmem ?_, failure, hstage⟩
          rintro rfl
          cases hfinished.symm.trans hwork.isFinished_eq_false
  | dispatched _ hphase hwaiting =>
      rcases h with ⟨since, hdraining, -⟩ | ⟨-, hsome, -⟩
      · cases hphase.symm.trans hdraining
      · exact absurd hwaiting hsome
  | stopped _ hphase =>
      rcases h with ⟨since, hdraining, -⟩ | ⟨-, -, hclock, -⟩
      · cases hphase.symm.trans hdraining
      · exact .inr (.inl ⟨_, rfl, Nat.le_of_eq hclock⟩)
  | started _ hphase _ hshutdown hfinished =>
      rcases h with ⟨since, hdraining, -⟩ | ⟨-, -, -, hrequested | hfatal⟩
      · cases hphase.symm.trans hdraining
      · cases hshutdown.symm.trans hrequested
      · cases hfinished.symm.trans hfatal.any_isFinished
  | @gathered _ before after e fatal _ _ _ hentries _ hstage =>
      refine .inr ?_
      rcases h with ⟨since, hphase, hsince⟩ | ⟨hphase, hwaiting, hclock, hreason⟩
      · refine .inl ⟨since, ?_, hsince⟩
        cases fatal with
        | none => exact hphase
        | some failure =>
            rw [State.heed_of_not_dispatching (by simp [hphase])]
            exact hphase
      · cases fatal with
        | some failure =>
            rw [State.heed_of_dispatching hphase]
            exact .inl ⟨_, rfl, Nat.le_of_eq hclock⟩
        | none =>
            refine .inr ⟨hphase, hwaiting, hclock, hreason.imp_right ?_⟩
            rintro ⟨task, hmem, failure, hfatal⟩
            rw [htasks, hentries] at hmem
            refine ⟨task, mem_live_of_ne hmem ?_, failure, hfatal⟩
            rintro rfl
            cases hstage.symm.trans hfatal
  | concluded => exact .inl (State.hasEnded_conclude setup _)
  | abandoned => exact .inl rfl
  | requested =>
      refine .inr (h.imp id ?_)
      rintro ⟨hphase, hwaiting, hclock, -⟩
      exact ⟨hphase, hwaiting, hclock, .inl rfl⟩
  | passed _ hopen =>
      exact .inr (.inl (h.draining_of_waits (hprompt _ rfl)))

/-- A run that stops by some time still does after it has gone on, or has ended. -/
theorem Reached.stopsBy {a : Account} {s' : State} {time : Nat}
    (h : Reached setup sink choices a) (hstops : a.state.StopsBy time)
    (hleads : LeadsTo setup a.state s') :
    ∃ later b, Reached setup sink later b ∧ b.state = s' ∧
      (s'.hasEnded = true ∨ s'.StopsBy time) := by
  induction hleads with
  | refl => exact ⟨choices, a, h, rfl, .inr hstops⟩
  | @step m s' choice _ hstep hprompt ih =>
      obtain ⟨later, b, hreached, rfl, hcertain⟩ := ih
      obtain ⟨c, rfl, hmove⟩ := exists_move_of_step hreached.tasks_eq_live hstep
      refine ⟨_, c, hreached.move hstep hmove, rfl, ?_⟩
      rcases hcertain with hended | hcertain
      · simp [State.step, hended] at hstep
      · exact hmove.stopsBy hreached.tasks_eq_live hprompt hcertain

/-- While a document has not finished, the controller ends a run only by giving up. -/
theorem Move.hasUnfinished {pick : Nat} {a b : Account}
    (hmove : Move setup (.controller pick) a b) (htasks : a.state.tasks = live a.entries)
    (h : a.state.HasUnfinished) :
    (b.state.HasUnfinished ∧ b.state.clock = a.state.clock ∧
      b.state.hasEnded = false) ∨
      (∃ since, a.state.phase = .draining since) ∧ a.state.tasks.any Task.isFinished = false := by
  obtain ⟨task, hmem, hunfinished⟩ := h
  cases hmove with
  | dispatched => exact .inl ⟨⟨task, hmem, hunfinished⟩, rfl, rfl⟩
  | stopped => exact .inl ⟨⟨task, hmem, hunfinished⟩, rfl, rfl⟩
  | started _ hphase =>
      refine .inl ⟨⟨task, List.mem_append_left _ hmem, hunfinished⟩, rfl, ?_⟩
      exact State.hasEnded_eq_false hphase (by simp)
  | @gathered _ before after e fatal _ hopen _ hentries _ hstage =>
      rw [htasks, hentries] at hmem
      refine .inl ⟨⟨task, mem_live_of_ne hmem ?_, hunfinished⟩, ?_, ?_⟩
      · -- the document that is gathered is finished, so it is another one
        rintro rfl
        simp [Entry.task, Task.isFinished, hstage] at hunfinished
      · exact a.state.clock_heed fatal
      · exact State.hasEnded_heed hopen fatal
  | concluded _ _ hnone =>
      rw [hnone] at hmem
      cases hmem
  | abandoned _ hphase _ hfinished => exact .inr ⟨⟨_, hphase⟩, hfinished⟩

/-- A run that is to stop has not ended yet. -/
theorem State.StopsBy.hasEnded_eq_false {s : State} {time : Nat} (h : s.StopsBy time) :
    s.hasEnded = false := by
  rcases h with ⟨since, hphase, -⟩ | ⟨hphase, -⟩
  · exact State.hasEnded_eq_false hphase (by simp)
  · exact State.hasEnded_eq_false hphase (by simp)

/-- Once the time for draining is over, the controller abandons what is unfinished. -/
theorem State.controllerStep_of_late {s : State} {since : Nat} (hphase : s.phase = .draining since)
    (hwork : s.HasUnfinished) (hfinished : s.tasks.any Task.isFinished = false)
    (hlate : since + setup.settings.drainTimeout ≤ s.clock) (pick : Nat) :
    s.controllerStep setup pick = some (s.abandon setup) := by
  obtain ⟨task, hmem, -⟩ := hwork
  have hsome : s.tasks.isEmpty = false := by
    rw [List.isEmpty_eq_false_iff]
    exact List.ne_nil_of_mem hmem
  simp [controllerStep, hphase, hsome, hfinished, hlate]

/-- When the time is over, the controller gathers what has finished and gives up on the rest. -/
theorem State.StopsBy.givesUp {a : Account} {time : Nat} (h : a.state.StopsBy time)
    (htasks : a.state.tasks = live a.entries)
    (hlate : time + setup.settings.drainTimeout ≤ a.state.clock)
    (hwork : a.state.HasUnfinished) : GivesUp setup a.state := by
  -- every document that is gathered leaves less to be done
  induction heffort : a.state.effort using Nat.strongRecOn generalizing a with
  | ind effort ih =>
      by_cases hgone : (∃ since, a.state.phase = .draining since) ∧
          a.state.tasks.any Task.isFinished = false
      · obtain ⟨⟨since, hphase⟩, hfinished⟩ := hgone
        have hsince : since ≤ time := by
          rcases h with ⟨other, hother, hle⟩ | ⟨hdispatching, -⟩
          · cases hphase.symm.trans hother
            exact hle
          · cases hphase.symm.trans hdispatching
        refine .abandoned (State.controllerStep_of_late hphase hwork hfinished ?_) rfl
        exact Nat.le_trans (Nat.add_le_add_right hsince _) hlate
      · have hmoves : ¬ a.state.Waits setup := by
          intro hwaits
          obtain ⟨since, hphase, -⟩ := h.draining_of_waits hwaits
          have hfinished : a.state.tasks.any Task.isFinished = true :=
            Bool.of_not_eq_false fun hnone => hgone ⟨⟨since, hphase⟩, hnone⟩
          exact State.not_waits
            (State.isSome_controllerStep_of_finished h.hasEnded_eq_false hfinished) hwaits
        refine .gathered hmoves fun pick s' hstep => ?_
        obtain ⟨b, rfl, hmove⟩ := exists_move_of_controllerStep htasks hstep
        rcases hmove.hasUnfinished htasks hwork with ⟨hrest, hclock, hopen⟩ | hlost
        · have hless := hmove.effort htasks
          rcases hmove.stopsBy htasks (by simp) h with hended | hstops
          · simp [hopen] at hended
          · simp only [Choice.advances, Bool.toNat_true] at hless
            exact ih b.state.effort (by omega) hstops (hmove.tasks_eq_live htasks)
              (hclock ▸ hlate) hrest rfl
        · exact absurd hlost hgone

/-- With documents left behind, the documents in flight are waited for only so long. -/
theorem Reached.boundedDrain {a : Account} (h : Reached setup sink choices a)
    (hopen : a.state.hasEnded = false) (hstopping : a.state.IsStopping)
    (hwaiting : a.state.waiting ≠ []) : BoundedDrain setup a.state := by
  -- the time to wait counts from now at the latest
  have hcourse := h.course
  have hstops : a.state.StopsBy a.state.clock := by
    cases hphase : a.state.phase with
    | dispatching =>
        refine .inr ⟨hphase, hwaiting, rfl, hstopping.imp_right ?_⟩
        rw [hcourse.dispatching hphase]
        simp
    | draining since => exact .inl ⟨since, hphase, (hcourse.draining since hphase).2⟩
    | joining => exact absurd (hcourse.joining hphase) hwaiting
    | ended ending => simp [State.hasEnded, hphase] at hopen
  intro s' hleads hlate hopen' hwork
  obtain ⟨later, b, hreached, rfl, hended | hcertain⟩ := h.stopsBy hstops hleads
  · simp [hopen'] at hended
  · exact hcertain.givesUp hreached.tasks_eq_live hlate hwork

/-! ## With all documents started -/

theorem takeFinished_eq_none {tasks : List Task} (h : tasks.any Task.isFinished = false)
    (pick : Nat) : takeFinished pick tasks = none := by
  induction tasks with
  | nil => rfl
  | cons task rest ih =>
      obtain ⟨hown, hrest⟩ : task.isFinished = false ∧ rest.any Task.isFinished = false := by
        simpa using h
      cases hstage : task.stage
      case finished => simp [Task.isFinished, hstage] at hown
      all_goals simp [takeFinished, hstage, ih hrest]

/-- For the last documents of the corpus the controller waits however long it takes. -/
theorem State.waits_of_joining {s : State} (hphase : s.phase = .joining) (hwork : s.HasUnfinished)
    (hfinished : s.tasks.any Task.isFinished = false) : s.Waits setup := by
  obtain ⟨task, hmem, -⟩ := hwork
  have hsome : s.tasks.isEmpty = false := by
    rw [List.isEmpty_eq_false_iff]
    exact List.ne_nil_of_mem hmem
  intro pick
  simp [controllerStep, hphase, hsome, gather, takeFinished_eq_none hfinished]

/-- A controller that waits for all documents goes on to do so until the run has ended. -/
theorem Move.joining {pick : Nat} {a b : Account} (hmove : Move setup (.controller pick) a b)
    (hphase : a.state.phase = .joining) (hopen : b.state.hasEnded = false) :
    b.state.phase = .joining := by
  cases hmove with
  | dispatched => rfl
  | stopped _ hother => cases hphase.symm.trans hother
  | started => exact hphase
  | @gathered _ _ _ _ fatal =>
      cases fatal with
      | none => exact hphase
      | some failure =>
          rw [State.heed_of_not_dispatching (by simp [hphase])]
          exact hphase
  | concluded => simp [State.hasEnded_conclude] at hopen
  | abandoned _ hother => cases hphase.symm.trans hother

/-- Left to itself, the controller gathers what has finished and then waits. -/
theorem exists_waiting (setup : Setup) {a : Account} (htasks : a.state.tasks = live a.entries)
    (hphase : a.state.phase = .joining) (hwork : a.state.HasUnfinished) :
    ∃ s', LeadsTo setup a.state s' ∧ s'.phase = .joining ∧ s'.HasUnfinished ∧
      s'.tasks.any Task.isFinished = false ∧ s'.clock = a.state.clock := by
  -- the controller gathers what is finished until nothing is; each step leaves less to do
  induction heffort : a.state.effort using Nat.strongRecOn generalizing a with
  | ind effort ih =>
      have hopen := State.hasEnded_eq_false hphase (by simp)
      cases hfinished : a.state.tasks.any Task.isFinished with
      | false => exact ⟨a.state, .refl, hphase, hwork, hfinished, rfl⟩
      | true =>
          have hsome : (a.state.controllerStep setup 0).isSome = true :=
            State.isSome_controllerStep_of_finished hopen hfinished
          obtain ⟨s', hstep⟩ := Option.isSome_iff_exists.mp hsome
          obtain ⟨b, rfl, hmove⟩ := exists_move_of_controllerStep htasks hstep
          rcases hmove.hasUnfinished htasks hwork with ⟨hrest, hclock, hopen'⟩ | ⟨-, hnone⟩
          · have hless := hmove.effort htasks
            simp only [Choice.advances, Bool.toNat_true] at hless
            obtain ⟨s', hleads, hjoining, hunfinished, hnone, hsame⟩ :=
              ih b.state.effort (by omega) (hmove.tasks_eq_live htasks)
                (hmove.joining hphase hopen') hrest rfl
            exact ⟨s', (LeadsTo.controller hopen hstep).trans hleads, hjoining, hunfinished, hnone,
              hsame.trans hclock⟩
          · cases hfinished.symm.trans hnone

/-- While the controller waits for the last documents of the corpus, any time may pass. -/
theorem LeadsTo.exists_later {s s' : State} (hleads : LeadsTo setup s s')
    (hphase : s'.phase = .joining) (hwork : s'.HasUnfinished)
    (hfinished : s'.tasks.any Task.isFinished = false) (nanoseconds : Nat) :
    ∃ late, LeadsTo setup s late ∧ late.clock = s'.clock + nanoseconds ∧
      late.hasEnded = false ∧ late.HasUnfinished ∧ late.Waits setup := by
  have hopen := State.hasEnded_eq_false hphase (by simp)
  have hstep : s'.step setup (.pass nanoseconds) =
      some { s' with clock := s'.clock + nanoseconds } := by
    simp [State.step, hopen]
  have hwaits : s'.Waits setup := State.waits_of_joining hphase hwork hfinished
  exact ⟨_, hleads.step hstep fun _ _ => hwaits, rfl, hopen, hwork,
    State.waits_of_joining hphase hwork hfinished⟩

/-- A controller that waits for the last documents of the corpus does not give up. -/
theorem not_boundedDrain_of_joining {s s' : State} (hleads : LeadsTo setup s s')
    (hphase : s'.phase = .joining) (hwork : s'.HasUnfinished)
    (hfinished : s'.tasks.any Task.isFinished = false) (hclock : s'.clock = s.clock) :
    ¬ BoundedDrain setup s := by
  intro hbounded
  obtain ⟨late, hlate, htime, hopen, hleft, hwaits⟩ :=
    hleads.exists_later hphase hwork hfinished setup.settings.drainTimeout
  have hover : s.clock + setup.settings.drainTimeout = late.clock := by rw [htime, hclock]
  exact hwaits.not_givesUp (hbounded late hlate (Nat.le_of_eq hover) hopen hleft)

/-- Once no documents are left behind, those in flight may be waited for without limit. -/
theorem Reached.not_boundedDrain {a : Account} (h : Reached setup sink choices a)
    (hopen : a.state.hasEnded = false) (hwork : a.state.HasUnfinished)
    (hwaiting : a.state.waiting = []) : ¬ BoundedDrain setup a.state := by
  obtain ⟨s', hleads, hjoining, hunfinished, hnone, hclock⟩ : ∃ s', LeadsTo setup a.state s' ∧
      s'.phase = .joining ∧ s'.HasUnfinished ∧ s'.tasks.any Task.isFinished = false ∧
      s'.clock = a.state.clock := by
    cases hphase : a.state.phase with
    | dispatching =>
        have hstep : a.state.controllerStep setup 0 = some { a.state with phase := .joining } := by
          simp [State.controllerStep, hphase, hwaiting]
        let next : Account := { a with state := { a.state with phase := .joining } }
        have htasks : next.state.tasks = live next.entries := h.tasks_eq_live
        obtain ⟨s', hleads, hrest⟩ := exists_waiting setup htasks rfl hwork
        exact ⟨s', (LeadsTo.controller hopen hstep).trans hleads, hrest⟩
    | joining => exact exists_waiting setup h.tasks_eq_live hphase hwork
    | draining since => exact absurd hwaiting (h.course.draining since hphase).1
    | ended ending => simp [State.hasEnded, hphase] at hopen
  exact not_boundedDrain_of_joining hleads hjoining hunfinished hnone hclock

/-- If a run is asked to end, or has to, while a document is in flight, then this document is waited
for only so long exactly if documents of the corpus have not been started yet. -/
theorem boundedDrain_iff (setup : Setup) (sink : Sink) (choices : List Choice) (s : State)
    (hrun : (State.initial setup sink).steps setup choices = some s) (hopen : s.hasEnded = false)
    (hstopping : s.IsStopping) (hwork : s.HasUnfinished) :
    BoundedDrain setup s ↔ s.waiting ≠ [] := by
  obtain ⟨a, rfl, hreached⟩ := exists_reached hrun
  constructor
  · exact fun hbounded hwaiting => hreached.not_boundedDrain hopen hwork hwaiting hbounded
  · exact fun hwaiting => hreached.boundedDrain hopen hstopping hwaiting

/-- Some documents that are all alike, one worker, and one second to wait for those in flight. -/
def equalDocuments (count : Nat) : Setup where
  settings := { workerCount := 1, drainTimeoutSecs := 1 }
  jobs := List.replicate count
    ⟨⟨.ofString "C0.java", .structured, "C0"⟩, .records [⟨"C0", "A sentence."⟩]⟩
  skipped := 0
  writer := .willing

theorem equalDocuments_boundedDrain :
    let setup := equalDocuments 2
    ∃ s, (State.initial setup (Sink.create setup.writer)).steps setup
        [.controller 0, .shutdown] = some s ∧ s.hasEnded = false ∧ s.IsStopping ∧
      s.HasUnfinished ∧ s.waiting ≠ [] ∧ BoundedDrain setup s := by
  intro setup
  let s : State :=
    { State.initial setup (Sink.create setup.writer) with
      waiting := (equalDocuments 1).jobs
      tasks := (equalDocuments 1).jobs.map (⟨·, .extracting⟩)
      shutdownRequested := true }
  have hrun : (State.initial setup (Sink.create setup.writer)).steps setup
      [.controller 0, .shutdown] = some s := rfl
  have hwork : s.HasUnfinished := ⟨_, List.mem_cons_self, rfl⟩
  have hwaiting : s.waiting ≠ [] := List.cons_ne_nil _ _
  exact ⟨s, hrun, rfl, .inl rfl, hwork, hwaiting,
    (boundedDrain_iff setup _ _ s hrun rfl (.inl rfl) hwork).mpr hwaiting⟩

/-- A request to end that comes once the last document is in flight does not bound the wait. -/
theorem not_forall_boundedDrain :
    ¬ ∀ (setup : Setup) (sink : Sink) (choices : List Choice) (s : State),
      (State.initial setup sink).steps setup choices = some s → s.hasEnded = false →
        s.IsStopping → s.HasUnfinished → BoundedDrain setup s := by
  intro hall
  let setup := equalDocuments 1
  let s : State :=
    { State.initial setup (Sink.create setup.writer) with
      phase := .joining
      waiting := []
      tasks := setup.jobs.map (⟨·, .extracting⟩)
      shutdownRequested := true }
  have hrun : (State.initial setup (Sink.create setup.writer)).steps setup
      [.controller 0, .controller 0, .shutdown] = some s := rfl
  have hwork : s.HasUnfinished := ⟨_, List.mem_cons_self, rfl⟩
  exact not_boundedDrain_of_joining .refl rfl hwork rfl rfl
    (hall setup _ _ s hrun rfl (.inl rfl) hwork)

end DocSentences.Run
