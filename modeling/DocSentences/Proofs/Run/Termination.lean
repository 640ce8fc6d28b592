import DocSentences.Proofs.Run.Moves

/-!
# Runs come to an end

Whenever the controller or a document goes on, less is left to be done, and as long as a run has not
ended one of them can go on. Only time and requests to end can come without limit.
-/

namespace DocSentences.Run

variable {setup : Setup} {sink : Sink} {choices : List Choice}

/-! ## What is left to be done -/

/-- Whether a choice lets the controller or a document go on. -/
def Choice.advances : Choice → Bool
  | .controller _ | .worker _ => true
  | .shutdown | .pass _ => false

/-- A measure added up over a list. -/
def sumOf {α : Type} (f : α → Nat) : List α → Nat
  | [] => 0
  | x :: rest => f x + sumOf f rest

theorem sumOf_append {α : Type} (f : α → Nat) (before after : List α) :
    sumOf f (before ++ after) = sumOf f before + sumOf f after := by
  induction before with
  | nil => simp [sumOf]
  | cons x rest ih => simp [sumOf, ih, Nat.add_assoc]

/-- How often the controller can go on without starting or gathering a document. -/
def Phase.effort : Phase → Nat
  | .dispatching => 2
  | .draining _ | .joining => 1
  | .ended _ => 0

/-- The number of records that extracting a document gives. -/
def Job.recordCount (job : Job) : Nat :=
  match job.extracted with
  | .records records => records.length
  | .failed _ | .broke _ => 0

/-- How often something can still be done with a document that was started, gathering included. -/
def Task.effort (t : Task) : Nat :=
  match t.stage with
  | .extracting => 2 * t.job.recordCount + 7
  | .writing left => 2 * left.length + 6
  | .counting _ left => 2 * left.length + 7
  | .ended _ => 5
  | .counted _ => 4
  | .reported _ => 3
  | .released _ => 2
  | .finished _ => 1

/-- How often something can be done with a document, starting it included. -/
def Job.effort (job : Job) : Nat := 2 * job.recordCount + 8

/-- How often something can still be done in a run. -/
def State.effort (s : State) : Nat :=
  s.phase.effort + sumOf Job.effort s.waiting + sumOf Task.effort s.tasks

/-- How often something can be done in a run from its beginning on. -/
def Setup.effort (setup : Setup) : Nat := 2 + sumOf Job.effort setup.jobs

theorem State.effort_initial (setup : Setup) (sink : Sink) :
    (State.initial setup sink).effort = setup.effort := rfl

/-- Extraction leaves less to do. -/
theorem Job.effort_stageAfterExtraction (job : Job) :
    (⟨job, job.stageAfterExtraction⟩ : Task).effort < 2 * job.recordCount + 7 := by
  cases hjob : job.extracted <;>
    simp [Task.effort, Job.stageAfterExtraction, Job.recordCount, hjob]

/-- Work leaves less to do. -/
theorem Work.effort_lt {e e' : Entry} {a b : Account} (hwork : Work setup e a e' b) :
    e'.task.effort < e.task.effort := by
  cases hwork
  case extracted hstage =>
    have hless := e.job.effort_stageAfterExtraction
    simpa [Entry.task, Task.effort, hstage] using hless
  all_goals simp [Entry.task, Entry.advance, Task.effort, *] <;> omega

/-- Heeding a failure makes no more to do. -/
theorem Phase.effort_heed_le (s : State) (fatal : Option Failure) :
    (s.heed fatal).phase.effort ≤ s.phase.effort := by
  unfold State.heed
  split
  · exact Nat.le_refl _
  · split
    · next hphase => simp [State.say, hphase, effort]
    · exact Nat.le_refl _

/-- Concluding a run leaves less to do. -/
theorem State.effort_conclude_lt {s : State} (setup : Setup)
    (hphase : s.phase = .joining ∨ ∃ since, s.phase = .draining since) :
    (s.conclude setup).effort < s.effort := by
  obtain ⟨notices, hconclude⟩ := s.conclude_eq setup
  have hone : s.phase.effort = 1 := by
    rcases hphase with hjoining | ⟨since, hdraining⟩
    · rw [hjoining, Phase.effort]
    · rw [hdraining, Phase.effort]
  rw [hconclude]
  change 0 + sumOf Job.effort s.waiting + sumOf Task.effort s.tasks <
    s.phase.effort + sumOf Job.effort s.waiting + sumOf Task.effort s.tasks
  omega

/-- Less is left to be done after the controller or a document has gone on. -/
theorem Move.effort {choice : Choice} {a b : Account} (hmove : Move setup choice a b)
    (htasks : a.state.tasks = live a.entries) :
    b.state.effort + choice.advances.toNat ≤ a.state.effort := by
  cases hmove with
  | @worked a b before after e e' index hopen hentries hgathered hwork =>
      have hless := hwork.effort_lt
      have hgathered' : e'.gathered = false := hwork.gathered_eq.trans hgathered
      rw [hentries, live_append, live_cons hgathered] at htasks
      simp only [State.effort, Account.withEntries, live_append, live_cons hgathered', htasks,
        hwork.phase_eq, hwork.waiting_eq, sumOf_append, sumOf, Choice.advances, Bool.toNat_true]
      omega
  | dispatched _ hphase =>
      simp only [State.effort, Phase.effort, Choice.advances, hphase, Bool.toNat_true]
      omega
  | stopped _ hphase =>
      simp only [State.effort, Phase.effort, Choice.advances, State.say, hphase, Bool.toNat_true]
      omega
  | started _ hphase hwaiting =>
      simp only [State.effort, Account.start, Choice.advances, hwaiting, Task.effort, Job.effort,
        sumOf_append, sumOf, Bool.toNat_true]
      omega
  | @gathered _ before after e fatal _ _ _ hentries hgathered hstage =>
      -- one document less, and a failure can only end the dispatch
      have hheed := Phase.effort_heed_le a.state fatal
      have hone : e.task.effort = 1 := by simp only [Entry.task, Task.effort, hstage]
      obtain ⟨phase, failure, notices, heq⟩ := a.state.heed_eq fatal
      have hmarked : ({ e with gathered := true } : Entry).gathered = true := rfl
      rw [hentries, live_append, live_cons hgathered] at htasks
      rw [heq] at hheed ⊢
      change phase.effort ≤ _ at hheed
      simp only [State.effort, Account.withEntries, live_append, live_cons_of_gathered hmarked,
        htasks, sumOf_append, sumOf, Choice.advances, Bool.toNat_true, hone]
      omega
  | concluded _ hphase => exact State.effort_conclude_lt setup hphase
  | abandoned _ hphase =>
      simp only [State.effort, State.abandon, State.say, Phase.effort, Choice.advances, hphase,
        Bool.toNat_true]
      omega
  | requested => simp [State.effort, Choice.advances]
  | passed => simp [State.effort, Choice.advances]

/-- The choices that advance a run are no more than there was to do. -/
theorem Reached.effort {a : Account} (h : Reached setup sink choices a) :
    a.state.effort + choices.countP Choice.advances ≤ setup.effort := by
  induction h with
  | initial => simp [State.effort_initial]
  | @move choices choice a b hreached _ hmove ih =>
      have hless := hmove.effort hreached.tasks_eq_live
      have hcount : (choices ++ [choice]).countP Choice.advances =
          choices.countP Choice.advances + choice.advances.toNat := by
        cases hadvances : choice.advances <;> simp [List.countP_append, hadvances]
      omega

/-- In no run do the controller and the documents go on without end. -/
theorem countP_advances_le {s : State}
    (hrun : (State.initial setup sink).steps setup choices = some s) :
    choices.countP Choice.advances ≤ setup.effort := by
  obtain ⟨a, -, hreached⟩ := exists_reached hrun
  have hbound := hreached.effort
  omega

/-! ## Something can always be done -/

theorem isSome_takeFinished {tasks : List Task} (h : tasks.any Task.isFinished = true) :
    (takeFinished 0 tasks).isSome = true := by
  induction tasks with
  | nil => simp at h
  | cons task rest ih =>
      cases hstage : task.stage
      case finished => simp [takeFinished, hstage]
      all_goals
        have hrest := ih (by simpa [Task.isFinished, hstage] using h)
        simpa [takeFinished, hstage] using hrest

/-- A document goes on until it can be gathered. -/
theorem State.isSome_workerStep {s : State} {index : Nat} {task : Task}
    (htask : s.tasks[index]? = some task) (hfinished : task.isFinished = false) :
    (s.workerStep setup index).isSome = true := by
  unfold workerStep
  rw [htask]
  dsimp only
  split
  case h_9 hstage => simp [Task.isFinished, hstage] at hfinished
  all_goals rfl

/-- While a task is finished, the controller can gather it. -/
theorem State.isSome_gather {s : State} (hfinished : s.tasks.any Task.isFinished = true) :
    (s.gather 0).isSome = true := by
  obtain ⟨⟨fatal, rest⟩, htake⟩ := Option.isSome_iff_exists.mp (isSome_takeFinished hfinished)
  cases fatal <;> simp [gather, htake]

/-- The controller goes on if a document can be gathered. -/
theorem State.isSome_controllerStep_of_finished {s : State} (hopen : s.hasEnded = false)
    (hfinished : s.tasks.any Task.isFinished = true) :
    (s.controllerStep setup 0).isSome = true := by
  obtain ⟨⟨fatal, left⟩, htake⟩ := Option.isSome_iff_exists.mp (isSome_takeFinished hfinished)
  have hsome : s.tasks.isEmpty = false := by
    cases htasks : s.tasks with
    | nil => simp [htasks] at hfinished
    | cons => rfl
  unfold controllerStep
  cases hphase : s.phase with
  | ended ending => simp [hasEnded, hphase] at hopen
  | draining since => simpa [hsome, hfinished] using isSome_gather hfinished
  | joining => simpa [hsome] using isSome_gather hfinished
  | dispatching =>
      cases s.waiting with
      | nil => rfl
      | cons job rest =>
          cases hshutdown : s.shutdownRequested <;> cases fatal <;> simp [hfinished, htake]

/-- The controller goes on if there are no documents to wait for. -/
theorem State.isSome_controllerStep_of_nil {s : State} (hopen : s.hasEnded = false)
    (hworkers : 1 ≤ setup.settings.workerCount) (htasks : s.tasks = []) :
    (s.controllerStep setup 0).isSome = true := by
  have hroom : s.inFlight < setup.settings.workerCount := by
    simpa [inFlight, htasks] using Nat.lt_of_lt_of_le Nat.zero_lt_one hworkers
  unfold controllerStep
  cases hphase : s.phase with
  | ended ending => simp [hasEnded, hphase] at hopen
  | draining since => simp [htasks]
  | joining => simp [htasks]
  | dispatching =>
      cases s.waiting with
      | nil => rfl
      | cons job rest => cases hshutdown : s.shutdownRequested <;> simp [htasks, hroom]

/-- Until a run has ended, the controller or a document can go on, and the controller need not give
up on documents in flight. -/
theorem State.exists_advance_of_not_isOverdue {s : State} (hopen : s.hasEnded = false)
    (hworkers : 1 ≤ setup.settings.workerCount) :
    ∃ choice, choice.advances = true ∧ (s.step setup choice).isSome = true ∧
      ((∃ pick, choice = .controller pick) → ¬ s.IsOverdue setup) := by
  by_cases hfinished : s.tasks.any Task.isFinished = true
  · refine ⟨.controller 0, rfl, ?_, ?_⟩
    · simpa [step, hopen] using isSome_controllerStep_of_finished hopen hfinished
    · rintro - ⟨since, -, -, hnone, -⟩
      cases hfinished.symm.trans hnone
  · cases htasks : s.tasks with
    | nil =>
        refine ⟨.controller 0, rfl, ?_, ?_⟩
        · simpa [step, hopen] using isSome_controllerStep_of_nil hopen hworkers htasks
        · rintro - ⟨since, -, hsome, -⟩
          exact hsome htasks
    | cons task rest =>
        have hfirst : s.tasks[0]? = some task := by simp [htasks]
        have hunfinished : task.isFinished = false := by
          simp [htasks] at hfinished
          exact hfinished.1
        refine ⟨.worker 0, rfl, ?_, by simp⟩
        simpa [step, hopen] using isSome_workerStep hfirst hunfinished

/-- Until a run has ended, some choice advances it. -/
theorem State.exists_advance {s : State} (hopen : s.hasEnded = false)
    (hworkers : 1 ≤ setup.settings.workerCount) :
    ∃ choice, choice.advances = true ∧ (s.step setup choice).isSome = true := by
  obtain ⟨choice, hadvances, hsome, -⟩ := exists_advance_of_not_isOverdue hopen hworkers
  exact ⟨choice, hadvances, hsome⟩

end DocSentences.Run
