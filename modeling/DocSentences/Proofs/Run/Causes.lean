import DocSentences.Proofs.Run.Accounting
import DocSentences.Proofs.Run.Fatal

/-!
# Why a run fails

A run fails because a document broke the contract, because the sink did not take what it was given,
or because documents took too long once the run was to end. None of this has to do with the
settings, which are checked before a run begins. A number of workers that there cannot be passes
this check; then the run does not fail but breaks down, and so it does with a writer that breaks
down.
-/

namespace DocSentences.Run

variable {setup : Setup} {sink : Sink} {choices : List Choice}

/-- Whether a failure can arise while a run goes on. -/
def Failure.ArisesInRun : Failure → Prop
  | .sink _ | .drainTimeout .. => True
  | .contractViolation cause => cause.isFatal = true
  | .badSettings _ | .worker _ => False

theorem Outcome.eq_fatal_of_fatal? {outcome : Outcome} {failure : Failure}
    (h : outcome.fatal? = some failure) : outcome = .fatal failure := by
  cases outcome with
  | fatal own => exact congrArg Outcome.fatal (Option.some.inj h)
  | done | failed | broke => cases h

/-- A document ends fatally only with a failure that can arise in a run. -/
theorem Entry.EndedWith.arisesInRun {e : Entry} {failure : Failure}
    (h : e.EndedWith (.fatal failure)) : failure.ArisesInRun := by
  rcases h with ⟨cause, -, hfatal, rfl⟩ | ⟨fault, rfl, -⟩
  · exact hfatal
  · trivial

/-- A document passes on only a failure that can arise in a run. -/
theorem Entry.Sound.arisesInRun {e : Entry} {failure : Failure} (h : e.Sound)
    (hfatal : e.stage.fatal? = some failure) : failure.ArisesInRun := by
  -- the stage shows the failure of the outcome that is known of the document
  have hended : ∃ outcome, outcome.fatal? = some failure ∧ e.EndedWith outcome := by
    cases hstage : e.stage with
    | extracting | writing | counting =>
        rw [hstage] at hfatal
        cases hfatal
    | ended own =>
        rw [hstage] at hfatal
        obtain ⟨outcome, -, rfl, hended⟩ := h.at hstage
        exact ⟨_, hfatal, hended⟩
    | counted fatal | reported fatal | released fatal | finished fatal =>
        rw [hstage] at hfatal
        obtain ⟨outcome, -, rfl, hended⟩ := h.at hstage
        exact ⟨outcome, hfatal, hended⟩
  obtain ⟨outcome, houtcome, hended⟩ := hended
  rw [Outcome.eq_fatal_of_fatal? houtcome] at hended
  exact hended.arisesInRun

/-- The failure that the controller remembers is one that a document has met. -/
theorem Reached.fatal_arisesInRun {a : Account} (h : Reached setup sink choices a)
    {failure : Failure} (hfatal : a.state.fatal = some failure) : failure.ArisesInRun := by
  obtain ⟨before, choice, after, s, hchoices, hsteps, hjoins, -⟩ :=
    (h.fatal_eq_some_iff failure).mp hfatal
  obtain ⟨e, he, -, hstage⟩ := (h.joined_iff failure).mp
    ⟨before, choice, after, s, hchoices, hsteps, hjoins⟩
  exact (h.ledger.sound e he).arisesInRun hstage

/-- A run fails with the failure it has met, or with that of closing its sink. -/
theorem State.conclusion_eq_failed {s : State} {failure : Failure}
    (h : s.conclusion setup = .failed failure) :
    s.fatal = some failure ∨ ∃ fault, failure = .sink fault := by
  unfold conclusion at h
  split at h
  · cases h
  · next hfatal _ =>
    cases h
    exact .inl hfatal
  · cases h
    exact .inr ⟨_, rfl⟩
  · cases h

/-- A run fails for a reason that arises while it goes on. -/
theorem Reached.arisesInRun_of_ending? {a : Account} (h : Reached setup sink choices a)
    {failure : Failure} (hfailed : a.state.ending? = some (.failed failure)) :
    failure.ArisesInRun := by
  have hphase := State.phase_of_ending? hfailed
  cases h with
  | initial => cases hphase
  | @move before choice b _ hreached _ hmove =>
      have hended : a.state.hasEnded = true := (State.hasEnded_iff _).mpr ⟨_, hphase⟩
      obtain ⟨-, ⟨-, -, rfl⟩ | ⟨-, rfl⟩⟩ := hmove.cases_of_ended hended
      · rw [State.ending?_conclude, Option.some.injEq] at hfailed
        rcases State.conclusion_eq_failed hfailed with hfatal | ⟨fault, rfl⟩
        · exact hreached.fatal_arisesInRun hfatal
        · trivial
      · have hown : b.state.fatal.getD (.drainTimeout setup.settings.drainTimeout
            b.state.tasks.length) = failure := Ending.failed.inj (Option.some.inj hfailed)
        cases hfatal : b.state.fatal with
        | none =>
            rw [hfatal] at hown
            exact hown ▸ trivial
        | some own =>
            rw [hfatal] at hown
            exact hown ▸ hreached.fatal_arisesInRun hfatal

/-- However a run fails, it does so for a reason that arises while it goes on. -/
theorem arisesInRun_of_ending? {s : State}
    (hrun : (State.launch setup sink).steps setup choices = some s) {failure : Failure}
    (hfailed : s.ending? = some (.failed failure)) : failure.ArisesInRun := by
  rcases State.steps_launch_cases hrun with ⟨-, hsteps⟩ | ⟨hcrowded, -, rfl⟩
  · obtain ⟨a, rfl, hreached⟩ := exists_reached hsteps
    exact hreached.arisesInRun_of_ending? hfailed
  · rw [State.launch_of_lt hcrowded] at hfailed
    cases hfailed

/-- A run breaks down at its end only when closing the sink does. -/
theorem State.close_of_conclusion_broke {s : State} (h : s.conclusion setup = .broke) :
    (s.sink.close setup.writer).2 = .brokeDown := by
  unfold conclusion at h
  split at h
  · next hclose => exact hclose
  all_goals cases h

/-- A run that has begun breaks down only if its writer does. -/
theorem Reached.not_neverBreaksDown {a : Account}
    (h : Reached setup (Sink.create setup.writer) choices a)
    (hbroke : a.state.ending? = some .broke) : ¬ setup.writer.NeverBreaksDown := by
  intro hwriter
  have hphase := State.phase_of_ending? hbroke
  cases h with
  | initial => cases hphase
  | @move before choice b _ hreached _ hmove =>
      have hended : a.state.hasEnded = true := (State.hasEnded_iff _).mpr ⟨_, hphase⟩
      obtain ⟨-, ⟨-, -, rfl⟩ | ⟨-, rfl⟩⟩ := hmove.cases_of_ended hended
      · rw [State.ending?_conclude, Option.some.injEq] at hbroke
        have hunbroken := hreached.sink_status_ne_broken hwriter (Sink.create_status_ne_broken _)
        exact (Sink.close_status hwriter hunbroken).2 (State.close_of_conclusion_broke hbroke)
      · cases hphase

/-- A run breaks down because there cannot be so many workers, or because its writer does. -/
theorem broke_cases {s : State}
    (hrun : (State.launch setup (Sink.create setup.writer)).steps setup choices = some s)
    (hbroke : s.ending? = some .broke) :
    maxWorkers < setup.settings.workerCount ∨ ¬ setup.writer.NeverBreaksDown := by
  rcases State.steps_launch_cases hrun with ⟨-, hsteps⟩ | ⟨hcrowded, -, -⟩
  · obtain ⟨a, rfl, hreached⟩ := exists_reached hsteps
    exact .inr (hreached.not_neverBreaksDown hbroke)
  · exact .inl hcrowded

/-- The paths of failed documents that a summary names are paths of documents of the corpus. -/
theorem exists_job_of_mem_failedPaths {s : State} {summary : Summary}
    (hrun : (State.launch setup (Sink.create setup.writer)).steps setup choices = some s)
    (hfinished : s.ending? = some (.finished summary)) {path : Path}
    (hpath : path ∈ summary.failedPaths) : ∃ job ∈ setup.jobs, job.document.path = path := by
  have hphase := State.phase_of_ending? hfinished
  rcases State.steps_launch_cases hrun with ⟨-, hsteps⟩ | ⟨hcrowded, -, rfl⟩
  · obtain ⟨a, rfl, hreached⟩ := exists_reached hsteps
    obtain ⟨before, pick, b, -, hbefore, -, -, -, rfl, -, hsettled⟩ :=
      hreached.exists_of_finished hphase
    have hledger := hbefore.ledger
    have hpaths := (hledger.summary_isExact hsettled (b.state.clock / millisecond)).failedPaths
    obtain ⟨job, hjob, rfl⟩ := List.mem_map.mp (hpaths.mem_iff.mp hpath)
    refine ⟨job, ?_, rfl⟩
    rw [← hledger.corpus]
    exact List.mem_append_left _ (List.mem_of_mem_filter hjob)
  · rw [State.launch_of_lt hcrowded] at hphase
    cases hphase

end DocSentences.Run
