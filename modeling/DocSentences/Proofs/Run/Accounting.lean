import DocSentences.Proofs.Document.PathOrder
import DocSentences.Proofs.Run.Course
import DocSentences.Proofs.Run.Delivery
import Mathlib.Data.Finset.Card

/-!
# What the summary of a run says

The summary of a run that ends well counts every document that was started and every row exactly
once. It speaks of the whole corpus unless the controller found a request to end while documents
were still waiting to be started.
-/

namespace DocSentences.Run

variable {setup : Setup}

/-- A summary that counts every document that was started and every row exactly once. -/
structure Summary.IsExact (summary : Summary) (jobs started : List Job) (rows : List Record) :
    Prop where
  total : summary.total = jobs.length
  completed : summary.completed = started.length
  failed : summary.failed = started.countP Job.fails
  failedPaths : summary.failedPaths.Perm ((started.filter Job.fails).map (·.document.path))
  sorted : summary.failedPaths.Pairwise (Path.le · · = true)
  recordsWritten : summary.recordsWritten = rows.length
  distinctKeys : summary.distinctKeys = (rows.map Record.key).toFinset.card

/-- Once every document has ended, a test that all ended documents pass counts the jobs. -/
theorem countP_of_settled {entries : List Entry} (hsettled : ∀ e ∈ entries, e.Settled)
    (p : Entry → Bool) (hp : ∀ e : Entry, e.stage = .finished none → p e = true) :
    entries.countP p = (entries.map Entry.job).length := by
  rw [List.length_map, List.countP_eq_length]
  exact fun e he => hp e (hsettled e he).stage

/-- Once every document has ended, the failed paths are those of the jobs that fail. -/
theorem failedPaths_of_settled {entries : List Entry} (hsettled : ∀ e ∈ entries, e.Settled) :
    entries.flatMap Entry.failedPaths =
      ((entries.map Entry.job).filter Job.fails).map (·.document.path) := by
  induction entries with
  | nil => rfl
  | cons e rest ih =>
      have hrest := ih fun other hother => hsettled other (List.mem_cons_of_mem e hother)
      rw [List.flatMap_cons, hrest, (hsettled e List.mem_cons_self).failedPaths]
      cases hfails : e.job.fails <;> simp [hfails]

/-- The summary of a run all of whose documents have ended as they should. -/
theorem Ledger.summary_isExact {a : Account} (h : Ledger setup a)
    (hsettled : ∀ e ∈ a.entries, e.Settled) (elapsed : Nat) :
    (a.state.tally.summary setup.skipped elapsed).IsExact setup.jobs (a.entries.map Entry.job)
      a.rows := by
  have hpending : a.entries.flatMap Entry.pendingKeys = [] :=
    List.flatMap_eq_nil_iff.mpr fun e he => (hsettled e he).pendingKeys
  have hpaths := failedPaths_of_settled hsettled
  have hfailed := h.failedPaths
  rw [hpaths] at hfailed
  constructor
  case total => exact h.total
  case completed =>
    refine h.completed.trans (countP_of_settled hsettled _ ?_)
    intro e hstage
    simp [Entry.isCounted, hstage]
  case failed =>
    refine h.failed.trans ?_
    rw [hfailed.length_eq, List.length_map, List.countP_eq_length_filter]
  case failedPaths =>
    exact (List.mergeSort_perm _ _).trans ((List.reverse_perm _).trans hfailed)
  case sorted => exact Path.pairwise_sort _
  case recordsWritten =>
    have hrecords := h.recordsWritten
    rw [hpending] at hrecords
    exact hrecords
  case distinctKeys =>
    -- the keys are kept without repetition, so their number is that of the different ones
    have hkeys : a.state.tally.keys.toFinset = (a.rows.map Record.key).toFinset := by
      ext key
      have hkey := h.keys key
      rw [hpending] at hkey
      simpa using hkey
    rw [← hkeys]
    exact (List.toFinset_card_of_nodup h.keysNodup).symm

/-- The summary of a run that ends well counts every document that was started and every row
exactly once, and it speaks of the whole corpus unless a request to end stopped the dispatch. -/
theorem accounting_of_finished (setup : Setup) (choices : List Choice) (s : State)
    (summary : Summary)
    (hrun : (State.initial setup (Sink.create setup.writer)).steps setup choices = some s)
    (hend : s.ending? = some (.finished summary)) :
    ∃ started rows, setup.jobs = started ++ s.waiting ∧
      IsInterleaving rows (started.map Job.rows) ∧
      s.sink.delivered = Csv.encode (Csv.header :: rows.map Csv.fieldsOf) ∧
      summary.IsExact setup.jobs started rows ∧
      s.progress.count .step = started.length ∧ s.progress.count .finish = 1 ∧
      (summary.completed = summary.total ↔
        ¬ DispatchStopped setup (Sink.create setup.writer) choices) := by
  obtain ⟨a, rfl, hreached⟩ := exists_reached hrun
  have hphase := State.phase_of_ending? hend
  have hcorpus := hreached.ledger.corpus
  obtain ⟨hrows, -, hdelivered, -⟩ := hreached.rows_of_finished hphase
  obtain ⟨before, pick, b, rfl, hbefore, hwaits, rfl, hfatal, rfl, -, hsettled⟩ :=
    hreached.exists_of_finished hphase
  have hledger := hbefore.ledger
  have hcourse := hbefore.course
  have hopen := State.hasEnded_eq_false_of_or hwaits
  have hexact := hledger.summary_isExact hsettled (b.state.clock / millisecond)
  refine ⟨_, b.rows, hcorpus.symm, hrows, hdelivered, hexact, ?_, ?_, ?_⟩
  · have hreported : b.entries.countP Entry.isReported = (b.entries.map Entry.job).length :=
      countP_of_settled hsettled _ fun e hstage => by simp [Entry.isReported, hstage]
    rw [State.progress_conclude, List.count_cons_of_ne (by simp), hledger.steps, hreported]
  · rw [State.progress_conclude, List.count_cons_self, hcourse.unfinished hopen]
  · have hstops : ¬ b.state.StopsDispatch := by
      rintro ⟨hdispatching, -⟩
      simp [hdispatching] at hwaits
    rw [hexact.completed, hexact.total, hbefore.dispatchStopped_of_not hstops _,
      hcourse.stopped hopen hfatal, ← hledger.corpus, List.length_append, Nat.left_eq_add,
      List.length_eq_zero_iff]
    rcases hwaits with hjoining | ⟨since, hdraining⟩
    · exact iff_of_true (hcourse.joining hjoining) (by simp [hjoining])
    · exact iff_of_false (hcourse.draining since hdraining).1 (by simp [hdraining])

/-- Two documents, of which one breaks down, are both counted. -/
theorem twoDocuments_accounting :
    let setup := twoDocuments (.bounded (some 100) none)
    ∃ s, (State.initial setup (Sink.create setup.writer)).steps setup twoDocumentsChoices = some s ∧
      s.ending? = some (.finished twoDocumentsSummary) ∧
      ∃ started rows, setup.jobs = started ++ s.waiting ∧
        IsInterleaving rows (started.map Job.rows) ∧
        s.sink.delivered = Csv.encode (Csv.header :: rows.map Csv.fieldsOf) ∧
        twoDocumentsSummary.IsExact setup.jobs started rows ∧
        s.progress.count .step = started.length ∧ s.progress.count .finish = 1 ∧
        (twoDocumentsSummary.completed = twoDocumentsSummary.total ↔
          ¬ DispatchStopped setup (Sink.create setup.writer) twoDocumentsChoices) := by
  intro setup
  obtain ⟨s, hrun, hend⟩ := exists_run_twoDocuments
  exact ⟨s, hrun, hend, accounting_of_finished setup twoDocumentsChoices s _ hrun hend⟩

end DocSentences.Run
