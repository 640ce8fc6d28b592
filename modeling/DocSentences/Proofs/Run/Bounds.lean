import DocSentences.Proofs.Run.Occurrence
import DocSentences.Proofs.Run.Rows

/-!
# What bounds the counts of a run

The counts of a run lag behind what has happened, but by no more than one for each document in
flight, and there are never more documents in flight than workers. This holds whenever one looks,
whatever becomes of the documents.
-/

namespace DocSentences.Run

variable {setup : Setup} {sink : Sink} {choices : List Choice}

theorem length_flatMap_le_countP {α β : Type} {f : α → List β} {p : α → Bool} {l : List α}
    (h : ∀ x ∈ l, (f x).length ≤ (p x).toNat) : (l.flatMap f).length ≤ l.countP p := by
  induction l with
  | nil => exact Nat.le_refl 0
  | cons x rest ih =>
      have hfirst := h x List.mem_cons_self
      have hrest := ih fun y hy => h y (List.mem_cons_of_mem x hy)
      rw [List.flatMap_cons, List.length_append, List.countP_cons]
      cases hx : p x <;> simp only [hx, Bool.toNat_true, Bool.toNat_false, if_true, if_false,
        Bool.false_eq_true] at hfirst ⊢ <;> omega

/-! ## Single documents -/

namespace Entry

/-- A document that is not counted yet is in flight. -/
theorem isInFlight_of_not_isCounted {e : Entry} (h : e.isCounted = false) :
    e.task.isInFlight = true := by
  unfold isCounted at h
  unfold task Task.isInFlight
  split at h <;> simp_all

/-- A document has one row that is not counted yet at most, and only while it is in flight. -/
theorem length_pendingKeys_le (e : Entry) : e.pendingKeys.length ≤ e.task.isInFlight.toNat := by
  unfold pendingKeys
  split
  · next hstage => simp [task, Task.isInFlight, hstage]
  · exact Nat.zero_le _

/-- A document has one failed path at most, and only once it is counted. -/
theorem length_failedPaths_le (e : Entry) : e.failedPaths.length ≤ e.isCounted.toNat := by
  unfold failedPaths
  split
  · next hfailed => simp [hfailed.1]
  · exact Nat.zero_le _

end Entry

/-! ## Documents in flight -/

/-- The documents in flight are found among those that were started. -/
theorem Ledger.inFlight_eq {a : Account} (h : Ledger setup a)
    (htasks : a.state.tasks = live a.entries) :
    a.state.inFlight = a.entries.countP (·.task.isInFlight) := by
  rw [State.inFlight, htasks, live, List.countP_map, List.countP_filter]
  refine List.countP_congr fun e he => ?_
  cases hgathered : e.gathered with
  | false => simp
  | true =>
      obtain ⟨fatal, hstage⟩ := h.finished e he hgathered
      simp [Entry.task, Task.isInFlight, hstage]

/-- A document is started only if there is room for it. -/
theorem Reached.inFlight_le {a : Account} (h : Reached setup sink choices a) :
    a.state.inFlight ≤ setup.settings.workerCount := by
  induction h with
  | initial => exact Nat.zero_le _
  | @move choices choice a b hreached _ hmove ih =>
      have htasks := hreached.tasks_eq_live
      cases hmove with
      | @worked a b before after e e' index _ hentries hgathered hwork =>
          -- a document that goes on does not come back into flight
          have hflight : e'.task.isInFlight.toNat ≤ e.task.isInFlight.toNat := by
            cases hbefore : e.task.isInFlight with
            | true => exact Bool.toNat_le _
            | false => rw [(hwork.isInFlight hbefore).1]
          have hgathered' : e'.gathered = false := hwork.gathered_eq.trans hgathered
          rw [State.inFlight, htasks, hentries, live_append, live_cons hgathered, countP_split] at ih
          simp only [State.inFlight, Account.withEntries, live_append, live_cons hgathered',
            countP_split]
          omega
      | started _ _ _ _ _ hroom =>
          simp only [State.inFlight, Account.start, List.countP_append, List.countP_singleton,
            Task.isInFlight, if_true] at hroom ⊢
          exact hroom
      | @gathered _ before after e fatal _ _ _ hentries hgathered hstage =>
          have hmarked : ({ e with gathered := true } : Entry).gathered = true := rfl
          rw [State.inFlight, htasks, hentries, live_append, live_cons hgathered, countP_split] at ih
          simp only [State.inFlight, Account.withEntries, live_append, live_cons_of_gathered hmarked,
            List.countP_append]
          omega
      | concluded => rwa [State.inFlight, State.tasks_conclude]
      | dispatched | stopped | abandoned | requested | passed => exact ih

/-! ## The counts -/

/-- Whenever one looks at a run, whatever becomes of its documents, no more of them are in flight
than there are workers, and the counts are what they should be up to the documents in flight. -/
theorem bounds_of_run (setup : Setup) (sink : Sink) (choices : List Choice) (s : State)
    (hrun : (State.initial setup sink).steps setup choices = some s) :
    ∃ started, setup.jobs = started ++ s.waiting ∧
      s.inFlight ≤ setup.settings.workerCount ∧
      s.tally.failed ≤ s.tally.completed ∧ s.tally.completed ≤ started.length ∧
      started.length ≤ s.tally.total ∧ s.tally.total = setup.jobs.length ∧
      s.tally.failed = s.tally.failedPaths.length ∧
      started.length ≤ s.tally.completed + s.inFlight ∧
      s.tally.recordsWritten ≤ ((State.initial setup sink).rowsTaken setup choices).length ∧
      ((State.initial setup sink).rowsTaken setup choices).length ≤
        s.tally.recordsWritten + s.inFlight := by
  obtain ⟨a, rfl, hreached⟩ := exists_reached hrun
  have hledger := hreached.ledger
  have hflight := hledger.inFlight_eq hreached.tasks_eq_live
  have hcorpus : (a.entries.map Entry.job).length + a.state.waiting.length = setup.jobs.length := by
    rw [← List.length_append, hledger.corpus]
  have hcounted : a.entries.length ≤
      a.entries.countP Entry.isCounted + a.entries.countP (·.task.isInFlight) := by
    rw [List.length_eq_countP_add_countP Entry.isCounted]
    refine Nat.add_le_add_left (List.countP_mono_left fun e _ hnot => ?_) _
    exact Entry.isInFlight_of_not_isCounted (by simpa using hnot)
  have hfailed : a.state.tally.failed ≤ a.entries.countP Entry.isCounted := by
    rw [hledger.failed, hledger.failedPaths.length_eq]
    exact length_flatMap_le_countP fun e _ => e.length_failedPaths_le
  have hpending : (a.entries.flatMap Entry.pendingKeys).length ≤
      a.entries.countP (·.task.isInFlight) :=
    length_flatMap_le_countP fun e _ => e.length_pendingKeys_le
  have hcompleted := hledger.completed
  have hall : a.entries.countP Entry.isCounted ≤ a.entries.length := List.countP_le_length
  have hrecords := hledger.recordsWritten
  rw [List.length_map] at hcorpus
  refine ⟨_, hledger.corpus.symm, hreached.inFlight_le, ?_⟩
  rw [List.length_map, ← hreached.rows_eq, hledger.total, hflight]
  exact ⟨by omega, by omega, by omega, rfl, hledger.failed, by omega, by omega, by omega⟩

/-- The run of two documents once a row has been written and not been counted. -/
theorem twoDocuments_bounds :
    let setup := twoDocuments (.bounded (some 100) none)
    let first := State.initial setup (Sink.create setup.writer)
    let choices := twoDocumentsChoices.take 11
    ∃ s, first.steps setup choices = some s ∧
      ∃ started, setup.jobs = started ++ s.waiting ∧
        s.inFlight ≤ setup.settings.workerCount ∧
        s.tally.failed ≤ s.tally.completed ∧ s.tally.completed ≤ started.length ∧
        started.length ≤ s.tally.total ∧ s.tally.total = setup.jobs.length ∧
        s.tally.failed = s.tally.failedPaths.length ∧
        started.length ≤ s.tally.completed + s.inFlight ∧
        s.tally.recordsWritten ≤ (first.rowsTaken setup choices).length ∧
        (first.rowsTaken setup choices).length ≤ s.tally.recordsWritten + s.inFlight := by
  intro setup first choices
  have hsteps : (first.steps setup choices).isSome = true := by
    decide +kernel
  obtain ⟨s, hrun⟩ := Option.isSome_iff_exists.mp hsteps
  exact ⟨s, hrun, bounds_of_run setup _ choices s hrun⟩

end DocSentences.Run
