import DocSentences.Proofs.Run.Ledger

/-!
# What reaches the writer

As long as the sink has taken every row that it was given, it holds these rows and nothing else. A
row that it did not take leaves a trace: the document fails in a way that the run heeds, or the sink
stays broken and cannot be closed. So a run that ends well has delivered everything.
-/

namespace DocSentences.Run

variable {setup : Setup} {sink : Sink} {choices : List Choice}

/-- The sink holds the rows of the account unless one was not taken, and what went wrong with a
document that was gathered is known. -/
structure Faithful (a : Account) : Prop where
  holds : a.state.hasEnded = false → (∀ e ∈ a.entries, e.trouble = none) →
    a.state.sink.Holds (Csv.header :: a.rows.map Csv.fieldsOf)
  broken : ∀ e ∈ a.entries, e.trouble = some .brokeDown → a.state.sink.status = .broken
  heeded : a.state.fatal = none → ∀ e ∈ a.entries, e.gathered = true → e.stage = .finished none

namespace Work

variable {e e' : Entry} {a b : Account}

/-- Trouble with the sink does not go away. -/
theorem trouble_of_none (hwork : Work setup e a e' b) (h : e'.trouble = none) :
    e.trouble = none := by
  cases hwork
  case refused => cases h
  case broke => cases h
  all_goals exact h

/-- While a document has no trouble, the sink holds the rows that it took. -/
theorem holds (hwork : Work setup e a e' b) (htrouble : e'.trouble = none)
    (h : a.state.sink.Holds (Csv.header :: a.rows.map Csv.fieldsOf)) :
    b.state.sink.Holds (Csv.header :: b.rows.map Csv.fieldsOf) := by
  cases hwork
  case appended r row left sink hstage hrow hsink =>
    rw [List.map_append, List.map_singleton, ← List.cons_append]
    exact h.append_done hsink
  case refused => cases htrouble
  case broke => cases htrouble
  all_goals exact h

theorem status_of_broken (hwork : Work setup e a e' b) (h : a.state.sink.status = .broken) :
    b.state.sink.status = .broken := by
  cases hwork
  case appended | refused =>
    next hsink =>
      rw [Sink.append_of_broken h] at hsink
      cases hsink <;> exact h
  case broke => exact Sink.append_brokeDown ‹_›
  all_goals exact h

/-- A document on which the sink has broken down leaves the sink broken. -/
theorem status_of_trouble (hwork : Work setup e a e' b)
    (hold : e.trouble = some .brokeDown → a.state.sink.status = .broken)
    (h : e'.trouble = some .brokeDown) : b.state.sink.status = .broken := by
  cases hwork
  case broke => exact Sink.append_brokeDown ‹_›
  case refused => cases h
  case appended hsink =>
    rw [Sink.append_of_broken (hold h)] at hsink
    cases hsink
  all_goals exact hold h

end Work

/-- A failure that the run heeds is not forgotten. -/
theorem State.fatal_heed_eq_none {s : State} {fatal : Option Failure}
    (h : (s.heed fatal).fatal = none) : fatal = none ∧ s.fatal = none := by
  cases fatal with
  | none => exact ⟨rfl, h⟩
  | some failure =>
      unfold State.heed at h
      dsimp only at h
      split at h
      · cases h
      · simp [State.say] at h

namespace Faithful

variable {a b : Account}

/-- A run begins with a sink that holds the header. -/
theorem initial (setup : Setup) :
    Faithful { state := State.initial setup (Sink.create setup.writer) } where
  holds _ _ := Sink.create_holds setup.writer
  broken := by simp
  heeded := by simp

/-- The documents, the rows and the sink are as they were. -/
theorem of_same (h : Faithful a) (hopen : a.state.hasEnded = false)
    (hentries : b.entries = a.entries) (hrows : b.rows = a.rows)
    (hsink : b.state.sink = a.state.sink) (hfatal : b.state.fatal = a.state.fatal) :
    Faithful b where
  holds _ htrouble := by
    rw [hsink, hrows]
    exact h.holds hopen (hentries ▸ htrouble)
  broken := by rw [hentries, hsink]; exact h.broken
  heeded := by rw [hentries, hfatal]; exact h.heeded

/-- The run has ended, and a broken sink has stayed so. -/
theorem of_ended (h : Faithful a) (hended : b.state.hasEnded = true)
    (hentries : b.entries = a.entries) (hfatal : b.state.fatal = a.state.fatal)
    (hbroken : a.state.sink.status = .broken → b.state.sink.status = .broken) :
    Faithful b where
  holds hopen := by simp [hended] at hopen
  broken := by
    rw [hentries]
    exact fun e he htrouble => hbroken (h.broken e he htrouble)
  heeded := by rw [hentries, hfatal]; exact h.heeded

theorem worked (h : Faithful a) {before after : List Entry} {e e' : Entry}
    (hopen : a.state.hasEnded = false) (hentries : a.entries = before ++ e :: after)
    (hgathered : e.gathered = false) (hwork : Work setup e a e' b) :
    Faithful (b.withEntries (before ++ e' :: after)) where
  holds _ htrouble := by
    have hown : e'.trouble = none := htrouble e' (by simp [Account.withEntries])
    refine hwork.holds hown (h.holds hopen ?_)
    intro other hother
    rw [hentries] at hother
    rcases mem_of_mem_replace hother with rfl | hmem
    · exact hwork.trouble_of_none hown
    · exact htrouble other hmem
  broken := by
    intro other hother htrouble
    rcases mem_of_mem_replace hother with rfl | hmem
    · exact hwork.status_of_trouble (h.broken e (by simp [hentries])) htrouble
    · exact hwork.status_of_broken (h.broken other (hentries ▸ hmem) htrouble)
  heeded := by
    intro hfatal other hother hmarked
    have hbefore : a.state.fatal = none := hwork.fatal_eq.symm.trans hfatal
    -- a document that goes on has not been gathered
    rcases mem_of_mem_replace hother with rfl | hmem
    · rw [hwork.gathered_eq, hgathered] at hmarked
      cases hmarked
    · exact h.heeded hbefore other (hentries ▸ hmem) hmarked

theorem started (h : Faithful a) (hopen : a.state.hasEnded = false) (job : Job)
    (rest : List Job) : Faithful (a.start job rest) where
  holds _ htrouble := h.holds hopen fun e he => htrouble e (List.mem_append_left _ he)
  broken := by
    intro e he htrouble
    rcases List.mem_append.mp he with hmem | hnew
    · exact h.broken e hmem htrouble
    · rw [List.mem_singleton.mp hnew] at htrouble
      cases htrouble
  heeded := by
    intro hfatal e he hmarked
    rcases List.mem_append.mp he with hmem | hnew
    · exact h.heeded hfatal e hmem hmarked
    · rw [List.mem_singleton.mp hnew] at hmarked
      cases hmarked

theorem marked (h : Faithful a) {before after : List Entry} {e : Entry}
    {fatal : Option Failure} (hopen : a.state.hasEnded = false)
    (hentries : a.entries = before ++ e :: after) (hstage : e.stage = .finished fatal) :
    Faithful ({ a with state := a.state.heed fatal }.withEntries
      (before ++ { e with gathered := true } :: after)) := by
  constructor
  case holds =>
    intro _ htrouble
    simp only [Account.withEntries, State.sink_heed]
    refine h.holds hopen ?_
    intro other hother
    rw [hentries] at hother
    rcases mem_of_mem_replace hother with rfl | hmem
    · exact htrouble { other with gathered := true } (by simp [Account.withEntries])
    · exact htrouble other hmem
  case broken =>
    intro other hother htrouble
    simp only [Account.withEntries, State.sink_heed]
    rcases mem_of_mem_replace hother with rfl | hmem
    · exact h.broken e (by simp [hentries]) htrouble
    · exact h.broken other (hentries ▸ hmem) htrouble
  case heeded =>
    intro hfatal other hother hmarked
    obtain ⟨rfl, hbefore⟩ := State.fatal_heed_eq_none hfatal
    rcases mem_of_mem_replace hother with rfl | hmem
    · exact hstage
    · exact h.heeded hbefore other (hentries ▸ hmem) hmarked

end Faithful

/-- Concluding a run does not mend a broken sink. -/
theorem State.conclude_of_broken {s : State} (hbroken : s.sink.status = .broken) :
    (s.conclude setup).sink.status = .broken := by
  rw [sink_conclude, Sink.close_of_broken hbroken]
  exact hbroken

/-- Every move keeps an account faithful. -/
theorem Move.faithful {choice : Choice} {a b : Account} (hmove : Move setup choice a b)
    (h : Faithful a) : Faithful b := by
  cases hmove with
  | worked _ hopen hentries hgathered hwork => exact h.worked hopen hentries hgathered hwork
  | dispatched _ hphase =>
      exact h.of_same (State.hasEnded_eq_false hphase (by simp)) rfl rfl rfl rfl
  | stopped _ hphase =>
      exact h.of_same (State.hasEnded_eq_false hphase (by simp)) rfl rfl rfl rfl
  | started _ hphase => exact h.started (State.hasEnded_eq_false hphase (by simp)) _ _
  | gathered _ hopen _ hentries _ hstage => exact h.marked hopen hentries hstage
  | concluded =>
      exact h.of_ended (State.hasEnded_conclude setup _) rfl (State.fatal_conclude setup _)
        State.conclude_of_broken
  | abandoned => exact h.of_ended rfl rfl rfl id
  | requested hopen => exact h.of_same hopen rfl rfl rfl rfl
  | passed _ hopen => exact h.of_same hopen rfl rfl rfl rfl

/-- Every account of a run into a new sink is faithful. -/
theorem Reached.faithful {a : Account}
    (h : Reached setup (Sink.create setup.writer) choices a) : Faithful a := by
  induction h with
  | initial => exact .initial setup
  | move _ _ hmove ih => exact hmove.faithful ih

/-! ## Runs that end well -/

/-- Only the controller ends a run, and it ends well only by closing the sink. -/
theorem Move.concluded_of_finished {choice : Choice} {a b : Account} {summary : Summary}
    (hmove : Move setup choice a b) (hend : b.state.phase = .ended (.finished summary)) :
    (∃ pick, choice = .controller pick) ∧
      (a.state.phase = .joining ∨ ∃ since, a.state.phase = .draining since) ∧
      a.state.tasks = [] ∧ b = { a with state := a.state.conclude setup } ∧
      a.state.conclusion setup = .finished summary := by
  obtain ⟨hpick, ⟨hphase, htasks, rfl⟩ | ⟨-, rfl⟩⟩ :=
    hmove.cases_of_ended (b.state.hasEnded_iff.mpr ⟨_, hend⟩)
  · have hconclusion := a.state.phase_conclude setup
    exact ⟨hpick, hphase, htasks, rfl, Phase.ended.inj (hconclusion.symm.trans hend)⟩
  · cases hend

/-- A run ends well only if its sink was closed and it has met no failure. -/
theorem State.of_conclusion_finished {s : State} {summary : Summary}
    (h : s.conclusion setup = .finished summary) :
    (s.sink.close setup.writer).2 = .done ∧ s.fatal = none ∧
      summary = s.tally.summary setup.skipped (s.clock / millisecond) := by
  unfold conclusion at h
  split at h
  · cases h
  · cases h
  · cases h
  · next hclose hfatal =>
    cases h
    exact ⟨hclose, hfatal, rfl⟩

theorem gathered_of_live_eq_nil {entries : List Entry} (h : live entries = []) :
    ∀ e ∈ entries, e.gathered = true := by
  simpa [live] using h

/-- A document of a run that ended well. -/
structure Entry.Settled (e : Entry) : Prop where
  stage : e.stage = .finished none
  trouble : e.trouble = none
  written : e.written = e.job.rows
  failedPaths : e.failedPaths = if e.job.fails then [e.job.document.path] else []

theorem Entry.settled_of_sound {e : Entry} (hsound : e.Sound)
    (hstage : e.stage = .finished none) (hwhole : e.trouble ≠ some .brokeDown) : e.Settled := by
  obtain ⟨outcome, houtcome, hfatal, hended⟩ := hsound.at hstage
  cases outcome with
  | done =>
      obtain ⟨hfails, hwritten, htrouble⟩ := hended
      exact ⟨hstage, htrouble, hwritten, by simp [Entry.failedPaths, houtcome, hfails]⟩
  | failed failure =>
      obtain ⟨hjob, hwritten, htrouble⟩ := hended
      have hfails : e.job.fails = true := by simp [Job.fails, hjob]
      exact ⟨hstage, htrouble, by rw [hwritten, Job.rows_of_fails hfails],
        by simp [Entry.failedPaths, Entry.isCounted, hstage, houtcome, hfails]⟩
  | broke reason =>
      rcases hended with ⟨hjob, hwritten, htrouble⟩ | htrouble
      · have hfails : e.job.fails = true := by simp [Job.fails, hjob]
        exact ⟨hstage, htrouble, by rw [hwritten, Job.rows_of_fails hfails],
          by simp [Entry.failedPaths, Entry.isCounted, hstage, houtcome, hfails]⟩
      · exact absurd htrouble hwhole
  | fatal failure => cases hfatal

/-- The account of a run that ended well, at the moment when its sink is closed. -/
theorem Reached.exists_of_finished {a : Account} {summary : Summary}
    (h : Reached setup (Sink.create setup.writer) choices a)
    (hend : a.state.phase = .ended (.finished summary)) :
    ∃ before pick b, choices = before ++ [.controller pick] ∧
      Reached setup (Sink.create setup.writer) before b ∧
      (b.state.phase = .joining ∨ ∃ since, b.state.phase = .draining since) ∧
      a = { b with state := b.state.conclude setup } ∧ b.state.fatal = none ∧
      summary = b.state.tally.summary setup.skipped (b.state.clock / millisecond) ∧
      (b.state.sink.close setup.writer).2 = .done ∧ ∀ e ∈ b.entries, e.Settled := by
  cases h with
  | initial => cases hend
  | @move before choice b _ hreached _ hmove =>
      obtain ⟨⟨pick, rfl⟩, hphase, htasks, rfl, hconclusion⟩ := hmove.concluded_of_finished hend
      obtain ⟨hclose, hfatal, hsummary⟩ := State.of_conclusion_finished hconclusion
      refine ⟨before, pick, b, rfl, hreached, hphase, rfl, hfatal, hsummary, hclose, ?_⟩
      intro e he
      have hgathered := gathered_of_live_eq_nil (hreached.tasks_eq_live.symm.trans htasks) e he
      refine Entry.settled_of_sound (hreached.ledger.sound e he)
        (hreached.faithful.heeded hfatal e he hgathered) ?_
      -- a broken sink cannot be closed
      intro htrouble
      have hbroken := hreached.faithful.broken e he htrouble
      rw [Sink.close_of_broken hbroken] at hclose
      simp at hclose

theorem Entry.Settled.pendingKeys {e : Entry} (h : e.Settled) : e.pendingKeys = [] := by
  simp [Entry.pendingKeys, h.stage]

theorem State.hasEnded_eq_false_of_or {s : State}
    (hphase : s.phase = .joining ∨ ∃ since, s.phase = .draining since) : s.hasEnded = false := by
  rcases hphase with hjoining | ⟨since, hdraining⟩
  · exact State.hasEnded_eq_false hjoining (by simp)
  · exact State.hasEnded_eq_false hdraining (by simp)

/-- What a run that ended well has delivered and counted as written. -/
theorem Reached.rows_of_finished {a : Account} {summary : Summary}
    (h : Reached setup (Sink.create setup.writer) choices a)
    (hend : a.state.phase = .ended (.finished summary)) :
    IsInterleaving a.rows ((a.entries.map Entry.job).map Job.rows) ∧
      a.state.sink.status = .closed ∧
      a.state.sink.delivered = Csv.encode (Csv.header :: a.rows.map Csv.fieldsOf) ∧
      a.rows.length = summary.recordsWritten := by
  obtain ⟨before, pick, b, -, hreached, hphase, rfl, -, rfl, hclose, hsettled⟩ :=
    h.exists_of_finished hend
  have hledger := hreached.ledger
  have hwritten : b.entries.map Entry.written = (b.entries.map Entry.job).map Job.rows := by
    rw [List.map_map]
    exact List.map_congr_left fun e he => (hsettled e he).written
  have hpending : b.entries.flatMap Entry.pendingKeys = [] :=
    List.flatMap_eq_nil_iff.mpr fun e he => (hsettled e he).pendingKeys
  have hholds := hreached.faithful.holds (State.hasEnded_eq_false_of_or hphase)
    fun e he => (hsettled e he).trouble
  obtain ⟨hclosed, hdelivered⟩ := hholds.close_done (Prod.ext rfl hclose)
  refine ⟨hwritten ▸ hledger.rows, ?_, ?_, ?_⟩
  · rw [State.sink_conclude, hclosed]
  · rw [State.sink_conclude, hdelivered]
  · have hrecords := hledger.recordsWritten
    rw [hpending] at hrecords
    exact hrecords.symm

theorem State.phase_of_ending? {s : State} {ending : Ending} (h : s.ending? = some ending) :
    s.phase = .ended ending := by
  unfold ending? at h
  split at h
  · next hphase => rw [hphase, Option.some.inj h]
  · cases h

/-- A run that ends well has delivered every row of every document that was started, whatever the
writer did, and nothing else. -/
theorem delivered_of_finished (setup : Setup) (choices : List Choice) (s : State)
    (summary : Summary)
    (hrun : (State.initial setup (Sink.create setup.writer)).steps setup choices = some s)
    (hend : s.ending? = some (.finished summary)) :
    ∃ started rows, setup.jobs = started ++ s.waiting ∧
      IsInterleaving rows (started.map Job.rows) ∧
      s.sink.delivered = Csv.encode (Csv.header :: rows.map Csv.fieldsOf) ∧
      rows.length = summary.recordsWritten := by
  obtain ⟨a, rfl, hreached⟩ := exists_reached hrun
  obtain ⟨hrows, -, hdelivered, hcount⟩ := hreached.rows_of_finished (State.phase_of_ending? hend)
  exact ⟨_, a.rows, hreached.ledger.corpus.symm, hrows, hdelivered, hcount⟩

/-- A run of two documents, the second of which cannot be extracted. -/
def twoDocuments (writer : Writer) : Setup where
  settings := { workerCount := 2 }
  jobs := [⟨⟨.ofString "A.java", .structured, "A"⟩, .records [⟨"A", "A sentence."⟩]⟩,
    ⟨⟨.ofString "B.java", .structured, "B"⟩, .broke "index out of bounds"⟩]
  skipped := 0
  writer := writer

/-- Choices that lead the run of two documents to its end; the second document ends first. -/
def twoDocumentsChoices : List Choice :=
  [.controller 0, .controller 0, .controller 0, .worker 0, .worker 1, .worker 1, .worker 1,
    .worker 1, .worker 1, .controller 0, .worker 0, .worker 0, .worker 0, .worker 0, .worker 0,
    .worker 0, .worker 0, .controller 0, .controller 0]

/-- The summary of the run of two documents. -/
def twoDocumentsSummary : Summary where
  total := 2
  completed := 2
  failed := 1
  recordsWritten := 1
  distinctKeys := 1
  failedPaths := [.ofString "B.java"]

theorem exists_run_twoDocuments :
    let setup := twoDocuments (.bounded (some 100) none)
    ∃ s, (State.initial setup (Sink.create setup.writer)).steps setup twoDocumentsChoices = some s ∧
      s.ending? = some (.finished twoDocumentsSummary) := by
  intro setup
  have hends : ((State.initial setup (Sink.create setup.writer)).steps setup
      twoDocumentsChoices).bind State.ending? = some (.finished twoDocumentsSummary) := by
    decide +kernel
  exact Option.bind_eq_some_iff.mp hends

theorem twoDocuments_delivered :
    let setup := twoDocuments (.bounded (some 100) none)
    ∃ s, (State.initial setup (Sink.create setup.writer)).steps setup twoDocumentsChoices = some s ∧
      s.ending? = some (.finished twoDocumentsSummary) ∧
      ∃ started rows, setup.jobs = started ++ s.waiting ∧
        IsInterleaving rows (started.map Job.rows) ∧
        s.sink.delivered = Csv.encode (Csv.header :: rows.map Csv.fieldsOf) ∧ rows.length = 1 := by
  intro setup
  obtain ⟨s, hrun, hend⟩ := exists_run_twoDocuments
  exact ⟨s, hrun, hend, delivered_of_finished setup twoDocumentsChoices s _ hrun hend⟩

end DocSentences.Run
