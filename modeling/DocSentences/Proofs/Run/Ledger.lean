import DocSentences.Proofs.Record.Sink
import DocSentences.Proofs.Run.Interleaving
import DocSentences.Proofs.Run.Moves

/-!
# What an account adds up to

Each document that was started is where its entry says it is, the rows that the sink took are an
interleaving of the rows of the documents, and the tally counts what the entries show. All of this
holds from the first choice on, because every move keeps it.
-/

namespace DocSentences.Run

variable {setup : Setup} {sink : Sink} {choices : List Choice}

/-! ## Single documents -/

/-- Whether a document that ended in a certain way can be at a stage. -/
def Stage.Follows (outcome : Outcome) : Stage → Prop
  | .ended own => own = outcome
  | .counted fatal | .reported fatal | .released fatal | .finished fatal => outcome.fatal? = fatal
  | .extracting | .writing _ | .counting .. => False

namespace Entry

/-- What is known of a document that has ended. -/
def EndedWith (e : Entry) : Outcome → Prop
  | .done => e.job.fails = false ∧ e.written = e.job.rows ∧ e.trouble = none
  | .failed failure =>
      e.job.extracted = .failed failure ∧ e.written = [] ∧ e.trouble = none
  | .broke reason =>
      e.job.extracted = .broke reason ∧ e.written = [] ∧ e.trouble = none ∨
        e.trouble = some .brokeDown
  | .fatal failure =>
      (∃ cause, e.job.extracted = .failed cause ∧ cause.isFatal = true ∧
        failure = .contractViolation cause) ∨
      ∃ fault, failure = .sink fault ∧ e.trouble = some (.failed fault)

/-- What is known of a document at a stage. -/
def SoundAt (e : Entry) : Stage → Prop
  | .extracting => e.written = [] ∧ e.trouble = none
  | .writing left | .counting _ left =>
      ∃ past, e.job.extracted = .records (past ++ left) ∧ e.written = past.filterMap rowOf? ∧
        e.trouble = none
  | stage => ∃ outcome, e.outcome = some outcome ∧ stage.Follows outcome ∧ e.EndedWith outcome

/-- The document is where its entry says it is. -/
def Sound (e : Entry) : Prop := e.SoundAt e.stage

theorem Sound.at {e : Entry} {stage : Stage} (h : e.Sound) (hstage : e.stage = stage) :
    e.SoundAt stage :=
  hstage ▸ h

/-- The key of a row that was written and is still to be counted. -/
def pendingKeys (e : Entry) : List String :=
  match e.stage with
  | .counting key _ => [key]
  | _ => []

/-- Whether a document has been counted. -/
def isCounted (e : Entry) : Bool :=
  match e.stage with
  | .counted _ | .reported _ | .released _ | .finished _ => true
  | _ => false

/-- Whether the end of a document has been told. -/
def isReported (e : Entry) : Bool :=
  match e.stage with
  | .reported _ | .released _ | .finished _ => true
  | _ => false

/-- The path of a document that was counted as failed. -/
def failedPaths (e : Entry) : List Path :=
  if e.isCounted ∧ e.outcome ≠ some .done then [e.job.document.path] else []

end Entry

theorem Job.rows_of_records {job : Job} {records : List Record}
    (h : job.extracted = .records records) : job.rows = records.filterMap rowOf? := by
  simp only [Job.rows, h]

/-- A document that fails has no rows. -/
theorem Job.rows_of_fails {job : Job} (h : job.fails = true) : job.rows = [] := by
  unfold Job.fails at h
  unfold Job.rows
  split at h
  · cases h
  · rfl
  · rfl

/-- A document goes on to a stage that is known as well. -/
theorem Work.sound {e e' : Entry} {a b : Account} (hwork : Work setup e a e' b)
    (hsound : e.Sound) : e'.Sound := by
  cases hwork with
  | extracted hstage =>
      obtain ⟨hwritten, htrouble⟩ := hsound.at hstage
      -- the stage after extraction depends on what was extracted
      cases hjob : e.job.extracted with
      | records records =>
          have hnext : e.job.stageAfterExtraction = .writing records := by
            simp only [Job.stageAfterExtraction, hjob]
          rw [hnext]
          exact ⟨[], by simpa using hjob, by simpa using hwritten, htrouble⟩
      | failed failure =>
          cases hfatal : failure.isFatal with
          | true =>
              have hnext : e.job.stageAfterExtraction =
                  .ended (.fatal (.contractViolation failure)) := by
                simp [Job.stageAfterExtraction, hjob, hfatal]
              rw [hnext]
              exact ⟨_, rfl, rfl, .inl ⟨failure, hjob, hfatal, rfl⟩⟩
          | false =>
              have hnext : e.job.stageAfterExtraction = .ended (.failed failure) := by
                simp [Job.stageAfterExtraction, hjob, hfatal]
              rw [hnext]
              exact ⟨_, rfl, rfl, hjob, hwritten, htrouble⟩
      | broke reason =>
          have hnext : e.job.stageAfterExtraction = .ended (.broke reason) := by
            simp only [Job.stageAfterExtraction, hjob]
          rw [hnext]
          exact ⟨_, rfl, rfl, .inl ⟨hjob, hwritten, htrouble⟩⟩
  | wroteAll hstage =>
      obtain ⟨past, hjob, hwritten, htrouble⟩ := hsound.at hstage
      rw [List.append_nil] at hjob
      refine ⟨.done, rfl, rfl, ?_, ?_, htrouble⟩
      · simp [Job.fails, hjob]
      · rw [Entry.advance_written, Entry.advance_job, hwritten, Job.rows_of_records hjob]
  | @dropped r left hstage hrow =>
      obtain ⟨past, hjob, hwritten, htrouble⟩ := hsound.at hstage
      exact ⟨past ++ [r], by simpa using hjob, by simpa [hrow] using hwritten, htrouble⟩
  | @appended r row left sink hstage hrow _ =>
      obtain ⟨past, hjob, hwritten, htrouble⟩ := hsound.at hstage
      refine ⟨past ++ [r], by simpa using hjob, ?_, htrouble⟩
      simp [List.filterMap_append, hrow, hwritten]
  | refused => exact ⟨_, rfl, rfl, .inr ⟨_, rfl, rfl⟩⟩
  | broke => exact ⟨_, rfl, rfl, .inr rfl⟩
  | rowCounted hstage => exact hsound.at hstage
  | counted hstage =>
      obtain ⟨outcome, houtcome, rfl, hended⟩ := hsound.at hstage
      exact ⟨_, houtcome, rfl, hended⟩
  | reported hstage => exact hsound.at hstage
  | released hstage => exact hsound.at hstage
  | finished hstage => exact hsound.at hstage

/-! ## What one document adds -/

/-- Extraction leaves records to be written, or ends the document. -/
theorem Job.stageAfterExtraction_cases (job : Job) :
    (∃ records, job.stageAfterExtraction = .writing records) ∨
      ∃ outcome, job.stageAfterExtraction = .ended outcome := by
  unfold Job.stageAfterExtraction
  split
  · exact .inl ⟨_, rfl⟩
  · exact .inr ⟨_, rfl⟩
  · exact .inr ⟨_, rfl⟩

namespace Work

variable {e e' : Entry} {a b : Account}

theorem total_eq (hwork : Work setup e a e' b) : b.state.tally.total = a.state.tally.total := by
  cases hwork
  case counted outcome hstage => cases outcome <;> rfl
  all_goals rfl

/-- Work counts a document in the tally exactly when it counts it in its entry. -/
theorem completed_add (hwork : Work setup e a e' b) :
    b.state.tally.completed + e.isCounted.toNat = a.state.tally.completed + e'.isCounted.toNat := by
  cases hwork
  case extracted hstage =>
    rcases e.job.stageAfterExtraction_cases with ⟨records, hnext⟩ | ⟨outcome, hnext⟩ <;>
      simp [Entry.isCounted, hstage, hnext]
  case counted outcome hstage =>
    cases outcome <;>
      simp [Entry.isCounted, hstage, Tally.recordOutcome, Tally.recordSuccess, Tally.recordFailure]
  all_goals simp [Entry.isCounted, Tally.recordWritten, *]

/-- Work steps the progress exactly when it reports a document. -/
theorem steps_add (hwork : Work setup e a e' b) :
    b.state.progress.count .step + e.isReported.toNat =
      a.state.progress.count .step + e'.isReported.toNat := by
  cases hwork
  case extracted hstage =>
    rcases e.job.stageAfterExtraction_cases with ⟨records, hnext⟩ | ⟨outcome, hnext⟩ <;>
      simp [Entry.isReported, hstage, hnext]
  all_goals simp [Entry.isReported, *]

/-- A document that is counted as failed is counted with its path. -/
theorem failedPaths_append (hwork : Work setup e a e' b) (hsound : e.Sound) :
    ∃ new, e'.failedPaths = e.failedPaths ++ new ∧
      b.state.tally.failedPaths = new ++ a.state.tally.failedPaths ∧
      b.state.tally.failed = a.state.tally.failed + new.length := by
  cases hwork
  case extracted hstage =>
    refine ⟨[], ?_, rfl, rfl⟩
    rcases e.job.stageAfterExtraction_cases with ⟨records, hnext⟩ | ⟨outcome, hnext⟩ <;>
      simp [Entry.failedPaths, Entry.isCounted, hstage, hnext]
  case counted outcome hstage =>
    obtain ⟨own, hown, rfl, _⟩ := hsound.at hstage
    cases outcome with
    | done => exact ⟨[], by simp [Entry.failedPaths, Entry.advance, hown], rfl, rfl⟩
    | failed | broke | fatal =>
        refine ⟨[e.job.document.path], ?_, rfl, rfl⟩
        simp [Entry.failedPaths, Entry.isCounted, Entry.advance, hstage, hown]
  all_goals exact ⟨[], by simp [Entry.failedPaths, Entry.isCounted, Entry.advance, *], rfl, rfl⟩

/-- A row is written by one document, and it is counted later. -/
theorem rows_append (hwork : Work setup e a e' b) :
    ∃ new : Option Record, b.rows = a.rows ++ new.toList ∧
      e'.written = e.written ++ new.toList ∧
      b.state.tally.recordsWritten + e'.pendingKeys.length =
        a.state.tally.recordsWritten + e.pendingKeys.length + new.toList.length ∧
      ∀ key, (key ∈ b.state.tally.keys ∨ key ∈ e'.pendingKeys) ↔
        (key ∈ a.state.tally.keys ∨ key ∈ e.pendingKeys) ∨ key ∈ new.toList.map Record.key := by
  cases hwork
  case extracted hstage =>
    refine ⟨none, by simp, by simp, ?_⟩
    rcases e.job.stageAfterExtraction_cases with ⟨records, hnext⟩ | ⟨outcome, hnext⟩ <;>
      simp [Entry.pendingKeys, hstage, hnext]
  case appended r row left sink hstage hrow hsink =>
    exact ⟨some row, rfl, rfl, by simp [Entry.pendingKeys, hstage]⟩
  case rowCounted key left hstage =>
    refine ⟨none, by simp, by simp, by simp [Entry.pendingKeys, hstage, Tally.recordWritten], ?_⟩
    intro other
    -- a key that is known already is not added once more
    by_cases hknown : key ∈ a.state.tally.keys <;>
      simp [Entry.pendingKeys, hstage, Tally.recordWritten, hknown, or_comm]
    exact fun hother => hother ▸ hknown
  case counted outcome hstage =>
    refine ⟨none, by simp, by simp, ?_⟩
    cases outcome <;> simp [Entry.pendingKeys, hstage, Tally.recordOutcome, Tally.recordSuccess,
      Tally.recordFailure]
  all_goals exact ⟨none, by simp, by simp, by simp [Entry.pendingKeys, *]⟩

/-- Work keeps the keys in the tally distinct. -/
theorem keys_nodup (hwork : Work setup e a e' b) (h : a.state.tally.keys.Nodup) :
    b.state.tally.keys.Nodup := by
  cases hwork
  case rowCounted key left hstage =>
    by_cases hknown : key ∈ a.state.tally.keys <;> simp [Tally.recordWritten, hknown, h]
  case counted outcome hstage => cases outcome <;> exact h
  all_goals exact h

end Work

/-! ## The whole run -/

/-- The account of a run adds up. -/
structure Ledger (setup : Setup) (a : Account) : Prop where
  /-- The documents are started in the order of the corpus. -/
  corpus : a.entries.map Entry.job ++ a.state.waiting = setup.jobs
  sound : ∀ e ∈ a.entries, e.Sound
  finished : ∀ e ∈ a.entries, e.gathered = true → ∃ fatal, e.stage = .finished fatal
  rows : IsInterleaving a.rows (a.entries.map Entry.written)
  total : a.state.tally.total = setup.jobs.length
  completed : a.state.tally.completed = a.entries.countP Entry.isCounted
  failed : a.state.tally.failed = a.state.tally.failedPaths.length
  failedPaths : a.state.tally.failedPaths.Perm (a.entries.flatMap Entry.failedPaths)
  recordsWritten : a.state.tally.recordsWritten + (a.entries.flatMap Entry.pendingKeys).length =
    a.rows.length
  keysNodup : a.state.tally.keys.Nodup
  keys : ∀ key, (key ∈ a.state.tally.keys ∨ key ∈ a.entries.flatMap Entry.pendingKeys) ↔
    key ∈ a.rows.map Record.key
  steps : a.state.progress.count .step = a.entries.countP Entry.isReported

theorem countP_split {α : Type} (p : α → Bool) (before after : List α) (x : α) :
    (before ++ x :: after).countP p = before.countP p + after.countP p + (p x).toNat := by
  cases hx : p x with
  | false => simp [List.countP_append, hx]
  | true =>
      simp only [List.countP_append, List.countP_cons_of_pos hx, Bool.toNat_true]
      omega

theorem mem_of_mem_replace {α : Type} {before after : List α} {x y z : α}
    (h : z ∈ before ++ y :: after) : z = y ∨ z ∈ before ++ x :: after := by
  grind

namespace Ledger

variable {a b : Account}

theorem initial (setup : Setup) (sink : Sink) :
    Ledger setup { state := State.initial setup sink } where
  corpus := rfl
  sound := by simp
  finished := by simp
  rows := .empty 0
  total := rfl
  completed := rfl
  failed := rfl
  failedPaths := .refl _
  recordsWritten := rfl
  keysNodup := List.nodup_nil
  keys := by simp [State.initial]
  steps := rfl

/-- Nothing that the ledger speaks of has changed. -/
theorem of_same (h : Ledger setup a) (hentries : b.entries = a.entries) (hrows : b.rows = a.rows)
    (hwaiting : b.state.waiting = a.state.waiting) (htally : b.state.tally = a.state.tally)
    (hsteps : b.state.progress.count .step = a.state.progress.count .step) :
    Ledger setup b where
  corpus := by rw [hentries, hwaiting]; exact h.corpus
  sound := by rw [hentries]; exact h.sound
  finished := by rw [hentries]; exact h.finished
  rows := by rw [hentries, hrows]; exact h.rows
  total := by rw [htally]; exact h.total
  completed := by rw [htally, hentries]; exact h.completed
  failed := by rw [htally]; exact h.failed
  failedPaths := by rw [htally, hentries]; exact h.failedPaths
  recordsWritten := by rw [htally, hentries, hrows]; exact h.recordsWritten
  keysNodup := by rw [htally]; exact h.keysNodup
  keys := by rw [htally, hentries, hrows]; exact h.keys
  steps := by rw [hsteps, hentries]; exact h.steps

/-- A document goes on. -/
theorem worked (h : Ledger setup a) {before after : List Entry} {e e' : Entry}
    (hentries : a.entries = before ++ e :: after) (hgathered : e.gathered = false)
    (hwork : Work setup e a e' b) : Ledger setup (b.withEntries (before ++ e' :: after)) := by
  have hsound : e.Sound := h.sound e (by simp [hentries])
  obtain ⟨paths, hpaths, htallied, hfailed⟩ := hwork.failedPaths_append hsound
  obtain ⟨new, hrows, hwritten, hrecords, hkeys⟩ := hwork.rows_append
  have hold : ∀ other ∈ before ++ e' :: after, other = e' ∨ other ∈ a.entries := by
    intro other hother
    rw [hentries]
    exact mem_of_mem_replace hother
  constructor
  case corpus =>
    have hcorpus := h.corpus
    rw [hentries] at hcorpus
    simpa [Account.withEntries, hwork.job_eq, hwork.waiting_eq] using hcorpus
  case sound =>
    intro other hother
    rcases hold other hother with rfl | hmem
    · exact hwork.sound hsound
    · exact h.sound other hmem
  case finished =>
    intro other hother hmarked
    rcases hold other hother with rfl | hmem
    · rw [hwork.gathered_eq, hgathered] at hmarked
      cases hmarked
    · exact h.finished other hmem hmarked
  case rows =>
    have hinterleaving := h.rows
    rw [hentries, List.map_append, List.map_cons] at hinterleaving
    simp only [Account.withEntries, List.map_append, List.map_cons, hrows, hwritten]
    -- a new row is the last one of its document and the last one of all
    cases new with
    | none => simpa using hinterleaving
    | some row => exact .snoc row hinterleaving
  case total => exact hwork.total_eq.trans h.total
  case completed =>
    have hcompleted := h.completed
    have hadd := hwork.completed_add
    rw [hentries, countP_split] at hcompleted
    simp only [Account.withEntries, countP_split]
    omega
  case failed =>
    simp only [Account.withEntries, hfailed, htallied, List.length_append, h.failed]
    omega
  case failedPaths =>
    have hfailedPaths := h.failedPaths
    rw [hentries, List.flatMap_append, List.flatMap_cons] at hfailedPaths
    simp only [Account.withEntries, htallied, List.flatMap_append, List.flatMap_cons, hpaths]
    refine (hfailedPaths.append_left paths).trans ?_
    refine (List.perm_append_comm_assoc _ _ _).trans (List.Perm.append_left _ ?_)
    rw [← List.append_assoc]
    exact List.perm_append_comm.append_right _
  case recordsWritten =>
    have hrecordsWritten := h.recordsWritten
    simp only [hentries, List.flatMap_append, List.flatMap_cons, List.length_append]
      at hrecordsWritten
    simp only [Account.withEntries, List.flatMap_append, List.flatMap_cons, List.length_append,
      hrows]
    omega
  case keysNodup => exact hwork.keys_nodup h.keysNodup
  case keys =>
    intro key
    have hbefore := h.keys key
    have hadd := hkeys key
    simp only [hentries, List.flatMap_append, List.flatMap_cons, List.mem_append] at hbefore
    simp only [Account.withEntries, List.flatMap_append, List.flatMap_cons, List.mem_append,
      hrows, List.map_append, ← hbefore]
    grind
  case steps =>
    have hsteps := h.steps
    have hadd := hwork.steps_add
    rw [hentries, countP_split] at hsteps
    simp only [Account.withEntries, countP_split]
    omega

/-- A document is started; nothing is known of it yet. -/
theorem started (h : Ledger setup a) {job : Job} {rest : List Job}
    (hwaiting : a.state.waiting = job :: rest) : Ledger setup (a.start job rest) := by
  have hnew : ∀ e ∈ a.entries ++ [({ job := job } : Entry)],
      e ∈ a.entries ∨ e = { job := job } := by
    intro e he
    simpa using he
  constructor
  case corpus => simpa [Account.start, hwaiting] using h.corpus
  case sound =>
    intro e he
    rcases hnew e he with hmem | rfl
    · exact h.sound e hmem
    · exact ⟨rfl, rfl⟩
  case finished =>
    intro e he hmarked
    rcases hnew e he with hmem | rfl
    · exact h.finished e hmem hmarked
    · cases hmarked
  case rows => simpa [Account.start] using h.rows.append_nil
  case total => exact h.total
  case completed => simpa [Account.start, Entry.isCounted] using h.completed
  case failed => exact h.failed
  case failedPaths => simpa [Account.start, Entry.failedPaths, Entry.isCounted] using h.failedPaths
  case recordsWritten => simpa [Account.start, Entry.pendingKeys] using h.recordsWritten
  case keysNodup => exact h.keysNodup
  case keys => simpa [Account.start, Entry.pendingKeys] using h.keys
  case steps => simpa [Account.start, Entry.isReported] using h.steps

/-- A document is gathered. -/
theorem marked (h : Ledger setup a) {before after : List Entry} {e : Entry}
    {fatal : Option Failure} (hentries : a.entries = before ++ e :: after)
    (hstage : e.stage = .finished fatal) :
    Ledger setup (a.withEntries (before ++ { e with gathered := true } :: after)) := by
  have hold : ∀ other ∈ before ++ { e with gathered := true } :: after,
      other = { e with gathered := true } ∨ other ∈ a.entries := by
    intro other hother
    rw [hentries]
    exact mem_of_mem_replace hother
  constructor
  case corpus => simpa [Account.withEntries, hentries] using h.corpus
  case sound =>
    intro other hother
    rcases hold other hother with rfl | hmem
    · exact h.sound e (by simp [hentries])
    · exact h.sound other hmem
  case finished =>
    intro other hother hmarked
    rcases hold other hother with rfl | hmem
    · exact ⟨fatal, hstage⟩
    · exact h.finished other hmem hmarked
  case rows => simpa [Account.withEntries, hentries] using h.rows
  case total => exact h.total
  case completed =>
    simpa [Account.withEntries, hentries, List.countP_cons, Entry.isCounted, hstage]
      using h.completed
  case failed => exact h.failed
  case failedPaths =>
    simpa [Account.withEntries, hentries, Entry.failedPaths, Entry.isCounted, hstage]
      using h.failedPaths
  case recordsWritten =>
    simpa [Account.withEntries, hentries, Entry.pendingKeys] using h.recordsWritten
  case keysNodup => exact h.keysNodup
  case keys => simpa [Account.withEntries, hentries, Entry.pendingKeys] using h.keys
  case steps =>
    simpa [Account.withEntries, hentries, List.countP_cons, Entry.isReported, hstage]
      using h.steps

end Ledger

/-- Every move keeps the ledger. -/
theorem Move.ledger {choice : Choice} {a b : Account} (hmove : Move setup choice a b)
    (h : Ledger setup a) : Ledger setup b := by
  cases hmove with
  | worked _ _ hentries hgathered hwork => exact h.worked hentries hgathered hwork
  | dispatched => exact h.of_same rfl rfl rfl rfl rfl
  | stopped => exact h.of_same rfl rfl rfl rfl rfl
  | started _ _ hwaiting => exact h.started hwaiting
  | gathered _ _ _ hentries _ hstage =>
      obtain ⟨phase, failure, notices, hheed⟩ := a.state.heed_eq ‹_›
      rw [hheed]
      have hsame := h.of_same (b := { a with state := { a.state with
        phase := phase, fatal := failure, notices := notices } }) rfl rfl rfl rfl rfl
      exact hsame.marked hentries hstage
  | concluded =>
      obtain ⟨notices, hconclude⟩ := a.state.conclude_eq setup
      rw [hconclude]
      exact h.of_same rfl rfl rfl rfl (by simp)
  | abandoned => exact h.of_same rfl rfl rfl rfl (by simp [State.abandon, State.say])
  | requested => exact h.of_same rfl rfl rfl rfl rfl
  | passed => exact h.of_same rfl rfl rfl rfl rfl

/-- Every account of a run keeps its ledger. -/
theorem Reached.ledger {a : Account} (h : Reached setup sink choices a) : Ledger setup a := by
  induction h with
  | initial => exact .initial setup sink
  | move _ _ hmove ih => exact hmove.ledger ih

end DocSentences.Run
