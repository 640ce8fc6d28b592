import DocSentences.Proofs.Run.Accounting
import DocSentences.Proofs.Run.Termination

/-!
# Rows do not depend on the schedule

A run that meets no fault and is not asked to end comes to an end, whoever goes on when, and its
rows are an interleaving of the rows of all documents. With one worker the documents follow each
other, and so do their rows.
-/

namespace DocSentences.Run

variable {setup : Setup} {sink : Sink} {choices : List Choice}

/-- Whether a run goes on whatever extracting a document gives. -/
def Job.isHarmless (job : Job) : Bool :=
  match job.extracted with
  | .failed failure => !failure.isFatal
  | .records _ | .broke _ => true

/-- A run in which nothing has gone wrong and that was not asked to end. -/
structure Calm (a : Account) : Prop where
  phase : a.state.phase = .dispatching ∨ a.state.phase = .joining ∨
    ∃ summary, a.state.phase = .ended (.finished summary)
  shutdown : a.state.shutdownRequested = false
  fatal : a.state.fatal = none
  untroubled : ∀ e ∈ a.entries, e.trouble = none

/-- A document has no trouble with a sink that holds its rows and a writer that accepts all. -/
theorem Work.untroubled {e e' : Entry} {a b : Account} (hwork : Work setup e a e' b)
    (hwriter : setup.writer.AcceptsAll)
    (hholds : a.state.sink.Holds (Csv.header :: a.rows.map Csv.fieldsOf))
    (h : e.trouble = none) : e'.trouble = none := by
  cases hwork
  case refused r row left sink fault hstage hrow hsink =>
    obtain ⟨after, hdone⟩ := hholds.append_of_acceptsAll hwriter row
    rw [hsink] at hdone
    cases hdone
  case broke r row left sink hstage hrow hsink =>
    obtain ⟨after, hdone⟩ := hholds.append_of_acceptsAll hwriter row
    rw [hsink] at hdone
    cases hdone
  all_goals exact h

/-- A document on which the run would have to stop gave a fault, or it met one. -/
theorem Entry.fatal_eq_none {e : Entry} {fatal : Option Failure} (hsound : e.Sound)
    (hstage : e.stage = .finished fatal) (hharmless : e.job.isHarmless = true)
    (htrouble : e.trouble = none) : fatal = none := by
  obtain ⟨outcome, -, rfl, hended⟩ := hsound.at hstage
  cases outcome with
  | done | failed | broke => rfl
  | fatal failure =>
      rcases hended with ⟨cause, hjob, hfatal, -⟩ | ⟨fault, -, hfault⟩
      · simp [Job.isHarmless, hjob, hfatal] at hharmless
      · rw [htrouble] at hfault
        cases hfault

namespace Calm

variable {a b : Account}

theorem initial (setup : Setup) (sink : Sink) :
    Calm { state := State.initial setup sink } where
  phase := .inl rfl
  shutdown := rfl
  fatal := rfl
  untroubled := by simp

/-- A calm run does not drain. -/
theorem not_draining (h : Calm a) (since : Nat) : a.state.phase ≠ .draining since := by
  rcases h.phase with hphase | hphase | ⟨summary, hphase⟩ <;> simp [hphase]

theorem worked (h : Calm a) (hwriter : setup.writer.AcceptsAll)
    (hholds : a.state.sink.Holds (Csv.header :: a.rows.map Csv.fieldsOf))
    {before after : List Entry} {e e' : Entry} (hentries : a.entries = before ++ e :: after)
    (hwork : Work setup e a e' b) : Calm (b.withEntries (before ++ e' :: after)) where
  phase := by
    simp only [Account.withEntries, hwork.phase_eq]
    exact h.phase
  shutdown := hwork.shutdownRequested_eq.trans h.shutdown
  fatal := hwork.fatal_eq.trans h.fatal
  untroubled := by
    intro other hother
    rcases mem_of_mem_replace hother with rfl | hmem
    · exact hwork.untroubled hwriter hholds (h.untroubled e (by simp [hentries]))
    · exact h.untroubled other (hentries ▸ hmem)

/-- A calm run ends well. -/
theorem concluded (h : Calm a) (hwriter : setup.writer.AcceptsAll)
    (hholds : a.state.sink.Holds (Csv.header :: a.rows.map Csv.fieldsOf)) :
    Calm { a with state := a.state.conclude setup } := by
  obtain ⟨notices, hconclude⟩ := a.state.conclude_eq setup
  obtain ⟨closed, hclose⟩ := hholds.close_of_acceptsAll hwriter
  rw [hconclude]
  constructor
  case phase =>
    refine .inr (.inr ⟨a.state.tally.summary setup.skipped (a.state.clock / millisecond), ?_⟩)
    simp only [State.conclusion, hclose, h.fatal]
  case shutdown => exact h.shutdown
  case fatal => exact h.fatal
  case untroubled => exact h.untroubled

end Calm

/-- Nothing goes wrong in a run with harmless documents and a willing writer. -/
theorem Move.calm {choice : Choice} {a b : Account} (hmove : Move setup choice a b)
    (hledger : Ledger setup a) (hfaithful : Faithful a) (hwriter : setup.writer.AcceptsAll)
    (hjobs : ∀ job ∈ setup.jobs, job.isHarmless = true) (hchoice : choice ≠ .shutdown)
    (h : Calm a) : Calm b := by
  have hholds : a.state.hasEnded = false →
      a.state.sink.Holds (Csv.header :: a.rows.map Csv.fieldsOf) :=
    fun hopen => hfaithful.holds hopen h.untroubled
  cases hmove with
  | worked _ hopen hentries _ hwork => exact h.worked hwriter (hholds hopen) hentries hwork
  | dispatched => exact ⟨.inr (.inl rfl), h.shutdown, h.fatal, h.untroubled⟩
  | stopped _ _ _ hshutdown =>
      rw [h.shutdown] at hshutdown
      cases hshutdown
  | started =>
      refine ⟨h.phase, h.shutdown, h.fatal, ?_⟩
      intro e he
      rcases List.mem_append.mp he with hmem | hnew
      · exact h.untroubled e hmem
      · rw [List.mem_singleton.mp hnew]
  | @gathered _ before after e fatal _ _ _ hentries _ hstage =>
      -- neither its extraction nor the writer made this document fatal
      have hmem : e ∈ a.entries := by simp [hentries]
      have hjob : e.job ∈ setup.jobs := by
        rw [← hledger.corpus]
        exact List.mem_append_left _ (List.mem_map_of_mem hmem)
      obtain rfl := Entry.fatal_eq_none (hledger.sound e hmem) hstage (hjobs _ hjob)
        (h.untroubled e hmem)
      refine ⟨h.phase, h.shutdown, h.fatal, ?_⟩
      intro other hother
      rcases mem_of_mem_replace hother with rfl | hother
      · exact h.untroubled e hmem
      · exact h.untroubled other (hentries ▸ hother)
  | concluded _ hphase => exact h.concluded hwriter (hholds (State.hasEnded_eq_false_of_or hphase))
  | abandoned _ hphase => exact absurd hphase (h.not_draining _)
  | requested => exact absurd rfl hchoice
  | passed => exact ⟨h.phase, h.shutdown, h.fatal, h.untroubled⟩

/-- A run over harmless documents stays calm, unless it is asked to end. -/
theorem Reached.calm {a : Account} (h : Reached setup (Sink.create setup.writer) choices a)
    (hwriter : setup.writer.AcceptsAll) (hjobs : ∀ job ∈ setup.jobs, job.isHarmless = true)
    (hchoices : Choice.shutdown ∉ choices) : Calm a := by
  induction h with
  | initial => exact .initial setup _
  | move hreached _ hmove ih =>
      simp only [List.mem_append, List.mem_singleton, not_or] at hchoices
      exact hmove.calm hreached.ledger hreached.faithful hwriter hjobs (Ne.symm hchoices.2)
        (ih hchoices.1)

/-! ## One worker -/

/-- A document is only started once the one before it is no longer in flight. -/
structure Serial (a : Account) : Prop where
  order : a.entries.Pairwise fun earlier _ => earlier.task.isInFlight = false
  rows : a.rows = a.entries.flatMap Entry.written

/-- A document that is not in flight stays so, and writes nothing. -/
theorem Work.isInFlight {e e' : Entry} {a b : Account} (hwork : Work setup e a e' b)
    (h : e.task.isInFlight = false) :
    e'.task.isInFlight = false ∧ b.rows = a.rows ∧ e'.written = e.written := by
  cases hwork
  case finished => exact ⟨rfl, rfl, rfl⟩
  all_goals simp [Entry.task, Task.isInFlight, *] at h

namespace Serial

variable {a b : Account}

theorem initial (setup : Setup) (sink : Sink) :
    Serial { state := State.initial setup sink } where
  order := .nil
  rows := rfl

/-- Work keeps the rows in order when all other documents are done with theirs. -/
theorem worked (h : Serial a) {before after : List Entry} {e e' : Entry}
    (hentries : a.entries = before ++ e :: after) (hwork : Work setup e a e' b) :
    Serial (b.withEntries (before ++ e' :: after)) := by
  have horder := h.order
  rw [hentries, List.pairwise_append, List.pairwise_cons] at horder
  obtain ⟨hbefore, ⟨hnext, hafter⟩, hacross⟩ := horder
  constructor
  case order =>
    refine List.pairwise_append.mpr ⟨hbefore, List.pairwise_cons.mpr ⟨?_, hafter⟩, ?_⟩
    · exact fun later hlater => (hwork.isInFlight (hnext later hlater)).1
    · exact fun earlier hearlier _ _ => hacross earlier hearlier e List.mem_cons_self
  case rows =>
    simp only [Account.withEntries, List.flatMap_append, List.flatMap_cons]
    by_cases hflight : e.task.isInFlight = false
    · obtain ⟨-, hrows, hwritten⟩ := hwork.isInFlight hflight
      simp [hrows, hwritten, h.rows, hentries]
    · -- a document in flight is the last one, so its rows are the last ones as well
      have hlast : after = [] := by
        refine List.eq_nil_iff_forall_not_mem.mpr fun later hlater => ?_
        exact hflight (hnext later hlater)
      obtain ⟨new, hrows, hwritten, -⟩ := hwork.rows_append
      simp [hrows, hwritten, h.rows, hentries, hlast]

/-- A document that is started while none is in flight is the only one in flight. -/
theorem started (h : Serial a) (hflight : ∀ e ∈ a.entries, e.task.isInFlight = false)
    (job : Job) (rest : List Job) : Serial (a.start job rest) where
  order := by
    refine List.pairwise_append.mpr ⟨h.order, List.pairwise_singleton _ _, ?_⟩
    exact fun earlier hearlier _ _ => hflight earlier hearlier
  rows := by simp [Account.start, h.rows]

theorem marked (h : Serial a) {before after : List Entry} {e : Entry}
    (hentries : a.entries = before ++ e :: after) (state : State) :
    Serial (Account.withEntries ⟨state, a.entries, a.rows⟩
      (before ++ { e with gathered := true } :: after)) where
  order := by
    have horder := h.order
    rw [hentries] at horder
    simpa [Account.withEntries, List.pairwise_append, Entry.task] using horder
  rows := by simp [Account.withEntries, h.rows, hentries]

end Serial

/-- With one worker no document is in flight when another one is started. -/
theorem Ledger.not_isInFlight {a : Account} (h : Ledger setup a)
    (htasks : a.state.tasks = live a.entries) (hroom : a.state.inFlight < 1) :
    ∀ e ∈ a.entries, e.task.isInFlight = false := by
  intro e he
  cases hgathered : e.gathered with
  | true =>
      obtain ⟨fatal, hstage⟩ := h.finished e he hgathered
      simp [Entry.task, Task.isInFlight, hstage]
  | false =>
      have hlive : e.task ∈ a.state.tasks := by
        rw [htasks]
        exact List.mem_map_of_mem (List.mem_filter.mpr ⟨he, by simp [hgathered]⟩)
      have hnone := List.countP_eq_zero.mp (Nat.lt_one_iff.mp hroom) e.task hlive
      simpa using hnone

/-- With one worker the rows are always in the order of the corpus. -/
theorem Reached.serial {a : Account} (h : Reached setup sink choices a)
    (hworkers : setup.settings.workerCount = 1) : Serial a := by
  induction h with
  | initial => exact .initial setup _
  | @move choices choice a b hreached _ hmove ih =>
      cases hmove with
      | worked _ _ hentries _ hwork => exact ih.worked hentries hwork
      | started _ _ _ _ _ hroom =>
          exact ih.started (hreached.ledger.not_isInFlight hreached.tasks_eq_live
            (hworkers ▸ hroom)) _ _
      | gathered _ _ _ hentries => exact ih.marked hentries _
      | dispatched | stopped | concluded | abandoned | requested | passed =>
          exact ⟨ih.order, ih.rows⟩

/-! ## The rows of a run -/

/-- A run that has ended without trouble has started all documents. -/
theorem Reached.map_job_of_ended {a : Account} {summary : Summary}
    (h : Reached setup (Sink.create setup.writer) choices a)
    (hwriter : setup.writer.AcceptsAll) (hjobs : ∀ job ∈ setup.jobs, job.isHarmless = true)
    (hchoices : Choice.shutdown ∉ choices) (hend : a.state.phase = .ended (.finished summary)) :
    a.entries.map Entry.job = setup.jobs := by
  obtain ⟨before, pick, b, rfl, hbefore, hwaits, rfl, -⟩ := h.exists_of_finished hend
  have hcalm := hbefore.calm hwriter hjobs fun hmem => hchoices (List.mem_append_left _ hmem)
  have hwaiting : b.state.waiting = [] := by
    rcases hwaits with hjoining | ⟨since, hdraining⟩
    · exact hbefore.course.joining hjoining
    · exact absurd hdraining (hcalm.not_draining since)
  have hcorpus := hbefore.ledger.corpus
  rwa [hwaiting, List.append_nil] at hcorpus

/-- Choices lead a run to a state, without a request to end. -/
def LeadUnasked (setup : Setup) (choices : List Choice) (s : State) : Prop :=
  Choice.shutdown ∉ choices ∧
    (State.launch setup (Sink.create setup.writer)).steps setup choices = some s

/-- What is expected of a run that is not asked to end, whoever goes on when. It comes to an end. It
ends well, and its rows are an interleaving of the rows of all documents, which one worker writes in
the order of the corpus. -/
structure KeepsRows (setup : Setup) : Prop where
  halts : ∀ choices s, LeadUnasked setup choices s →
    choices.countP Choice.advances ≤ setup.effort
  goesOn : ∀ choices s, LeadUnasked setup choices s → s.hasEnded = false →
    ∃ choice, choice.advances = true ∧ (s.step setup choice).isSome = true
  endsWell : ∀ choices s, LeadUnasked setup choices s → s.hasEnded = true →
    ∃ summary rows, s.ending? = some (.finished summary) ∧ s.sink.status = .closed ∧
      s.sink.delivered = Csv.encode (Csv.header :: rows.map Csv.fieldsOf) ∧
      IsInterleaving rows (setup.jobs.map Job.rows) ∧
      rows.Perm (setup.jobs.flatMap Job.rows) ∧
      (setup.settings.workerCount = 1 → rows = setup.jobs.flatMap Job.rows)

/-- A run that has ended without trouble has written the rows of all documents. -/
theorem Reached.exists_rows_of_ended {a : Account}
    (h : Reached setup (Sink.create setup.writer) choices a)
    (hwriter : setup.writer.AcceptsAll) (hjobs : ∀ job ∈ setup.jobs, job.isHarmless = true)
    (hchoices : Choice.shutdown ∉ choices) (hended : a.state.hasEnded = true) :
    ∃ summary rows, a.state.ending? = some (.finished summary) ∧ a.state.sink.status = .closed ∧
      a.state.sink.delivered = Csv.encode (Csv.header :: rows.map Csv.fieldsOf) ∧
      IsInterleaving rows (setup.jobs.map Job.rows) ∧
      rows.Perm (setup.jobs.flatMap Job.rows) ∧
      (setup.settings.workerCount = 1 → rows = setup.jobs.flatMap Job.rows) := by
  have hcalm := h.calm hwriter hjobs hchoices
  obtain ⟨summary, hphase⟩ : ∃ summary, a.state.phase = .ended (.finished summary) := by
    rcases hcalm.phase with hphase | hphase | hphase
    · simp [State.hasEnded, hphase] at hended
    · simp [State.hasEnded, hphase] at hended
    · exact hphase
  obtain ⟨hrows, hclosed, hdelivered, -⟩ := h.rows_of_finished hphase
  have hall := h.map_job_of_ended hwriter hjobs hchoices hphase
  rw [hall] at hrows
  refine ⟨summary, a.rows, by simp [State.ending?, hphase], hclosed, hdelivered, hrows, ?_, ?_⟩
  · rw [List.flatMap_def]
    exact hrows.perm_flatten
  · intro hone
    obtain ⟨_, _, b, -, -, -, rfl, -, -, -, hsettled⟩ := h.exists_of_finished hphase
    rw [(h.serial hone).rows, ← hall, List.flatMap_map]
    exact List.flatMap_congr fun e he => (hsettled e he).written

/-- A run whose writer takes everything and whose documents give no faults keeps all rows exactly if
there can be so many workers. With more of them it breaks down before any document is started, which
nothing refuses beforehand. -/
theorem keepsRows_iff (setup : Setup) (hworkers : 1 ≤ setup.settings.workerCount)
    (hwriter : setup.writer.AcceptsAll) (hjobs : ∀ job ∈ setup.jobs, job.isHarmless = true) :
    (KeepsRows setup ↔ setup.settings.workerCount ≤ maxWorkers) ∧
      (maxWorkers < setup.settings.workerCount → ∀ sink choices s,
        (State.launch setup sink).steps setup choices = some s →
        choices = [] ∧ s.ending? = some .broke ∧ s.waiting = setup.jobs ∧ s.sink = sink) := by
  have hbreaks (hcrowded : maxWorkers < setup.settings.workerCount) (sink : Sink)
      (choices : List Choice) (s : State)
      (hrun : (State.launch setup sink).steps setup choices = some s) :
      choices = [] ∧ s.ending? = some .broke ∧ s.waiting = setup.jobs ∧ s.sink = sink := by
    rcases State.steps_launch_cases hrun with ⟨hroom, -⟩ | ⟨-, hnone, rfl⟩
    · exact absurd hroom (Nat.not_le.mpr hcrowded)
    · rw [State.launch_of_lt hcrowded]
      exact ⟨hnone, rfl, rfl, rfl⟩
  refine ⟨⟨fun h => ?_, fun hroom => ?_⟩, hbreaks⟩
  · -- with too many workers the run has ended before any choice, and not well
    by_contra hcrowded
    obtain ⟨-, hbroke, -, -⟩ := hbreaks (Nat.not_le.mp hcrowded) (Sink.create setup.writer) [] _ rfl
    have hended : (State.launch setup (Sink.create setup.writer)).hasEnded = true :=
      (State.hasEnded_iff _).mpr ⟨_, State.phase_of_ending? hbroke⟩
    obtain ⟨summary, _, hfinished, -⟩ := h.endsWell [] _ ⟨List.not_mem_nil, rfl⟩ hended
    cases hbroke.symm.trans hfinished
  · -- otherwise every run goes on from the initial state
    have hfrom {choices : List Choice} {s : State} (h : LeadUnasked setup choices s) :
        (State.initial setup (Sink.create setup.writer)).steps setup choices = some s := by
      have hrun := h.2
      rwa [State.launch_of_le hroom] at hrun
    constructor
    case halts => exact fun _ _ h => countP_advances_le (hfrom h)
    case goesOn => exact fun _ _ _ hopen => State.exists_advance hopen hworkers
    case endsWell =>
      intro choices s h hended
      obtain ⟨a, rfl, hreached⟩ := exists_reached (hfrom h)
      exact hreached.exists_rows_of_ended hwriter hjobs h.1 hended

/-- With two documents, two workers keep all rows. -/
theorem twoDocuments_keepsRows :
    let setup := twoDocuments .willing
    1 ≤ setup.settings.workerCount ∧ setup.writer.AcceptsAll ∧
      (∀ job ∈ setup.jobs, job.isHarmless = true) ∧ KeepsRows setup ∧
      ∃ s, LeadUnasked setup twoDocumentsChoices s ∧ s.hasEnded = true ∧
        ∃ summary rows, s.ending? = some (.finished summary) ∧ s.sink.status = .closed ∧
          s.sink.delivered = Csv.encode (Csv.header :: rows.map Csv.fieldsOf) ∧
          IsInterleaving rows (setup.jobs.map Job.rows) ∧
          rows.Perm (setup.jobs.flatMap Job.rows) ∧
          (setup.settings.workerCount = 1 → rows = setup.jobs.flatMap Job.rows) := by
  intro setup
  have hworkers : 1 ≤ setup.settings.workerCount := by decide
  have hroom : setup.settings.workerCount ≤ maxWorkers := by decide
  have hjobs : ∀ job ∈ setup.jobs, job.isHarmless = true := by decide
  have hends : ((State.launch setup (Sink.create setup.writer)).steps setup
      twoDocumentsChoices).map State.hasEnded = some true := by
    decide +kernel
  obtain ⟨s, hrun, hended⟩ := Option.map_eq_some_iff.mp hends
  have hleads : LeadUnasked setup twoDocumentsChoices s := ⟨by decide, hrun⟩
  have hkeeps := (keepsRows_iff setup hworkers Writer.willing_acceptsAll hjobs).1.mpr hroom
  exact ⟨hworkers, Writer.willing_acceptsAll, hjobs, hkeeps, s, hleads, hended,
    hkeeps.endsWell _ s hleads hended⟩

/-- A run of one document with one worker more than there can be. -/
def crowdedRun : Setup where
  settings := { workerCount := maxWorkers + 1 }
  jobs := [⟨⟨.ofString "C0.java", .structured, "C0"⟩, .records [⟨"C0", "A sentence."⟩]⟩]
  skipped := 0
  writer := .willing

/-- This number of workers is positive, so nothing refuses it. -/
theorem not_forall_keepsRows :
    ¬ ∀ setup : Setup, 1 ≤ setup.settings.workerCount → setup.writer.AcceptsAll →
      (∀ job ∈ setup.jobs, job.isHarmless = true) → KeepsRows setup := by
  intro h
  have hexpected := h crowdedRun (by decide) Writer.willing_acceptsAll (by decide)
  have hcrowded : maxWorkers < crowdedRun.settings.workerCount := Nat.lt_succ_self maxWorkers
  have hbegins := State.launch_of_lt hcrowded (Sink.create crowdedRun.writer)
  have hended : (State.launch crowdedRun (Sink.create crowdedRun.writer)).hasEnded = true := by
    rw [hbegins]
    rfl
  obtain ⟨summary, _, hfinished, -⟩ :=
    hexpected.endsWell [] _ ⟨List.not_mem_nil, rfl⟩ hended
  rw [hbegins] at hfinished
  cases hfinished

end DocSentences.Run
