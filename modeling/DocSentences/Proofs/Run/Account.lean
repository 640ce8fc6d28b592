import DocSentences.Run.State

/-!
# Accounts of a run

The state of a run forgets a document once it has been gathered, and it does not tell which rows
were taken by the sink. An account of a run remembers both. Every choice that leads a run on is one
of a few moves of its account, so whatever each move keeps holds throughout the run.
-/

namespace DocSentences.Run

/-- The row that is written for a record, if any. -/
def rowOf? (r : Record) : Option Record :=
  let kept := Text.trim (Sentence.sanitize r.sentence.toList)
  if Sentence.isEmittable kept then some ⟨r.key, String.ofList kept⟩ else none

/-- The rows that a document contributes. -/
def Job.rows (job : Job) : List Record :=
  match job.extracted with
  | .records records => records.filterMap rowOf?
  | .failed _ | .broke _ => []

/-- Whether extracting a document gives no records at all. -/
def Job.fails (job : Job) : Bool :=
  match job.extracted with
  | .records _ => false
  | .failed _ | .broke _ => true

/-- The stage that a document has reached once it has been extracted. -/
def Job.stageAfterExtraction (job : Job) : Stage :=
  match job.extracted with
  | .records records => .writing records
  | .failed failure =>
      .ended (if failure.isFatal then .fatal (.contractViolation failure) else .failed failure)
  | .broke reason => .ended (.broke reason)

/-- The failure on which the run has to stop, if there is one. -/
def Outcome.fatal? : Outcome → Option Failure
  | .fatal failure => some failure
  | .done | .failed _ | .broke _ => none

/-- What is said when a document has ended. -/
def Outcome.notices (path : Path) : Outcome → List Notice
  | .failed failure => [.documentSkipped path failure]
  | .broke reason => [.documentBroke path reason]
  | .done | .fatal _ => []

/-- Counts a document that has ended. -/
def Tally.recordOutcome (t : Tally) (path : Path) : Outcome → Tally
  | .done => t.recordSuccess
  | .failed _ | .broke _ | .fatal _ => t.recordFailure path

/-- What is remembered of a document that was started. -/
structure Entry where
  job : Job
  stage : Stage := .extracting
  /-- Whether the controller has gathered it. -/
  gathered : Bool := false
  /-- How it ended, if it has. -/
  outcome : Option Outcome := none
  /-- Its rows that the sink took. -/
  written : List Record := []
  /-- What the sink answered when it did not take one of its rows. -/
  trouble : Option SinkOutcome := none

namespace Entry

/-- The document as the state of the run knows it. -/
def task (e : Entry) : Task := ⟨e.job, e.stage⟩

/-- The entry of a document that has reached another stage. -/
def advance (e : Entry) (stage : Stage) : Entry :=
  { e with
    stage := stage
    outcome := match stage with
      | .ended outcome => some outcome
      | _ => e.outcome }

@[simp] theorem advance_job (e : Entry) (stage : Stage) : (e.advance stage).job = e.job := rfl

@[simp] theorem advance_stage (e : Entry) (stage : Stage) : (e.advance stage).stage = stage := rfl

@[simp] theorem advance_written (e : Entry) (stage : Stage) :
    (e.advance stage).written = e.written := rfl

end Entry

/-- The documents among these that have not been gathered. -/
def live (entries : List Entry) : List Task := (entries.filter (!·.gathered)).map Entry.task

@[simp] theorem live_nil : live [] = [] := rfl

@[simp] theorem live_append (before after : List Entry) :
    live (before ++ after) = live before ++ live after := by
  simp [live]

theorem live_cons_of_gathered {e : Entry} (h : e.gathered = true) (rest : List Entry) :
    live (e :: rest) = live rest := by
  simp [live, h]

theorem live_cons {e : Entry} (h : e.gathered = false) (rest : List Entry) :
    live (e :: rest) = e.task :: live rest := by
  simp [live, h]

/-- A run with what it forgets: every document that was started, in the order of the corpus, and
every row that the sink took, in the order in which it took them. -/
structure Account where
  state : State
  entries : List Entry := []
  rows : List Record := []

/-- The account with other entries. -/
def Account.withEntries (a : Account) (entries : List Entry) : Account :=
  ⟨{ a.state with tasks := live entries }, entries, a.rows⟩

/-- The account once the next document has been started. -/
def Account.start (a : Account) (job : Job) (rest : List Job) : Account where
  state := { a.state with
    waiting := rest
    tasks := a.state.tasks ++ [⟨job, .extracting⟩] }
  entries := a.entries ++ [{ job := job }]
  rows := a.rows

/-- How the failure of a gathered document changes the state. -/
def State.heed (s : State) : Option Failure → State
  | none => s
  | some failure =>
      match s.phase with
      | .dispatching =>
          { s with fatal := some failure, phase := .draining s.clock }.say
            (.dispatchStopped failure)
      | _ => { s with fatal := s.fatal.or (some failure) }.say (.joinedFailure failure)

/-- A failure that comes while documents are started ends that, and is the failure of the run. -/
theorem State.heed_of_dispatching {s : State} (hphase : s.phase = .dispatching)
    (failure : Failure) :
    s.heed (some failure) =
      { s with fatal := some failure, phase := .draining s.clock }.say
        (.dispatchStopped failure) := by
  simp only [heed, hphase]

/-- A later failure is the failure of the run only if there was none before. -/
theorem State.heed_of_not_dispatching {s : State} (hphase : s.phase ≠ .dispatching)
    (failure : Failure) :
    s.heed (some failure) =
      { s with fatal := s.fatal.or (some failure) }.say (.joinedFailure failure) := by
  unfold heed
  dsimp only
  split
  · next hdispatching => exact absurd hdispatching hphase
  · rfl

/-- Heeding a failure changes the phase, the failure and the notices at most. -/
theorem State.heed_eq (s : State) (fatal : Option Failure) :
    ∃ phase failure notices, s.heed fatal =
      { s with phase := phase, fatal := failure, notices := notices } := by
  unfold heed
  split
  · exact ⟨_, _, _, rfl⟩
  · split <;> exact ⟨_, _, _, rfl⟩

@[simp] theorem State.waiting_heed (s : State) (fatal : Option Failure) :
    (s.heed fatal).waiting = s.waiting := by
  obtain ⟨phase, failure, notices, hheed⟩ := s.heed_eq fatal
  rw [hheed]

@[simp] theorem State.clock_heed (s : State) (fatal : Option Failure) :
    (s.heed fatal).clock = s.clock := by
  obtain ⟨phase, failure, notices, hheed⟩ := s.heed_eq fatal
  rw [hheed]

@[simp] theorem State.sink_heed (s : State) (fatal : Option Failure) :
    (s.heed fatal).sink = s.sink := by
  obtain ⟨phase, failure, notices, hheed⟩ := s.heed_eq fatal
  rw [hheed]

/-- Heeding a failure keeps the phase or begins to drain. -/
theorem State.phase_heed (s : State) (fatal : Option Failure) :
    (s.heed fatal).phase = s.phase ∨ ∃ since, (s.heed fatal).phase = .draining since := by
  unfold heed
  split
  · exact .inl rfl
  · split
    · exact .inr ⟨_, rfl⟩
    · exact .inl rfl

/-- Heeding a failure does not end a run. -/
theorem State.hasEnded_heed {s : State} (hopen : s.hasEnded = false) (fatal : Option Failure) :
    (s.heed fatal).hasEnded = false := by
  rcases s.phase_heed fatal with hsame | ⟨since, hdraining⟩
  · rwa [hasEnded, hsame]
  · rw [hasEnded, hdraining]

/-- How a run ends whose documents have all been gathered. -/
def State.conclusion (setup : Setup) (s : State) : Ending :=
  match (s.sink.close setup.writer).2, s.fatal with
  | .brokeDown, _ => .broke
  | _, some failure => .failed failure
  | .failed fault, none => .failed (.sink fault)
  | .done, none => .finished (s.tally.summary setup.skipped (s.clock / millisecond))

/-- Concluding a run ends it, closes the sink and finishes the progress. -/
theorem State.conclude_eq (setup : Setup) (s : State) :
    ∃ notices, s.conclude setup =
      { s with
        phase := .ended (s.conclusion setup)
        sink := (s.sink.close setup.writer).1
        progress := .finish :: s.progress
        notices := notices } := by
  unfold conclude conclusion
  cases hclose : s.sink.close setup.writer with
  | mk sink outcome =>
      cases outcome <;> cases hfatal : s.fatal <;> exact ⟨_, rfl⟩

theorem State.phase_conclude (setup : Setup) (s : State) :
    (s.conclude setup).phase = .ended (s.conclusion setup) := by
  obtain ⟨notices, hconclude⟩ := s.conclude_eq setup
  rw [hconclude]

theorem State.hasEnded_conclude (setup : Setup) (s : State) :
    (s.conclude setup).hasEnded = true := by
  rw [hasEnded, phase_conclude]

theorem State.ending?_conclude (setup : Setup) (s : State) :
    (s.conclude setup).ending? = some (s.conclusion setup) := by
  rw [ending?, phase_conclude]

theorem State.waiting_conclude (setup : Setup) (s : State) :
    (s.conclude setup).waiting = s.waiting := by
  obtain ⟨notices, hconclude⟩ := s.conclude_eq setup
  rw [hconclude]

theorem State.clock_conclude (setup : Setup) (s : State) :
    (s.conclude setup).clock = s.clock := by
  obtain ⟨notices, hconclude⟩ := s.conclude_eq setup
  rw [hconclude]

/-- Concluding a run closes its sink, whatever comes of that. -/
theorem State.sink_conclude (setup : Setup) (s : State) :
    (s.conclude setup).sink = (s.sink.close setup.writer).1 := by
  obtain ⟨notices, hconclude⟩ := s.conclude_eq setup
  rw [hconclude]

/-- Concluding a run finishes the progress once more. -/
theorem State.progress_conclude (setup : Setup) (s : State) :
    (s.conclude setup).progress = .finish :: s.progress := by
  obtain ⟨notices, hconclude⟩ := s.conclude_eq setup
  rw [hconclude]

theorem State.fatal_conclude (setup : Setup) (s : State) :
    (s.conclude setup).fatal = s.fatal := by
  obtain ⟨notices, hconclude⟩ := s.conclude_eq setup
  rw [hconclude]

theorem State.tasks_conclude (setup : Setup) (s : State) : (s.conclude setup).tasks = s.tasks := by
  obtain ⟨notices, hconclude⟩ := s.conclude_eq setup
  rw [hconclude]

/-- What a document that has been started may do next. Apart from its own entry it changes the
sink, the tally, the progress and the notices, and it may add a row. -/
inductive Work (setup : Setup) : Entry → Account → Entry → Account → Prop
  | extracted {e : Entry} {a : Account} (hstage : e.stage = .extracting) :
      Work setup e a (e.advance e.job.stageAfterExtraction) a
  | wroteAll {e : Entry} {a : Account} (hstage : e.stage = .writing []) :
      Work setup e a (e.advance (.ended .done)) a
  | dropped {e : Entry} {a : Account} {r : Record} {left : List Record}
      (hstage : e.stage = .writing (r :: left)) (hrow : rowOf? r = none) :
      Work setup e a (e.advance (.writing left)) a
  | appended {e : Entry} {a : Account} {r row : Record} {left : List Record} {sink : Sink}
      (hstage : e.stage = .writing (r :: left)) (hrow : rowOf? r = some row)
      (hsink : a.state.sink.append setup.writer row = (sink, .done)) :
      Work setup e a { e.advance (.counting row.key left) with written := e.written ++ [row] }
        { a with state := { a.state with sink := sink }, rows := a.rows ++ [row] }
  | refused {e : Entry} {a : Account} {r row : Record} {left : List Record} {sink : Sink}
      {fault : SinkFault} (hstage : e.stage = .writing (r :: left)) (hrow : rowOf? r = some row)
      (hsink : a.state.sink.append setup.writer row = (sink, .failed fault)) :
      Work setup e a
        { e.advance (.ended (.fatal (.sink fault))) with trouble := some (.failed fault) }
        { a with state := { a.state with sink := sink } }
  | broke {e : Entry} {a : Account} {r row : Record} {left : List Record} {sink : Sink}
      (hstage : e.stage = .writing (r :: left)) (hrow : rowOf? r = some row)
      (hsink : a.state.sink.append setup.writer row = (sink, .brokeDown)) :
      Work setup e a { e.advance (.ended (.broke "writer")) with trouble := some .brokeDown }
        { a with state := { a.state with sink := sink } }
  | rowCounted {e : Entry} {a : Account} {key : String} {left : List Record}
      (hstage : e.stage = .counting key left) :
      Work setup e a (e.advance (.writing left))
        { a with state := { a.state with tally := a.state.tally.recordWritten key } }
  | counted {e : Entry} {a : Account} {outcome : Outcome} (hstage : e.stage = .ended outcome) :
      Work setup e a (e.advance (.counted outcome.fatal?))
        { a with state := { a.state with
            tally := a.state.tally.recordOutcome e.job.document.path outcome
            notices := outcome.notices e.job.document.path ++ a.state.notices } }
  | reported {e : Entry} {a : Account} {fatal : Option Failure}
      (hstage : e.stage = .counted fatal) :
      Work setup e a (e.advance (.reported fatal))
        { a with state := { a.state with progress := .step :: a.state.progress } }
  | released {e : Entry} {a : Account} {fatal : Option Failure}
      (hstage : e.stage = .reported fatal) :
      Work setup e a (e.advance (.released fatal)) a
  | finished {e : Entry} {a : Account} {fatal : Option Failure}
      (hstage : e.stage = .released fatal) :
      Work setup e a (e.advance (.finished fatal)) a

namespace Work

variable {setup : Setup} {e e' : Entry} {a b : Account}

theorem job_eq (hwork : Work setup e a e' b) : e'.job = e.job := by
  cases hwork <;> rfl

theorem gathered_eq (hwork : Work setup e a e' b) : e'.gathered = e.gathered := by
  cases hwork <;> rfl

/-- Work starts no document. -/
theorem waiting_eq (hwork : Work setup e a e' b) : b.state.waiting = a.state.waiting := by
  cases hwork <;> rfl

/-- Work leaves the phase of the run to the controller. -/
theorem phase_eq (hwork : Work setup e a e' b) : b.state.phase = a.state.phase := by
  cases hwork <;> rfl

/-- Work takes no time of its own. -/
theorem clock_eq (hwork : Work setup e a e' b) : b.state.clock = a.state.clock := by
  cases hwork <;> rfl

theorem shutdownRequested_eq (hwork : Work setup e a e' b) :
    b.state.shutdownRequested = a.state.shutdownRequested := by
  cases hwork <;> rfl

/-- Work leaves it to the controller which failure the run has. -/
theorem fatal_eq (hwork : Work setup e a e' b) : b.state.fatal = a.state.fatal := by
  cases hwork <;> rfl

end Work

/-- How a choice changes the account of a run. -/
inductive Move (setup : Setup) : Choice → Account → Account → Prop
  /-- A document goes on. -/
  | worked {a b : Account} {before after : List Entry} {e e' : Entry} (index : Nat)
      (hopen : a.state.hasEnded = false) (hentries : a.entries = before ++ e :: after)
      (hgathered : e.gathered = false) (hwork : Work setup e a e' b)
      (hindex : a.state.tasks[index]? = some e.task) :
      Move setup (.worker index) a (b.withEntries (before ++ e' :: after))
  /-- There are no more documents to start. -/
  | dispatched {a : Account} (pick : Nat) (hphase : a.state.phase = .dispatching)
      (hwaiting : a.state.waiting = []) :
      Move setup (.controller pick) a { a with state := { a.state with phase := .joining } }
  /-- No more documents are started because the run is asked to end. -/
  | stopped {a : Account} (pick : Nat) (hphase : a.state.phase = .dispatching)
      (hwaiting : a.state.waiting ≠ []) (hshutdown : a.state.shutdownRequested = true) :
      Move setup (.controller pick) a
        { a with state :=
            { a.state with phase := .draining a.state.clock }.say .shutdownRequested }
  /-- The next document is started. -/
  | started {a : Account} {job : Job} {rest : List Job} (pick : Nat)
      (hphase : a.state.phase = .dispatching) (hwaiting : a.state.waiting = job :: rest)
      (hshutdown : a.state.shutdownRequested = false)
      (hfinished : a.state.tasks.any Task.isFinished = false)
      (hroom : a.state.inFlight < setup.settings.workerCount) :
      Move setup (.controller pick) a (a.start job rest)
  /-- A document is gathered. -/
  | gathered {a : Account} {before after : List Entry} {e : Entry} {fatal : Option Failure}
      (pick : Nat) (hopen : a.state.hasEnded = false)
      (hdispatch : a.state.phase = .dispatching →
        a.state.waiting ≠ [] ∧ a.state.shutdownRequested = false)
      (hentries : a.entries = before ++ e :: after) (hgathered : e.gathered = false)
      (hstage : e.stage = .finished fatal)
      (htake : takeFinished pick a.state.tasks =
        some (fatal, live (before ++ { e with gathered := true } :: after))) :
      Move setup (.controller pick) a
        ({ a with state := a.state.heed fatal }.withEntries
          (before ++ { e with gathered := true } :: after))
  /-- All documents have been gathered, and the sink is closed. -/
  | concluded {a : Account} (pick : Nat)
      (hphase : a.state.phase = .joining ∨ ∃ since, a.state.phase = .draining since)
      (htasks : a.state.tasks = []) :
      Move setup (.controller pick) a { a with state := a.state.conclude setup }
  /-- The documents in flight took too long. -/
  | abandoned {a : Account} {since : Nat} (pick : Nat)
      (hphase : a.state.phase = .draining since) (htasks : a.state.tasks ≠ [])
      (hfinished : a.state.tasks.any Task.isFinished = false)
      (hlate : since + setup.settings.drainTimeout ≤ a.state.clock) :
      Move setup (.controller pick) a { a with state := a.state.abandon setup }
  | requested {a : Account} (hopen : a.state.hasEnded = false) :
      Move setup .shutdown a { a with state := { a.state with shutdownRequested := true } }
  | passed {a : Account} (nanoseconds : Nat) (hopen : a.state.hasEnded = false) :
      Move setup (.pass nanoseconds) a
        { a with state := { a.state with clock := a.state.clock + nanoseconds } }

/-- The accounts that some choices lead to. -/
inductive Reached (setup : Setup) (sink : Sink) : List Choice → Account → Prop
  | initial : Reached setup sink [] { state := State.initial setup sink }
  | move {choices : List Choice} {choice : Choice} {a b : Account} :
      Reached setup sink choices a → a.state.step setup choice = some b.state →
      Move setup choice a b → Reached setup sink (choices ++ [choice]) b

end DocSentences.Run
