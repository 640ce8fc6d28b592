import DocSentences.Document.Basic
import DocSentences.Run.Notice
import DocSentences.Run.Progress
import DocSentences.Run.Settings
import DocSentences.Run.Tally
import DocSentences.Sentence.Sanitized

/-!
# States of a run

A run has a controller, which starts the documents of a corpus in order and gathers those that have
ended, and the documents in flight, each of which goes on by itself. All of them share the sink and
the tally. Nothing is fixed about who goes on next: a state says what each choice leads to, and
which choices there are.
-/

namespace DocSentences.Run

/-- What extracting a document gives. -/
inductive Extracted
  | records (records : List Record)
  | failed (failure : Extraction.Failure)
  /-- The extraction broke down. -/
  | broke (reason : String)
  deriving DecidableEq, Repr

/-- A document to be processed, and what extracting it gives. -/
structure Job where
  document : Document
  extracted : Extracted
  deriving DecidableEq, Repr

/-- How a document ends. -/
inductive Outcome
  | done
  | failed (failure : Extraction.Failure)
  | broke (reason : String)
  /-- The run has to stop. -/
  | fatal (failure : Failure)
  deriving DecidableEq, Repr

/-- How far a document has come after it was started. The failure that some stages carry is the one
on which the run has to stop. -/
inductive Stage
  | extracting
  /-- These records are still to be written. -/
  | writing (left : List Record)
  /-- A row with this key was written, and is still to be counted. -/
  | counting (key : String) (left : List Record)
  | ended (outcome : Outcome)
  /-- The document has been counted. -/
  | counted (fatal : Option Failure)
  /-- Its end has been told. -/
  | reported (fatal : Option Failure)
  /-- Another document may be started instead. -/
  | released (fatal : Option Failure)
  /-- The controller can gather it. -/
  | finished (fatal : Option Failure)
  deriving DecidableEq, Repr

/-- A document that was started and not gathered yet. -/
structure Task where
  job : Job
  stage : Stage
  deriving DecidableEq, Repr

/-- Whether a document counts among those in flight. -/
def Task.isInFlight (t : Task) : Bool :=
  match t.stage with
  | .released _ | .finished _ => false
  | _ => true

/-- Whether a document can be gathered. -/
def Task.isFinished (t : Task) : Bool :=
  match t.stage with
  | .finished _ => true
  | _ => false

/-- How a run ends. -/
inductive Ending
  | finished (summary : Summary)
  | failed (failure : Failure)
  /-- The run broke down: there cannot be so many workers, or the writer broke down while the sink
  was closed. -/
  | broke
  deriving DecidableEq, Repr

/-- What the controller is at. -/
inductive Phase
  /-- Documents are started. -/
  | dispatching
  /-- Documents in flight are waited for, but not for long. -/
  | draining (since : Nat)
  /-- All documents have been started and are waited for. -/
  | joining
  | ended (ending : Ending)
  deriving DecidableEq, Repr

/-- What a run is given: its settings, the documents with what they give, the number of entries that
were skipped, and the writer behind the sink. -/
structure Setup where
  settings : Settings
  jobs : List Job
  skipped : Nat
  writer : Writer

/-- A state of a run. -/
structure State where
  phase : Phase
  /-- The documents not started yet. -/
  waiting : List Job
  tasks : List Task
  /-- The first failure that was gathered on which the run has to stop. -/
  fatal : Option Failure
  shutdownRequested : Bool
  /-- The nanoseconds since the start. -/
  clock : Nat
  tally : Tally
  sink : Sink
  /-- What was told about progress, the latest first. -/
  progress : List Progress
  /-- What was said, the latest first. -/
  notices : List Notice
  deriving DecidableEq, Repr

/-- What happens next in a run. -/
inductive Choice
  /-- The controller goes on; if it gathers a document, the one with this number among those that
  can be gathered. -/
  | controller (pick : Nat)
  /-- The document with this number among those started goes on. -/
  | worker (index : Nat)
  /-- The run is asked to end. -/
  | shutdown
  /-- Time passes. -/
  | pass (nanoseconds : Nat)
  deriving DecidableEq, Repr

/-- Takes out the document with the given number among those that can be gathered. -/
def takeFinished : Nat → List Task → Option (Option Failure × List Task)
  | _, [] => none
  | pick, task :: rest =>
      match task.stage, pick with
      | .finished fatal, 0 => some (fatal, rest)
      | .finished _, pick + 1 =>
          (takeFinished pick rest).map fun (fatal, rest) => (fatal, task :: rest)
      | _, pick => (takeFinished pick rest).map fun (fatal, rest) => (fatal, task :: rest)

namespace State

/-- The state before the first choice, if there can be so many workers. -/
def initial (setup : Setup) (sink : Sink) : State where
  phase := .dispatching
  waiting := setup.jobs
  tasks := []
  fatal := none
  shutdownRequested := false
  clock := 0
  tally := { total := setup.jobs.length }
  sink := sink
  progress := [.message "extracting", .total setup.jobs.length]
  notices := [.started setup.jobs.length setup.settings.workerCount]

/-- The state in which a run begins. If there cannot be so many workers, it breaks down before
anything is told or said. -/
def launch (setup : Setup) (sink : Sink) : State :=
  if setup.settings.workerCount ≤ maxWorkers then initial setup sink
  else { initial setup sink with phase := .ended .broke, progress := [], notices := [] }

/-- The number of documents in flight. -/
def inFlight (s : State) : Nat := s.tasks.countP Task.isInFlight

/-- Says something. -/
def say (s : State) (notice : Notice) : State := { s with notices := notice :: s.notices }

/-- The state after the last document was gathered: the sink is closed, and the run ends. -/
def conclude (setup : Setup) (s : State) : State :=
  let (sink, outcome) := s.sink.close setup.writer
  let s := { s with sink := sink, progress := .finish :: s.progress }
  match outcome, s.fatal with
  | .brokeDown, _ => { s with phase := .ended .broke }
  | _, some failure => { s with phase := .ended (.failed failure) }
  | .failed fault, none => { s with phase := .ended (.failed (.sink fault)) }
  | .done, none =>
      let summary := s.tally.summary setup.skipped (s.clock / millisecond)
      { s with phase := .ended (.finished summary) }.say
        (.finished summary.completed summary.total summary.failed summary.recordsWritten)

/-- Gathers a document, if one can be gathered, while no more are started. -/
def gather (s : State) (pick : Nat) : Option State :=
  match takeFinished pick s.tasks with
  | none => none
  | some (none, tasks) => some { s with tasks := tasks }
  | some (some failure, tasks) =>
      some ({ s with tasks := tasks, fatal := s.fatal.or (some failure) }.say
        (.joinedFailure failure))

/-- Gives up on the documents that are still in flight. -/
def abandon (setup : Setup) (s : State) : State :=
  let timeout := setup.settings.drainTimeout
  let failure := s.fatal.getD (.drainTimeout timeout s.tasks.length)
  { s with phase := .ended (.failed failure), progress := .finish :: s.progress }.say
    (.abandoned s.tasks.length timeout)

/-- What the controller does next, if it can do anything. While documents are started, a request to
end comes first, then documents that have ended, and then the next document. -/
def controllerStep (setup : Setup) (s : State) (pick : Nat) : Option State :=
  match s.phase with
  | .ended _ => none
  | .dispatching =>
      match s.waiting with
      | [] => some { s with phase := .joining }
      | job :: rest =>
          if s.shutdownRequested then
            some ({ s with phase := .draining s.clock }.say .shutdownRequested)
          else if s.tasks.any Task.isFinished then
            match takeFinished pick s.tasks with
            | none => none
            | some (none, tasks) => some { s with tasks := tasks }
            | some (some failure, tasks) =>
                some ({ s with
                  tasks := tasks
                  fatal := some failure
                  phase := .draining s.clock }.say (.dispatchStopped failure))
          else if s.inFlight < setup.settings.workerCount then
            some { s with waiting := rest, tasks := s.tasks ++ [⟨job, .extracting⟩] }
          else none
  | .draining since =>
      if s.tasks.isEmpty then some (s.conclude setup)
      else if s.tasks.any Task.isFinished then s.gather pick
      else if since + setup.settings.drainTimeout ≤ s.clock then some (s.abandon setup)
      else none
  | .joining => if s.tasks.isEmpty then some (s.conclude setup) else s.gather pick

/-- Gives a document another stage. -/
def setStage (s : State) (index : Nat) (task : Task) (stage : Stage) : State :=
  { s with tasks := s.tasks.set index { task with stage := stage } }

/-- Writes the next record of a document, if anything is left of its sentence. -/
def writeNext (setup : Setup) (s : State) (index : Nat) (task : Task) (r : Record)
    (left : List Record) : State :=
  match Sentence.emitted? r.sentence.toList with
  | none => s.setStage index task (.writing left)
  | some sentence =>
      let (sink, outcome) := s.sink.append setup.writer ⟨r.key, String.ofList sentence⟩
      let stage : Stage := match outcome with
        | .done => .counting r.key left
        | .failed fault => .ended (.fatal (.sink fault))
        | .brokeDown => .ended (.broke "writer")
      { s with sink := sink }.setStage index task stage

/-- Counts a document that has ended. -/
def count (s : State) (index : Nat) (task : Task) (outcome : Outcome) : State :=
  let path := task.job.document.path
  match outcome with
  | .done => { s with tally := s.tally.recordSuccess }.setStage index task (.counted none)
  | .failed failure =>
      ({ s with tally := s.tally.recordFailure path }.setStage index task (.counted none)).say
        (.documentSkipped path failure)
  | .broke reason =>
      ({ s with tally := s.tally.recordFailure path }.setStage index task (.counted none)).say
        (.documentBroke path reason)
  | .fatal failure =>
      { s with tally := s.tally.recordFailure path }.setStage index task (.counted (some failure))

/-- What a document does next, if it can do anything. -/
def workerStep (setup : Setup) (s : State) (index : Nat) : Option State :=
  match s.tasks[index]? with
  | none => none
  | some task =>
      match task.stage with
      | .extracting =>
          let stage : Stage := match task.job.extracted with
            | .records records => .writing records
            | .failed failure =>
                .ended (if failure.isFatal then .fatal (.contractViolation failure)
                  else .failed failure)
            | .broke reason => .ended (.broke reason)
          some (s.setStage index task stage)
      | .writing [] => some (s.setStage index task (.ended .done))
      | .writing (r :: left) => some (s.writeNext setup index task r left)
      | .counting key left =>
          some ({ s with tally := s.tally.recordWritten key }.setStage index task (.writing left))
      | .ended outcome => some (s.count index task outcome)
      | .counted fatal =>
          some ({ s with progress := .step :: s.progress }.setStage index task (.reported fatal))
      | .reported fatal => some (s.setStage index task (.released fatal))
      | .released fatal => some (s.setStage index task (.finished fatal))
      | .finished _ => none

/-- Whether a run has ended. -/
def hasEnded (s : State) : Bool :=
  match s.phase with
  | .ended _ => true
  | _ => false

/-- The state that a choice leads to, if there is that choice. A run that has ended goes on
no more. -/
def step (setup : Setup) (s : State) (choice : Choice) : Option State :=
  if s.hasEnded then none
  else match choice with
    | .controller pick => s.controllerStep setup pick
    | .worker index => s.workerStep setup index
    | .shutdown => some { s with shutdownRequested := true }
    | .pass nanoseconds => some { s with clock := s.clock + nanoseconds }

/-- The state that some choices lead to, one after the other. -/
def steps (setup : Setup) (s : State) (choices : List Choice) : Option State :=
  choices.foldlM (step setup) s

/-- How a run ended, if it has. -/
def ending? (s : State) : Option Ending :=
  match s.phase with
  | .ended ending => some ending
  | _ => none

end State

end DocSentences.Run
