import DocSentences.Run.State

/-!
# Schedules

A schedule makes the choices of a run. This one lets the controller go on whenever it can, and the
document that was started first otherwise; only a document that makes room for another one can be
gathered before the other one is started. A run may be asked to end before it begins or as soon as
no more documents can be started, and documents may stand still until they have been waited for in
vain.
-/

namespace DocSentences.Run

/-- When a run is asked to end. -/
inductive ShutdownTime
  | never
  | atOnce
  /-- Once no more documents can be started. -/
  | whenBusy
  deriving DecidableEq, Repr

/-- How the choices of a run are made. -/
structure Schedule where
  shutdown : ShutdownTime := .never
  /-- Whether documents stand still until the time to wait for them is over. -/
  stalls : Bool := false
  deriving DecidableEq, Repr

/-- Whether a document has made room for another one and cannot be gathered yet. -/
def Task.isReleased (t : Task) : Bool :=
  match t.stage with
  | .released _ => true
  | _ => false

namespace Schedule

/-- Lets the first document go on for which a test holds, if there is one. -/
def first? (s : State) (test : Task → Bool) : Option Choice :=
  (s.tasks.findIdx? test).map .worker

/-- The next choice, if there is one. -/
def next? (schedule : Schedule) (setup : Setup) (s : State) : Option Choice :=
  if s.hasEnded then none
  else if s.tasks.any Task.isReleased then first? s Task.isReleased
  else if schedule.shutdown = .atOnce && !s.shutdownRequested then some .shutdown
  else if (s.controllerStep setup 0).isSome then some (.controller 0)
  else if schedule.shutdown = .whenBusy && !s.shutdownRequested then some .shutdown
  else if schedule.stalls && s.clock = 0 then some (.pass setup.settings.drainTimeout)
  else first? s (!·.isFinished)

/-- Makes choices until there are none, but at most as many as given. -/
def drive (schedule : Schedule) (setup : Setup) : Nat → State → State
  | 0, s => s
  | limit + 1, s =>
      match schedule.next? setup s with
      | none => s
      | some choice =>
          match s.step setup choice with
          | none => s
          | some s => drive schedule setup limit s

/-- The number of choices that a document needs at most. -/
def choicesOf (job : Job) : Nat :=
  match job.extracted with
  | .records records => 2 * records.length + 10
  | _ => 10

/-- The last state of a run. -/
def run (schedule : Schedule) (setup : Setup) (sink : Sink) : State :=
  let limit := setup.jobs.foldl (fun n job => n + choicesOf job) 8
  drive schedule setup limit (State.launch setup sink)

theorem exists_choices_drive (schedule : Schedule) (setup : Setup) (limit : Nat) (s : State) :
    ∃ choices, s.steps setup choices = some (drive schedule setup limit s) := by
  induction limit generalizing s with
  | zero => exact ⟨[], rfl⟩
  | succ limit ih =>
      unfold drive
      split
      · exact ⟨[], rfl⟩
      · next choice hnext =>
        split
        · exact ⟨[], rfl⟩
        · next after hstep =>
          obtain ⟨choices, hsteps⟩ := ih after
          refine ⟨choice :: choices, ?_⟩
          rw [State.steps, List.foldlM_cons, hstep]
          exact hsteps

end Schedule

/-- How a run goes: what the writer behind its sink does, and the state that the choices lead to
which are made. -/
structure Conduct where
  writer : Writer
  run : Setup → State
  isReached : ∀ setup, ∃ choices,
    (State.launch setup (Sink.create setup.writer)).steps setup choices = some (run setup)

/-- A writer that accepts everything, and a run that is not asked to end. -/
def Conduct.plain : Conduct where
  writer := .willing
  run setup := Schedule.run {} setup (Sink.create setup.writer)
  isReached setup := Schedule.exists_choices_drive {} setup _ _

end DocSentences.Run
