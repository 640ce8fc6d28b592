import DocSentences.Proofs.Record.Lifetime
import DocSentences.Proofs.Run.Course
import DocSentences.Proofs.Run.Delivery
import DocSentences.Proofs.Run.Termination

/-!
# Failures on which a run stops

A run has to stop on a document whose extraction breaks the contract, or one of whose rows the sink
refuses. The controller learns of this when it gathers the document. It keeps the first such failure
that it finds, starts no more documents, closes the sink once the others are gathered as well, and
ends the run with that failure, whatever else goes wrong in the meantime.
-/

namespace DocSentences.Run

variable {setup : Setup} {sink : Sink} {choices : List Choice}

/-! ## What happens -/

/-- The failure on which the run has to stop that a document meets when it goes on, if any. -/
def Task.failure? (setup : Setup) (sink : Sink) (t : Task) : Option Failure :=
  match t.stage with
  | .extracting =>
      match t.job.extracted with
      | .failed cause => if cause.isFatal then some (.contractViolation cause) else none
      | .records _ | .broke _ => none
  | .writing (r :: _) =>
      (rowOf? r).bind fun row =>
        match (sink.append setup.writer row).2 with
        | .failed fault => some (.sink fault)
        | .done | .brokeDown => none
  | _ => none

/-- The failure on which the run has to stop that is met by a choice, if any. -/
def State.failure? (setup : Setup) (s : State) : Choice → Option Failure
  | .worker index => s.tasks[index]?.bind (Task.failure? setup s.sink)
  | .controller _ | .shutdown | .pass _ => none

/-- Whether a document met a certain failure on which the run has to stop. -/
def HasFailed (setup : Setup) (sink : Sink) (choices : List Choice) (failure : Failure) : Prop :=
  Occurs setup sink (fun _ s choice => s.failure? setup choice = some failure) choices

/-- Whether the controller gathers a document that met a certain failure. -/
def State.Joins (setup : Setup) (s : State) (choice : Choice) (failure : Failure) : Prop :=
  ∃ pick s', choice = .controller pick ∧ s.step setup choice = some s' ∧
    takeFinished pick s.tasks = some (some failure, s'.tasks)

/-- Whether the controller gathered a document that met a certain failure. -/
def Joined (setup : Setup) (sink : Sink) (choices : List Choice) (failure : Failure) : Prop :=
  Occurs setup sink (fun _ s choice => s.Joins setup choice failure) choices

/-- Whether this is the failure of the first document with one that the controller gathered. -/
def JoinedFirst (setup : Setup) (sink : Sink) (choices : List Choice) (failure : Failure) : Prop :=
  Occurs setup sink (fun before s choice => s.Joins setup choice failure ∧
    ∀ earlier, ¬ Joined setup sink before earlier) choices

/-- Whether the controller gave up on documents in flight. -/
def DrainExpired (setup : Setup) (sink : Sink) (choices : List Choice) : Prop :=
  Occurs setup sink (fun _ s choice => (∃ pick, choice = .controller pick) ∧ s.IsOverdue setup)
    choices

/-! ## Documents that fail -/

/-- The failure on which the run has to stop that a document has met. -/
def Stage.fatal? : Stage → Option Failure
  | .ended outcome => outcome.fatal?
  | .counted fatal | .reported fatal | .released fatal | .finished fatal => fatal
  | .extracting | .writing _ | .counting .. => none

/-- Extraction ends fatally exactly with the failure that the document is about to meet. -/
theorem Job.fatal?_stageAfterExtraction (setup : Setup) (sink : Sink) (job : Job) :
    job.stageAfterExtraction.fatal? = (⟨job, .extracting⟩ : Task).failure? setup sink := by
  unfold stageAfterExtraction Task.failure?
  cases hjob : job.extracted with
  | records | broke => rfl
  | failed cause =>
      cases hfatal : cause.isFatal <;> simp [hfatal, Stage.fatal?, Outcome.fatal?]

/-- A document has a fatal failure after some work if it had it before, or has met it now. -/
theorem Work.fatal?_eq_some_iff {e e' : Entry} {a b : Account} (hwork : Work setup e a e' b)
    (failure : Failure) :
    e'.stage.fatal? = some failure ↔
      e.stage.fatal? = some failure ∨ e.task.failure? setup a.state.sink = some failure := by
  cases hwork with
  | extracted hstage =>
      rw [Entry.advance_stage, Job.fatal?_stageAfterExtraction setup a.state.sink, Entry.task,
        hstage]
      simp [Stage.fatal?]
  | appended hstage hrow hsink | refused hstage hrow hsink | broke hstage hrow hsink =>
      simp [Entry.task, Entry.advance, Task.failure?, Stage.fatal?, Outcome.fatal?, hstage, hrow,
        hsink]
  | dropped hstage hrow => simp [Entry.task, Task.failure?, Stage.fatal?, hstage, hrow]
  | wroteAll hstage | rowCounted hstage | counted hstage | reported hstage | released hstage
  | finished hstage =>
      simp [Entry.task, Task.failure?, Stage.fatal?, Outcome.fatal?, hstage]

theorem exists_mem_append_cons {α : Type} {p : α → Prop} {before after : List α} {x : α} :
    (∃ y ∈ before ++ x :: after, p y) ↔ p x ∨ ∃ y ∈ before ++ after, p y := by
  simp [or_and_right, exists_or, or_left_comm]

/-- What the documents show is what they have met. -/
theorem Reached.hasFailed_iff {a : Account} (h : Reached setup sink choices a)
    (failure : Failure) :
    HasFailed setup sink choices failure ↔ ∃ e ∈ a.entries, e.stage.fatal? = some failure := by
  induction h with
  | initial => simp [HasFailed, not_occurs_nil]
  | @move choices choice a b hreached _ hmove ih =>
      rw [HasFailed, hreached.occurs_concat, ← HasFailed, ih]
      cases hmove with
      | @worked a b before after e e' index _ hentries _ hwork hindex =>
          -- the other documents show what they showed before
          have hown : a.state.failure? setup (.worker index) =
              e.task.failure? setup a.state.sink := by
            rw [State.failure?, hindex, Option.bind_some]
          rw [hown, hentries, Account.withEntries, exists_mem_append_cons, exists_mem_append_cons,
            hwork.fatal?_eq_some_iff]
          exact or_right_comm
      | started =>
          rw [Account.start, exists_mem_append_cons]
          simp [State.failure?, Stage.fatal?]
      | gathered _ _ _ hentries =>
          rw [hentries, Account.withEntries, exists_mem_append_cons, exists_mem_append_cons]
          simp [State.failure?]
      | dispatched | stopped | concluded | abandoned | requested | passed => simp [State.failure?]

/-! ## Documents that are gathered -/

theorem length_of_takeFinished {pick : Nat} {tasks left : List Task} {fatal : Option Failure}
    (h : takeFinished pick tasks = some (fatal, left)) : tasks.length = left.length + 1 := by
  induction tasks generalizing pick left with
  | nil => simp [takeFinished] at h
  | cons task rest ih =>
      unfold takeFinished at h
      split at h
      · cases h
        rfl
      all_goals
        obtain ⟨⟨found, others⟩, htake, heq⟩ := Option.map_eq_some_iff.mp h
        cases heq
        rw [List.length_cons, List.length_cons, ih htake]

/-- A choice after which there are as many documents as before gathers none. -/
theorem State.not_joins {s s' : State} {choice : Choice} (hstep : s.step setup choice = some s')
    (hlength : s.tasks.length ≤ s'.tasks.length) (failure : Failure) :
    ¬ s.Joins setup choice failure := by
  rintro ⟨pick, next, -, hnext, htake⟩
  -- the document that was gathered would be missing
  obtain rfl := Option.some.inj (hstep.symm.trans hnext)
  have hless := length_of_takeFinished htake
  omega

/-- Whether a document that was gathered shows a certain failure. -/
def Account.HasGathered (a : Account) (failure : Failure) : Prop :=
  ∃ e ∈ a.entries, e.gathered = true ∧ e.stage.fatal? = some failure

/-- What the controller finds by a choice: nothing, or a failure on which the run has to stop. -/
structure Finds (setup : Setup) (choice : Choice) (a b : Account) (found : Option Failure) :
    Prop where
  joins : ∀ failure, a.state.Joins setup choice failure ↔ found = some failure
  fatal : b.state.fatal = a.state.fatal.or found
  gathered : ∀ failure, b.HasGathered failure ↔ a.HasGathered failure ∨ found = some failure

/-- A move that gathers no document finds no failure. -/
theorem Finds.of_length_le {choice : Choice} {a b : Account}
    (hstep : a.state.step setup choice = some b.state)
    (hlength : a.state.tasks.length ≤ b.state.tasks.length)
    (hfatal : b.state.fatal = a.state.fatal)
    (hgathered : ∀ failure, b.HasGathered failure ↔ a.HasGathered failure) :
    Finds setup choice a b none where
  joins failure := iff_of_false (State.not_joins hstep hlength failure) (by simp)
  fatal := by rw [hfatal, Option.or_none]
  gathered failure := by simp [hgathered]

/-- The failure of a run is the first that was heeded. -/
theorem State.fatal_heed {s : State} (hdispatching : s.phase = .dispatching → s.fatal = none)
    (fatal : Option Failure) : (s.heed fatal).fatal = s.fatal.or fatal := by
  cases fatal with
  | none => rw [Option.or_none, heed]
  | some failure =>
      by_cases hphase : s.phase = .dispatching
      · rw [heed_of_dispatching hphase, hdispatching hphase, Option.none_or]
        rfl
      · rw [heed_of_not_dispatching hphase]
        rfl

/-- A document is gathered once, and the controller keeps the first failure that it finds. -/
theorem Move.exists_finds {choice : Choice} {a b : Account} (hmove : Move setup choice a b)
    (hstep : a.state.step setup choice = some b.state)
    (htasks : a.state.tasks = live a.entries)
    (hdispatching : a.state.phase = .dispatching → a.state.fatal = none) :
    ∃ found, Finds setup choice a b found := by
  cases hmove with
  | @worked a b before after e e' index _ hentries hgathered hwork =>
      have hgathered' : e'.gathered = false := hwork.gathered_eq.trans hgathered
      refine ⟨none, .of_length_le hstep ?_ hwork.fatal_eq fun failure => ?_⟩
      · rw [htasks, hentries, live_append, live_cons hgathered]
        simp [Account.withEntries, live_cons hgathered']
      · -- a document that goes on has not been gathered
        simp only [Account.HasGathered, Account.withEntries, hentries, exists_mem_append_cons,
          hgathered, hgathered', Bool.false_eq_true, false_and, false_or]
  | started =>
      refine ⟨none, .of_length_le hstep (by simp [Account.start]) rfl fun failure => ?_⟩
      simp only [Account.HasGathered, Account.start, exists_mem_append_cons]
      simp
  | @gathered _ before after e fatal pick _ _ hentries hgathered hstage htake =>
      -- the one move that joins a document finds the failure of that document, if it has one
      refine ⟨fatal, ⟨fun failure => ⟨?_, ?_⟩, State.fatal_heed hdispatching fatal, ?_⟩⟩
      · rintro ⟨other, s', hchoice, -, hown⟩
        cases hchoice
        exact (Prod.ext_iff.mp (Option.some.inj (htake.symm.trans hown))).1
      · rintro rfl
        exact ⟨pick, _, rfl, hstep, htake⟩
      · intro failure
        simp only [Account.HasGathered, Account.withEntries, hentries, exists_mem_append_cons,
          hgathered, hstage, Stage.fatal?, Bool.false_eq_true, false_and, false_or, true_and]
        exact or_comm
  | concluded =>
      exact ⟨none, .of_length_le hstep (Nat.le_of_eq (by rw [State.tasks_conclude]))
        (State.fatal_conclude setup _) fun _ => Iff.rfl⟩
  | dispatched | stopped | abandoned | requested | passed =>
      exact ⟨none, .of_length_le hstep (Nat.le_refl _) rfl fun _ => Iff.rfl⟩

/-- What a choice finds out is what its move gathers. -/
theorem Reached.exists_finds {a b : Account} {choice : Choice} (h : Reached setup sink choices a)
    (hstep : a.state.step setup choice = some b.state) (hmove : Move setup choice a b) :
    ∃ found, Finds setup choice a b found :=
  hmove.exists_finds hstep h.tasks_eq_live h.course.dispatching

/-- The failures that were joined are those of the documents that were gathered. -/
theorem Reached.joined_iff {a : Account} (h : Reached setup sink choices a) (failure : Failure) :
    Joined setup sink choices failure ↔ a.HasGathered failure := by
  induction h with
  | initial => simp [Joined, not_occurs_nil, Account.HasGathered]
  | move hreached hstep hmove ih =>
      obtain ⟨found, hfinds⟩ := hreached.exists_finds hstep hmove
      rw [Joined, hreached.occurs_concat, ← Joined, ih, hfinds.joins, hfinds.gathered]

/-- A run has no failure exactly as long as none was joined. -/
theorem Reached.fatal_eq_none_iff {a : Account} (h : Reached setup sink choices a) :
    a.state.fatal = none ↔ ∀ failure, ¬ Joined setup sink choices failure := by
  induction h with
  | initial => simp [Joined, not_occurs_nil, State.initial]
  | move hreached hstep hmove ih =>
      obtain ⟨found, hfinds⟩ := hreached.exists_finds hstep hmove
      simp only [Joined, hreached.occurs_concat, not_or, forall_and, hfinds.joins]
      rw [hfinds.fatal, Option.or_eq_none_iff, ih, Option.eq_none_iff_forall_ne_some]
      rfl

/-- The controller remembers the failure that it found first. -/
theorem Reached.fatal_eq_some_iff {a : Account} (h : Reached setup sink choices a)
    (failure : Failure) :
    a.state.fatal = some failure ↔ JoinedFirst setup sink choices failure := by
  induction h with
  | initial => simp [JoinedFirst, not_occurs_nil, State.initial]
  | @move choices choice a b hreached hstep hmove ih =>
      obtain ⟨found, hfinds⟩ := hreached.exists_finds hstep hmove
      rw [JoinedFirst, hreached.occurs_concat, ← JoinedFirst, ← ih, hfinds.joins,
        ← hreached.fatal_eq_none_iff, hfinds.fatal, Option.or_eq_some_iff, and_comm]

/-! ## Documents that are not started -/

/-- Documents are started only before the start has stopped, and only by a choice that gathers
none. -/
theorem Move.waiting_cases {choice : Choice} {a b : Account} (hmove : Move setup choice a b) :
    b.state.waiting = a.state.waiting ∨
      a.state.phase = .dispatching ∧ a.state.tasks.length ≤ b.state.tasks.length := by
  cases hmove with
  | worked _ _ _ _ hwork => exact .inl hwork.waiting_eq
  | started _ hphase => exact .inr ⟨hphase, by simp [Account.start]⟩
  | gathered => exact .inl (a.state.waiting_heed _)
  | concluded => exact .inl (State.waiting_conclude setup _)
  | dispatched | stopped | abandoned | requested | passed => exact .inl rfl

/-- Once the controller has found a failure, all documents wait on that waited then. -/
theorem Reached.waiting_eq {a : Account} (h : Reached setup sink choices a) {waiting : List Job}
    (hjoined : Occurs setup sink
      (fun _ s choice => (∃ failure, s.Joins setup choice failure) ∧ s.waiting = waiting) choices) :
    a.state.waiting = waiting := by
  induction h with
  | initial => exact absurd hjoined not_occurs_nil
  | @move choices choice a b hreached hstep hmove ih =>
      rcases (hreached.occurs_concat _ choice).mp hjoined with hbefore | ⟨⟨failure, hjoins⟩, hown⟩
      · -- the controller remembers the failure, so it is not starting documents any more
        have hfound : a.state.fatal ≠ none := by
          obtain ⟨before, own, after, s, hchoices, hsteps, ⟨failure, hjoins⟩, -⟩ := hbefore
          intro hnone
          exact hreached.fatal_eq_none_iff.mp hnone failure
            ⟨before, own, after, s, hchoices, hsteps, hjoins⟩
        rcases hmove.waiting_cases with hsame | ⟨hphase, -⟩
        · rw [hsame, ih hbefore]
        · exact absurd (hreached.course.dispatching hphase) hfound
      · -- the choice by which a document is gathered starts none
        rcases hmove.waiting_cases with hsame | ⟨-, hlength⟩
        · rw [hsame, hown]
        · exact absurd hjoins (State.not_joins hstep hlength failure)

/-! ## The end of a run -/

/-- Work does not break a sink whose writer never breaks down. -/
theorem Work.sink_status_ne_broken {e e' : Entry} {a b : Account} (hwork : Work setup e a e' b)
    (hwriter : setup.writer.NeverBreaksDown) (h : a.state.sink.status ≠ .broken) :
    b.state.sink.status ≠ .broken := by
  cases hwork
  case appended r row left sink _ _ hsink | refused r row left sink _ _ _ hsink
      | broke r row left sink _ _ hsink =>
    have hkept := Sink.append_status_ne_broken hwriter h row
    rwa [hsink] at hkept
  all_goals exact h

/-- No run breaks a sink whose writer never breaks down. -/
theorem Reached.sink_status_ne_broken {a : Account} (h : Reached setup sink choices a)
    (hwriter : setup.writer.NeverBreaksDown) (hsink : sink.status ≠ .broken) :
    a.state.sink.status ≠ .broken := by
  induction h with
  | initial => exact hsink
  | @move _ _ a _ _ _ hmove ih =>
      cases hmove with
      | worked _ _ _ _ hwork => exact hwork.sink_status_ne_broken hwriter ih
      | gathered =>
          rw [Account.withEntries, State.sink_heed]
          exact ih
      | concluded =>
          rw [State.sink_conclude, (Sink.close_status hwriter ih).1]
          simp
      | dispatched | stopped | started | abandoned | requested | passed => exact ih

/-- Unless the controller gave up on documents, a run ends once all of them have been gathered. -/
theorem Reached.exists_of_ended {a : Account} (h : Reached setup sink choices a)
    (hended : a.state.hasEnded = true) (hpatient : ¬ DrainExpired setup sink choices) :
    ∃ before pick b, choices = before ++ [.controller pick] ∧ Reached setup sink before b ∧
      b.state.tasks = [] ∧ a = { b with state := b.state.conclude setup } := by
  cases h with
  | initial => cases hended
  | @move before choice b _ hreached _ hmove =>
      obtain ⟨⟨pick, rfl⟩, ⟨-, htasks, rfl⟩ | ⟨hoverdue, -⟩⟩ := hmove.cases_of_ended hended
      · exact ⟨before, pick, b, rfl, hreached, htasks, rfl⟩
      · exact absurd ((hreached.occurs_concat _ _).mpr (.inr ⟨⟨pick, rfl⟩, hoverdue⟩)) hpatient

/-- A run that has met a failure fails with it, unless closing the sink breaks down. -/
theorem State.conclusion_of_fatal {s : State} {failure : Failure}
    (hclose : (s.sink.close setup.writer).2 ≠ .brokeDown) (hfatal : s.fatal = some failure) :
    s.conclusion setup = .failed failure := by
  unfold conclusion
  rw [hfatal]
  cases houtcome : (s.sink.close setup.writer).2 with
  | done | failed => rfl
  | brokeDown => exact absurd houtcome hclose

theorem State.conclusion_of_done {s : State} (hdone : (s.sink.close setup.writer).2 = .done)
    (hfatal : s.fatal = none) : ∃ summary, s.conclusion setup = .finished summary := by
  unfold conclusion
  rw [hfatal, hdone]
  exact ⟨_, rfl⟩

theorem State.conclusion_of_failed {s : State} {fault : SinkFault}
    (hfailed : (s.sink.close setup.writer).2 = .failed fault) (hfatal : s.fatal = none) :
    s.conclusion setup = .failed (.sink fault) := by
  unfold conclusion
  rw [hfatal, hfailed]

/-- A run that the writer lets come to its end does so well unless something has failed. -/
theorem State.conclusion_cases {s : State}
    (hclose : (s.sink.close setup.writer).2 ≠ .brokeDown) :
    (∃ failure, s.conclusion setup = .failed failure) ∧
        (s.fatal ≠ none ∨ (s.sink.close setup.writer).2 ≠ .done) ∨
      (∃ summary, s.conclusion setup = .finished summary) ∧
        s.fatal = none ∧ (s.sink.close setup.writer).2 = .done := by
  cases hfatal : s.fatal with
  | some failure => exact .inl ⟨⟨failure, conclusion_of_fatal hclose hfatal⟩, .inl (by simp)⟩
  | none =>
      cases houtcome : (s.sink.close setup.writer).2 with
      | done => exact .inr ⟨conclusion_of_done houtcome hfatal, rfl, rfl⟩
      | failed fault =>
          exact .inl ⟨⟨_, conclusion_of_failed houtcome hfatal⟩, .inr (by simp)⟩
      | brokeDown => exact absurd houtcome hclose

/-- When all documents have been gathered, every failure that one of them met has been found. -/
theorem Reached.hasFailed_iff_joined {a : Account} (h : Reached setup sink choices a)
    (htasks : a.state.tasks = []) (failure : Failure) :
    HasFailed setup sink choices failure ↔ Joined setup sink choices failure := by
  have hgathered := gathered_of_live_eq_nil (h.tasks_eq_live.symm.trans htasks)
  rw [h.hasFailed_iff, h.joined_iff]
  exact exists_congr fun e => and_congr_right fun he => by simp [hgathered e he]

/-- Once all documents are gathered, a run has no failure exactly if no document has failed
fatally. -/
theorem Reached.fatal_eq_none_iff_hasFailed {a : Account} (h : Reached setup sink choices a)
    (htasks : a.state.tasks = []) :
    a.state.fatal = none ↔ ∀ failure, ¬ HasFailed setup sink choices failure := by
  rw [h.fatal_eq_none_iff]
  exact forall_congr' fun failure => not_congr (h.hasFailed_iff_joined htasks failure).symm

/-- Once all documents are gathered, a run fails exactly for a document or for its sink. -/
theorem Reached.conclusion_failed_iff {a : Account} (h : Reached setup sink choices a)
    (htasks : a.state.tasks = []) (hclose : (a.state.sink.close setup.writer).2 ≠ .brokeDown) :
    (∃ failure, a.state.conclusion setup = .failed failure) ↔
      (∃ failure, HasFailed setup sink choices failure) ∨
        (a.state.sink.close setup.writer).2 ≠ .done := by
  have hfailed := h.fatal_eq_none_iff_hasFailed htasks
  rcases State.conclusion_cases hclose with ⟨hends, hreason⟩ | ⟨⟨summary, hown⟩, hnone, hdone⟩
  · refine iff_of_true hends (hreason.imp_left fun hfound => ?_)
    by_contra hnot
    exact hfound (hfailed.mpr (not_exists.mp hnot))
  · simp [hown, hdone, hfailed.mp hnone]

/-- If a document has failed, then it does not matter whether the sink closes well. -/
theorem Reached.exists_conclusion_of_hasFailed {a : Account} (h : Reached setup sink choices a)
    (htasks : a.state.tasks = []) (hclose : (a.state.sink.close setup.writer).2 ≠ .brokeDown)
    {failure : Failure} (hmet : HasFailed setup sink choices failure) :
    ∃ first, JoinedFirst setup sink choices first ∧
      a.state.conclusion setup = .failed first := by
  have hfound : a.state.fatal ≠ none := fun hnone =>
    (h.fatal_eq_none_iff_hasFailed htasks).mp hnone failure hmet
  obtain ⟨first, hfatal⟩ := Option.ne_none_iff_exists'.mp hfound
  exact ⟨first, (h.fatal_eq_some_iff first).mp hfatal, State.conclusion_of_fatal hclose hfatal⟩

/-- A step of the controller lets no document fail. -/
theorem Reached.hasFailed_concat_controller {a : Account} (h : Reached setup sink choices a)
    (pick : Nat) (failure : Failure) :
    HasFailed setup sink (choices ++ [.controller pick]) failure ↔
      HasFailed setup sink choices failure := by
  rw [HasFailed, h.occurs_concat]
  simp [State.failure?, HasFailed]

/-- A controller that gave up has waited for as long as it may. -/
theorem Reached.drainTimeout_le {a : Account} (h : Reached setup sink choices a)
    (hexpired : DrainExpired setup sink choices) :
    setup.settings.drainTimeout ≤ a.state.clock := by
  induction h with
  | initial => exact absurd hexpired not_occurs_nil
  | @move choices choice a b hreached _ hmove ih =>
      refine Nat.le_trans ?_ hmove.clock_le
      rcases (hreached.occurs_concat _ choice).mp hexpired with hbefore | ⟨-, since, -, -, -, hlate⟩
      · exact ih hbefore
      · exact Nat.le_trans (Nat.le_add_left _ _) hlate

/-- Until a run has ended something can be done for which the controller need not give up. -/
theorem Reached.exists_advance {a : Account} (h : Reached setup sink choices a)
    (hpatient : ¬ DrainExpired setup sink choices) (hworkers : 1 ≤ setup.settings.workerCount)
    (hopen : a.state.hasEnded = false) :
    ∃ choice, choice.advances = true ∧ (a.state.step setup choice).isSome = true ∧
      ¬ DrainExpired setup sink (choices ++ [choice]) := by
  obtain ⟨choice, hadvances, hsome, hprompt⟩ := State.exists_advance_of_not_isOverdue hopen hworkers
  refine ⟨choice, hadvances, hsome, fun hexpired => ?_⟩
  rcases (h.occurs_concat _ choice).mp hexpired with hbefore | ⟨hpick, hoverdue⟩
  · exact hpatient hbefore
  · exact hprompt hpick hoverdue

/-- A run in which the controller does not give up on documents, and whose writer may refuse what it
is given but does not break down, swallows no failure. It can always go on until it has ended. Once
the controller has found a failure, it starts no document. When the run ends, its sink is closed,
and the run ends with a failure exactly if a document met one on which the run has to stop, or the
sink did not close well; the failure that the controller found first comes before all others. -/
theorem ending_of_run (setup : Setup) (sink : Sink) (choices : List Choice) (s : State)
    (hwriter : setup.writer.NeverBreaksDown) (hsink : sink.status ≠ .broken)
    (hrun : (State.initial setup sink).steps setup choices = some s)
    (hpatient : ¬ DrainExpired setup sink choices) :
    choices.countP Choice.advances ≤ setup.effort ∧
      (1 ≤ setup.settings.workerCount → s.hasEnded = false →
        ∃ choice, choice.advances = true ∧ (s.step setup choice).isSome = true ∧
          ¬ DrainExpired setup sink (choices ++ [choice])) ∧
      (∀ before choice after mid failure, choices = before ++ choice :: after →
        (State.initial setup sink).steps setup before = some mid →
        mid.Joins setup choice failure → s.waiting = mid.waiting) ∧
      (s.hasEnded = true →
        ∃ before pick last, choices = before ++ [.controller pick] ∧
          (State.initial setup sink).steps setup before = some last ∧ last.tasks = [] ∧
          s.sink = (last.sink.close setup.writer).1 ∧ s.sink.status = .closed ∧
          ((∃ failure, s.ending? = some (.failed failure)) ∨
            ∃ summary, s.ending? = some (.finished summary)) ∧
          ((∃ failure, s.ending? = some (.failed failure)) ↔
            (∃ failure, HasFailed setup sink choices failure) ∨
              (last.sink.close setup.writer).2 ≠ .done) ∧
          ∀ failure, HasFailed setup sink choices failure →
            ∃ first, JoinedFirst setup sink choices first ∧
              s.ending? = some (.failed first)) := by
  obtain ⟨a, rfl, hreached⟩ := exists_reached hrun
  refine ⟨countP_advances_le hrun, hreached.exists_advance hpatient, ?_, ?_⟩
  · intro before choice after mid failure hchoices hmid hjoins
    exact hreached.waiting_eq ⟨before, choice, after, mid, hchoices, hmid, ⟨failure, hjoins⟩, rfl⟩
  · intro hended
    -- the last choice concludes the run after all documents were gathered
    obtain ⟨before, pick, b, rfl, hbefore, htasks, rfl⟩ := hreached.exists_of_ended hended hpatient
    have hunbroken := hbefore.sink_status_ne_broken hwriter hsink
    obtain ⟨hclosed, hclose⟩ := Sink.close_status hwriter hunbroken
    refine ⟨before, pick, b.state, rfl, hbefore.steps_eq, htasks, State.sink_conclude setup _,
      (congrArg Sink.status (State.sink_conclude setup _)).trans hclosed, ?_⟩
    simp only [State.ending?_conclude, Option.some.injEq, hbefore.hasFailed_concat_controller]
    refine ⟨?_, hbefore.conclusion_failed_iff htasks hclose, ?_⟩
    · exact (State.conclusion_cases hclose).imp And.left And.left
    · intro failure hmet
      obtain ⟨first, hfirst, hown⟩ := hbefore.exists_conclusion_of_hasFailed htasks hclose hmet
      exact ⟨first, (hbefore.occurs_concat _ _).mpr (.inl hfirst), hown⟩

/-- A run of three documents. The extraction of the first two breaks the contract, and nothing can
be written. -/
def brokenContract : Setup where
  settings := { workerCount := 2 }
  jobs := [⟨⟨.ofString "A.java", .structured, "A"⟩, .failed (.unknownElement "table")⟩,
    ⟨⟨.ofString "B.java", .structured, "B"⟩, .failed (.unknownElement "image")⟩,
    ⟨⟨.ofString "C.java", .structured, "C"⟩, .records [⟨"C", "A sentence."⟩]⟩]
  skipped := 0
  writer := .bounded (some 0) none

/-- Choices that lead this run to its end. It is asked to end once the first document has been
gathered. -/
def brokenContractChoices : List Choice :=
  [.controller 0, .controller 0, .worker 0, .worker 1, .worker 1, .worker 1, .worker 1, .worker 1,
    .controller 0, .shutdown, .pass 1000, .worker 0, .worker 0, .worker 0, .worker 0, .controller 0,
    .controller 0]

/-- A document that breaks its contract fails the run. -/
theorem brokenContract_ending :
    let setup := brokenContract
    let sink := Sink.create setup.writer
    ∃ s, setup.writer.NeverBreaksDown ∧ sink.status ≠ .broken ∧
      (State.initial setup sink).steps setup brokenContractChoices = some s ∧
      ¬ DrainExpired setup sink brokenContractChoices ∧ s.hasEnded = true ∧
      HasFailed setup sink brokenContractChoices (.contractViolation (.unknownElement "table")) ∧
      ∃ first, JoinedFirst setup sink brokenContractChoices first ∧
        s.ending? = some (.failed first) := by
  intro setup sink
  have hwriter : setup.writer.NeverBreaksDown := Writer.bounded_neverBreaksDown (some 0)
  have hsink : sink.status ≠ .broken := by decide +kernel
  have hends : ((State.initial setup sink).steps setup brokenContractChoices).map
      (fun s => (s.hasEnded, s.clock)) = some (true, 1000) := by
    decide +kernel
  obtain ⟨s, hrun, hs⟩ := Option.map_eq_some_iff.mp hends
  obtain ⟨hended, hclock⟩ := Prod.mk.inj hs
  have hpatient : ¬ DrainExpired setup sink brokenContractChoices := by
    obtain ⟨a, rfl, hreached⟩ := exists_reached hrun
    intro hexpired
    have hlate := hreached.drainTimeout_le hexpired
    rw [hclock] at hlate
    exact absurd hlate (by decide)
  have hfailed : HasFailed setup sink brokenContractChoices
      (.contractViolation (.unknownElement "table")) := by
    have hmeets : ((State.initial setup sink).steps setup [.controller 0, .controller 0]).bind
        (·.failure? setup (.worker 0)) = some (.contractViolation (.unknownElement "table")) := by
      decide +kernel
    obtain ⟨mid, hmid, hfailure⟩ := Option.bind_eq_some_iff.mp hmeets
    exact ⟨_, _, _, mid, rfl, hmid, hfailure⟩
  obtain ⟨-, -, -, hending⟩ := ending_of_run setup sink _ s hwriter hsink hrun hpatient
  obtain ⟨-, -, -, -, -, -, -, -, -, -, hfirst⟩ := hending hended
  exact ⟨s, hwriter, hsink, hrun, hpatient, hended, hfailed, hfirst _ hfailed⟩

end DocSentences.Run
