import DocSentences.Proofs.Run.Account

/-!
# Every choice is a move

A choice that leads a run on is one of the moves of its account, and the account of the state that
it leads to remembers what the move added. So each run has an account.
-/

namespace DocSentences.Run

/-! ## Documents by number -/

/-- The document with a given number among those not gathered has an entry, and a change to it is a
change of that entry. -/
theorem exists_entry_of_getElem? {entries : List Entry} {index : Nat} {task : Task}
    (h : (live entries)[index]? = some task) :
    ∃ before e after, entries = before ++ e :: after ∧ e.gathered = false ∧ e.task = task ∧
      ∀ e' : Entry, e'.gathered = false →
        (live entries).set index e'.task = live (before ++ e' :: after) := by
  -- by induction on the documents; those gathered do not count for the index
  induction entries generalizing index with
  | nil => simp at h
  | cons first rest ih =>
      cases hgathered : first.gathered with
      | true =>
          rw [live_cons_of_gathered hgathered] at h ⊢
          obtain ⟨before, e, after, rfl, hlive, htask, hset⟩ := ih h
          refine ⟨first :: before, e, after, rfl, hlive, htask, ?_⟩
          intro e' he'
          rw [hset e' he', List.cons_append, live_cons_of_gathered hgathered]
      | false =>
          rw [live_cons hgathered] at h ⊢
          cases index with
          | zero =>
              refine ⟨[], first, rest, rfl, hgathered, by simpa using h, ?_⟩
              intro e' he'
              rw [List.nil_append, live_cons he', List.set_cons_zero]
          | succ index =>
              obtain ⟨before, e, after, rfl, hlive, htask, hset⟩ := ih (by simpa using h)
              refine ⟨first :: before, e, after, rfl, hlive, htask, ?_⟩
              intro e' he'
              rw [List.set_cons_succ, hset e' he', List.cons_append, live_cons hgathered]

/-- A document that is taken out has an entry, which stays and is marked. -/
theorem exists_entry_of_takeFinished {entries : List Entry} {pick : Nat}
    {fatal : Option Failure} {tasks : List Task}
    (h : takeFinished pick (live entries) = some (fatal, tasks)) :
    ∃ before e after, entries = before ++ e :: after ∧ e.gathered = false ∧
      e.stage = .finished fatal ∧
      tasks = live (before ++ { e with gathered := true } :: after) := by
  induction entries generalizing pick tasks with
  | nil => simp [takeFinished] at h
  | cons first rest ih =>
      -- the document is found further on
      have hlater : ∀ {pick : Nat} {tasks : List Task},
          takeFinished pick (live rest) = some (fatal, tasks) →
          ∃ before e after, first :: rest = before ++ e :: after ∧ e.gathered = false ∧
            e.stage = .finished fatal ∧
            live [first] ++ tasks = live (before ++ { e with gathered := true } :: after) := by
        intro pick tasks htake
        obtain ⟨before, e, after, rfl, hlive, hstage, rfl⟩ := ih htake
        exact ⟨first :: before, e, after, rfl, hlive, hstage, (live_append [first] _).symm⟩
      cases hgathered : first.gathered with
      | true =>
          rw [live_cons_of_gathered hgathered] at h
          obtain ⟨before, e, after, hentries, hlive, hstage, htasks⟩ := hlater h
          rw [live_cons_of_gathered hgathered, live_nil, List.nil_append] at htasks
          exact ⟨before, e, after, hentries, hlive, hstage, htasks⟩
      | false =>
          rw [live_cons hgathered] at h
          unfold takeFinished at h
          split at h
          · next own hown =>
            cases h
            exact ⟨[], first, rest, rfl, hgathered, hown, by
              rw [List.nil_append, live_cons_of_gathered rfl]⟩
          all_goals
            obtain ⟨⟨found, left⟩, htake, heq⟩ := Option.map_eq_some_iff.mp h
            cases heq
            obtain ⟨before, e, after, hentries, hlive, hstage, htasks⟩ := hlater htake
            rw [live_cons hgathered, live_nil, List.singleton_append] at htasks
            exact ⟨before, e, after, hentries, hlive, hstage, htasks⟩

theorem isFinished_iff (t : Task) : t.isFinished = true ↔ ∃ fatal, t.stage = .finished fatal := by
  cases hstage : t.stage <;> simp [Task.isFinished, hstage]

/-! ## Documents that go on -/

/-- The row for a record is the sentence that is emitted. -/
theorem rowOf?_eq (r : Record) :
    rowOf? r = (Sentence.emitted? r.sentence.toList).map fun kept =>
      ⟨r.key, String.ofList kept⟩ := by
  simp only [rowOf?, Sentence.emitted?]
  split <;> rfl

namespace State

theorem count_eq (s : State) (index : Nat) (task : Task) (outcome : Outcome) :
    s.count index task outcome =
      { s with
        tasks := s.tasks.set index { task with stage := .counted outcome.fatal? }
        tally := s.tally.recordOutcome task.job.document.path outcome
        notices := outcome.notices task.job.document.path ++ s.notices } := by
  cases outcome <;> rfl

end State

/-- Writing the next record is one of three moves, or the record is dropped. -/
theorem exists_work_of_writeNext {setup : Setup} {a : Account} {e : Entry} {r : Record}
    {left : List Record} (index : Nat) (hstage : e.stage = .writing (r :: left)) :
    ∃ e' b, Work setup e a e' b ∧ e'.gathered = e.gathered ∧
      a.state.writeNext setup index e.task r left =
        { b.state with tasks := a.state.tasks.set index e'.task } := by
  have hrow := rowOf?_eq r
  unfold State.writeNext
  cases hkept : Sentence.emitted? r.sentence.toList with
  | none =>
      rw [hkept, Option.map_none] at hrow
      exact ⟨_, _, .dropped hstage hrow, rfl, rfl⟩
  | some kept =>
      rw [hkept, Option.map_some] at hrow
      dsimp only
      cases hsink : a.state.sink.append setup.writer ⟨r.key, String.ofList kept⟩ with
      | mk sink outcome =>
          cases outcome with
          | done => exact ⟨_, _, .appended hstage hrow hsink, rfl, rfl⟩
          | failed fault => exact ⟨_, _, .refused hstage hrow hsink, rfl, rfl⟩
          | brokeDown => exact ⟨_, _, .broke hstage hrow hsink, rfl, rfl⟩

/-- Every step of a worker is work on one document. -/
theorem exists_work_of_workerStep {setup : Setup} {a : Account} {e : Entry} {index : Nat}
    {s : State} (htask : a.state.tasks[index]? = some e.task)
    (h : a.state.workerStep setup index = some s) :
    ∃ e' b, Work setup e a e' b ∧ e'.gathered = e.gathered ∧
      s = { b.state with tasks := a.state.tasks.set index e'.task } := by
  have hown : e.task.stage = e.stage := rfl
  simp only [State.workerStep, htask, hown] at h
  cases hstage : e.stage with
  | extracting =>
      rw [hstage] at h
      obtain rfl := Option.some.inj h
      exact ⟨_, _, .extracted hstage, rfl, rfl⟩
  | writing left =>
      rw [hstage] at h
      cases left with
      | nil =>
          obtain rfl := Option.some.inj h
          exact ⟨_, _, .wroteAll hstage, rfl, rfl⟩
      | cons r left =>
          obtain rfl := Option.some.inj h
          exact exists_work_of_writeNext index hstage
  | counting key left =>
      rw [hstage] at h
      obtain rfl := Option.some.inj h
      exact ⟨_, _, .rowCounted hstage, rfl, rfl⟩
  | ended outcome =>
      rw [hstage] at h
      obtain rfl := Option.some.inj h
      exact ⟨_, _, .counted hstage, rfl, State.count_eq _ _ _ _⟩
  | counted fatal =>
      rw [hstage] at h
      obtain rfl := Option.some.inj h
      exact ⟨_, _, .reported hstage, rfl, rfl⟩
  | reported fatal =>
      rw [hstage] at h
      obtain rfl := Option.some.inj h
      exact ⟨_, _, .released hstage, rfl, rfl⟩
  | released fatal =>
      rw [hstage] at h
      obtain rfl := Option.some.inj h
      exact ⟨_, _, .finished hstage, rfl, rfl⟩
  | finished fatal =>
      rw [hstage] at h
      cases h

/-! ## The controller -/

theorem State.hasEnded_iff (s : State) :
    s.hasEnded = true ↔ ∃ ending, s.phase = .ended ending := by
  cases hphase : s.phase <;> simp [State.hasEnded, hphase]

theorem State.hasEnded_eq_false {s : State} {phase : Phase} (hphase : s.phase = phase)
    (hnot : ∀ ending, phase ≠ .ended ending) : s.hasEnded = false := by
  unfold State.hasEnded
  rw [hphase]
  split
  · next ending => exact absurd rfl (hnot ending)
  · rfl

/-- Taking a finished task is a move that gathers its document. -/
theorem exists_move_of_takeFinished (setup : Setup) {a : Account} {pick : Nat}
    {fatal : Option Failure} {tasks : List Task} (htasks : a.state.tasks = live a.entries)
    (hopen : a.state.hasEnded = false)
    (hdispatch : a.state.phase = .dispatching →
      a.state.waiting ≠ [] ∧ a.state.shutdownRequested = false)
    (h : takeFinished pick a.state.tasks = some (fatal, tasks)) :
    ∃ b, b.state = { a.state.heed fatal with tasks := tasks } ∧
      Move setup (.controller pick) a b := by
  obtain ⟨before, e, after, hentries, hgathered, hstage, rfl⟩ :=
    exists_entry_of_takeFinished (htasks ▸ h)
  exact ⟨_, rfl, .gathered pick hopen hdispatch hentries hgathered hstage h⟩

/-- Gathering while no more documents are started. -/
theorem exists_move_of_gather {setup : Setup} {a : Account} {pick : Nat} {s : State}
    (htasks : a.state.tasks = live a.entries) (hopen : a.state.hasEnded = false)
    (hphase : a.state.phase ≠ .dispatching) (h : a.state.gather pick = some s) :
    ∃ b, b.state = s ∧ Move setup (.controller pick) a b := by
  unfold State.gather at h
  split at h
  · cases h
  · next tasks htake =>
    cases h
    exact exists_move_of_takeFinished setup htasks hopen (fun hd => absurd hd hphase) htake
  · next failure tasks htake =>
    cases h
    obtain ⟨b, hb, hmove⟩ := exists_move_of_takeFinished setup htasks hopen
      (fun hd => absurd hd hphase) htake
    refine ⟨b, hb.trans ?_, hmove⟩
    rw [State.heed_of_not_dispatching hphase]
    rfl

/-- Every step of the controller is a move. -/
theorem exists_move_of_controllerStep {setup : Setup} {a : Account} {pick : Nat} {s : State}
    (htasks : a.state.tasks = live a.entries) (h : a.state.controllerStep setup pick = some s) :
    ∃ b, b.state = s ∧ Move setup (.controller pick) a b := by
  unfold State.controllerStep at h
  split at h
  · cases h
  · next hphase =>
    -- while documents are started: there is none left, a request, a finished task, or room
    have hopen := State.hasEnded_eq_false hphase (by simp)
    split at h
    · next hwaiting =>
      cases h
      exact ⟨_, rfl, .dispatched pick hphase hwaiting⟩
    · next job rest hwaiting =>
      have hnonempty : a.state.waiting ≠ [] := by simp [hwaiting]
      split at h
      · next hshutdown =>
        cases h
        exact ⟨_, rfl, .stopped pick hphase hnonempty hshutdown⟩
      · next hshutdown =>
        have hshutdown := Bool.eq_false_iff.mpr hshutdown
        split at h
        · split at h
          · cases h
          · next tasks htake =>
            cases h
            exact exists_move_of_takeFinished setup htasks hopen
              (fun _ => ⟨hnonempty, hshutdown⟩) htake
          · next failure tasks htake =>
            cases h
            obtain ⟨b, hb, hmove⟩ := exists_move_of_takeFinished setup htasks hopen
              (fun _ => ⟨hnonempty, hshutdown⟩) htake
            refine ⟨b, hb.trans ?_, hmove⟩
            rw [State.heed_of_dispatching hphase]
            rfl
        · next hfinished =>
          split at h
          · next hroom =>
            cases h
            exact ⟨_, rfl, .started pick hphase hwaiting hshutdown
              (Bool.eq_false_iff.mpr hfinished) hroom⟩
          · cases h
  · next since hphase =>
    -- while draining: nothing is left, a task is finished, or the time is over
    have hopen := State.hasEnded_eq_false hphase (by simp)
    split at h
    · next hempty =>
      cases h
      exact ⟨_, rfl, .concluded pick (.inr ⟨since, hphase⟩) (List.isEmpty_iff.mp hempty)⟩
    · next hempty =>
      split at h
      · exact exists_move_of_gather htasks hopen (by simp [hphase]) h
      · next hfinished =>
        split at h
        · next hlate =>
          cases h
          exact ⟨_, rfl, .abandoned pick hphase (by simpa using hempty)
            (Bool.eq_false_iff.mpr hfinished) hlate⟩
        · cases h
  · next hphase =>
    have hopen := State.hasEnded_eq_false hphase (by simp)
    split at h
    · next hempty =>
      cases h
      exact ⟨_, rfl, .concluded pick (.inl hphase) (List.isEmpty_iff.mp hempty)⟩
    · exact exists_move_of_gather htasks hopen (by simp [hphase]) h

/-! ## Runs -/

/-- Every choice is a move of the account. -/
theorem exists_move_of_step {setup : Setup} {a : Account} {choice : Choice} {s : State}
    (htasks : a.state.tasks = live a.entries) (h : a.state.step setup choice = some s) :
    ∃ b, b.state = s ∧ Move setup choice a b := by
  unfold State.step at h
  split at h
  · cases h
  · next hopen =>
    have hopen := Bool.eq_false_iff.mpr hopen
    cases choice with
    | controller pick => exact exists_move_of_controllerStep htasks h
    | worker index =>
        dsimp only at h
        cases hindex : a.state.tasks[index]? with
        | none => simp [State.workerStep, hindex] at h
        | some task =>
            obtain ⟨before, e, after, hentries, hgathered, rfl, hset⟩ :=
              exists_entry_of_getElem? (htasks ▸ hindex)
            obtain ⟨e', b, hwork, hsame, rfl⟩ := exists_work_of_workerStep hindex h
            refine ⟨_, ?_, .worked index hopen hentries hgathered hwork hindex⟩
            rw [htasks, hset e' (hsame.trans hgathered)]
            rfl
    | shutdown =>
        cases h
        exact ⟨_, rfl, .requested hopen⟩
    | pass nanoseconds =>
        cases h
        exact ⟨_, rfl, .passed nanoseconds hopen⟩

/-- The documents that the state knows are those not gathered. -/
theorem Move.tasks_eq_live {setup : Setup} {choice : Choice} {a b : Account}
    (hmove : Move setup choice a b) (htasks : a.state.tasks = live a.entries) :
    b.state.tasks = live b.entries := by
  cases hmove with
  | worked => rfl
  | dispatched => exact htasks
  | stopped => exact htasks
  | started =>
      simp only [Account.start, live_append, htasks]
      rfl
  | gathered => rfl
  | concluded => exact (State.tasks_conclude setup _).trans htasks
  | abandoned => exact htasks
  | requested => exact htasks
  | passed => exact htasks

/-- The tasks of a run are its documents that are not gathered yet. -/
theorem Reached.tasks_eq_live {setup : Setup} {sink : Sink} {choices : List Choice}
    {a : Account} (h : Reached setup sink choices a) : a.state.tasks = live a.entries := by
  induction h with
  | initial => rfl
  | move _ _ hmove ih => exact hmove.tasks_eq_live ih

/-- Whether the controller gives up on the documents in flight when it goes on. -/
def State.IsOverdue (setup : Setup) (s : State) : Prop :=
  ∃ since, s.phase = .draining since ∧ s.tasks ≠ [] ∧ s.tasks.any Task.isFinished = false ∧
    since + setup.settings.drainTimeout ≤ s.clock

/-- Only the controller ends a run: it closes the sink, or it gives up on documents in flight. -/
theorem Move.cases_of_ended {setup : Setup} {choice : Choice} {a b : Account}
    (hmove : Move setup choice a b) (hended : b.state.hasEnded = true) :
    (∃ pick, choice = .controller pick) ∧
      ((a.state.phase = .joining ∨ ∃ since, a.state.phase = .draining since) ∧
          a.state.tasks = [] ∧ b = { a with state := a.state.conclude setup } ∨
        a.state.IsOverdue setup ∧ b = { a with state := a.state.abandon setup }) := by
  cases hmove with
  | concluded pick hphase htasks => exact ⟨⟨pick, rfl⟩, .inl ⟨hphase, htasks, rfl⟩⟩
  | abandoned pick hphase htasks hfinished hlate =>
      exact ⟨⟨pick, rfl⟩, .inr ⟨⟨_, hphase, htasks, hfinished, hlate⟩, rfl⟩⟩
  | @worked a b _ _ _ _ _ hopen _ _ hwork =>
      have hsame : b.state.hasEnded = a.state.hasEnded := by
        rw [State.hasEnded, State.hasEnded, hwork.phase_eq]
      cases hended.symm.trans (hsame.trans hopen)
  | dispatched => cases hended
  | stopped => cases hended
  | started _ hphase => simp [State.hasEnded, Account.start, hphase] at hended
  | gathered _ hopen => cases hended.symm.trans (State.hasEnded_heed hopen _)
  | requested hopen => cases hended.symm.trans hopen
  | passed _ hopen => cases hended.symm.trans hopen

/-- Time does not go back. -/
theorem Move.clock_le {setup : Setup} {choice : Choice} {a b : Account}
    (hmove : Move setup choice a b) : a.state.clock ≤ b.state.clock := by
  cases hmove with
  | worked _ _ _ _ hwork => exact Nat.le_of_eq hwork.clock_eq.symm
  | gathered => exact Nat.le_of_eq (a.state.clock_heed _).symm
  | concluded => exact Nat.le_of_eq (State.clock_conclude setup _).symm
  | passed => exact Nat.le_add_right _ _
  | dispatched | stopped | started | abandoned | requested => exact Nat.le_refl _

/-- Choices are followed one after the other. -/
theorem State.steps_append (setup : Setup) (s : State) (before after : List Choice) :
    s.steps setup (before ++ after) = (s.steps setup before).bind (·.steps setup after) := by
  simp only [State.steps, List.foldlM_append]
  rfl

theorem State.steps_concat (setup : Setup) (s : State) (choices : List Choice) (choice : Choice) :
    s.steps setup (choices ++ [choice]) = (s.steps setup choices).bind (·.step setup choice) := by
  rw [steps_append]
  congr 1
  funext after
  simp [State.steps]

theorem Reached.steps_eq {setup : Setup} {sink : Sink} {choices : List Choice} {a : Account}
    (h : Reached setup sink choices a) :
    (State.initial setup sink).steps setup choices = some a.state := by
  induction h with
  | initial => rfl
  | move _ hstep _ ih => rw [State.steps_concat, ih, Option.bind_some, hstep]

/-- Further choices lead an account on. -/
theorem Reached.exists_of_steps {setup : Setup} {sink : Sink} {before after : List Choice}
    {a : Account} {s : State} (hreached : Reached setup sink before a)
    (h : a.state.steps setup after = some s) :
    ∃ b, b.state = s ∧ Reached setup sink (before ++ after) b := by
  induction after generalizing before a with
  | nil =>
      cases h
      exact ⟨a, rfl, by simpa using hreached⟩
  | cons choice after ih =>
      simp only [State.steps, List.foldlM_cons] at h
      obtain ⟨next, hstep, hrest⟩ := Option.bind_eq_some_iff.mp h
      obtain ⟨b, rfl, hmove⟩ := exists_move_of_step hreached.tasks_eq_live hstep
      obtain ⟨c, hc, hfinal⟩ := ih (hreached.move hstep hmove) hrest
      exact ⟨c, hc, by simpa using hfinal⟩

/-- Every run has an account. -/
theorem exists_reached {setup : Setup} {sink : Sink} {choices : List Choice} {s : State}
    (h : (State.initial setup sink).steps setup choices = some s) :
    ∃ a, a.state = s ∧ Reached setup sink choices a :=
  Reached.initial.exists_of_steps h

/-! ## Beginnings -/

/-- There are no choices once a run has ended. -/
theorem State.steps_of_hasEnded {setup : Setup} {choices : List Choice} {s s' : State}
    (hended : s.hasEnded = true) (h : s.steps setup choices = some s') : choices = [] ∧ s' = s := by
  cases choices with
  | nil => exact ⟨rfl, (Option.some.inj h).symm⟩
  | cons choice rest =>
      have hstep : s.step setup choice = none := if_pos hended
      rw [steps, List.foldlM_cons, hstep] at h
      cases h

/-- With as many workers as there can be, a run goes on from its initial state. -/
theorem State.launch_of_le {setup : Setup} (h : setup.settings.workerCount ≤ maxWorkers)
    (sink : Sink) : State.launch setup sink = State.initial setup sink :=
  if_pos h

/-- A run with more workers than there can be breaks down, and nothing has been done in it. -/
theorem State.launch_of_lt {setup : Setup} (h : maxWorkers < setup.settings.workerCount)
    (sink : Sink) :
    State.launch setup sink =
      { State.initial setup sink with phase := .ended .broke, progress := [], notices := [] } :=
  if_neg (Nat.not_le.mpr h)

/-- A run goes on from its initial state, or it breaks down before there is any choice. -/
theorem State.steps_launch_cases {setup : Setup} {sink : Sink} {choices : List Choice} {s : State}
    (h : (State.launch setup sink).steps setup choices = some s) :
    setup.settings.workerCount ≤ maxWorkers ∧
        (State.initial setup sink).steps setup choices = some s ∨
      maxWorkers < setup.settings.workerCount ∧ choices = [] ∧ s = State.launch setup sink := by
  rcases Nat.lt_or_ge maxWorkers setup.settings.workerCount with hcrowded | hroom
  · have hended : (State.launch setup sink).hasEnded = true := by
      rw [State.launch_of_lt hcrowded]
      rfl
    exact .inr ⟨hcrowded, State.steps_of_hasEnded hended h⟩
  · rw [State.launch_of_le hroom] at h
    exact .inl ⟨hroom, h⟩

end DocSentences.Run
