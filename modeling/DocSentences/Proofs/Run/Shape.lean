import DocSentences.Proofs.Run.Delivery
import DocSentences.Proofs.Run.Occurrence
import DocSentences.Proofs.Sentence.Sanitized
import Mathlib.Data.List.Forall2

/-!
# The shape of rows

Whoever goes on when, and however a run ends, every row that is offered to the sink is what is left
of the sentence of a record, and a record is left out exactly if too little is left of its sentence.
Documents deal with their records in order.
-/

namespace DocSentences.Run

variable {setup : Setup} {sink : Sink} {choices : List Choice}

/-! ## Records and rows -/

/-- The records that extracting a document gives. -/
def Job.records (job : Job) : List Record :=
  match job.extracted with
  | .records records => records
  | .failed _ | .broke _ => []

/-- Too little is left of the sentence of a record to be written. -/
def LeavesNothing (r : Record) : Prop :=
  (Text.trim (Sentence.sanitize r.sentence.toList)).length < 2

/-- A row is what is left of a record. -/
structure LeavesRow (r row : Record) : Prop where
  key : row.key = r.key
  sentence : row.sentence.toList = Text.trim (Sentence.sanitize r.sentence.toList)
  written : Sentence.IsWritten r.sentence.toList row.sentence.toList

/-- Rows are what is left of some records, in their order. -/
inductive LeaveRows : List Record → List Record → Prop
  | nil : LeaveRows [] []
  | leftOut {r : Record} {records rows : List Record} :
      LeavesNothing r → LeaveRows records rows → LeaveRows (r :: records) rows
  | row {r row : Record} {records rows : List Record} :
      LeavesRow r row → LeaveRows records rows → LeaveRows (r :: records) (row :: rows)

/-- Some rows are what the first records of a document have left, and what all of them have left if
the document is complete. -/
def Job.LeavesRows (job : Job) (complete : Prop) (rows : List Record) : Prop :=
  ∃ past left, job.records = past ++ left ∧ LeaveRows past rows ∧ (complete → left = [])

theorem Job.records_of_extracted {job : Job} {records : List Record}
    (h : job.extracted = .records records) : job.records = records := by
  simp only [Job.records, h]

/-- The rows of a document are those that its records leave. -/
theorem Job.rows_eq (job : Job) : job.rows = job.records.filterMap rowOf? := by
  unfold Job.rows Job.records
  cases job.extracted <;> rfl

/-- A record has no row exactly if it leaves nothing. -/
theorem rowOf?_eq_none_iff (r : Record) : rowOf? r = none ↔ LeavesNothing r := by
  unfold rowOf? LeavesNothing
  dsimp only
  rw [Sentence.isEmittable_trim]
  split
  next hlong =>
    refine ⟨nofun, fun hshort => absurd (of_decide_eq_true hlong) ?_⟩
    exact Nat.not_le.mpr hshort
  next hshort =>
    refine ⟨fun _ => Nat.not_le.mp fun hlong => hshort ?_, fun _ => rfl⟩
    exact decide_eq_true hlong

/-- The row of a record is what the record leaves. -/
theorem leavesRow_of_rowOf? {r row : Record} (h : rowOf? r = some row) : LeavesRow r row := by
  unfold rowOf? at h
  dsimp only at h
  rw [Sentence.isEmittable_trim] at h
  split at h
  next hlong =>
    obtain rfl := Option.some.inj h
    have hwritten := Sentence.isWritten_trim_sanitize (of_decide_eq_true hlong)
    exact ⟨rfl, String.toList_ofList, by rwa [String.toList_ofList]⟩
  next => cases h

theorem leaveRows_filterMap (records : List Record) :
    LeaveRows records (records.filterMap rowOf?) := by
  induction records with
  | nil => exact .nil
  | cons r records ih =>
      cases hrow : rowOf? r with
      | none =>
          rw [List.filterMap_cons_none hrow]
          exact .leftOut ((rowOf?_eq_none_iff r).mp hrow) ih
      | some row =>
          rw [List.filterMap_cons_some hrow]
          exact .row (leavesRow_of_rowOf? hrow) ih

/-- Every row is left by one of the records. -/
theorem LeaveRows.exists_record {records rows : List Record} (h : LeaveRows records rows)
    {row : Record} (hrow : row ∈ rows) : ∃ r ∈ records, LeavesRow r row := by
  induction h with
  | nil => cases hrow
  | leftOut _ _ ih =>
      obtain ⟨r, hr, hleaves⟩ := ih hrow
      exact ⟨r, List.mem_cons_of_mem _ hr, hleaves⟩
  | @row r own _ _ hleaves _ ih =>
      rcases List.mem_cons.mp hrow with rfl | hmem
      · exact ⟨r, List.mem_cons_self, hleaves⟩
      · obtain ⟨r, hr, hleaves⟩ := ih hmem
        exact ⟨r, List.mem_cons_of_mem _ hr, hleaves⟩

/-! ## What documents have dealt with -/

/-- The rows that the sink took from a document are those of some of its first records. -/
def Entry.IsPartial (e : Entry) : Prop :=
  ∃ past left, e.job.records = past ++ left ∧ e.written = past.filterMap rowOf?

/-- Work keeps the rows of a document to what its records have left so far. -/
theorem Work.isPartial {e e' : Entry} {a b : Account} (hwork : Work setup e a e' b)
    (hsound : e.Sound) (h : e.IsPartial) : e'.IsPartial := by
  cases hwork
  case appended r row left sink hstage hrow _ =>
    obtain ⟨past, hjob, hwritten, -⟩ := hsound.at hstage
    refine ⟨past ++ [r], left, ?_, ?_⟩
    · rw [Entry.advance_job, Job.records_of_extracted hjob, List.append_assoc]
      rfl
    · simp [List.filterMap_append, hrow, hwritten]
  all_goals exact h

/-- What is true of a document that has just been started, and is kept whenever it goes on or is
gathered, is true of every document at any time. -/
theorem Reached.forall_mem_entries {property : Entry → Prop} {a : Account}
    (h : Reached setup sink choices a) (hstarted : ∀ job, property { job := job })
    (hworked : ∀ {e e' : Entry} {a b : Account}, Work setup e a e' b → e.Sound → property e →
      property e')
    (hgathered : ∀ e, property e → property { e with gathered := true }) :
    ∀ e ∈ a.entries, property e := by
  induction h with
  | initial => exact fun e he => absurd he List.not_mem_nil
  | @move choices choice a b hreached _ hmove ih =>
      cases hmove with
      | @worked a b before after e e' _ _ hentries _ hwork =>
          have hmem : e ∈ a.entries := by simp [hentries]
          intro other hother
          rcases mem_of_mem_replace hother with rfl | hold
          · exact hworked hwork (hreached.ledger.sound e hmem) (ih e hmem)
          · exact ih other (hentries ▸ hold)
      | started =>
          intro e he
          rcases List.mem_append.mp he with hold | hnew
          · exact ih e hold
          · exact List.mem_singleton.mp hnew ▸ hstarted _
      | @gathered _ before after e _ _ _ _ hentries =>
          intro other hother
          rcases mem_of_mem_replace hother with rfl | hold
          · exact hgathered e (ih e (by simp [hentries]))
          · exact ih other (hentries ▸ hold)
      | dispatched | stopped | concluded | abandoned | requested | passed => exact ih

/-- The rows of every document are what its records have left so far. -/
theorem Reached.isPartial {a : Account} (h : Reached setup sink choices a) :
    ∀ e ∈ a.entries, e.IsPartial :=
  h.forall_mem_entries (fun job => ⟨[], job.records, rfl, rfl⟩) Work.isPartial fun _ he => he

/-! ## What a choice does to the sink -/

/-- The record that a document deals with when it goes on, if it deals with one. -/
def Task.dealsWith? (t : Task) : Option Record :=
  match t.stage with
  | .writing (r :: _) => some r
  | _ => none

/-- The record that is dealt with by a choice, if one is. -/
def State.dealsWith? (s : State) : Choice → Option Record
  | .worker index => s.tasks[index]?.bind Task.dealsWith?
  | .controller _ | .shutdown | .pass _ => none

/-- What dealing with a record does to a sink: nothing if the record is left out, and otherwise its
row is offered to the sink, which may refuse it. -/
inductive Deals (setup : Setup) (r : Record) (sink : Sink) : Sink → Prop
  | leftOut : LeavesNothing r → Deals setup r sink sink
  | offered {row : Record} : LeavesRow r row → Deals setup r sink (sink.append setup.writer row).1

theorem Deals.of_append {r row : Record} {sink after : Sink} {outcome : SinkOutcome}
    (hrow : rowOf? r = some row) (hsink : sink.append setup.writer row = (after, outcome)) :
    Deals setup r sink after := by
  have hafter : after = (sink.append setup.writer row).1 := by rw [hsink]
  rw [hafter]
  exact .offered (leavesRow_of_rowOf? hrow)

/-- Work on a record deals with it. -/
theorem Work.deals {e e' : Entry} {a b : Account} (hwork : Work setup e a e' b) {r : Record}
    (hdeals : e.task.dealsWith? = some r) : Deals setup r a.state.sink b.state.sink := by
  cases hwork
  case dropped own left hstage hrow =>
    obtain rfl : own = r := by simpa [Entry.task, Task.dealsWith?, hstage] using hdeals
    exact .leftOut ((rowOf?_eq_none_iff own).mp hrow)
  case appended own row left sink hstage hrow hsink =>
    obtain rfl : own = r := by simpa [Entry.task, Task.dealsWith?, hstage] using hdeals
    exact .of_append hrow hsink
  case refused own row left sink fault hstage hrow hsink =>
    obtain rfl : own = r := by simpa [Entry.task, Task.dealsWith?, hstage] using hdeals
    exact .of_append hrow hsink
  case broke own row left sink hstage hrow hsink =>
    obtain rfl : own = r := by simpa [Entry.task, Task.dealsWith?, hstage] using hdeals
    exact .of_append hrow hsink
  all_goals simp [Entry.task, Task.dealsWith?, *] at hdeals

/-- Work that deals with no record leaves the sink alone. -/
theorem Work.sink_eq {e e' : Entry} {a b : Account} (hwork : Work setup e a e' b)
    (hdeals : e.task.dealsWith? = none) : b.state.sink = a.state.sink := by
  cases hwork
  case appended | refused | broke => simp [Entry.task, Task.dealsWith?, *] at hdeals
  all_goals rfl

/-- The sink changes only when a record is dealt with and when it is closed at the end. -/
theorem Move.sink_cases {choice : Choice} {a b : Account} (hmove : Move setup choice a b) :
    (∀ r, a.state.dealsWith? choice = some r → Deals setup r a.state.sink b.state.sink) ∧
      (a.state.dealsWith? choice = none → b.state.sink = a.state.sink ∨
        b.state.hasEnded = true ∧ b.state.sink = (a.state.sink.close setup.writer).1) := by
  cases hmove with
  | worked index _ _ _ hwork hindex =>
      rw [State.dealsWith?, hindex, Option.bind_some]
      exact ⟨fun r hdeals => hwork.deals hdeals, fun hdeals => .inl (hwork.sink_eq hdeals)⟩
  | gathered => exact ⟨nofun, fun _ => .inl (State.sink_heed _ _)⟩
  | concluded =>
      refine ⟨nofun, fun _ => .inr ⟨?_, ?_⟩⟩
      · exact State.hasEnded_conclude setup _
      · exact State.sink_conclude setup _
  | dispatched | stopped | started | abandoned | requested | passed =>
      exact ⟨nofun, fun _ => .inl rfl⟩

/-- A record that is dealt with is one of a document that was started. -/
theorem Reached.exists_of_dealsWith? {a : Account} (h : Reached setup sink choices a)
    {choice : Choice} {r : Record} (hdeals : a.state.dealsWith? choice = some r) :
    ∃ job ∈ a.entries.map Entry.job, r ∈ job.records := by
  cases choice with
  | worker index =>
      obtain ⟨task, hindex, hrecord⟩ := Option.bind_eq_some_iff.mp hdeals
      obtain ⟨before, e, after, hentries, -, rfl, -⟩ :=
        exists_entry_of_getElem? (h.tasks_eq_live ▸ hindex)
      have hmem : e ∈ a.entries := by simp [hentries]
      refine ⟨e.job, List.mem_map_of_mem hmem, ?_⟩
      unfold Task.dealsWith? at hrecord
      split at hrecord
      next own left hstage =>
        obtain rfl := Option.some.inj hrecord
        obtain ⟨past, hjob, -⟩ := (h.ledger.sound e hmem).at hstage
        rw [Job.records_of_extracted hjob]
        exact List.mem_append_right past List.mem_cons_self
      next => cases hrecord
  | controller | shutdown | pass => cases hdeals

/-! ## The rows of a run -/

/-- A row that the sink took is what is left of a record of a document that was started. -/
theorem Reached.exists_record {a : Account} (h : Reached setup sink choices a) {row : Record}
    (hrow : row ∈ a.rows) :
    ∃ job ∈ a.entries.map Entry.job, ∃ r ∈ job.records, LeavesRow r row := by
  have hmem := h.ledger.rows.perm_flatten.mem_iff.mp hrow
  obtain ⟨written, hwritten, hrow⟩ := List.mem_flatten.mp hmem
  obtain ⟨e, he, rfl⟩ := List.mem_map.mp hwritten
  obtain ⟨past, left, hrecords, hpast⟩ := h.isPartial e he
  rw [hpast] at hrow
  obtain ⟨r, hr, hleaves⟩ := (leaveRows_filterMap past).exists_record hrow
  refine ⟨e.job, List.mem_map_of_mem he, r, ?_, hleaves⟩
  rw [hrecords]
  exact List.mem_append_left left hr

/-- The rows that the sink took from a document are what its first records have left, and in a run
that has ended well what all of them have left. -/
theorem Reached.leavesRows {a : Account} (h : Reached setup sink choices a) {e : Entry}
    (he : e ∈ a.entries) :
    e.job.LeavesRows (sink = Sink.create setup.writer ∧
      ∃ summary, a.state.ending? = some (.finished summary)) e.written := by
  by_cases hfinished : sink = Sink.create setup.writer ∧
      ∃ summary, a.state.ending? = some (.finished summary)
  · obtain ⟨rfl, summary, hend⟩ := hfinished
    obtain ⟨-, -, b, -, -, -, rfl, -, -, -, hsettled⟩ :=
      h.exists_of_finished (State.phase_of_ending? hend)
    refine ⟨e.job.records, [], (List.append_nil _).symm, ?_, fun _ => rfl⟩
    rw [(hsettled e he).written, Job.rows_eq]
    exact leaveRows_filterMap _
  · obtain ⟨past, left, hrecords, hwritten⟩ := h.isPartial e he
    exact ⟨past, left, hrecords, hwritten ▸ leaveRows_filterMap past, fun h => absurd h hfinished⟩

/-- Whenever one looks at a run, the rows that the sink has taken are an interleaving of what the
documents have left of their first records, and of all of them once the run has ended well. A choice
changes the sink only by offering it the row of a record, unless too little is left of that record,
or by closing it. -/
theorem shape_of_run (setup : Setup) (sink : Sink) (choices : List Choice) (s : State)
    (hrun : (State.initial setup sink).steps setup choices = some s) :
    ∃ started parts, setup.jobs = started ++ s.waiting ∧
      (∀ row ∈ (State.initial setup sink).rowsTaken setup choices,
        ∃ job ∈ started, ∃ r ∈ job.records, LeavesRow r row) ∧
      IsInterleaving ((State.initial setup sink).rowsTaken setup choices) parts ∧
      List.Forall₂ (fun job rows => job.LeavesRows (sink = Sink.create setup.writer ∧
        ∃ summary, s.ending? = some (.finished summary)) rows) started parts ∧
      ∀ choice next, s.step setup choice = some next →
        (∀ r, s.dealsWith? choice = some r →
          (∃ job ∈ started, r ∈ job.records) ∧ Deals setup r s.sink next.sink) ∧
        (s.dealsWith? choice = none → next.sink = s.sink ∨
          next.hasEnded = true ∧ next.sink = (s.sink.close setup.writer).1) := by
  obtain ⟨a, rfl, hreached⟩ := exists_reached hrun
  rw [← hreached.rows_eq]
  refine ⟨a.entries.map Entry.job, a.entries.map Entry.written, hreached.ledger.corpus.symm,
    fun row hrow => hreached.exists_record hrow, hreached.ledger.rows, ?_, ?_⟩
  · rw [List.forall₂_map_left_iff, List.forall₂_map_right_iff, List.forall₂_same]
    intro e he
    exact hreached.leavesRows he
  · intro choice next hstep
    obtain ⟨b, rfl, hmove⟩ := exists_move_of_step hreached.tasks_eq_live hstep
    obtain ⟨hdeals, hother⟩ := hmove.sink_cases
    exact ⟨fun r hr => ⟨hreached.exists_of_dealsWith? hr, hdeals r hr⟩, hother⟩

/-- A run of a document with marks in its sentences; nothing is left of the second one. -/
def markedDocument : Setup where
  settings := { workerCount := 1 }
  jobs := [⟨⟨.ofString "A.java", .structured, "A"⟩, .records [⟨"A", "Value: 3.14% (approx)."⟩,
    ⟨"A", "... !!"⟩, ⟨"A", "Done."⟩]⟩]
  skipped := 0
  writer := .willing

/-- The run of this document once two of its records have been dealt with. -/
theorem markedDocument_shape :
    let setup := markedDocument
    let first := State.initial setup (Sink.create setup.writer)
    let choices := [.controller 0, .controller 0, .worker 0, .worker 0, .worker 0, .worker 0]
    ∃ s, first.steps setup choices = some s ∧
      first.rowsTaken setup choices = [⟨"A", "Value 314 approx"⟩] ∧
      ∃ started parts, setup.jobs = started ++ s.waiting ∧
        (∀ row ∈ first.rowsTaken setup choices,
          ∃ job ∈ started, ∃ r ∈ job.records, LeavesRow r row) ∧
        IsInterleaving (first.rowsTaken setup choices) parts ∧
        List.Forall₂ (fun job rows => job.LeavesRows (first.sink = Sink.create setup.writer ∧
          ∃ summary, s.ending? = some (.finished summary)) rows) started parts ∧
        ∀ choice next, s.step setup choice = some next →
          (∀ r, s.dealsWith? choice = some r →
            (∃ job ∈ started, r ∈ job.records) ∧ Deals setup r s.sink next.sink) ∧
          (s.dealsWith? choice = none → next.sink = s.sink ∨
            next.hasEnded = true ∧ next.sink = (s.sink.close setup.writer).1) := by
  intro setup first choices
  have hsteps : (first.steps setup choices).isSome = true := by
    decide +kernel
  have hrows : first.rowsTaken setup choices = [⟨"A", "Value 314 approx"⟩] := by
    decide +kernel
  obtain ⟨s, hrun⟩ := Option.isSome_iff_exists.mp hsteps
  exact ⟨s, hrun, hrows, shape_of_run setup _ choices s hrun⟩

end DocSentences.Run
