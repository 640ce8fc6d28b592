import DocSentences.Proofs.Record.Refusal

/-!
# The life of a sink

A sink takes rows until something goes wrong or it is closed; after that nothing can be had from it.
With a firm writer there is no third possibility, so the answers to all calls of a sink can be told
from those before them.
-/

namespace DocSentences.Sink

variable {w : Writer} {s : Sink} {calls : List Call}

/-- The record that a call is to append. -/
def Call.record? : Call → Option Record
  | .append r => some r
  | .close | .isClosed => none

/-- The rows that some calls are to append. -/
def rowsOf (calls : List Call) : List (List Csv.Field) :=
  (calls.filterMap Call.record?).map Csv.fieldsOf

/-- The answer to a call that a fault rules out. -/
def Call.answerOf (fault : SinkFault) : Call → Answer
  | .append _ | .close => .ended (.failed fault)
  | .isClosed => .closed true

/-- Whether a call did not do what it was made for. -/
def Answer.IsFailure (a : Answer) : Prop :=
  a = .ended .brokeDown ∨ ∃ fault, a = .ended (.failed fault)

@[simp] theorem rowsOf_concat (calls : List Call) (next : Call) :
    rowsOf (calls ++ [next]) = rowsOf calls ++ (next.record?.map Csv.fieldsOf).toList := by
  cases next <;> simp [rowsOf, Call.record?]

/-! ## Sinks that are closed or broken -/

theorem call_of_closed (hclosed : s.status = .closed) (w : Writer) (next : Call) :
    s.call w next = (s, next.answerOf .closed) := by
  cases next <;> simp [call, Call.answerOf, append, writeRow, close, isClosed, hclosed]

theorem call_of_broken (hbroken : s.status = .broken) (w : Writer) (next : Call) :
    s.call w next = (s, next.answerOf .broken) := by
  cases next <;> simp [call, Call.answerOf, append, writeRow, close, isClosed, hbroken]

/-- A sink that no call changes stays as it is. -/
theorem after_of_unchanged {before : List Call}
    (h : ∀ next, ((after w before).call w next).1 = after w before) (later : List Call) :
    after w (before ++ later) = after w before := by
  induction later using List.reverseRecOn with
  | nil => rw [List.append_nil]
  | append_singleton later next ih => rw [← List.append_assoc, after_concat, ih, h]

/-- A sink from which nothing can be had any more: it is closed, its writer broke down, or its
buffer was refused. -/
def IsSpent (w : Writer) (s : Sink) : Prop :=
  s.status = .closed ∨ s.status = .broken ∨
    ∃ b, s.status = .opened b ∧ b.Stuck w s.delivered

/-- A sink that is spent stays so, delivers nothing more and answers no call with success. -/
theorem IsSpent.call (h : IsSpent w s) (next : Call) :
    IsSpent w (s.call w next).1 ∧ (s.call w next).1.delivered = s.delivered ∧
      (s.call w next).2 ≠ .ended .done := by
  rcases h with hclosed | hbroken | ⟨b, hopened, hstuck⟩
  · rw [call_of_closed hclosed]
    exact ⟨.inl hclosed, rfl, by cases next <;> simp [Call.answerOf]⟩
  · rw [call_of_broken hbroken]
    exact ⟨.inr (.inl hbroken), rfl, by cases next <;> simp [Call.answerOf]⟩
  · cases next with
    | append r =>
        obtain ⟨⟨after, hafter, hkept⟩, hdelivered, reason, hfailed⟩ :=
          writeRow_of_stuck hopened hstuck (Csv.fieldsOf r)
        refine ⟨.inr (.inr ⟨after, hafter, ?_⟩), hdelivered, ?_⟩
        · simpa only [Sink.call, append, hdelivered] using hkept
        · simp [Sink.call, append, hfailed]
    | close =>
        obtain ⟨tries, reason, hclose⟩ := close_of_stuck hopened hstuck
        have hcall : s.call w .close =
            (⟨.closed, s.delivered, tries⟩, .ended (.failed (.io reason))) := by
          rw [Sink.call, hclose]
        rw [hcall]
        exact ⟨.inl rfl, rfl, by simp⟩
    | isClosed => exact ⟨.inr (.inr ⟨b, hopened, hstuck⟩), rfl, by simp [Sink.call]⟩

/-- Once a sink is spent, it delivers nothing more. -/
theorem after_of_isSpent {before : List Call} (h : IsSpent w (after w before)) (later : List Call) :
    IsSpent w (after w (before ++ later)) ∧
      (after w (before ++ later)).delivered = (after w before).delivered := by
  induction later using List.reverseRecOn with
  | nil => simpa using h
  | append_singleton later next ih =>
      obtain ⟨hspent, hdelivered, -⟩ := ih.1.call next
      rw [← List.append_assoc, after_concat]
      exact ⟨hspent, hdelivered.trans ih.2⟩

/-! ## Sinks that hold all their rows -/

/-- What a sink has delivered is the beginning of the rows that it holds. -/
theorem Holds.isPrefix {rows : List (List Csv.Field)} (h : s.Holds rows) :
    s.delivered <+: Csv.encode rows := by
  obtain ⟨b, -, -, -, hbytes⟩ := h
  exact ⟨b.held.reverse, hbytes⟩

/-- The rows of a sink and one more are written in the end, or what is written of them first. -/
theorem Holds.exists_write {rows : List (List Csv.Field)} (hs : s.Holds rows) (w : Writer)
    (first second : Csv.Field) :
    ∃ delivered attempts b pieces,
      writeRow w s [first, second] = write w delivered attempts b pieces ∧
      b.size = b.held.length ∧ Csv.Follow b.cursor pieces ∧
      delivered ++ b.held.reverse ++ pieces.flatMap Csv.Piece.bytes <+:
        Csv.encode (rows ++ [[first, second]]) := by
  obtain ⟨b, hopened, hcursor, hsize, hbytes⟩ := hs
  obtain ⟨hpieces, hcount⟩ := Csv.rowPieces_bytes first [second]
  have hencode : Csv.encode (rows ++ [[first, second]]) =
      s.delivered ++ b.held.reverse ++ Csv.encodeRow [first, second] := by
    rw [Csv.encode_append, hbytes]
    simp [Csv.encode]
  have hfollow : Csv.Follow b.cursor (Csv.fieldsPieces b.cursor [first, second]) :=
    Csv.follow_fieldsPieces (Csv.Cursor.sound_of_not_quoting (by rw [hcursor])) _
  -- either all fields were written and the row is to be ended, or writing them went wrong
  rcases writeRow_cases (w := w) hopened hsize [first, second] with
    ⟨mid, after, hwrite, hafter, hrow⟩ | ⟨mid, outcome, hwrite, -, hrow⟩
  · obtain ⟨_, hsame, hcursorAfter, hsizeAfter, hbytesAfter⟩ := write_done hsize hwrite
    rw [hafter] at hsame
    cases hsame
    have hsound := hfollow.sound_cursorAfter
    rw [← hcursorAfter] at hsound
    rw [hcursor] at hcursorAfter hbytesAfter
    have hfields : after.cursor.fields = Csv.header.length := by
      rw [hcursorAfter, hcount]
      rfl
    refine ⟨_, _, after, _, hrow.resolve_right fun h => h.1 hfields, hsizeAfter,
      Csv.follow_endPieces hsound, ?_⟩
    have hall : mid.delivered ++ after.held.reverse ++
        (Csv.endPieces after.cursor).flatMap Csv.Piece.bytes =
          Csv.encode (rows ++ [[first, second]]) := by
      rw [hencode, ← hpieces, hbytesAfter, ← hcursorAfter, List.append_assoc]
    exact hall ▸ List.prefix_refl _
  · refine ⟨_, _, b, _, hrow.trans hwrite.symm, hsize, hfollow, ?_⟩
    rw [hencode, ← hpieces, hcursor, ← List.append_assoc]
    exact List.prefix_append _ _

/-- A sink that does not take a row is spent. -/
theorem Holds.isSpent_append (hfirm : w.IsFirm) {rows : List (List Csv.Field)} (hs : s.Holds rows)
    {r : Record} (h : (append w s r).2 ≠ .done) : IsSpent w (append w s r).1 := by
  obtain ⟨delivered, attempts, b, pieces, hrow, hsize, hfollow, -⟩ :=
    hs.exists_write w (Utf8.encode r.key.toList) (Utf8.encode r.sentence.toList)
  rw [append, Csv.fieldsOf, hrow] at h ⊢
  cases hwrite : write w delivered attempts b pieces with
  | mk after outcome =>
      rw [hwrite] at h
      cases outcome with
      | done => exact absurd rfl h
      | failed fault => exact .inr (.inr (stuck_of_write_failed hfirm hsize hfollow hwrite))
      | brokeDown => exact .inr (.inl (write_brokeDown hwrite))

/-- Whatever comes of a row, what is delivered is the beginning of the rows with it. -/
theorem Holds.append_isPrefix {rows : List (List Csv.Field)} (hs : s.Holds rows) (w : Writer)
    (r : Record) : (append w s r).1.delivered <+: Csv.encode (rows ++ [Csv.fieldsOf r]) := by
  obtain ⟨delivered, attempts, b, pieces, hrow, hsize, -, hprefix⟩ :=
    hs.exists_write w (Utf8.encode r.key.toList) (Utf8.encode r.sentence.toList)
  rw [append, Csv.fieldsOf, hrow]
  exact (write_delivered hsize).trans hprefix

/-- Whatever comes of closing, the sink is spent and has delivered a beginning of its rows. -/
theorem Holds.close_isPrefix {rows : List (List Csv.Field)} (hs : s.Holds rows) (w : Writer) :
    IsSpent w (close w s).1 ∧ (close w s).1.delivered <+: Csv.encode rows := by
  have hprefix := hs.isPrefix
  obtain ⟨b, hopened, -, hsize, hbytes⟩ := hs
  simp only [close, hopened]
  split
  · next hover => exact ⟨.inl rfl, by simp [handOver_done hsize hover, hbytes]⟩
  · exact ⟨.inr (.inl rfl), hprefix⟩
  · split
    · next hover => exact ⟨.inl rfl, by simp [handOver_done hsize hover, hbytes]⟩
    · exact ⟨.inl rfl, hprefix⟩
    · exact ⟨.inr (.inl rfl), hprefix⟩

/-! ## Closing and breaking down -/

/-- Writing leaves a sink broken only when it breaks down. -/
theorem write_broken {delivered : List UInt8} {attempts : Nat} {b : Csv.Buffer}
    {pieces : List Csv.Piece} {outcome : SinkOutcome}
    (h : write w delivered attempts b pieces = (s, outcome)) (hbroken : s.status = .broken) :
    outcome = .brokeDown := by
  induction pieces generalizing delivered attempts b with
  | nil =>
      cases h
      cases hbroken
  | cons p rest ih =>
      unfold write at h
      split at h
      · exact ih h
      · split at h
        · exact ih h
        · cases h
          cases hbroken
        · cases h
          rfl

theorem writeRow_broken {fields : List Csv.Field} {outcome : SinkOutcome} {s' : Sink}
    (h : writeRow w s fields = (s', outcome)) (hbroken : s'.status = .broken) :
    s.status = .broken ∨ outcome = .brokeDown := by
  unfold writeRow at h
  split at h
  · cases h
    exact .inl hbroken
  · cases h
    exact .inl hbroken
  · split at h
    · split at h
      · exact .inr (write_broken h hbroken)
      · cases h
        cases hbroken
    · exact .inr (write_broken h hbroken)

/-- Closing an open sink closes it, unless the writer breaks down. -/
theorem close_cases (w : Writer) (s : Sink) :
    (s.status = .closed ∧ close w s = (s, .failed .closed)) ∨
    (s.status = .broken ∧ close w s = (s, .failed .broken)) ∨
    ((close w s).1.status = .closed ∧ (close w s).2 ≠ .brokeDown) ∨
    ((close w s).1.status = .broken ∧ (close w s).2 = .brokeDown) := by
  cases hstatus : s.status with
  | closed => exact .inl ⟨rfl, by simp only [close, hstatus]⟩
  | broken => exact .inr (.inl ⟨rfl, by simp only [close, hstatus]⟩)
  | opened b =>
      refine .inr (.inr ?_)
      simp only [close, hstatus]
      split
      · exact .inl ⟨rfl, by simp⟩
      · exact .inr ⟨rfl, rfl⟩
      · split
        · exact .inl ⟨rfl, by simp⟩
        · exact .inl ⟨rfl, by simp⟩
        · exact .inr ⟨rfl, rfl⟩

/-! ### With a writer that never breaks down -/

theorem handOver_ne_brokeDown (hw : w.NeverBreaksDown) (delivered : List UInt8)
    (attempts tries : Nat) (b : Csv.Buffer) :
    handOver w delivered attempts b ≠ .brokeDown tries := by
  unfold handOver
  split
  · simp
  · dsimp only
    split
    · simp
    · simp
    · next hdown => exact absurd hdown (hw _ _ _)

theorem write_ne_brokeDown (hw : w.NeverBreaksDown) (delivered : List UInt8) (attempts : Nat)
    (b : Csv.Buffer) (pieces : List Csv.Piece) :
    (write w delivered attempts b pieces).2 ≠ .brokeDown := by
  induction pieces generalizing delivered attempts b with
  | nil => simp [write]
  | cons p rest ih =>
      unfold write
      split
      · exact ih _ _ _
      · split
        · exact ih _ _ _
        · simp
        · next hdown => exact absurd hdown (handOver_ne_brokeDown hw _ _ _ _)

theorem append_ne_brokeDown (hw : w.NeverBreaksDown) (s : Sink) (r : Record) :
    (append w s r).2 ≠ .brokeDown := by
  unfold append writeRow
  split
  · simp
  · simp
  · split
    · split
      · exact write_ne_brokeDown hw _ _ _ _
      · simp
    · exact write_ne_brokeDown hw _ _ _ _

theorem append_status_ne_broken (hw : w.NeverBreaksDown) (hs : s.status ≠ .broken) (r : Record) :
    (append w s r).1.status ≠ .broken := by
  intro hbroken
  rcases writeRow_broken rfl hbroken with hbefore | hdown
  · exact hs hbefore
  · exact append_ne_brokeDown hw s r hdown

/-- Closing closes, whether the rest of the buffer is taken or not. -/
theorem close_status (hw : w.NeverBreaksDown) (hs : s.status ≠ .broken) :
    (close w s).1.status = .closed ∧ (close w s).2 ≠ .brokeDown := by
  unfold close
  split
  · next hclosed => exact ⟨hclosed, by simp⟩
  · next hbroken => exact absurd hbroken hs
  · split
    · exact ⟨rfl, by simp⟩
    · next hdown => exact absurd hdown (handOver_ne_brokeDown hw _ _ _ _)
    · split
      · exact ⟨rfl, by simp⟩
      · exact ⟨rfl, by simp⟩
      · next hdown => exact absurd hdown (handOver_ne_brokeDown hw _ _ _ _)

/-! ### With a writer that may break down -/

/-- A sink is broken only if its writer broke down during one of its calls. -/
theorem exists_brokeDown (h : (after w calls).status = .broken) :
    ∃ before next rest, calls = before ++ next :: rest ∧
      answer w before next = .ended .brokeDown := by
  induction calls using List.reverseRecOn with
  | nil => cases h
  | append_singleton calls next ih =>
      have hstep : (after w calls).status = .broken ∨ answer w calls next = .ended .brokeDown := by
        rw [after_concat] at h
        cases next with
        | append r =>
            refine (writeRow_broken rfl h).imp_right fun hdown => ?_
            exact congrArg Answer.ended hdown
        | close =>
            have hclose : (close w (after w calls)).1.status = .broken := h
            rcases close_cases w (after w calls) with
              ⟨hclosed, hsame⟩ | ⟨hbroken, -⟩ | ⟨hclosed, -⟩ | ⟨-, hdown⟩
            · rw [hsame, hclosed] at hclose
              cases hclose
            · exact .inl hbroken
            · rw [hclosed] at hclose
              cases hclose
            · exact .inr (congrArg Answer.ended hdown)
        | isClosed => exact .inl h
      -- it was broken already, or this call broke it
      rcases hstep with hbroken | hdown
      · obtain ⟨before, earlier, rest, rfl, hearlier⟩ := ih hbroken
        exact ⟨before, earlier, rest ++ [next], by simp, hearlier⟩
      · exact ⟨calls, next, [], rfl, hdown⟩

theorem broken_of_brokeDown {next : Call} (h : answer w calls next = .ended .brokeDown) :
    (after w (calls ++ [next])).status = .broken := by
  rw [after_concat]
  cases next with
  | append r => exact append_brokeDown (Prod.ext rfl (Answer.ended.inj h))
  | close =>
      have hdown : (close w (after w calls)).2 = .brokeDown := Answer.ended.inj h
      rcases close_cases w (after w calls) with
        ⟨-, hsame⟩ | ⟨-, hsame⟩ | ⟨-, hnot⟩ | ⟨hbroken, -⟩
      · rw [hsame] at hdown
        cases hdown
      · rw [hsame] at hdown
        cases hdown
      · exact absurd hdown hnot
      · exact hbroken
  | isClosed => cases h

/-- A sink is closed by a call that comes back, if its writer never broke down. -/
theorem closed_of_close (hwhole : (after w calls).status ≠ .broken)
    (h : answer w calls .close ≠ .ended .brokeDown) :
    (after w (calls ++ [.close])).status = .closed := by
  rw [after_concat]
  rcases close_cases w (after w calls) with
    ⟨hclosed, hsame⟩ | ⟨hbroken, -⟩ | ⟨hclosed, -⟩ | ⟨-, hdown⟩
  · rwa [call, hsame]
  · exact absurd hbroken hwhole
  · exact hclosed
  · exact absurd (congrArg Answer.ended hdown) h

/-! ## All calls of a sink -/

/-- Whether every record that was to be appended was taken. -/
def TookAll (w : Writer) (calls : List Call) : Prop :=
  ∀ before r rest, calls = before ++ .append r :: rest →
    answer w before (.append r) = .ended .done

theorem TookAll.concat (h : TookAll w calls) {next : Call}
    (hnext : ∀ r, next = .append r → answer w calls next = .ended .done) :
    TookAll w (calls ++ [next]) := by
  intro before r rest hcalls
  -- the call is the last one, or it was made before
  rcases List.eq_nil_or_concat rest with rfl | ⟨rest, last, rfl⟩
  · obtain ⟨rfl, hlast⟩ := List.append_inj' hcalls rfl
    cases hlast
    exact hnext r rfl
  · rw [List.concat_eq_append, ← List.cons_append, ← List.append_assoc] at hcalls
    obtain ⟨rfl, -⟩ := List.append_inj' hcalls rfl
    exact h before r rest rfl

/-- As long as all goes well a sink holds the rows of its calls, and otherwise it is spent. -/
theorem holds_or_isSpent (hfirm : w.IsFirm) (calls : List Call) :
    ((after w calls).Holds (Csv.header :: rowsOf calls) ∧ TookAll w calls ∨
      IsSpent w (after w calls)) ∧
    (after w calls).delivered <+: Csv.encode (Csv.header :: rowsOf calls) := by
  induction calls using List.reverseRecOn with
  | nil =>
      have hholds := create_holds w
      exact ⟨.inl ⟨hholds, by simp [TookAll]⟩, hholds.isPrefix⟩
  | append_singleton calls next ih =>
      obtain ⟨hstanding, hprefix⟩ := ih
      have hlonger : Csv.encode (Csv.header :: rowsOf calls) <+:
          Csv.encode (Csv.header :: rowsOf (calls ++ [next])) := by
        rw [rowsOf_concat, ← List.cons_append, Csv.encode_append]
        exact List.prefix_append _ _
      -- only a sink that holds its rows can be changed by the next call
      rcases hstanding with ⟨hholds, htook⟩ | hspent
      · cases next with
        | append r =>
            have hrows : Csv.header :: rowsOf (calls ++ [.append r]) =
                (Csv.header :: rowsOf calls) ++ [Csv.fieldsOf r] := by
              simp [Call.record?]
            rw [after_concat, hrows]
            by_cases hdone : (append w (after w calls) r).2 = .done
            · have hafter := hholds.append_done (Prod.ext rfl hdone)
              exact ⟨.inl ⟨hafter, htook.concat fun _ _ => congrArg Answer.ended hdone⟩,
                hafter.isPrefix⟩
            · exact ⟨.inr (hholds.isSpent_append hfirm hdone), hholds.append_isPrefix w r⟩
        | close =>
            obtain ⟨hspent, hclosed⟩ := hholds.close_isPrefix w
            rw [after_concat]
            exact ⟨.inr hspent, hclosed.trans hlonger⟩
        | isClosed =>
            have hrows : rowsOf (calls ++ [.isClosed]) = rowsOf calls := by simp [Call.record?]
            rw [after_concat, hrows]
            exact ⟨.inl ⟨hholds, htook.concat (by simp)⟩, hprefix⟩
      · obtain ⟨hnext, hdelivered, -⟩ := hspent.call next
        rw [after_concat, hdelivered]
        exact ⟨.inr hnext, hprefix.trans hlonger⟩

/-- A call that fails leaves the sink spent. -/
theorem isSpent_of_isFailure (hfirm : w.IsFirm) {next : Call}
    (h : (answer w calls next).IsFailure) : IsSpent w (after w (calls ++ [next])) := by
  rw [after_concat]
  rcases (holds_or_isSpent hfirm calls).1 with ⟨hholds, -⟩ | hspent
  · cases next with
    | append r =>
        refine hholds.isSpent_append hfirm fun hdone => ?_
        simp [answer, call, Answer.IsFailure, hdone] at h
    | close => exact (hholds.close_isPrefix w).1
    | isClosed => simp [answer, call, Answer.IsFailure] at h
  · exact (hspent.call next).1

/-- What can be relied on about the calls of a new sink. -/
structure Orderly (w : Writer) : Prop where
  /-- What is delivered is at every moment the beginning of the rows so far. -/
  delivered : ∀ calls, (after w calls).delivered <+: Csv.encode (Csv.header :: rowsOf calls)
  /-- Once a call has failed, nothing succeeds and nothing is delivered. -/
  failed : ∀ before next later, (answer w before next).IsFailure →
    (after w (before ++ next :: later)).delivered = (after w (before ++ [next])).delivered ∧
      ∀ another, answer w (before ++ next :: later) another ≠ .ended .done
  /-- A sink that was closed stays closed, however closing it ended. -/
  closed : ∀ before later,
    (∀ earlier next rest, before = earlier ++ next :: rest →
      answer w earlier next ≠ .ended .brokeDown) →
    answer w before .close ≠ .ended .brokeDown →
    ∀ another, answer w (before ++ .close :: later) another = another.answerOf .closed
  /-- A sink whose writer broke down stays broken. -/
  broken : ∀ before next later, answer w before next = .ended .brokeDown →
    ∀ another, answer w (before ++ next :: later) another = another.answerOf .broken
  /-- A sink that was closed well has taken and delivered everything. -/
  complete : ∀ before, answer w before .close = .ended .done →
    TookAll w before ∧ (after w (before ++ [.close])).delivered =
      Csv.encode (Csv.header :: rowsOf before)

/-- A sink that no call changes gives every later call the same answer. -/
theorem answer_of_unchanged {next : Call} (fault : SinkFault)
    (h : ∀ another, (after w (calls ++ [next])).call w another =
      (after w (calls ++ [next]), another.answerOf fault)) (later : List Call) (another : Call) :
    answer w (calls ++ next :: later) another = another.answerOf fault := by
  have hsame := after_of_unchanged (fun another => congrArg Prod.fst (h another)) later
  rw [List.append_assoc, List.singleton_append] at hsame
  rw [answer, hsame, h]

/-- With a writer that refuses whatever would take it over a limit, and breaks down beyond another
limit, the calls of a sink can be relied on. -/
theorem orderly_bounded (limit breakAt : Option Nat) : Orderly (.bounded limit breakAt) := by
  have hfirm := Writer.bounded_isFirm limit breakAt
  constructor
  case delivered => exact fun calls => (holds_or_isSpent hfirm calls).2
  case failed =>
    intro before next later hfailure
    obtain ⟨hspent, hdelivered⟩ := after_of_isSpent (isSpent_of_isFailure hfirm hfailure) later
    rw [List.append_assoc, List.singleton_append] at hspent hdelivered
    exact ⟨hdelivered, fun another => (hspent.call another).2.2⟩
  case closed =>
    intro before later hearlier hclose
    -- a broken sink would have broken down before
    have hwhole : (after (.bounded limit breakAt) before).status ≠ .broken := by
      intro hbroken
      obtain ⟨earlier, next, rest, hbefore, hdown⟩ := exists_brokeDown hbroken
      exact hearlier earlier next rest hbefore hdown
    exact answer_of_unchanged _ (call_of_closed (closed_of_close hwhole hclose) _) later
  case broken =>
    intro before next later hdown
    exact answer_of_unchanged _ (call_of_broken (broken_of_brokeDown hdown) _) later
  case complete =>
    intro before hclose
    rcases (holds_or_isSpent hfirm before).1 with ⟨hholds, htook⟩ | hspent
    · rw [after_concat]
      exact ⟨htook, (hholds.close_done (Prod.ext rfl (Answer.ended.inj hclose))).2⟩
    · exact absurd hclose (hspent.call .close).2.2

end DocSentences.Sink
