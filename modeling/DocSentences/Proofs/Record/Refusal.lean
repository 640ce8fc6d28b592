import DocSentences.Proofs.Record.Calls

/-!
# Writers that refuse or break down

A writer is firm if it refuses again what it has refused once, and whatever is longer. Once such a
writer has refused the buffer of a sink, nothing gets past the sink any more: the buffer is full, or
lacks one byte while the present field lacks the quote that closes it, so no row can be completed
without the writer.
-/

namespace DocSentences

/-- A writer that refuses more if it has refused less, however often it is asked. -/
def Writer.IsFirm (w : Writer) : Prop :=
  ∀ attempts tries accepted bytes more reason, w attempts accepted bytes = .refuse reason →
    bytes.length ≤ more.length → ∃ reason, w tries accepted more = .refuse reason

/-- A bounded writer that has refused bytes goes on to refuse them. -/
theorem Writer.bounded_isFirm (limit breakAt : Option Nat) : (bounded limit breakAt).IsFirm := by
  intro attempts tries accepted bytes more reason h hlength
  have hover : limit.any (· < accepted.length + bytes.length) = true := by
    unfold bounded at h
    dsimp only at h
    split at h
    · assumption
    · split at h <;> cases h
  have hmore : limit.any (· < accepted.length + more.length) = true := by
    cases limit with
    | none => cases hover
    | some most =>
        simp only [Option.any_some, decide_eq_true_eq] at hover ⊢
        omega
  exact ⟨"disk full", by simp [bounded, hmore]⟩

/-- A writer that accepts or refuses what it is given. -/
def Writer.NeverBreaksDown (w : Writer) : Prop :=
  ∀ attempts accepted bytes, w attempts accepted bytes ≠ .breakDown

/-- Without a limit at which it breaks, a bounded writer never breaks down. -/
theorem Writer.bounded_neverBreaksDown (limit : Option Nat) :
    (bounded limit none).NeverBreaksDown := by
  intro attempts accepted bytes
  unfold bounded
  dsimp only
  split <;> simp

namespace Csv

/-! ## Pieces, one after the other -/

/-- A field that is between quotes has been begun. -/
def Cursor.Sound (c : Cursor) : Prop := c.quoting = true → c.inField = true

/-- Whether pieces can follow each other: a piece is longer than one byte only inside quotes, and no
piece closes a field without the quote that it lacks. -/
def Follow (c : Cursor) : List Piece → Prop
  | [] => c.Sound
  | p :: rest =>
      c.Sound ∧ p.bytes.length ≤ c.pending.length + 1 ∧
        c.pending.length ≤ p.bytes.length + p.cursor.pending.length ∧ Follow p.cursor rest

theorem Follow.sound {c : Cursor} {pieces : List Piece} (h : Follow c pieces) : c.Sound := by
  cases pieces with
  | nil => exact h
  | cons p rest => exact h.1

theorem cursorAfter_cons (c : Cursor) (p : Piece) (rest : List Piece) :
    cursorAfter c (p :: rest) = cursorAfter p.cursor rest :=
  cursorAfter_append c [p] rest

/-- Pieces can follow each other across two lists if each list can follow what is before it. -/
theorem follow_append {c : Cursor} {before after : List Piece} :
    Follow c (before ++ after) ↔ Follow c before ∧ Follow (cursorAfter c before) after := by
  induction before generalizing c with
  | nil => exact ⟨fun h => ⟨h.sound, h⟩, fun h => h.2⟩
  | cons p rest ih => simp only [List.cons_append, Follow, ih, cursorAfter_cons, and_assoc]

theorem Cursor.sound_of_not_quoting {c : Cursor} (h : c.quoting = false) : c.Sound := by
  intro hquoting
  rw [h] at hquoting
  cases hquoting

theorem Follow.sound_cursorAfter {c : Cursor} {pieces : List Piece} (h : Follow c pieces) :
    (cursorAfter c pieces).Sound := by
  have happend : Follow c (pieces ++ []) := by rwa [List.append_nil]
  exact (follow_append.mp happend).2

theorem follow_closing {c : Cursor} (hsound : c.Sound) (last : UInt8) {after : Cursor}
    (hafter : after.quoting = false) : Follow c (closing c last after) := by
  have hlast : after.Sound := Cursor.sound_of_not_quoting hafter
  cases hquoting : c.quoting with
  | false =>
      rw [closing, hquoting]
      exact ⟨hsound, by simp, by simp [Cursor.pending, hquoting], hlast⟩
  | true =>
      rw [closing, hquoting]
      refine ⟨hsound, by simp, by simp [Cursor.pending, hquoting], ?_⟩
      exact ⟨Cursor.sound_of_not_quoting rfl, by simp, by simp [Cursor.pending], hlast⟩

theorem follow_endPieces {c : Cursor} (hsound : c.Sound) : Follow c (endPieces c) :=
  follow_closing hsound lineFeed rfl

theorem follow_content {c : Cursor} (hsound : c.Sound) (field : Field) (fields : Nat) :
    Follow c ((field.map fun b =>
      (⟨if c.quoting && b == quote then [quote, quote] else [b], c⟩ : Piece)) ++
        [⟨[], { c with fields := fields }⟩]) := by
  induction field with
  | nil => exact ⟨hsound, by simp, by simp [Cursor.pending], hsound⟩
  | cons b rest ih =>
      refine ⟨hsound, ?_, by simp, ih⟩
      cases hquoting : c.quoting with
      | false => simp
      | true =>
          simp only [Cursor.pending, hquoting, Bool.true_and, if_true]
          split <;> simp

theorem follow_fieldPieces {c : Cursor} (hsound : c.Sound) (field : Field) :
    Follow c (fieldPieces c field) := by
  unfold fieldPieces
  dsimp only
  cases hfield : c.inField with
  | true =>
      -- the field goes on, so no piece begins it
      have hcontent := follow_content hsound field (c.fields + 1)
      have hbegun : c = ⟨c.fields, true, c.quoting⟩ := by rw [← hfield]
      rw [hbegun] at hcontent ⊢
      exact hcontent
  | false =>
      have hquoting : c.quoting = false := by
        cases hquoting : c.quoting with
        | false => rfl
        | true => exact absurd (hsound hquoting) (by simp [hfield])
      have hcontent := follow_content (c := ⟨c.fields, true, needsQuotes field⟩) (fun _ => rfl) field
        (c.fields + 1)
      cases hneeds : needsQuotes field with
      | true =>
          rw [hneeds] at hcontent
          exact ⟨hsound, by simp, by simp [Cursor.pending, hquoting], hcontent⟩
      | false =>
          rw [hneeds] at hcontent
          exact ⟨hsound, by simp, by simp [Cursor.pending, hquoting], hcontent⟩

theorem follow_nextFieldPieces {c : Cursor} (hsound : c.Sound) (field : Field) :
    Follow c (nextFieldPieces c field) := by
  unfold nextFieldPieces
  split
  · exact follow_fieldPieces hsound field
  · refine follow_append.mpr ⟨follow_closing hsound comma rfl, ?_⟩
    rw [cursorAfter, closing_getLast?, Option.getD_some]
    exact follow_fieldPieces (Cursor.sound_of_not_quoting rfl) field

/-- The pieces of a row can follow each other. -/
theorem follow_fieldsPieces {c : Cursor} (hsound : c.Sound) (fields : List Field) :
    Follow c (fieldsPieces c fields) := by
  induction fields generalizing c with
  | nil => exact hsound
  | cons field rest ih =>
      have hfield := follow_nextFieldPieces hsound field
      rw [fieldsPieces_cons]
      exact follow_append.mpr ⟨hfield, ih hfield.sound_cursorAfter⟩

end Csv

/-! ## Buffers that were refused -/

/-- A buffer that the writer has refused and will refuse, and in which no row can be completed. -/
structure Csv.Buffer.Stuck (w : Writer) (delivered : List UInt8) (b : Csv.Buffer) : Prop where
  size : b.size = b.held.length
  sound : b.cursor.Sound
  full : Csv.capacity ≤ b.size + b.cursor.pending.length
  refused : ∀ attempts bytes, b.size ≤ bytes.length →
    ∃ reason, w attempts delivered bytes = .refuse reason

namespace Sink

variable {w : Writer} {delivered : List UInt8} {attempts : Nat} {b : Csv.Buffer}
  {pieces : List Csv.Piece} {s s' : Sink}

/-- A buffer that is stuck is refused once more. -/
theorem handOver_of_stuck (h : b.Stuck w delivered) (attempts : Nat) :
    ∃ reason, handOver w delivered attempts b = .refused reason (attempts + 1) := by
  obtain ⟨reason, hrefused⟩ := h.refused attempts b.held.reverse (by simp [h.size])
  have hnonempty : b.size ≠ 0 := by
    -- an open field lacks only one byte
    have hfull := h.full
    have hpending : b.cursor.pending.length ≤ 1 := by
      unfold Csv.Cursor.pending
      split <;> simp
    simp only [Csv.capacity] at hfull
    omega
  exact ⟨reason, by simp only [handOver, hnonempty, if_false, hrefused]⟩

/-- A piece that still fits leaves no more room than before. -/
theorem stuck_push (h : b.Stuck w delivered) {p : Csv.Piece} {rest : List Csv.Piece}
    (hfollow : Csv.Follow b.cursor (p :: rest)) : (b.push p).Stuck w delivered where
  size := push_size h.size p
  sound := hfollow.2.2.2.sound
  full := by
    have hfull := h.full
    have hpending := hfollow.2.2.1
    simp only [Csv.Buffer.push]
    omega
  refused attempts bytes hbytes := by
    refine h.refused attempts bytes ?_
    simp only [Csv.Buffer.push] at hbytes
    omega

/-- Writing to a buffer that was refused delivers nothing and leaves such a buffer. -/
theorem write_of_stuck (h : b.Stuck w delivered) (hfollow : Csv.Follow b.cursor pieces)
    (attempts : Nat) :
    ∃ after tries outcome,
      write w delivered attempts b pieces = (⟨.opened after, delivered, tries⟩, outcome) ∧
      after.Stuck w delivered ∧ (outcome = .done ∨ ∃ reason, outcome = .failed (.row reason)) := by
  induction pieces generalizing b attempts with
  | nil => exact ⟨b, attempts, .done, rfl, h, .inl rfl⟩
  | cons p rest ih =>
      unfold write
      split
      · exact ih (stuck_push h hfollow) hfollow.2.2.2 attempts
      · obtain ⟨reason, hover⟩ := handOver_of_stuck h attempts
        rw [hover]
        exact ⟨b, attempts + 1, _, rfl, h, .inr ⟨reason, rfl⟩⟩

/-- What is written to a buffer that is stuck has to fit. -/
theorem size_le_of_write_done (h : b.Stuck w delivered) (hfollow : Csv.Follow b.cursor pieces)
    (hpieces : pieces ≠ []) (hdone : write w delivered attempts b pieces = (s, .done)) :
    b.size + (pieces.flatMap Csv.Piece.bytes).length ≤ Csv.capacity := by
  induction pieces generalizing b attempts with
  | nil => exact absurd rfl hpieces
  | cons p rest ih =>
      unfold write at hdone
      split at hdone
      · next hfits =>
        by_cases hrest : rest = []
        · simpa [hrest] using hfits
        · have hlength := ih (stuck_push h hfollow) hfollow.2.2.2 hrest hdone
          simp only [Csv.Buffer.push] at hlength
          rw [List.flatMap_cons, List.length_append]
          omega
      · obtain ⟨reason, hover⟩ := handOver_of_stuck h attempts
        rw [hover] at hdone
        cases hdone

/-- A row cannot be ended in a buffer that was refused. -/
theorem not_done_of_stuck (h : b.Stuck w delivered) (attempts : Nat) :
    (write w delivered attempts b (Csv.endPieces b.cursor)).2 ≠ .done := by
  intro hdone
  have hbytes : (Csv.endPieces b.cursor).flatMap Csv.Piece.bytes =
      b.cursor.pending ++ [Csv.lineFeed] := Csv.closing_bytes _ _ _
  have hpieces : Csv.endPieces b.cursor ≠ [] := by
    intro hnil
    rw [hnil] at hbytes
    simp at hbytes
  -- what ends a row is longer by one byte than the room that is left
  have hlength := size_le_of_write_done h (Csv.follow_endPieces h.sound) hpieces (Prod.ext rfl hdone)
  have hfull := h.full
  rw [hbytes, List.length_append, List.length_singleton] at hlength
  omega

/-- A buffer that a firm writer does not take is refused from then on. -/
theorem stuck_of_write_failed (hfirm : w.IsFirm) (hsize : b.size = b.held.length)
    (hfollow : Csv.Follow b.cursor pieces) {fault : SinkFault}
    (h : write w delivered attempts b pieces = (s, .failed fault)) :
    ∃ after, s.status = .opened after ∧ after.Stuck w s.delivered := by
  -- the piece that did not fit shows that the buffer is full
  induction pieces generalizing delivered attempts b with
  | nil => cases h
  | cons p rest ih =>
      unfold write at h
      split at h
      · exact ih (push_size hsize p) hfollow.2.2.2 h
      · next hover =>
        split at h
        · exact ih (push_size rfl p) hfollow.2.2.2 h
        · next reason tries hrefused =>
          cases h
          refine ⟨b, rfl, hsize, hfollow.1, ?_, ?_⟩
          · have hpiece := hfollow.2.1
            omega
          · intro again bytes hbytes
            unfold handOver at hrefused
            dsimp only at hrefused
            split at hrefused
            · cases hrefused
            · split at hrefused <;> cases hrefused
              refine hfirm attempts again _ b.held.reverse bytes reason ‹_› ?_
              simpa [← hsize] using hbytes
        · cases h

/-- Whatever becomes of it, what is delivered is the beginning of what was written. -/
theorem write_delivered (hsize : b.size = b.held.length) :
    (write w delivered attempts b pieces).1.delivered <+:
      delivered ++ b.held.reverse ++ pieces.flatMap Csv.Piece.bytes := by
  -- by induction on the pieces, whatever the buffer holds and the writer has taken
  induction pieces generalizing delivered attempts b with
  | nil => exact List.append_assoc .. ▸ List.prefix_append _ _
  | cons p rest ih =>
      have hkept : delivered <+: delivered ++ b.held.reverse ++
          (p :: rest).flatMap Csv.Piece.bytes := by
        rw [List.append_assoc]
        exact List.prefix_append _ _
      unfold write
      split
      · have hpushed : (write w delivered attempts (b.push p) rest).1.delivered <+:
            delivered ++ (b.push p).held.reverse ++ rest.flatMap Csv.Piece.bytes :=
          ih (push_size hsize p)
        rw [push_held] at hpushed
        simpa using hpushed
      · split
        · next taken tries hover =>
          obtain rfl := handOver_done hsize hover
          let next := (⟨b.cursor, [], 0⟩ : Csv.Buffer).push p
          have hpushed :
              (write w (delivered ++ b.held.reverse) tries next rest).1.delivered <+:
                delivered ++ b.held.reverse ++ next.held.reverse ++
                  rest.flatMap Csv.Piece.bytes :=
            ih (push_size rfl p)
          rw [push_held] at hpushed
          simpa using hpushed
        · exact hkept
        · exact hkept

/-- A row is written field by field and ended then, unless something goes wrong before. -/
theorem writeRow_cases (hopened : s.status = .opened b) (hsize : b.size = b.held.length)
    (fields : List Csv.Field) :
    (∃ mid after,
      write w s.delivered s.attempts b (Csv.fieldsPieces b.cursor fields) = (mid, .done) ∧
      mid.status = .opened after ∧
      (writeRow w s fields =
          write w mid.delivered mid.attempts after (Csv.endPieces after.cursor) ∨
        after.cursor.fields ≠ Csv.header.length ∧
          ∃ reason, writeRow w s fields = (mid, .failed (.row reason)))) ∨
    ∃ mid outcome,
      write w s.delivered s.attempts b (Csv.fieldsPieces b.cursor fields) = (mid, outcome) ∧
      outcome ≠ .done ∧ writeRow w s fields = (mid, outcome) := by
  cases hwrite : write w s.delivered s.attempts b (Csv.fieldsPieces b.cursor fields) with
  | mk mid outcome =>
      by_cases hdone : outcome = .done
      · subst hdone
        obtain ⟨after, hafter, -⟩ := write_done hsize hwrite
        refine .inl ⟨mid, after, rfl, hafter, ?_⟩
        by_cases hcount : after.cursor.fields = Csv.header.length
        · exact .inl (writeRow_eq_of_opened hopened hwrite hafter hcount)
        · obtain ⟨status, delivered, attempts⟩ := mid
          dsimp only at hafter
          subst hafter
          exact .inr ⟨hcount, _, by simp only [writeRow, hopened, hwrite, hcount, if_false]; rfl⟩
      · refine .inr ⟨mid, outcome, rfl, hdone, ?_⟩
        simp only [writeRow, hopened, hwrite]
        split
        · next heq => exact absurd (congrArg Prod.snd heq) hdone
        · rfl

/-- A row is not taken after the buffer was refused, and nothing is delivered. -/
theorem writeRow_of_stuck (hopened : s.status = .opened b) (h : b.Stuck w s.delivered)
    (fields : List Csv.Field) :
    (∃ after, (writeRow w s fields).1.status = .opened after ∧ after.Stuck w s.delivered) ∧
      (writeRow w s fields).1.delivered = s.delivered ∧
      ∃ reason, (writeRow w s fields).2 = .failed (.row reason) := by
  have hfollow := Csv.follow_fieldsPieces h.sound fields
  obtain ⟨mid, tries, outcome, hwrite, hmid, houtcome⟩ := write_of_stuck h hfollow s.attempts
  rcases writeRow_cases hopened h.size fields with
    ⟨_, after, hdone, hafter, hrow | ⟨-, reason, hrow⟩⟩ | ⟨_, _, hfailed, hnot, hrow⟩
  · rw [hwrite] at hdone
    cases hdone
    cases hafter
    have hend := Csv.follow_endPieces hmid.sound
    obtain ⟨last, again, ending, hlast, hstuck, hending⟩ := write_of_stuck hmid hend tries
    have hnot := not_done_of_stuck hmid tries
    rw [hlast] at hnot
    obtain ⟨reason, rfl⟩ := hending.resolve_left hnot
    rw [hrow, hlast]
    exact ⟨⟨last, rfl, hstuck⟩, rfl, reason, rfl⟩
  · rw [hwrite] at hdone
    cases hdone
    rw [hrow]
    exact ⟨⟨mid, rfl, hmid⟩, rfl, reason, rfl⟩
  · rw [hwrite] at hfailed
    cases hfailed
    obtain ⟨reason, rfl⟩ := houtcome.resolve_left hnot
    rw [hrow]
    exact ⟨⟨mid, rfl, hmid⟩, rfl, reason, rfl⟩

theorem close_of_stuck (hopened : s.status = .opened b) (h : b.Stuck w s.delivered) :
    ∃ tries reason, close w s = (⟨.closed, s.delivered, tries⟩, .failed (.io reason)) := by
  obtain ⟨first, hfirst⟩ := handOver_of_stuck h s.attempts
  obtain ⟨second, hsecond⟩ := handOver_of_stuck h (s.attempts + 1)
  exact ⟨s.attempts + 1 + 1, first, by simp only [close, hopened, hfirst, hsecond]⟩

end Sink

end DocSentences
