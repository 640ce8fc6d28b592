import DocSentences.Record.Sink

/-!
# What a sink holds

A row goes into the buffer piece by piece, and the pieces of a row are its written form. As long as
nothing goes wrong, what the writer has accepted and what the buffer still holds are together the
written form of the rows taken so far; closing the sink hands over the rest.
-/

namespace DocSentences

namespace Csv

/-- The bytes that a quoted field still lacks while it is the present one. -/
def Cursor.pending (c : Cursor) : List UInt8 := if c.quoting then [quote] else []

/-- A field without the quote that closes it. -/
def openField (field : Field) : List UInt8 :=
  if needsQuotes field then quote :: doubled field else field

theorem openField_append_pending (field : Field) (fields : Nat) :
    openField field ++ Cursor.pending ⟨fields, true, needsQuotes field⟩ = encodeField field := by
  cases hquotes : needsQuotes field <;> simp [openField, encodeField, Cursor.pending, hquotes]

/-- Closing a field adds the quote that it lacks and one more byte. -/
theorem closing_bytes (c : Cursor) (last : UInt8) (after : Cursor) :
    (closing c last after).flatMap Piece.bytes = c.pending ++ [last] := by
  cases hquoting : c.quoting <;> simp [closing, Cursor.pending, hquoting]

theorem closing_getLast? (c : Cursor) (last : UInt8) (after : Cursor) :
    (closing c last after).getLast?.map Piece.cursor = some after := by
  cases hquoting : c.quoting <;> simp [closing, hquoting]

/-- The pieces of a field are the field up to its closing quote. -/
theorem fieldPieces_bytes (fields : Nat) (quoting : Bool) (field : Field) :
    (fieldPieces ⟨fields, false, quoting⟩ field).flatMap Piece.bytes = openField field := by
  cases hquotes : needsQuotes field <;>
    simp [fieldPieces, openField, doubled, hquotes, List.flatMap_map]

theorem fieldPieces_getLast? (fields : Nat) (quoting : Bool) (field : Field) :
    (fieldPieces ⟨fields, false, quoting⟩ field).getLast?.map Piece.cursor =
      some ⟨fields + 1, true, needsQuotes field⟩ := by
  simp [fieldPieces]

/-- The pieces of a field after another one close that one first. -/
theorem nextFieldPieces_bytes (c : Cursor) (hfields : c.fields ≠ 0) (field : Field) :
    (nextFieldPieces c field).flatMap Piece.bytes = c.pending ++ comma :: openField field := by
  simp only [nextFieldPieces, hfields, if_false, List.flatMap_append, closing_bytes,
    fieldPieces_bytes, List.append_assoc, List.singleton_append]

theorem nextFieldPieces_getLast? (c : Cursor) (hfields : c.fields ≠ 0) (field : Field) :
    (nextFieldPieces c field).getLast?.map Piece.cursor =
      some ⟨c.fields + 1, true, needsQuotes field⟩ := by
  have hlast := fieldPieces_getLast? c.fields false field
  obtain ⟨piece, hpiece, hcursor⟩ := Option.map_eq_some_iff.mp hlast
  simp only [nextFieldPieces, hfields, if_false, List.getLast?_append, hpiece, Option.some_or,
    Option.map_some, hcursor]

/-- The cursor once the pieces of some fields have been written. -/
def cursorAfter (c : Cursor) (pieces : List Piece) : Cursor :=
  (pieces.getLast?.map (·.cursor)).getD c

theorem cursorAfter_append (c : Cursor) (before after : List Piece) :
    cursorAfter c (before ++ after) = cursorAfter (cursorAfter c before) after := by
  cases hlast : after.getLast? <;> simp [cursorAfter, List.getLast?_append, hlast]

/-- What a row has after one of its fields. -/
def rowTail : List Field → List UInt8
  | [] => [lineFeed]
  | field :: rest => comma :: encodeRow (field :: rest)

/-- A row is its first field and what is written after it. -/
theorem encodeRow_cons (field : Field) (rest : List Field) :
    encodeRow (field :: rest) = encodeField field ++ rowTail rest := by
  cases rest with
  | nil => rfl
  | cons next rest => rfl

theorem fieldsPieces_cons (c : Cursor) (field : Field) (rest : List Field) :
    fieldsPieces c (field :: rest) = nextFieldPieces c field ++
      fieldsPieces (cursorAfter c (nextFieldPieces c field)) rest := rfl

/-- The pieces of the remaining fields, and those that end the row, continue a row in which at
least one field is complete. -/
theorem fieldsPieces_tail (c : Cursor) (hfields : c.fields ≠ 0) (fields : List Field) :
    (fieldsPieces c fields).flatMap Piece.bytes ++
        (endPieces (cursorAfter c (fieldsPieces c fields))).flatMap Piece.bytes =
      c.pending ++ rowTail fields ∧
    (cursorAfter c (fieldsPieces c fields)).fields = c.fields + fields.length := by
  induction fields generalizing c with
  | nil => exact ⟨closing_bytes c lineFeed {}, rfl⟩
  | cons field rest ih =>
      have hafter : cursorAfter c (nextFieldPieces c field) =
          ⟨c.fields + 1, true, needsQuotes field⟩ := by
        rw [cursorAfter, nextFieldPieces_getLast? c hfields, Option.getD_some]
      obtain ⟨hbytes, hcount⟩ := ih ⟨c.fields + 1, true, needsQuotes field⟩ (by simp)
      rw [fieldsPieces_cons, cursorAfter_append, hafter]
      constructor
      · rw [List.flatMap_append, List.append_assoc, hbytes, nextFieldPieces_bytes c hfields,
          rowTail, encodeRow_cons, ← openField_append_pending field (c.fields + 1)]
        simp only [List.append_assoc, List.cons_append]
      · rw [hcount, List.length_cons]
        simp only
        omega

/-- The pieces of a row are its written form. -/
theorem rowPieces_bytes (field : Field) (rest : List Field) :
    (fieldsPieces {} (field :: rest)).flatMap Piece.bytes ++
        (endPieces (cursorAfter {} (fieldsPieces {} (field :: rest)))).flatMap Piece.bytes =
      encodeRow (field :: rest) ∧
    (cursorAfter {} (fieldsPieces {} (field :: rest))).fields = rest.length + 1 := by
  have hfirst : nextFieldPieces {} field = fieldPieces {} field := rfl
  have hafter : cursorAfter {} (nextFieldPieces {} field) = ⟨1, true, needsQuotes field⟩ := by
    rw [hfirst, cursorAfter, fieldPieces_getLast? 0 false, Option.getD_some]
  obtain ⟨hbytes, hcount⟩ := fieldsPieces_tail ⟨1, true, needsQuotes field⟩ (by simp) rest
  rw [fieldsPieces_cons, cursorAfter_append, hafter]
  constructor
  · rw [List.flatMap_append, List.append_assoc, hbytes, hfirst, fieldPieces_bytes 0 false,
      ← List.append_assoc, openField_append_pending, encodeRow_cons]
  · rw [hcount, Nat.add_comm]

theorem encode_append (before after : List (List Field)) :
    encode (before ++ after) = encode before ++ encode after := List.flatMap_append

end Csv

/-- A writer that takes whatever it is given. -/
def Writer.AcceptsAll (w : Writer) : Prop :=
  ∀ attempts accepted bytes, w attempts accepted bytes = .accept

theorem Writer.willing_acceptsAll : Writer.willing.AcceptsAll := fun _ _ _ => rfl

namespace Sink

/-- The sink is open between two rows, and these rows were taken so far: the writer has accepted
their first bytes, and the rest is held back. -/
def Holds (s : Sink) (rows : List (List Csv.Field)) : Prop :=
  ∃ b, s.status = .opened b ∧ b.cursor = {} ∧ b.size = b.held.length ∧
    s.delivered ++ b.held.reverse = Csv.encode rows

/-- An empty buffer loses nothing by not being handed over. -/
theorem handOver_done {w : Writer} {delivered after : List UInt8} {attempts tries : Nat}
    {b : Csv.Buffer} (hsize : b.size = b.held.length)
    (h : handOver w delivered attempts b = .done after tries) :
    after = delivered ++ b.held.reverse := by
  unfold handOver at h
  dsimp only at h
  split at h
  · next hempty =>
    have hheld : b.held = [] := List.eq_nil_of_length_eq_zero (hsize ▸ hempty)
    cases h
    simp [hheld]
  · split at h <;> cases h
    rfl

/-- A writer that accepts all is handed every buffer. -/
theorem handOver_of_acceptsAll {w : Writer} (hw : w.AcceptsAll) (delivered : List UInt8)
    (attempts : Nat) (b : Csv.Buffer) :
    ∃ after tries, handOver w delivered attempts b = .done after tries := by
  unfold handOver
  dsimp only
  split
  · exact ⟨delivered, attempts, rfl⟩
  · rw [hw]
    exact ⟨_, _, rfl⟩

theorem push_size {b : Csv.Buffer} (hsize : b.size = b.held.length) (p : Csv.Piece) :
    (b.push p).size = (b.push p).held.length := by
  simp only [Csv.Buffer.push, List.length_append, List.length_reverse]
  omega

theorem push_held (b : Csv.Buffer) (p : Csv.Piece) :
    (b.push p).held.reverse = b.held.reverse ++ p.bytes := by
  simp [Csv.Buffer.push]

theorem cursorAfter_push (b : Csv.Buffer) (p : Csv.Piece) (rest : List Csv.Piece) :
    Csv.cursorAfter (b.push p).cursor rest = Csv.cursorAfter b.cursor (p :: rest) := by
  cases hlast : rest.getLast? <;> simp [Csv.cursorAfter, List.getLast?_cons, hlast, Csv.Buffer.push]

/-- Pieces that were written without trouble are all there, in order. -/
theorem write_done {w : Writer} {delivered : List UInt8} {attempts : Nat} {b : Csv.Buffer}
    {pieces : List Csv.Piece} {s : Sink} (hsize : b.size = b.held.length)
    (h : write w delivered attempts b pieces = (s, .done)) :
    ∃ after, s.status = .opened after ∧ after.cursor = Csv.cursorAfter b.cursor pieces ∧
      after.size = after.held.length ∧
      s.delivered ++ after.held.reverse =
        delivered ++ b.held.reverse ++ pieces.flatMap Csv.Piece.bytes := by
  induction pieces generalizing delivered attempts b with
  | nil =>
      cases h
      exact ⟨b, rfl, rfl, hsize, by simp⟩
  | cons p rest ih =>
      unfold write at h
      split at h
      · obtain ⟨after, hstatus, hcursor, hafter, hbytes⟩ := ih (push_size hsize p) h
        refine ⟨after, hstatus, ?_, hafter, ?_⟩
        · rw [hcursor, cursorAfter_push]
        · rw [hbytes, push_held]
          simp
      · split at h
        · next taken tries hover =>
          -- the buffer was handed over, so the piece goes into an empty one
          have hempty : (⟨b.cursor, [], 0⟩ : Csv.Buffer).size =
            (⟨b.cursor, [], 0⟩ : Csv.Buffer).held.length := rfl
          obtain ⟨after, hstatus, hcursor, hafter, hbytes⟩ := ih (push_size hempty p) h
          refine ⟨after, hstatus, ?_, hafter, ?_⟩
          · rw [hcursor, cursorAfter_push]
          · rw [hbytes, push_held, handOver_done hsize hover]
            simp
        · cases h
        · cases h

/-- Whatever a writer that takes everything is given, it is written. -/
theorem write_of_acceptsAll {w : Writer} (hw : w.AcceptsAll) (delivered : List UInt8)
    (attempts : Nat) (b : Csv.Buffer) (pieces : List Csv.Piece) :
    ∃ s, write w delivered attempts b pieces = (s, .done) := by
  induction pieces generalizing delivered attempts b with
  | nil => exact ⟨_, rfl⟩
  | cons p rest ih =>
      unfold write
      split
      · exact ih _ _ _
      · obtain ⟨after, tries, hover⟩ := handOver_of_acceptsAll hw delivered attempts b
        rw [hover]
        exact ih _ _ _

/-- A new sink holds the header and has delivered nothing. -/
theorem create_eq (w : Writer) :
    create w = ⟨.opened ⟨{}, (Csv.encodeRow Csv.header).reverse, 15⟩, [], 0⟩ := rfl

/-- The names of the columns fit into the buffer, so no writer can refuse them. -/
theorem create_holds (w : Writer) : (create w).Holds [Csv.header] :=
  ⟨⟨{}, (Csv.encodeRow Csv.header).reverse, 15⟩, rfl, rfl, rfl, by simp [create_eq, Csv.encode]⟩

/-- The header fits into the buffer, so that no writer breaks down over it. -/
theorem create_status_ne_broken (w : Writer) : (create w).status ≠ .broken := by
  obtain ⟨b, hopened, -⟩ := create_holds w
  rw [hopened]
  simp

theorem writeRow_eq_of_opened {w : Writer} {s : Sink} {b : Csv.Buffer}
    (hopened : s.status = .opened b) {fields : List Csv.Field} {mid : Sink} {after : Csv.Buffer}
    (hwrite : write w s.delivered s.attempts b (Csv.fieldsPieces b.cursor fields) = (mid, .done))
    (hafter : mid.status = .opened after)
    (hcount : after.cursor.fields = Csv.header.length) :
    writeRow w s fields =
      write w mid.delivered mid.attempts after (Csv.endPieces after.cursor) := by
  obtain ⟨status, delivered, attempts⟩ := mid
  dsimp only at hafter
  subst hafter
  simp only [writeRow, hopened, hwrite, hcount, if_true]

/-- A row that was written without trouble was written as a whole. -/
theorem Holds.writeRow_done {w : Writer} {s s' : Sink} {rows : List (List Csv.Field)}
    (hs : s.Holds rows) {first second : Csv.Field}
    (h : writeRow w s [first, second] = (s', .done)) : s'.Holds (rows ++ [[first, second]]) := by
  obtain ⟨b, hopened, hcursor, hsize, hbytes⟩ := hs
  obtain ⟨hpieces, hcount⟩ := Csv.rowPieces_bytes first [second]
  cases hwrite : write w s.delivered s.attempts b (Csv.fieldsPieces b.cursor [first, second]) with
  | mk mid outcome =>
      -- a row that is done has had its fields written
      have hdone : outcome = .done := by
        simp only [writeRow, hopened, hwrite] at h
        split at h
        · simp_all
        · simp_all
      subst hdone
      obtain ⟨after, hafter, hcursorAfter, hsizeAfter, hbytesAfter⟩ := write_done hsize hwrite
      rw [hcursor] at hcursorAfter hbytesAfter
      have hfields : after.cursor.fields = Csv.header.length := by
        rw [hcursorAfter, hcount]
        rfl
      rw [writeRow_eq_of_opened hopened hwrite hafter hfields] at h
      -- and then its end
      obtain ⟨last, hlast, hcursorLast, hsizeLast, hbytesLast⟩ := write_done hsizeAfter h
      refine ⟨last, hlast, ?_, hsizeLast, ?_⟩
      · rw [hcursorLast]
        have hend := Csv.closing_getLast? after.cursor Csv.lineFeed {}
        simp only [Csv.cursorAfter, Csv.endPieces, hend, Option.getD_some]
      · rw [hbytesLast, hbytesAfter, hbytes, Csv.encode_append, List.append_assoc, hcursorAfter,
          hpieces]
        simp [Csv.encode]

/-- With a writer that accepts all, every row is written. -/
theorem Holds.writeRow_of_acceptsAll {w : Writer} (hw : w.AcceptsAll) {s : Sink}
    {rows : List (List Csv.Field)} (hs : s.Holds rows) (first second : Csv.Field) :
    ∃ s', writeRow w s [first, second] = (s', .done) := by
  obtain ⟨b, hopened, hcursor, hsize, _⟩ := hs
  obtain ⟨mid, hwrite⟩ := write_of_acceptsAll hw s.delivered s.attempts b
    (Csv.fieldsPieces b.cursor [first, second])
  obtain ⟨after, hafter, hcursorAfter, _, _⟩ := write_done hsize hwrite
  have hfields : after.cursor.fields = Csv.header.length := by
    rw [hcursorAfter, hcursor, (Csv.rowPieces_bytes first [second]).2]
    rfl
  rw [writeRow_eq_of_opened hopened hwrite hafter hfields]
  exact write_of_acceptsAll hw _ _ _ _

/-- A sink that takes a record holds its row. -/
theorem Holds.append_done {w : Writer} {s s' : Sink} {rows : List (List Csv.Field)}
    (hs : s.Holds rows) {r : Record} (h : append w s r = (s', .done)) :
    s'.Holds (rows ++ [Csv.fieldsOf r]) :=
  hs.writeRow_done h

/-- With a writer that accepts all, every record is taken. -/
theorem Holds.append_of_acceptsAll {w : Writer} (hw : w.AcceptsAll) {s : Sink}
    {rows : List (List Csv.Field)} (hs : s.Holds rows) (r : Record) :
    ∃ s', append w s r = (s', .done) :=
  hs.writeRow_of_acceptsAll hw _ _

/-- Writing that breaks down leaves the sink broken. -/
theorem write_brokeDown {w : Writer} {delivered : List UInt8} {attempts : Nat} {b : Csv.Buffer}
    {pieces : List Csv.Piece} {s : Sink}
    (h : write w delivered attempts b pieces = (s, .brokeDown)) : s.status = .broken := by
  induction pieces generalizing delivered attempts b with
  | nil => cases h
  | cons p rest ih =>
      unfold write at h
      split at h
      · exact ih h
      · split at h
        · exact ih h
        · cases h
        · cases h
          rfl

/-- A record on which the writer breaks down leaves the sink broken. -/
theorem append_brokeDown {w : Writer} {s s' : Sink} {r : Record}
    (h : append w s r = (s', .brokeDown)) : s'.status = .broken := by
  unfold append writeRow at h
  split at h
  · cases h
  · cases h
  · split at h
    · split at h
      · exact write_brokeDown h
      · cases h
    · exact write_brokeDown h

/-- A broken sink takes no record and stays as it is. -/
theorem append_of_broken {s : Sink} (hbroken : s.status = .broken) (w : Writer) (r : Record) :
    append w s r = (s, .failed .broken) := by
  simp only [append, writeRow, hbroken]

/-- A broken sink is not closed and stays as it is. -/
theorem close_of_broken {s : Sink} (hbroken : s.status = .broken) (w : Writer) :
    close w s = (s, .failed .broken) := by
  simp only [close, hbroken]

/-- A sink that was closed without trouble has delivered all its rows. -/
theorem Holds.close_done {w : Writer} {s s' : Sink} {rows : List (List Csv.Field)}
    (hs : s.Holds rows) (h : close w s = (s', .done)) :
    s'.status = .closed ∧ s'.delivered = Csv.encode rows := by
  obtain ⟨b, hopened, _, hsize, hbytes⟩ := hs
  simp only [close, hopened] at h
  split at h
  · next hover =>
    cases h
    exact ⟨rfl, by rw [handOver_done hsize hover, hbytes]⟩
  · cases h
  · split at h <;> cases h

/-- With a writer that accepts all, a sink can be closed. -/
theorem Holds.close_of_acceptsAll {w : Writer} (hw : w.AcceptsAll) {s : Sink}
    {rows : List (List Csv.Field)} (hs : s.Holds rows) : ∃ s', close w s = (s', .done) := by
  obtain ⟨b, hopened, _, _, _⟩ := hs
  obtain ⟨after, tries, hover⟩ := handOver_of_acceptsAll hw s.delivered s.attempts b
  exact ⟨_, by simp only [close, hopened, hover]; rfl⟩

end Sink

end DocSentences
