import DocSentences.Record.Csv

/-!
# Tables as texts

A table has a grammar of its own, which says nothing about how it is written or read. Rows are
written in accordance with it, and whatever accords with it is read as its rows. So a text is a
table in one way only.
-/

namespace DocSentences.Csv

/-! ## The grammar -/

/-- Whether a field can stand without quotes. -/
def IsPlain (field : Field) : Prop :=
  ∀ b ∈ field, b ≠ comma ∧ b ≠ quote ∧ b ≠ lineFeed ∧ b ≠ carriageReturn

/-- The bytes between quotes that stand for a field. -/
inductive IsQuoted : List UInt8 → Field → Prop
  | nil : IsQuoted [] []
  | byte {b : UInt8} {bytes : List UInt8} {field : Field} (hb : b ≠ quote) :
      IsQuoted bytes field → IsQuoted (b :: bytes) (b :: field)
  | quotes {bytes : List UInt8} {field : Field} :
      IsQuoted bytes field → IsQuoted (quote :: quote :: bytes) (quote :: field)

/-- The bytes that stand for a field. -/
inductive IsField : List UInt8 → Field → Prop
  | plain {field : Field} (hplain : IsPlain field) : IsField field field
  | quoted {bytes : List UInt8} {field : Field} (hquoted : IsQuoted bytes field) :
      IsField (quote :: bytes ++ [quote]) field

/-- The bytes that stand for a row, without its end. -/
inductive IsRow : List UInt8 → List Field → Prop
  | last {bytes : List UInt8} {field : Field} (hfield : IsField bytes field) : IsRow bytes [field]
  | cons {bytes rest : List UInt8} {field : Field} {fields : List Field}
      (hfield : IsField bytes field) (hrest : IsRow rest fields) :
      IsRow (bytes ++ comma :: rest) (field :: fields)

/-- The bytes that end a row. -/
inductive IsLineEnd : List UInt8 → Prop
  | lineFeed : IsLineEnd [lineFeed]
  | both : IsLineEnd [carriageReturn, lineFeed]

/-- The bytes that stand for a table. The last row need not be ended; a row for which there are no
bytes is none. -/
inductive IsTable : List UInt8 → List (List Field) → Prop
  | empty : IsTable [] []
  | last {bytes : List UInt8} {row : List Field} (hrow : IsRow bytes row) (hbytes : bytes ≠ []) :
      IsTable bytes [row]
  | cons {bytes lineEnd rest : List UInt8} {row : List Field} {rows : List (List Field)}
      (hrow : IsRow bytes row) (hbytes : bytes ≠ []) (hend : IsLineEnd lineEnd)
      (hrest : IsTable rest rows) : IsTable (bytes ++ lineEnd ++ rest) (row :: rows)

/-! ## Written rows -/

theorem isPlain_of_needsQuotes {field : Field} (h : needsQuotes field = false) :
    IsPlain field := by
  intro b hb
  have hbyte := List.any_eq_false.mp h b hb
  simpa [and_assoc] using hbyte

theorem isQuoted_doubled (field : Field) : IsQuoted (doubled field) field := by
  induction field with
  | nil => exact .nil
  | cons b rest ih =>
      by_cases hb : b = quote
      · subst hb
        exact .quotes ih
      · have hdoubled : doubled (b :: rest) = b :: doubled rest := by simp [doubled, hb]
        rw [hdoubled]
        exact .byte hb ih

/-- Every field is written as the grammar has it. -/
theorem isField_encodeField (field : Field) : IsField (encodeField field) field := by
  cases hquotes : needsQuotes field with
  | false =>
      rw [encodeField, hquotes]
      exact .plain (isPlain_of_needsQuotes hquotes)
  | true =>
      rw [encodeField, hquotes]
      exact .quoted (isQuoted_doubled field)

/-- Every row is written as the grammar has it, with a line end. -/
theorem exists_isRow_encodeRow (field : Field) (rest : List Field) :
    ∃ bytes, encodeRow (field :: rest) = bytes ++ [lineFeed] ∧ IsRow bytes (field :: rest) := by
  induction rest generalizing field with
  | nil => exact ⟨encodeField field, rfl, .last (isField_encodeField field)⟩
  | cons next rest ih =>
      obtain ⟨bytes, hbytes, hrow⟩ := ih next
      refine ⟨encodeField field ++ comma :: bytes, ?_, .cons (isField_encodeField field) hrow⟩
      rw [encodeRow, hbytes, List.append_assoc, List.cons_append]
      simp

theorem IsRow.ne_nil {bytes : List UInt8} {first second : Field} {rest : List Field}
    (h : IsRow bytes (first :: second :: rest)) : bytes ≠ [] := by
  cases h
  simp

/-- Rows of at least two fields are written as a table. -/
theorem isTable_encode {rows : List (List Field)} (hrows : ∀ row ∈ rows, 2 ≤ row.length) :
    IsTable (encode rows) rows := by
  induction rows with
  | nil => exact .empty
  | cons row rest ih =>
      have hrest := ih fun other hother => hrows other (List.mem_cons_of_mem row hother)
      match row, hrows row List.mem_cons_self with
      | first :: second :: fields, _ =>
          obtain ⟨bytes, hbytes, hrow⟩ := exists_isRow_encodeRow first (second :: fields)
          have hencode : encode ((first :: second :: fields) :: rest) =
              bytes ++ [lineFeed] ++ encode rest := by
            rw [← hbytes]
            rfl
          rw [hencode]
          exact .cons hrow hrow.ne_nil .lineFeed hrest

/-! ## Reading a table -/

namespace Reading

/-- The fields of the present row, the present one with them. -/
def row (r : Reading) : List Field := (r.field.reverse :: r.fields).reverse

/-- Whether a field can begin here. -/
def AtStart (r : Reading) : Prop := (r.place = .rowStart ∨ r.place = .fieldStart) ∧ r.field = []

theorem step_quote {r : Reading} (h : r.AtStart) : r.step quote = { r with place := .quoted } := by
  have hmarks : quote ≠ lineFeed ∧ quote ≠ carriageReturn := by decide
  rcases h.1 with hplace | hplace <;> simp_all [step]

/-- A quoted field is read back up to its closing quote. -/
theorem foldl_isQuoted {bytes : List UInt8} {field : Field} (h : IsQuoted bytes field)
    {r : Reading} (hplace : r.place = .quoted) :
    bytes.foldl step r = { r with field := field.reverse ++ r.field } := by
  induction h generalizing r with
  | nil => rfl
  | @byte b bytes field hb _ ih =>
      have hstep : r.step b = r.add .quoted b := by simp [step, hplace, hb]
      rw [List.foldl_cons, hstep, ih rfl]
      simp [add, hplace]
  | @quotes bytes field _ ih =>
      have hfirst : r.step quote = { r with place := .afterQuote } := by simp [step, hplace]
      have hsecond : ({ r with place := .afterQuote } : Reading).step quote =
          r.add .quoted quote := by simp [step, add]
      rw [List.foldl_cons, List.foldl_cons, hfirst, hsecond, ih rfl]
      simp [add, hplace]

theorem step_of_plain {r : Reading} (hplace : r.place ≠ .quoted) {b : UInt8}
    (hb : b ≠ comma ∧ b ≠ quote ∧ b ≠ lineFeed ∧ b ≠ carriageReturn) :
    r.step b = r.add .plain b := by
  obtain ⟨hcomma, hquote, hlineFeed, hreturn⟩ := hb
  cases hcase : r.place <;> simp_all [step, outside]

theorem foldl_isPlain {field : Field} (h : IsPlain field) {r : Reading}
    (hplace : r.place ≠ .quoted) :
    field.foldl step r =
      { r with
        place := if field = [] then r.place else .plain
        field := field.reverse ++ r.field } := by
  induction field generalizing r with
  | nil => rfl
  | cons b rest ih =>
      have hrest : IsPlain rest := fun other hother => h other (List.mem_cons_of_mem b hother)
      rw [List.foldl_cons, step_of_plain hplace (h b List.mem_cons_self), ih hrest (by simp [add])]
      simp [add]

/-- What a reading is like after the bytes of a field; only if there were none it is where it was. -/
theorem foldl_isField {bytes : List UInt8} {field : Field} (h : IsField bytes field) {r : Reading}
    (hstart : r.AtStart) :
    ∃ place, bytes.foldl step r = { r with place := place, field := field.reverse } ∧
      place ≠ .quoted ∧ (place = .rowStart → bytes = []) := by
  have hplace : r.place ≠ .quoted := by rcases hstart.1 with hplace | hplace <;> simp [hplace]
  cases h with
  | plain hplain =>
      refine ⟨if bytes = [] then r.place else .plain, ?_, ?_, ?_⟩
      · rw [foldl_isPlain hplain hplace, hstart.2, List.append_nil]
      · split <;> simp [hplace]
      · split <;> simp_all
  | quoted hquoted =>
      refine ⟨.afterQuote, ?_, by simp, by simp⟩
      rw [List.cons_append, List.foldl_cons, step_quote hstart, List.foldl_append,
        foldl_isQuoted hquoted rfl]
      simp [step, hstart.2]

theorem step_comma {r : Reading} (hplace : r.place ≠ .quoted) : r.step comma = r.endField := by
  have hmarks : comma ≠ lineFeed ∧ comma ≠ carriageReturn ∧ comma ≠ quote := by decide
  cases hcase : r.place <;> simp_all [step, outside]

theorem step_of_rowEnd {r : Reading} (hplace : r.place ≠ .quoted) (hstart : r.place ≠ .rowStart)
    {b : UInt8} (hb : b = lineFeed ∨ b = carriageReturn) : r.step b = r.endRow := by
  have hmarks : b ≠ comma ∧ b ≠ quote := by rcases hb with rfl | rfl <;> decide
  cases hcase : r.place <;> simp_all [step, outside]

/-- The fields of a row are read back, in order. -/
theorem foldl_isRow {bytes : List UInt8} {fields : List Field} (h : IsRow bytes fields)
    {r : Reading} (hstart : r.AtStart) :
    (bytes.foldl step r).rows = r.rows ∧
      (bytes.foldl step r).row = r.fields.reverse ++ fields ∧
      (bytes.foldl step r).place ≠ .quoted ∧
      ((bytes.foldl step r).place = .rowStart → bytes = []) := by
  induction h generalizing r with
  | last hfield =>
      obtain ⟨place, hread, hquoted, hempty⟩ := foldl_isField hfield hstart
      rw [hread]
      exact ⟨rfl, by simp [row], hquoted, hempty⟩
  | @cons bytes rest field fields hfield hrest ih =>
      obtain ⟨place, hread, hquoted, -⟩ := foldl_isField hfield hstart
      have hnext : ({ r with place := place, field := field.reverse } : Reading).endField.AtStart :=
        ⟨.inr rfl, rfl⟩
      obtain ⟨hrows, hrow, hplace, hempty⟩ := ih hnext
      rw [List.foldl_append, List.foldl_cons, hread, step_comma hquoted]
      refine ⟨hrows, ?_, hplace, ?_⟩
      · rw [hrow]
        simp [endField]
      · -- the reading has passed the comma, so it is not at the start of a row
        intro hrowStart
        have hrestEmpty := hempty hrowStart
        subst hrestEmpty
        simp [endField] at hrowStart

/-- A line end completes a row. -/
theorem foldl_isLineEnd {bytes : List UInt8} (h : IsLineEnd bytes) {r : Reading}
    (hplace : r.place ≠ .quoted) (hstart : r.place ≠ .rowStart) :
    bytes.foldl step r = r.endRow := by
  cases h with
  | lineFeed => exact step_of_rowEnd hplace hstart (.inl rfl)
  | both =>
      rw [List.foldl_cons, step_of_rowEnd hplace hstart (.inr rfl)]
      simp [step, endRow]

theorem foldl_isTable {bytes : List UInt8} {table : List (List Field)} (h : IsTable bytes table)
    (rows : List (List Field)) :
    (bytes.foldl step { rows := rows }).finish = rows.reverse ++ table := by
  have hstart : ∀ rows : List (List Field), ({ rows := rows } : Reading).AtStart :=
    fun _ => ⟨.inl rfl, rfl⟩
  induction h generalizing rows with
  | empty => simp [finish]
  | last hrow hbytes =>
      obtain ⟨hrows, hfields, -, hempty⟩ := foldl_isRow hrow (hstart rows)
      have hplace := mt hempty hbytes
      simp only [row, List.reverse_nil, List.nil_append] at hfields
      -- the last row was not ended, so the end of the text ends it
      rw [finish, if_neg hplace]
      simp [endRow, endField, hrows, ← hfields]
  | @cons bytes lineEnd rest fields table hrow hbytes hend _ ih =>
      obtain ⟨hrows, hfields, hquoted, hempty⟩ := foldl_isRow hrow (hstart rows)
      have hended := foldl_isLineEnd hend hquoted (mt hempty hbytes)
      have hnext : (bytes.foldl step { rows := rows }).endRow =
          ({ rows := fields :: rows } : Reading) := by
        simp only [row, List.reverse_nil, List.nil_append] at hfields
        simp only [endRow, endField, hrows, hfields]
      rw [List.foldl_append, List.foldl_append, hended, hnext, ih]
      simp

end Reading

/-- What the grammar has as a table is read as that table. -/
theorem decode_of_isTable {bytes : List UInt8} {table : List (List Field)}
    (h : IsTable bytes table) : decode bytes = table :=
  Reading.foldl_isTable h []

/-- Rows of at least two fields can be read from what is written for them, and from it only they
can be read. -/
theorem isTable_encode_iff {rows : List (List Field)} (hrows : ∀ row ∈ rows, 2 ≤ row.length)
    (table : List (List Field)) : IsTable (encode rows) table ↔ table = rows := by
  constructor
  · -- reading is a function, so there is only one table to be read
    intro htable
    rw [← decode_of_isTable htable, decode_of_isTable (isTable_encode hrows)]
  · rintro rfl
    exact isTable_encode hrows

end DocSentences.Csv
