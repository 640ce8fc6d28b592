import DocSentences.Record.Basic

/-!
# Comma-separated rows

A row is its fields with commas between them and a line feed at the end. A field that holds a comma,
a quote or a line end is put between quotes, and each quote in it is written twice. Reading also
takes other line ends.
-/

namespace DocSentences.Csv

/-- A field, as the bytes it stands for. -/
abbrev Field := List UInt8

/-- The byte `,`. -/
def comma : UInt8 := 0x2C

/-- The byte `"`. -/
def quote : UInt8 := 0x22

/-- The byte that ends a row. -/
def lineFeed : UInt8 := 0x0A

/-- The other byte that ends a row for a reader. -/
def carriageReturn : UInt8 := 0x0D

/-- Whether a field has to be put between quotes. -/
def needsQuotes (field : Field) : Bool :=
  field.any fun b => b == comma || b == quote || b == lineFeed || b == carriageReturn

/-- Writes each quote twice. -/
def doubled (field : Field) : List UInt8 :=
  field.flatMap fun b => if b == quote then [quote, quote] else [b]

/-- Writes a field. -/
def encodeField (field : Field) : List UInt8 :=
  if needsQuotes field then quote :: doubled field ++ [quote] else field

/-- Writes a row. -/
def encodeRow : List Field → List UInt8
  | [] => [lineFeed]
  | [field] => encodeField field ++ [lineFeed]
  | field :: rest => encodeField field ++ comma :: encodeRow rest

/-- Writes rows. -/
def encode (rows : List (List Field)) : List UInt8 := rows.flatMap encodeRow

/-- Where a reader stands. -/
inductive Place
  | rowStart
  | fieldStart
  | plain
  | quoted
  /-- After a quote that ends a quoted field unless another one follows. -/
  | afterQuote
  deriving DecidableEq, Repr

/-- What has been read: whole rows, the fields of the present row, and the bytes of the present
field, each with the latest first. -/
structure Reading where
  place : Place := .rowStart
  rows : List (List Field) := []
  fields : List Field := []
  field : Field := []

namespace Reading

/-- Ends the present field. -/
def endField (r : Reading) : Reading :=
  { r with place := .fieldStart, fields := r.field.reverse :: r.fields, field := [] }

/-- Ends the present row. -/
def endRow (r : Reading) : Reading :=
  let r := r.endField
  { r with place := .rowStart, rows := r.fields.reverse :: r.rows, fields := [] }

/-- Adds a byte to the present field. -/
def add (r : Reading) (place : Place) (b : UInt8) : Reading :=
  { r with place := place, field := b :: r.field }

/-- Reads a byte that is not inside quotes. -/
def outside (r : Reading) (b : UInt8) : Reading :=
  if b == comma then r.endField
  else if b == lineFeed || b == carriageReturn then r.endRow
  else r.add .plain b

/-- Reads one byte. -/
def step (r : Reading) (b : UInt8) : Reading :=
  match r.place with
  | .rowStart =>
      if b == lineFeed || b == carriageReturn then r
      else if b == quote then { r with place := .quoted }
      else r.outside b
  | .fieldStart => if b == quote then { r with place := .quoted } else r.outside b
  | .plain => r.outside b
  | .quoted => if b == quote then { r with place := .afterQuote } else r.add .quoted b
  | .afterQuote => if b == quote then r.add .quoted b else r.outside b

/-- The rows read, once the bytes have ended. -/
def finish (r : Reading) : List (List Field) :=
  (if r.place = .rowStart then r else r.endRow).rows.reverse

end Reading

/-- Reads rows. -/
def decode (bytes : List UInt8) : List (List Field) :=
  (bytes.foldl Reading.step {}).finish

end DocSentences.Csv
