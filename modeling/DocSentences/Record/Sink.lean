import DocSentences.Record.Csv
import DocSentences.Text.Utf8

/-!
# The sink of a run

The rows of a run go to one writer, through a buffer that is handed over when the next piece of a
row does not fit, and when the sink is closed. A writer takes all it is given, refuses all of it, or
breaks down; whatever it refuses stays in the buffer. After a breakdown nothing can be done with the
sink any more.
-/

namespace DocSentences

/-- What a writer does with the bytes it is given. -/
inductive Response
  | accept
  | refuse (reason : String)
  | breakDown
  deriving DecidableEq, Repr

/-- A writer, by its responses: to the n-th bytes it is given, after the bytes it has accepted. -/
abbrev Writer := Nat → List UInt8 → List UInt8 → Response

namespace Writer

/-- Accepts everything. -/
def willing : Writer := fun _ _ _ => .accept

/-- Accepts no more bytes in all than `limit`, and breaks down at more than `breakAt`. -/
def bounded (limit breakAt : Option Nat) : Writer := fun _ accepted bytes =>
  let total := accepted.length + bytes.length
  if limit.any (· < total) then .refuse "disk full"
  else if breakAt.any (· < total) then .breakDown
  else .accept

end Writer

namespace Csv

/-- The number of bytes that a buffer holds. -/
def capacity : Nat := 8192

/-- The names of the columns. -/
def header : List Field := [Utf8.encode "Class".toList, Utf8.encode "Sentence".toList]

/-- The fields of a record. -/
def fieldsOf (r : Record) : List Field := [Utf8.encode r.key.toList, Utf8.encode r.sentence.toList]

/-- How far the present row has been written. -/
structure Cursor where
  /-- The fields that are complete. -/
  fields : Nat := 0
  inField : Bool := false
  /-- Whether the present field is between quotes. -/
  quoting : Bool := false
  deriving DecidableEq, Repr

/-- A piece of a row that goes into the buffer as a whole, and the cursor after it. -/
structure Piece where
  bytes : List UInt8
  cursor : Cursor

/-- The pieces that end the present field, before the given byte. -/
def closing (c : Cursor) (last : UInt8) (after : Cursor) : List Piece :=
  if c.quoting then [⟨[quote], { c with quoting := false }⟩, ⟨[last], after⟩] else [⟨[last], after⟩]

/-- The pieces of a field that may have been begun. -/
def fieldPieces (c : Cursor) (field : Field) : List Piece :=
  let quoting := if c.inField then c.quoting else needsQuotes field
  let begun : Cursor := { c with inField := true, quoting := quoting }
  let start : List Piece :=
    if c.inField then [] else if quoting then [⟨[quote], begun⟩] else [⟨[], begun⟩]
  let content := field.map fun b =>
    (⟨if quoting && b == quote then [quote, quote] else [b], begun⟩ : Piece)
  start ++ content ++ [⟨[], { begun with fields := c.fields + 1 }⟩]

/-- The pieces of a field, with the comma before it unless it is the first one. -/
def nextFieldPieces (c : Cursor) (field : Field) : List Piece :=
  if c.fields = 0 then fieldPieces c field
  else
    let after : Cursor := { c with inField := false, quoting := false }
    closing c comma after ++ fieldPieces after field

/-- The pieces of some fields. -/
def fieldsPieces (c : Cursor) : List Field → List Piece
  | [] => []
  | field :: rest =>
      let pieces := nextFieldPieces c field
      pieces ++ fieldsPieces ((pieces.getLast?.map (·.cursor)).getD c) rest

/-- The pieces that end a row. -/
def endPieces (c : Cursor) : List Piece := closing c lineFeed {}

/-- What is between a run and its writer. -/
structure Buffer where
  cursor : Cursor := {}
  /-- The bytes not yet handed over, the latest first. -/
  held : List UInt8 := []
  /-- The number of these bytes. -/
  size : Nat := 0
  deriving DecidableEq, Repr

/-- Puts a piece into a buffer. -/
def Buffer.push (b : Buffer) (p : Piece) : Buffer :=
  ⟨p.cursor, p.bytes.reverse ++ b.held, b.size + p.bytes.length⟩

end Csv

/-- Whether a sink takes rows. -/
inductive SinkStatus
  | opened (buffer : Csv.Buffer)
  | closed
  /-- The writer broke down. -/
  | broken
  deriving DecidableEq, Repr

/-- Why a sink does not do what it is told. -/
inductive SinkFault
  /-- The file cannot be opened, or the rest of it not be written. -/
  | io (reason : String)
  /-- A row cannot be written. -/
  | row (reason : String)
  | closed
  | broken
  deriving DecidableEq, Repr

/-- What went wrong with a sink, in words. -/
def SinkFault.message : SinkFault → String
  | io reason => s!"I/O error: {reason}"
  | row reason => s!"CSV error: {reason}"
  | closed => "Sink is closed"
  | broken => "Sink lock poisoned"

/-- How an action on a sink ends. -/
inductive SinkOutcome
  | done
  | failed (fault : SinkFault)
  /-- The writer broke down just now. -/
  | brokeDown
  deriving DecidableEq, Repr

/-- A sink: its status, the bytes that the writer accepted, and how often it was given any. -/
structure Sink where
  status : SinkStatus
  delivered : List UInt8 := []
  attempts : Nat := 0
  deriving DecidableEq, Repr

namespace Sink

/-- How handing over the buffer ends. -/
inductive Handover
  | done (delivered : List UInt8) (attempts : Nat)
  | refused (reason : String) (attempts : Nat)
  | brokeDown (attempts : Nat)

/-- Hands over the bytes of a buffer; an empty one is not handed over at all. -/
def handOver (w : Writer) (delivered : List UInt8) (attempts : Nat) (b : Csv.Buffer) : Handover :=
  if b.size = 0 then .done delivered attempts
  else
    let bytes := b.held.reverse
    match w attempts delivered bytes with
    | .accept => .done (delivered ++ bytes) (attempts + 1)
    | .refuse reason => .refused reason (attempts + 1)
    | .breakDown => .brokeDown (attempts + 1)

/-- Writes pieces of a row, until the writer does not take the buffer. -/
def write (w : Writer) (delivered : List UInt8) (attempts : Nat) (b : Csv.Buffer) :
    List Csv.Piece → Sink × SinkOutcome
  | [] => (⟨.opened b, delivered, attempts⟩, .done)
  | p :: rest =>
      if b.size + p.bytes.length ≤ Csv.capacity then
        write w delivered attempts (b.push p) rest
      else
        match handOver w delivered attempts b with
        | .done delivered attempts =>
            write w delivered attempts ({ b with held := [], size := 0 : Csv.Buffer }.push p) rest
        | .refused reason attempts => (⟨.opened b, delivered, attempts⟩, .failed (.row reason))
        | .brokeDown attempts => (⟨.broken, delivered, attempts⟩, .brokeDown)

/-- Writes one row. The row before it has as many fields, unless writing it failed half way. -/
def writeRow (w : Writer) (s : Sink) (fields : List Csv.Field) : Sink × SinkOutcome :=
  match s.status with
  | .closed => (s, .failed .closed)
  | .broken => (s, .failed .broken)
  | .opened buffer =>
      match write w s.delivered s.attempts buffer (Csv.fieldsPieces buffer.cursor fields) with
      | (⟨.opened buffer, delivered, attempts⟩, .done) =>
          if buffer.cursor.fields = Csv.header.length then
            write w delivered attempts buffer (Csv.endPieces buffer.cursor)
          else
            (⟨.opened buffer, delivered, attempts⟩,
              .failed (.row (s!"CSV error: found record with {buffer.cursor.fields} fields, but " ++
                s!"the previous record has {Csv.header.length} fields")))
      | ended => ended

/-- A sink with the names of the columns as its first row. -/
def create (w : Writer) : Sink := (writeRow w ⟨.opened {}, [], 0⟩ Csv.header).1

/-- Adds a record. -/
def append (w : Writer) (s : Sink) (r : Record) : Sink × SinkOutcome :=
  writeRow w s (Csv.fieldsOf r)

/-- Hands over the rest and closes the sink, also if the writer does not take it. What it refused is
offered once more before it is given up. -/
def close (w : Writer) (s : Sink) : Sink × SinkOutcome :=
  match s.status with
  | .closed => (s, .failed .closed)
  | .broken => (s, .failed .broken)
  | .opened buffer =>
      match handOver w s.delivered s.attempts buffer with
      | .done delivered attempts => (⟨.closed, delivered, attempts⟩, .done)
      | .brokeDown attempts => (⟨.broken, s.delivered, attempts⟩, .brokeDown)
      | .refused reason attempts =>
          match handOver w s.delivered attempts buffer with
          | .done delivered attempts => (⟨.closed, delivered, attempts⟩, .failed (.io reason))
          | .refused _ attempts => (⟨.closed, s.delivered, attempts⟩, .failed (.io reason))
          | .brokeDown attempts => (⟨.broken, s.delivered, attempts⟩, .brokeDown)

/-- Gives up a sink that has not been closed: it hands over what it holds, and nobody learns whether
the writer took it. -/
def giveUp (w : Writer) (s : Sink) : Sink :=
  match s.status with
  | .closed | .broken => s
  | .opened buffer =>
      match handOver w s.delivered s.attempts buffer with
      | .done delivered attempts => ⟨.closed, delivered, attempts⟩
      | .refused _ attempts => ⟨.closed, s.delivered, attempts⟩
      | .brokeDown attempts => ⟨.broken, s.delivered, attempts⟩

/-- Whether no more rows are taken. -/
def isClosed (s : Sink) : Bool :=
  match s.status with
  | .opened _ => false
  | .closed | .broken => true

end Sink

end DocSentences
