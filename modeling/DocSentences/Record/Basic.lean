/-!
# Records

What is extracted: a sentence, and the key of the document that it describes.
-/

namespace DocSentences

/-- A sentence and its key. -/
structure Record where
  key : String
  sentence : String
  deriving DecidableEq, Repr, Hashable, Inhabited

namespace Record

/-- The order of records: by key, then by sentence. -/
def compare (a b : Record) : Ordering :=
  (Ord.compare a.key b.key).then (Ord.compare a.sentence b.sentence)

/-- Whether one record does not come after another. -/
def le (a b : Record) : Bool := (a.compare b).isLE

/-- The records in order. -/
def sort (records : List Record) : List Record := records.mergeSort le

end Record

end DocSentences
