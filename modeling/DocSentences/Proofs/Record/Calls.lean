import DocSentences.Proofs.Record.Sink
import DocSentences.Proofs.Record.Table
import DocSentences.Proofs.Text.Utf8
import Mathlib.Data.List.Induction

/-!
# Calls of a sink

A sink is used by calls, one after the other. If the writer takes whatever it is given, then all
calls that append a record succeed, and once the sink is closed the records can be read from what
was delivered.
-/

namespace DocSentences

namespace Sink

/-- What a sink can be called for. -/
inductive Call
  | append (r : Record)
  | close
  | isClosed
  deriving DecidableEq, Repr

/-- What comes back from a call. -/
inductive Answer
  | ended (outcome : SinkOutcome)
  | closed (value : Bool)
  deriving DecidableEq, Repr

/-- Makes a call. -/
def call (w : Writer) (s : Sink) : Call → Sink × Answer
  | .append r => ((append w s r).1, .ended (append w s r).2)
  | .close => ((close w s).1, .ended (close w s).2)
  | .isClosed => (s, .closed s.isClosed)

/-- A new sink after some calls. -/
def after (w : Writer) (calls : List Call) : Sink :=
  calls.foldl (fun s next => (s.call w next).1) (create w)

/-- The answer to a call of a new sink after some other calls. -/
def answer (w : Writer) (calls : List Call) (next : Call) : Answer :=
  ((after w calls).call w next).2

@[simp] theorem after_nil (w : Writer) : after w [] = create w := rfl

@[simp] theorem after_concat (w : Writer) (calls : List Call) (next : Call) :
    after w (calls ++ [next]) = ((after w calls).call w next).1 := by
  simp [after, List.foldl_append]

end Sink

namespace Csv

/-- The rows of a table as texts, if its fields are texts. -/
def decodeText? (bytes : List UInt8) : Option (List (List String)) :=
  (decode bytes).mapM fun row => row.mapM fun field => (Utf8.decode? field).map String.ofList

/-- The fields of a record, as texts. -/
def textsOf (r : Record) : List String := [r.key, r.sentence]

theorem header_cons_map (records : List Record) :
    header :: records.map fieldsOf = (⟨"Class", "Sentence"⟩ :: records).map fieldsOf := rfl

theorem two_le_length_of_mem {records : List Record} :
    ∀ row ∈ records.map fieldsOf, 2 ≤ row.length := by
  intro row hrow
  obtain ⟨r, -, rfl⟩ := List.mem_map.mp hrow
  exact Nat.le_refl 2

theorem text_encode (text : String) :
    (Utf8.decode? (Utf8.encode text.toList)).map String.ofList = some text := by
  rw [Utf8.decode?_encode, Option.map_some, String.ofList_toList]

/-- The fields of a record are read back as its texts. -/
theorem texts_fieldsOf (r : Record) :
    ((fieldsOf r).mapM fun field => (Utf8.decode? field).map String.ofList) =
      some (textsOf r) := by
  simp [fieldsOf, textsOf, text_encode]

/-- Records can be read from what is written for them. -/
theorem decodeText?_encode (records : List Record) :
    decodeText? (encode (records.map fieldsOf)) = some (records.map textsOf) := by
  rw [decodeText?, decode_of_isTable (isTable_encode two_le_length_of_mem), List.mapM_map]
  simp only [Function.comp_def, texts_fieldsOf]
  exact List.mapM_pure

end Csv

namespace Sink

variable {w : Writer}

/-- With a writer that accepts all, a sink holds every record that was appended. -/
theorem holds_after_appends (hw : w.AcceptsAll) (records : List Record) :
    (after w (records.map .append)).Holds (Csv.header :: records.map Csv.fieldsOf) := by
  induction records using List.reverseRecOn with
  | nil => exact create_holds w
  | append_singleton records r ih =>
      -- the sink takes the last record after those before it
      obtain ⟨s, hdone⟩ := ih.append_of_acceptsAll hw r
      have hholds := ih.append_done hdone
      simpa [call, hdone] using hholds

/-- Whatever records are appended to a sink whose writer takes everything, all of them are taken,
the sink can be closed, and the bytes delivered are then the table of these records and no other
one. -/
theorem decodeText?_after_close (w : Writer) (hw : w.AcceptsAll) (records : List Record) :
    (∀ before r rest, records = before ++ r :: rest →
      answer w (before.map .append) (.append r) = .ended .done) ∧
    answer w (records.map .append) .close = .ended .done ∧
    (∀ table, Csv.IsTable (after w (records.map .append ++ [.close])).delivered table ↔
      table = Csv.header :: records.map Csv.fieldsOf) ∧
    Csv.decodeText? (after w (records.map .append ++ [.close])).delivered =
      some (["Class", "Sentence"] :: records.map Csv.textsOf) := by
  have hholds := holds_after_appends hw records
  obtain ⟨s, hclose⟩ := hholds.close_of_acceptsAll hw
  have hdelivered : (after w (records.map .append ++ [.close])).delivered =
      Csv.encode (Csv.header :: records.map Csv.fieldsOf) := by
    simpa [call, hclose] using (hholds.close_done hclose).2
  refine ⟨?_, ?_, ?_, ?_⟩
  · rintro before r rest rfl
    obtain ⟨s, hdone⟩ := (holds_after_appends hw before).append_of_acceptsAll hw r
    simp [answer, call, hdone]
  · simp [answer, call, hclose]
  · rw [hdelivered, Csv.header_cons_map]
    exact Csv.isTable_encode_iff Csv.two_le_length_of_mem
  · rw [hdelivered, Csv.header_cons_map]
    exact Csv.decodeText?_encode _

/-- Records with every byte that means something in a table, and one without any text. -/
def awkwardRecords : List Record := [⟨"a,b", "He said \"no\".\r\n"⟩, ⟨"", ""⟩]

theorem awkwardRecords_after_close :
    Writer.willing.AcceptsAll ∧
    answer .willing (awkwardRecords.map .append) .close = .ended .done ∧
    Csv.decodeText? (after .willing (awkwardRecords.map .append ++ [.close])).delivered =
      some [["Class", "Sentence"], ["a,b", "He said \"no\".\r\n"], ["", ""]] := by
  obtain ⟨-, hclose, -, hread⟩ :=
    decodeText?_after_close .willing Writer.willing_acceptsAll awkwardRecords
  exact ⟨Writer.willing_acceptsAll, hclose, hread⟩

end Sink

end DocSentences
