import DocSentences.Document.Basic
import DocSentences.Extraction.Description
import DocSentences.Record.Basic
import DocSentences.Sentence.Segmenter

/-!
# Extraction of records

The records of one document: the sentences of its descriptions, trimmed, without those that are too
short, under the key of the document or of the single description.
-/

namespace DocSentences.Extraction

/-- The records that a description gives. -/
def recordsOfText (settings : Settings) (segmenter : Segmenter) (key : String) (text : List Char) :
    List Record :=
  (((segmenter text).map Text.trim).filter fun sentence =>
    settings.minSentenceChars ≤ sentence.length).map fun sentence => ⟨key, String.ofList sentence⟩

/-- The records that the descriptions of a page give. -/
def recordsOfPage (settings : Settings) (segmenter : Segmenter) (document : Document)
    (descriptions : List (List Char)) : List Record :=
  if settings.fragmentKeys && 1 < descriptions.length then
    (descriptions.zipIdx 1).flatMap fun (text, n) =>
      recordsOfText settings segmenter (document.fragmentKey n) text
  else recordsOfText settings segmenter document.key (Text.joinWith [' '] descriptions)

/-- The records of a document with the given text. -/
def recordsOfSource (settings : Settings) (segmenter : Segmenter) (document : Document)
    (text : List Char) : Except Failure (List Record) :=
  match document.format with
  | .structured =>
      match sourceDescription settings.style document.stem text with
      | .error failure => .error failure
      | .ok none => .ok []
      | .ok (some description) => .ok (recordsOfText settings segmenter document.key description)
  | .markup =>
      match pageDescriptions? settings.style settings.descriptionSelector text with
      | .error failure => .error failure
      | .ok descriptions => .ok (recordsOfPage settings segmenter document descriptions)

/-- What reading a file gave: its bytes, or why it cannot be read. -/
abbrev FileContent := Except String (List UInt8)

/-- The records of a document whose file has the given content. -/
def recordsOfFile (settings : Settings) (segmenter : Segmenter) (document : Document)
    (content : FileContent) : Except Failure (List Record) :=
  match content with
  | .error reason => .error (.unreadable document.path reason)
  | .ok bytes =>
      match Utf8.decode? bytes with
      | none => .error (.notText document.path)
      | some text => recordsOfSource settings segmenter document text

/-- Refuses settings that make no sense; no extraction begins without this. -/
def Settings.check (settings : Settings) : Except Failure Unit :=
  match settings.fault? with
  | some fault => .error (.badSettings fault.message)
  | none => .ok ()

/-- The segmenter that goes with some settings. -/
def Settings.segmenter (settings : Settings) : Segmenter :=
  Segmenter.unicode settings.minSentenceChars

end DocSentences.Extraction
