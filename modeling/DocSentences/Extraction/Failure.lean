import DocSentences.Document.Path

/-!
# Failures of an extraction

Why a document gives no records. All of them concern the one document, except that an element of an
unknown kind is a fault of the extraction itself, on which a whole run stops.
-/

namespace DocSentences.Extraction

/-- Why a document gives no records. -/
inductive Failure
  /-- The file cannot be read. -/
  | unreadable (path : Path) (reason : String)
  /-- The bytes of the file encode no text. -/
  | notText (path : Path)
  /-- The text is not put together as it should be. -/
  | malformed (detail : String)
  /-- A description holds an element that has no plain text. -/
  | unknownElement (kind : String)
  /-- The settings are refused. -/
  | badSettings (detail : String)
  deriving DecidableEq, Repr

namespace Failure

/-- What went wrong, in words. -/
def message : Failure → String
  | unreadable path reason => s!"I/O error reading {path.display}: {reason}"
  | notText path => s!"Invalid UTF-8 in {path.display}"
  | malformed detail => s!"Parse error: {detail}"
  | unknownElement kind => s!"Unknown description element type: {kind}"
  | badSettings detail => s!"Configuration error: {detail}"

/-- Whether the fault lies with the extraction and not with the document. -/
def isFatal : Failure → Bool
  | unknownElement _ => true
  | _ => false

end Failure

end DocSentences.Extraction
