import DocSentences.Document.Path
import DocSentences.Run.Time

/-!
# Counting a run

A tally counts what becomes of the documents of a run and of their rows. A summary is what is left
of it at the end; it does not depend on the order in which things were counted.
-/

namespace DocSentences.Run

/-- What has been counted so far. -/
structure Tally where
  /-- The documents of the corpus. -/
  total : Nat := 0
  /-- The documents that have ended, well or not. -/
  completed : Nat := 0
  failed : Nat := 0
  /-- The rows written. -/
  recordsWritten : Nat := 0
  /-- The keys of these rows, each once. -/
  keys : List String := []
  /-- The paths of the documents that failed, the latest first. -/
  failedPaths : List Path := []
  deriving DecidableEq, Repr

/-- The counts at the end of a run. -/
structure Summary where
  total : Nat := 0
  completed : Nat := 0
  failed : Nat := 0
  /-- The entries that were skipped while the documents were found. -/
  skipped : Nat := 0
  recordsWritten : Nat := 0
  distinctKeys : Nat := 0
  /-- The paths of the documents that failed, in order. -/
  failedPaths : List Path := []
  elapsedMilliseconds : Nat := 0
  deriving DecidableEq, Repr

namespace Tally

/-- A row with this key was written. -/
def recordWritten (t : Tally) (key : String) : Tally :=
  { t with
    recordsWritten := t.recordsWritten + 1
    keys := if t.keys.contains key then t.keys else key :: t.keys }

/-- A document ended well. -/
def recordSuccess (t : Tally) : Tally := { t with completed := t.completed + 1 }

/-- The document at this path failed. -/
def recordFailure (t : Tally) (path : Path) : Tally :=
  { t with
    completed := t.completed + 1
    failed := t.failed + 1
    failedPaths := path :: t.failedPaths }

/-- The summary of what has been counted. -/
def summary (t : Tally) (skipped elapsedMilliseconds : Nat) : Summary where
  total := t.total
  completed := t.completed
  failed := t.failed
  skipped := skipped
  recordsWritten := t.recordsWritten
  distinctKeys := t.keys.length
  failedPaths := t.failedPaths.reverse.mergeSort Path.le
  elapsedMilliseconds := elapsedMilliseconds

end Tally

namespace Summary

/-- The documents that ended well. -/
def succeeded (s : Summary) : Nat := s.completed - s.failed

/-- Whether every document has ended. -/
def isComplete (s : Summary) : Bool := s.completed = s.total

/-- The lines of a report on a run. -/
def reportLines (s : Summary) : List String :=
  ["Extraction Summary", "==================", s!"Documents: {s.total}",
    s!"Completed: {s.completed}", s!"Failed: {s.failed}", s!"Records: {s.recordsWritten}",
    s!"Distinct keys: {s.distinctKeys}", s!"Elapsed: {elapsedText s.elapsedMilliseconds}"] ++
  (if 0 < s.skipped then [s!"Skipped entries: {s.skipped}"] else []) ++
  (if s.failedPaths.isEmpty then []
    else ["", "Failed documents:"] ++ s.failedPaths.map fun path => s!"  {path.display}")

/-- A report on a run. -/
def report (s : Summary) : String := String.intercalate "\n" s.reportLines

end Summary

end DocSentences.Run
