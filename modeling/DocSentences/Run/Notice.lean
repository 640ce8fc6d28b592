import DocSentences.Run.Failure

/-!
# Notices of a run

What a run says while it goes on, for those who want to follow it. A notice has a level, and levels
below the wanted one are not shown.
-/

namespace DocSentences.Run

/-- How important a notice is. -/
inductive Level
  | error
  | warning
  | info
  | debug
  | trace
  deriving DecidableEq, Repr

namespace Level

/-- The name of a level. -/
def name : Level → String
  | error => "ERROR"
  | warning => "WARN"
  | info => "INFO"
  | debug => "DEBUG"
  | trace => "TRACE"

/-- How much detail a level brings. -/
def detail : Level → Nat
  | error => 0
  | warning => 1
  | info => 2
  | debug => 3
  | trace => 4

end Level

/-- What is said during a run. -/
inductive Notice
  | started (documents workers : Nat)
  | shutdownRequested
  | dispatchStopped (failure : Failure)
  | documentSkipped (path : Path) (failure : Extraction.Failure)
  | documentBroke (path : Path) (reason : String)
  | joinedFailure (failure : Failure)
  | abandoned (inFlight nanoseconds : Nat)
  | finished (completed total failed records : Nat)
  deriving DecidableEq, Repr

namespace Notice

/-- How important a notice is. -/
def level : Notice → Level
  | started .. | shutdownRequested | finished .. => .info
  | documentSkipped .. | documentBroke .. => .warning
  | dispatchStopped .. | joinedFailure .. | abandoned .. => .error

/-- The words of a notice. -/
def text : Notice → String
  | started documents workers => s!"Processing {documents} documents with {workers} workers"
  | shutdownRequested => "Shutdown requested, draining in-flight documents"
  | dispatchStopped failure => s!"Stopping dispatch: {failure.message}"
  | documentSkipped path failure => s!"Skipping {path.display}: {failure.message}"
  | documentBroke path reason => s!"Extraction of {path.display} panicked: {reason}"
  | joinedFailure failure => failure.message
  | abandoned inFlight nanoseconds =>
      s!"{inFlight} documents still in flight after {durationText nanoseconds}, abandoning run"
  | finished completed total failed records =>
      s!"Run finished: {completed}/{total} documents, {failed} failed, {records} records"

end Notice

end DocSentences.Run
