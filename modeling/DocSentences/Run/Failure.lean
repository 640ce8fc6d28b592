import DocSentences.Extraction.Failure
import DocSentences.Record.Sink
import DocSentences.Run.Settings

/-!
# Failures of a run

Why a run gives no summary. A document that cannot be read or understood does not end a run; a fault
of the extraction, of the sink or of the settings does, and so do documents that take too long once
the run is to end.
-/

namespace DocSentences.Run

/-- Why a run gives no summary. -/
inductive Failure
  | badSettings (detail : String)
  | sink (fault : SinkFault)
  | contractViolation (failure : Extraction.Failure)
  /-- Documents were still in flight after so many nanoseconds. -/
  | drainTimeout (nanoseconds inFlight : Nat)
  | worker (detail : String)
  deriving DecidableEq, Repr

/-- What went wrong, in words. -/
def Failure.message : Failure → String
  | .badSettings detail => s!"Configuration error: {detail}"
  | .sink fault => s!"Output error: {fault.message}"
  | .contractViolation failure => s!"Contract violation: {failure.message}"
  | .drainTimeout nanoseconds inFlight =>
      s!"Timed out after {durationText nanoseconds} waiting for {inFlight} in-flight documents"
  | .worker detail => s!"Worker error: {detail}"

/-- Refuses settings that make no sense; no run begins without this. -/
def Settings.check (settings : Settings) : Except Failure Unit :=
  match settings.fault? with
  | some fault => .error (.badSettings fault.message)
  | none => .ok ()

end DocSentences.Run
