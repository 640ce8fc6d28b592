import DocSentences.Run.Failure

/-!
# Failures of a command

Why a command does not succeed.
-/

namespace DocSentences.Command

/-- Why a command does not succeed. -/
inductive Failure
  | configuration (detail : String)
  | io (reason : String)
  /-- The text of a summary cannot be written. -/
  | serialization (detail : String)
  /-- The configuration file cannot be understood. -/
  | unreadableConfiguration
  | invalidInput (detail : String)
  | extraction (failure : Extraction.Failure)
  | run (failure : Run.Failure)
  /-- The run ended before all documents were processed. -/
  | interrupted (completed total : Nat)
  deriving DecidableEq, Repr

/-- What went wrong, in words. -/
def Failure.message : Failure → String
  | .configuration detail => s!"Configuration error: {detail}"
  | .io reason => s!"I/O error: {reason}"
  | .serialization detail => s!"Serialization error: {detail}"
  | .unreadableConfiguration => "TOML parsing error"
  | .invalidInput detail => s!"Invalid input: {detail}"
  | .extraction failure => failure.message
  | .run failure => failure.message
  | .interrupted completed total => s!"Interrupted after {completed} of {total} documents"

end DocSentences.Command
