/-!
# Arguments

What a command line asks for: one of the commands with its options, and options that all commands
share.
-/

namespace DocSentences.Command

/-- How the summary of a run is shown. -/
inductive SummaryFormat
  | table
  | json
  /-- Only the path of the output. -/
  | quiet
  deriving DecidableEq, Repr

namespace SummaryFormat

/-- The name of a format. -/
def name : SummaryFormat → String
  | table => "table"
  | json => "json"
  | quiet => "quiet"

/-- The format with the given name. -/
def ofName? : String → Option SummaryFormat
  | "table" => some table
  | "json" => some json
  | "quiet" => some quiet
  | _ => none

end SummaryFormat

/-- What is asked of an extraction. An option that is not given leaves the configuration as
it is. -/
structure ExtractOptions where
  /-- Files and directories to look for documents in. -/
  sources : List String
  numThreads : Option Nat := none
  output : Option String := none
  relativeRoot : Option String := none
  selector : Option String := none
  fragmentKeys : Bool := false
  placeholder : Option String := none
  drainTimeout : Option Nat := none
  followLinks : Bool := false
  noProgress : Bool := false
  deriving DecidableEq, Repr

/-- A command with its options. -/
inductive Request
  | extract (options : ExtractOptions)
  /-- Shows the configuration. -/
  | configShow
  /-- Shows where the configuration file is. -/
  | configPath
  /-- Writes a configuration file. -/
  | configInit (force : Bool)
  deriving DecidableEq, Repr

/-- What a command line asks for. -/
structure Arguments where
  format : Option SummaryFormat := none
  noColor : Bool := false
  config : Option String := none
  /-- How much is said during a run. -/
  verbose : Nat := 0
  request : Request
  deriving DecidableEq, Repr

end DocSentences.Command
