import DocSentences.Command.Execution
import DocSentences.Command.Usage

/-!
# Answers to command lines

What the program answers to a command line: the exit code, what stands on its two outputs, and what
it says during the command. A command line that is not understood touches no file.
-/

namespace DocSentences.Command

/-- The name of the program and its version. -/
def versionText : String := "classdoc 0.1.0\n"

/-- What the program answers to a command line. -/
structure Answer where
  tree : FileTree
  /-- Nothing went wrong (0), the command failed (1) or broke down (101), or the command line was
  not understood (2). -/
  exitCode : Nat := 0
  output : String := ""
  errorLines : List String := []
  /-- What is said during the command. -/
  notices : List (Run.Level × String) := []

/-- The answer to a command line that no command follows from. Help is not part of the answer. -/
def UsageError.answer (t : FileTree) : UsageError → Answer
  | .displayVersion => { tree := t, output := versionText }
  | .displayHelp => { tree := t }
  | _ => { tree := t, exitCode := 2 }

/-- The line for the error output that tells why a command failed. -/
def Failure.line (f : Failure) : String := s!"Error: {f.message}"

/-- The answer that the effects of a command give. -/
def Effects.answer (verbose : Nat) (e : Effects) : Answer where
  tree := e.tree
  exitCode := if e.brokeDown then 101 else if e.failure.isSome then 1 else 0
  output := String.join e.output
  errorLines := e.errorLines ++ e.failure.toList.map Failure.line
  notices := e.notices.filter fun (level, _) => isSaid verbose level

/-- The effects of a command that has taken some time. -/
def Effects.lasting (milliseconds : Nat) (e : Effects) : Effects :=
  { e with shown := e.shown.map fun shown =>
      { shown with summary := { shown.summary with elapsedMilliseconds := milliseconds } } }

/-- What the program answers to a command line. `config` is the path of the configuration file in
the environment. -/
def answer (w : World) (config : Option String) (args : List String) : Answer :=
  match Arguments.read config args with
  | .error e => e.answer w.tree
  | .ok a => (execute w a).answer a.verbose

end DocSentences.Command
