import DocSentences.Command.Arguments
import DocSentences.Command.Failure
import DocSentences.Extraction.Settings
import DocSentences.FileTree.Basic
import DocSentences.Run.Settings
import DocSentences.Toml.Reading
import DocSentences.Toml.Writing

/-!
# Configurations

All settings of the program, in three sections. A setting is taken from the command line if it is
given there, from the configuration file otherwise, and has a default if it stands in neither.
-/

namespace DocSentences.Command

/-- Where the output goes and how it is shown. -/
structure OutputSettings where
  path : String := "classdoc.csv"
  /-- Whether progress is shown. -/
  progress : Bool := true
  color : Bool := true
  format : SummaryFormat := .table
  deriving DecidableEq, Repr

/-- All settings. -/
structure Configuration where
  extraction : Extraction.Settings := {}
  run : Run.Settings
  output : OutputSettings := {}
  deriving DecidableEq, Repr

namespace OutputSettings

/-- The settings by name, in the order in which they are written. -/
def toFields (s : OutputSettings) : List (String × Toml.Scalar) :=
  [("path", .string s.path), ("progress", .boolean s.progress), ("color", .boolean s.color),
    ("format", .string s.format.name)]

/-- Reads settings; those that are not given keep their defaults. -/
def ofValue? (value : Toml.Value) : Option OutputSettings := do
  let field ← value.fields?
  let default : OutputSettings := {}
  return {
    path := ← Toml.Value.fieldOr? (field 0 "path") (·.string?) default.path
    progress := ← Toml.Value.fieldOr? (field 1 "progress") (·.boolean?) default.progress
    color := ← Toml.Value.fieldOr? (field 2 "color") (·.boolean?) default.color
    format :=
      ← Toml.Value.fieldOr? (field 3 "format") (fun v => v.choice?.bind SummaryFormat.ofName?)
        default.format }

end OutputSettings

namespace Configuration

/-- The configuration if nothing is chosen. -/
def default (available : Nat) : Configuration := { run := Run.Settings.default available }

/-- The sections by name, in the order in which they are written. -/
def toSections (c : Configuration) : List (String × List (String × Toml.Scalar)) :=
  [("extractor", c.extraction.toFields), ("pipeline", c.run.toFields),
    ("output", c.output.toFields)]

/-- Reads a configuration; sections and settings that are not given keep their defaults. -/
def ofValue? (available : Nat) (value : Toml.Value) : Option Configuration := do
  let field ← value.fields?
  let default := default available
  return {
    extraction := ← Toml.Value.fieldOr? (field 0 "extractor") Extraction.Settings.ofValue?
      default.extraction
    run := ← Toml.Value.fieldOr? (field 1 "pipeline") (Run.Settings.ofValue? available) default.run
    output := ← Toml.Value.fieldOr? (field 2 "output") OutputSettings.ofValue? default.output }

/-- The text of a configuration file. -/
def text? (c : Configuration) : Option (List Char) := Toml.writeSections? c.toSections

/-- Reads the text of a configuration file. -/
def ofText? (available : Nat) (text : List Char) : Option Configuration :=
  (Toml.read text).bind (ofValue? available)

/-- The configuration with the options of a command line. -/
def withOptions (c : Configuration) (options : ExtractOptions) : Configuration where
  extraction := {
    c.extraction with
    descriptionSelector := options.selector.getD c.extraction.descriptionSelector
    placeholder := options.placeholder.getD c.extraction.placeholder
    fragmentKeys := options.fragmentKeys || c.extraction.fragmentKeys }
  run := {
    workerCount := options.numThreads.getD c.run.workerCount
    drainTimeoutSecs := options.drainTimeout.getD c.run.drainTimeoutSecs
    followLinks := options.followLinks || c.run.followLinks }
  output := {
    c.output with
    path := options.output.getD c.output.path
    progress := !options.noProgress && c.output.progress }

/-- The first reason to refuse a configuration, in words, if there is one. -/
def fault? (c : Configuration) : Option String :=
  match c.extraction.fault? with
  | some fault => some s!"[extractor] {fault.message}"
  | none =>
      match c.run.fault? with
      | some fault => some s!"[pipeline] {fault.message}"
      | none => if c.output.path.isEmpty then some "[output] path must not be empty" else none

/-- Reads the configuration file at a path. -/
def ofFile (t : FileTree) (available : Nat) (path : Path) : Except Failure Configuration :=
  match t.read path with
  | .error error => .error (.io error.message)
  | .ok bytes =>
      match Utf8.decode? bytes with
      | none => .error (.io "stream did not contain valid UTF-8")
      | some text =>
          match ofText? available text with
          | none => .error .unreadableConfiguration
          | some c => .ok c

/-- The configuration file that is in effect: the one that is named, which has to be there, or the
one at the usual place, if it is there. -/
def file? (t : FileTree) (usual : Option Path) (named : Option String) :
    Except Failure (Option Path) :=
  match named with
  | some name =>
      let path := Path.ofString name
      if t.isFile path then .ok (some path)
      else .error (.configuration s!"Configuration file not found: {path.display}")
  | none => .ok (usual.filter t.isFile)

/-- Makes the directories that a configuration file has to stand in, as far as they are missing. -/
def makeDirectories (t : FileTree) (path : Path) : Except (SystemError × FileTree) FileTree :=
  match path.parent? with
  | some parent => t.makeDirectories parent
  | none => .ok t

/-- Writes a configuration file after making the directories that it has to stand in. They stay when
the configuration cannot be written. -/
def save (c : Configuration) (t : FileTree) (path : Path) :
    Except (Failure × FileTree) FileTree :=
  match makeDirectories t path with
  | .error (error, t) => .error (.io error.message, t)
  | .ok t =>
      match c.text? with
      | none =>
          .error (.configuration "Failed to serialize config: out-of-range value for u64 type", t)
      | some text =>
          match t.write path (Utf8.encode text) with
          | .ok t => .ok t
          | .error error => .error (.io error.message, t)

end Configuration

end DocSentences.Command
