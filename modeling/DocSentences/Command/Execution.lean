import DocSentences.Command.Report
import DocSentences.Corpus.Basic
import DocSentences.Extraction.Records
import DocSentences.Run.Schedule

/-!
# Commands

What a command does: to the file tree, on its two outputs, and whether it succeeds. Everything that
can be wrong with what is asked for is found before the output file is touched.
-/

namespace DocSentences.Command

/-- What a command finds around it. -/
structure World where
  tree : FileTree
  /-- The directory for configuration files of the user. -/
  configDirectory : Option Path
  /-- How many documents the machine can process at once. -/
  available : Nat
  /-- Whether colors can be shown. -/
  colors : Bool

/-- A summary that is shown. -/
structure Shown where
  report : Report
  summary : Run.Summary
  /-- The path of the output. -/
  output : String

/-- What a command does. -/
structure Effects where
  tree : FileTree
  /-- The texts for the output. -/
  output : List String := []
  /-- The lines for the error output, apart from the summary. -/
  warnings : List String := []
  shown : Option Shown := none
  /-- What is said during the command. -/
  notices : List (Run.Level × String) := []
  failure : Option Failure := none
  /-- Whether the command broke down. Then it has no failure. -/
  brokeDown : Bool := false

/-- The lines for the error output. -/
def Effects.errorLines (e : Effects) : List String :=
  e.warnings ++ match e.shown with
    | none => []
    | some shown =>
        (shown.report.summary shown.summary shown.output).toList

/-- The usual place of the configuration file. -/
def World.usualFile (w : World) : Option Path :=
  w.configDirectory.map fun directory =>
    (directory.join (Path.ofString "classdoc")).join (Path.ofString "config.toml")

/-- The first source that cannot be read, if there is one. Trees know no permissions, so what is
there can be read. -/
def sourceFault? (t : FileTree) (sources : List String) : Option Failure :=
  sources.findSome? fun source =>
    let path := Path.ofString source
    match t.find true path with
    | .ok _ => none
    | .error error => some (.invalidInput s!"Cannot read source {path.display}: {error.message}")

/-- How keys are derived. -/
def keyStrategy (t : FileTree) : Option String → Except Failure KeyStrategy
  | none => .ok .baseName
  | some root =>
      let path := Path.ofString root
      match t.canonical path with
      | .ok path => .ok (.relativeTo path)
      | .error error =>
          .error (.invalidInput s!"Invalid relative root {path.display}: {error.message}")

/-- What is asked of an extraction, once nothing is wrong with it. -/
structure Plan where
  configuration : Configuration
  strategy : KeyStrategy
  sources : List Path

/-- Checks what is asked of an extraction. -/
def Plan.check (t : FileTree) (c : Configuration) (options : ExtractOptions) :
    Except Failure Plan :=
  match sourceFault? t options.sources with
  | some failure => .error failure
  | none =>
      match keyStrategy t options.relativeRoot with
      | .error failure => .error failure
      | .ok strategy =>
          let c := c.withOptions options
          match c.fault? with
          | some detail => .error (.configuration detail)
          | none => .ok ⟨c, strategy, options.sources.map Path.ofString⟩

/-- What extracting a document from a tree gives. -/
def extractedFrom (t : FileTree) (settings : Extraction.Settings) (document : Document) :
    Run.Extracted :=
  let content : Extraction.FileContent := match t.read document.path with
    | .ok bytes => .ok bytes
    | .error error => .error error.message
  match Extraction.recordsOfFile settings settings.segmenter document content with
  | .ok records => .records records
  | .error failure => .failed failure

/-- What is said about an entry that was skipped. -/
def skipNotice (s : Skip) : Run.Level × String :=
  (.warning, s!"Skipping unreadable entry under {s.root.display}: {s.reason.message}")

/-- Refuses a plan whose settings make no sense to those who are to carry it out. -/
def Plan.prepare (p : Plan) : Except Failure Unit :=
  match p.configuration.extraction.check with
  | .error failure => .error (.extraction failure)
  | .ok () => p.configuration.run.check.mapError .run

/-- The corpus that a plan leads to. -/
def Plan.corpus (t : FileTree) (p : Plan) : Corpus :=
  Corpus.discover t p.strategy p.configuration.run.followLinks p.sources

/-- What the run of a plan is given, in a tree in which the output file is empty. -/
def Plan.setup (p : Plan) (corpus : Corpus) (emptied : FileTree) (writer : Writer) : Run.Setup where
  settings := p.configuration.run
  jobs := corpus.documents.map fun d => ⟨d, extractedFrom emptied p.configuration.extraction d⟩
  skipped := corpus.skipped
  writer := writer

/-- What has reached the writer of a run in its last state. A run that broke down has given up its
sink. -/
def deliveredBy (writer : Writer) (last : Run.State) : List UInt8 :=
  match last.ending? with
  | some .broke => (last.sink.giveUp writer).delivered
  | _ => last.sink.delivered

/-- What has been done when the run of a plan has come to its last state, after what had been done
before it. -/
def Plan.conclude (p : Plan) (report : Report) (writer : Writer) (before : Effects)
    (last : Run.State) : Effects :=
  let output := p.configuration.output.path
  let tree := match before.tree.write (Path.ofString output) (deliveredBy writer last) with
    | .ok t => t
    | .error _ => before.tree
  let notices := before.notices ++ last.notices.reverse.map fun n => (n.level, n.text)
  let done : Effects := { before with tree, notices }
  match last.ending? with
  | some (.finished summary) =>
      match report.summary summary output with
      | none => { done with brokeDown := true }
      | some _ =>
          let shown := some ⟨report, summary, output⟩
          if summary.isComplete then { done with shown }
          else
            { done with
              shown, failure := some (.interrupted summary.completed summary.total) }
  | some (.failed failure) => { done with failure := some (.run failure) }
  | some .broke => { done with brokeDown := true }
  | none => done

/-- Extracts the sentences of the documents that a plan leads to. -/
def Plan.execute (conduct : Run.Conduct) (t : FileTree) (report : Report) (p : Plan) : Effects :=
  match p.prepare with
  | .error failure => { tree := t, failure := some failure }
  | .ok () =>
      let corpus := p.corpus t
      let warnings :=
        if corpus.documents.isEmpty then [report.warning "No .java, .html or .htm files found"]
        else []
      let before : Effects := { tree := t, warnings, notices := corpus.skips.map skipNotice }
      match t.write (Path.ofString p.configuration.output.path) [] with
      | .error error => { before with failure := some (.run (.sink (.io error.message))) }
      | .ok emptied =>
          p.conclude report conduct.writer { before with tree := emptied }
            (conduct.run (p.setup corpus emptied conduct.writer))

/-- Carries out an extraction under a configuration. -/
def extract (conduct : Run.Conduct) (t : FileTree) (report : Report) (c : Configuration)
    (options : ExtractOptions) : Effects :=
  match Plan.check t c options with
  | .error failure => { tree := t, failure := some failure }
  | .ok plan => plan.execute conduct t report

/-- The configuration file that a command on configurations is about. -/
def World.namedFile (w : World) (named : Option String) : Except Failure Path :=
  match named with
  | some name => .ok (Path.ofString name)
  | none =>
      match w.usualFile with
      | some path => .ok path
      | none => .error (.configuration "Could not find configuration directory")

/-- Writes the configuration of a user who has chosen nothing. -/
def writeInitial (w : World) (path : Path) (force : Bool) :
    Except (Failure × FileTree) FileTree :=
  if w.tree.exists? path && !force then
    .error (.invalidInput s!"{path.display} already exists (use --force to overwrite)", w.tree)
  else (Configuration.default w.available).save w.tree path

/-- Carries out a request under a configuration. -/
def perform (w : World) (c : Configuration) (report : Report) (named : Option String) :
    Request → Effects
  | .extract options => extract .plain w.tree report c options
  | .configShow =>
      match c.text? with
      | some text => { tree := w.tree, output := [String.ofList text] }
      | none =>
          { tree := w.tree, failure := some (.configuration
              "Failed to serialize config: out-of-range value for u64 type") }
  | .configPath =>
      match w.namedFile named with
      | .ok path => { tree := w.tree, output := [s!"{path.display}\n"] }
      | .error failure => { tree := w.tree, failure := some failure }
  | .configInit force =>
      match w.namedFile named with
      | .error failure => { tree := w.tree, failure := some failure }
      | .ok path =>
          match writeInitial w path force with
          | .error (failure, tree) => { tree, failure := some failure }
          | .ok tree =>
              let message := report.success s!"Wrote default configuration to {path.display}"
              { tree, output := [s!"{message}\n"] }

/-- How reports are shown. -/
def reportOf (w : World) (c : Configuration) (a : Arguments) : Report where
  format := a.format.getD c.output.format
  color := w.colors && !a.noColor && c.output.color

/-- Carries out what a command line asks for, under the configuration that has been loaded from the
given file. -/
def executeLoaded (w : World) (a : Arguments) (file : Option Path) (c : Configuration) : Effects :=
  let effects := perform w c (reportOf w c a) a.config a.request
  let loaded := file.toList.map fun path =>
    (Run.Level.debug, s!"Loaded configuration from {path.display}")
  { effects with notices := loaded ++ effects.notices }

/-- Loads the configuration that is in effect. -/
def load (w : World) (a : Arguments) : Except Failure (Option Path × Configuration) := do
  match ← Configuration.file? w.tree w.usualFile a.config with
  | some path => return (some path, ← Configuration.ofFile w.tree w.available path)
  | none => return (none, Configuration.default w.available)

/-- Carries out what a command line asks for. -/
def execute (w : World) (a : Arguments) : Effects :=
  match load w a with
  | .error failure => { tree := w.tree, failure := some failure }
  | .ok (file, c) => executeLoaded w a file c

/-- The levels that are said when an option for it is given so many times. -/
def isSaid (verbose : Nat) (level : Run.Level) : Bool := level.detail ≤ verbose + 1

end DocSentences.Command
