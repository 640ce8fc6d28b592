import DocSentences.Command.Answer

/-!
# The program

Reads the files that a command line is about, has the command carried out on them, writes the files
that it changes, and prints the answer.
-/

namespace DocSentences.Program

open Command

/-- How the program is used. -/
def usage : String :=
  "Usage: classdoc [OPTIONS] <COMMAND>\n\n" ++
  "Commands:\n" ++
  "  extract <SOURCE>...  Extract the sentences of class descriptions into a CSV file\n" ++
  "  config show          Show the configuration\n" ++
  "  config path          Show where the configuration file is\n" ++
  "  config init          Write a configuration file [--force]\n\n" ++
  "Options:\n" ++
  "  -f, --format <FORMAT>  Format of the summary: table, json or quiet\n" ++
  "      --no-color         Show no colors\n" ++
  "  -c, --config <FILE>    Configuration file\n" ++
  "  -v, --verbose          Say more\n\n" ++
  "Options of extract:\n" ++
  "  -n, --num-threads <N>, -o, --output <FILE>, --relative-root <DIR>,\n" ++
  "  --selector <SELECTOR>, --fragment-keys, --placeholder <WORD>,\n" ++
  "  --drain-timeout <SECONDS>, --follow-links, --no-progress\n"

/-- A tree into which files are read, and the directories of which all entries have been read. -/
structure Reading where
  tree : FileTree
  listed : List String := []

/-- The tree after a change, or as it is if the change is not possible. -/
def Reading.change (r : Reading) (f : FileTree → Except SystemError FileTree) : Reading :=
  match f r.tree with
  | .ok tree => { r with tree := tree }
  | .error _ => r

/-- The content of a file, as far as it is of use. -/
def contentOf (isNamed : Bool) (path : String) : IO (List UInt8) := do
  if isNamed || (Format.ofPath? (Path.ofString path)).isSome then
    return (← IO.FS.readBinFile path).toList
  return []

mutual

/-- Reads the entry at a path. A link is read as one to the path that it leads to in the end. -/
partial def readEntry (isNamed : Bool) (path : String) (r : Reading) : IO Reading := do
  let place := Path.ofString path
  if (r.tree.find false place).isOk then return r
  try
    match (← ((← IO.currentDir) / path).symlinkMetadata).type with
    | .dir => return r.change (·.makeDirectory place)
    | .symlink =>
        let target ← try pure (some (← IO.FS.realPath path).toString) catch _ => pure none
        match target with
        | none => return r.change (·.makeLink place ⟨[]⟩)
        | some target =>
            readPath isNamed target (r.change (·.makeLink place (Path.ofString target)))
    | _ =>
        let content ← contentOf isNamed path
        return r.change (·.write place content)
  catch _ => return r

/-- Reads the entries on the way from the root to a path. -/
partial def readPath (isNamed : Bool) (path : String) (r : Reading) : IO Reading :=
  (Path.ofString path).selfAndParents.reverse.foldlM
    (fun r path => readEntry isNamed path.display r) r

end

/-- Reads the entries at and below a path. -/
partial def readBelow (path : String) (r : Reading) : IO Reading := do
  let r ← readPath false path r
  match r.tree.find true (Path.ofString path) with
  | .ok (place, .directory) =>
      let directory := place.toPath.display
      if r.listed.contains directory then return r
      let entries ← try ((← IO.currentDir) / directory).readDir catch _ => pure #[]
      entries.foldlM (fun r entry => readBelow s!"{directory}/{entry.fileName}" r)
        { r with listed := directory :: r.listed }
  | _ => return r

/-- A path from the root. -/
def fromRoot (directory path : String) : String :=
  ((Path.ofString directory).join (Path.ofString path)).display

/-- The number of processors, if the system tells it. -/
def processors : IO Nat := do
  try
    let lines ← IO.FS.lines "/proc/cpuinfo"
    return max 1 (lines.filter (·.startsWith "processor")).size
  catch _ => return 1

/-- What the program finds around it before it has read any file. -/
def surroundings (directory : String) : IO World := do
  let home ← IO.getEnv "HOME"
  let chosen ← IO.getEnv "XDG_CONFIG_HOME"
  let absolute := chosen.filter (·.startsWith "/")
  let configDirectory := absolute.or (home.map fun home => s!"{home}/.config")
  let isPlain := (← IO.getEnv "NO_COLOR").isSome
  return {
    tree := {
      workingDirectory :=
        (FileTree.steps (Path.ofString directory)).filter fun name => name != [Path.dot] }
    configDirectory := configDirectory.map Path.ofString
    available := ← processors
    colors := !isPlain && (← (← IO.getStdout).isTty) }

/-- Reads the files that a request is about, once the configuration file has been read. -/
def readFor (directory : String) (w : World) (a : Arguments) (r : Reading) : IO Reading := do
  match a.request, load { w with tree := r.tree } a with
  | .extract options, .ok (_, c) =>
      let output := (c.withOptions options).output.path
      let r ← readPath true (fromRoot directory output) r
      let r ← options.relativeRoot.toList.foldlM
        (fun r root => readPath false (fromRoot directory root) r) r
      options.sources.foldlM (fun r source => readBelow (fromRoot directory source) r) r
  | _, _ => return r

/-- Writes what differs between two trees. -/
def store (before after : FileTree) : IO Unit :=
  after.entries.forM fun (place, entry) => do
    if before.entry? place != some entry then
      let path := place.toPath.display
      match entry with
      | .directory => IO.FS.createDirAll path
      | .file content => IO.FS.writeBinFile path ⟨content.toArray⟩
      | .link _ => return ()

/-- Prints an answer. -/
def print (answer : Answer) : IO UInt32 := do
  answer.notices.forM fun (level, text) => IO.eprintln s!"{level.name} {text}"
  IO.print answer.output
  answer.errorLines.forM fun line => IO.eprintln line
  return answer.exitCode.toUInt32

/-- Answers a command line that was understood. -/
def perform (w : World) (directory : String) (a : Arguments) : IO UInt32 := do
  let start ← IO.monoMsNow
  let files := a.config.toList ++ (w.usualFile.map Path.display).toList
  let r ← readPath false directory { tree := w.tree }
  let r ← files.foldlM (fun r file => readPath true (fromRoot directory file) r) r
  let r ← readFor directory w a r
  let effects := execute { w with tree := r.tree } a
  store r.tree effects.tree
  let finish ← IO.monoMsNow
  print ((effects.lasting (finish - start)).answer a.verbose)

/-- Answers a command line that no command follows from. -/
def explain (w : World) (e : UsageError) : IO UInt32 := do
  let answer := e.answer w.tree
  match e with
  | .displayVersion => pure ()
  | .displayHelp => IO.print usage
  | .displayHelpOnMissing => IO.eprint usage
  | _ => IO.eprint s!"error: {e.name}\n\n{usage}"
  print answer

end DocSentences.Program

open DocSentences in
/-- Answers a command line; the exit code tells whether all went well. -/
def main (args : List String) : IO UInt32 := do
  let directory := (← IO.FS.realPath (← IO.currentDir)).toString
  let w ← Program.surroundings directory
  match Command.Arguments.read (← IO.getEnv "CLASSDOC_CONFIG") args with
  | .error e => Program.explain w e
  | .ok a =>
      try Program.perform w directory a
      catch error =>
        IO.eprintln s!"Error: {error}"
        return 1
