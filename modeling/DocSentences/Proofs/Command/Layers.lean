import DocSentences.Proofs.Command.SavedConfiguration

/-!
# Where settings come from

A setting is taken from the command line if it is given there, from the configuration file
otherwise, and has a default if it stands in neither. The defaults are found in three places and
the options are put in one by one; there is one rule for all of it, and no setting is left out.
-/

namespace DocSentences.Command

/-! ## Settings -/

/-- What can be chosen in a configuration file. -/
inductive Setting
  | placeholder
  | paragraphBreaks
  | minSentenceChars
  | descriptionSelector
  | fragmentKeys
  | workerCount
  | drainTimeoutSecs
  | followLinks
  | outputPath
  | progress
  | color
  | format
  deriving DecidableEq, Repr

namespace Setting

/-- What a setting can be. -/
abbrev Choice : Setting → Type
  | placeholder | descriptionSelector | outputPath => String
  | minSentenceChars | workerCount | drainTimeoutSecs => Nat
  | paragraphBreaks | fragmentKeys | followLinks | progress | color => Bool
  | format => SummaryFormat

/-- The section of a configuration file in which a setting stands. -/
def group : Setting → String
  | placeholder | paragraphBreaks | minSentenceChars | descriptionSelector | fragmentKeys =>
      "extractor"
  | workerCount | drainTimeoutSecs | followLinks => "pipeline"
  | outputPath | progress | color | format => "output"

/-- The key of a setting in its section. -/
def key : Setting → String
  | placeholder => "placeholder"
  | paragraphBreaks => "paragraph_breaks"
  | minSentenceChars => "min_sentence_chars"
  | descriptionSelector => "description_selector"
  | fragmentKeys => "fragment_keys"
  | workerCount => "worker_count"
  | drainTimeoutSecs => "drain_timeout_secs"
  | followLinks => "follow_links"
  | outputPath => "path"
  | progress => "progress"
  | color => "color"
  | format => "format"

/-- What a setting is if it is not given, on a machine that can process so many documents at
once. -/
def default (available : Nat) : (s : Setting) → s.Choice
  | placeholder => "code-example"
  | paragraphBreaks => true
  | minSentenceChars => (2 : Nat)
  | descriptionSelector =>
      "div.description div.block, section.class-description div.block, #class-description div.block"
  | fragmentKeys => false
  | workerCount => available
  | drainTimeoutSecs => (30 : Nat)
  | followLinks => false
  | outputPath => "classdoc.csv"
  | progress => true
  | color => true
  | format => SummaryFormat.table

/-- What a value in a configuration file means for a setting. -/
def read? : (s : Setting) → Toml.Value → Option s.Choice
  | placeholder | descriptionSelector | outputPath => Toml.Value.string?
  | minSentenceChars | workerCount | drainTimeoutSecs => Toml.Value.natural?
  | paragraphBreaks | fragmentKeys | followLinks | progress | color => Toml.Value.boolean?
  | format => fun value => value.choice?.bind SummaryFormat.ofName?

/-- What a command line says about a setting. The options that are switches can only turn it one
way. -/
def option? (options : ExtractOptions) : (s : Setting) → Option s.Choice
  | placeholder => options.placeholder
  | descriptionSelector => options.selector
  | fragmentKeys => if options.fragmentKeys then some true else none
  | workerCount => options.numThreads
  | drainTimeoutSecs => options.drainTimeout
  | followLinks => if options.followLinks then some true else none
  | outputPath => options.output
  | progress => if options.noProgress then some false else none
  | paragraphBreaks | minSentenceChars | color | format => none

/-- What a setting is in a configuration. -/
def get (c : Configuration) : (s : Setting) → s.Choice
  | placeholder => c.extraction.placeholder
  | paragraphBreaks => c.extraction.paragraphBreaks
  | minSentenceChars => c.extraction.minSentenceChars
  | descriptionSelector => c.extraction.descriptionSelector
  | fragmentKeys => c.extraction.fragmentKeys
  | workerCount => c.run.workerCount
  | drainTimeoutSecs => c.run.drainTimeoutSecs
  | followLinks => c.run.followLinks
  | outputPath => c.output.path
  | progress => c.output.progress
  | color => c.output.color
  | format => c.output.format

end Setting

/-- The configuration with the given choices. -/
def Configuration.ofChoices (choice : (s : Setting) → s.Choice) : Configuration where
  extraction := {
    placeholder := choice .placeholder
    paragraphBreaks := choice .paragraphBreaks
    minSentenceChars := choice .minSentenceChars
    descriptionSelector := choice .descriptionSelector
    fragmentKeys := choice .fragmentKeys }
  run := {
    workerCount := choice .workerCount
    drainTimeoutSecs := choice .drainTimeoutSecs
    followLinks := choice .followLinks }
  output := {
    path := choice .outputPath
    progress := choice .progress
    color := choice .color
    format := choice .format }

theorem Setting.get_ofChoices (choice : (s : Setting) → s.Choice) (s : Setting) :
    s.get (.ofChoices choice) = choice s := by
  cases s <;> rfl

/-- The settings make up the configuration. -/
theorem Configuration.eq_of_forall_get {c d : Configuration}
    (h : ∀ s : Setting, s.get c = s.get d) : c = d :=
  show ofChoices (fun s => s.get c) = ofChoices (fun s => s.get d) from
    congrArg ofChoices (funext h)

/-! ## Options -/

/-- A setting is what its option says, if that is given. -/
theorem Setting.get_withOptions (s : Setting) (c : Configuration) (options : ExtractOptions) :
    s.get (c.withOptions options) = (s.option? options).getD (s.get c) := by
  cases s with
  | fragmentKeys =>
      cases h : options.fragmentKeys <;> simp [get, option?, Configuration.withOptions, h]
  | followLinks =>
      cases h : options.followLinks <;> simp [get, option?, Configuration.withOptions, h]
  | progress =>
      cases h : options.noProgress <;> simp [get, option?, Configuration.withOptions, h]
  | _ => rfl

/-- Giving the same options once more changes nothing. -/
theorem Configuration.withOptions_withOptions (c : Configuration) (options : ExtractOptions) :
    (c.withOptions options).withOptions options = c.withOptions options := by
  apply eq_of_forall_get
  intro s
  rw [s.get_withOptions, s.get_withOptions]
  cases s.option? options <;> rfl

/-! ## Files -/

/-- The sections in which settings stand. -/
def sectionNames : List String := ["extractor", "pipeline", "output"]

/-- The entries of a section of a configuration file. -/
def sectionEntries (file : Toml.Value) (name : String) : Toml.Entries :=
  match file with
  | .table _ sections =>
      match sections.lookup name with
      | some (.table _ entries) => entries
      | _ => []
  | _ => []

/-- The value that a setting has in a configuration file. -/
def Setting.value? (s : Setting) (file : Toml.Value) : Option Toml.Value :=
  (sectionEntries file s.group).lookup s.key

/-- What a configuration file says about a setting. -/
def Setting.given? (s : Setting) (file : Toml.Value) : Option s.Choice :=
  (s.value? file).bind s.read?

/-- A configuration file in which sections are tables, and settings have values of their type. What
else stands in it is not looked at. -/
structure WellTyped (file : Toml.Value) : Prop where
  sections : ∃ origin sections, file = .table origin sections ∧ ∀ name ∈ sectionNames,
    ∀ content ∈ sections.lookup name, ∃ origin entries, content = .table origin entries
  values : ∀ s : Setting, (s.value? file).isSome → (s.given? file).isSome

/-- A field that has a value of its type, if any, is read. -/
theorem fieldOr?_eq {α : Type} {given : Option Toml.Value} {read : Toml.Value → Option α}
    (h : given.isSome → (given.bind read).isSome) (default : α) :
    Toml.Value.fieldOr? given read default = some ((given.bind read).getD default) := by
  cases given with
  | none => rfl
  | some value =>
      obtain ⟨x, hx⟩ := Option.isSome_iff_exists.mp (h rfl)
      rw [Option.bind_some] at hx
      rw [Toml.Value.fieldOr?, Option.bind_some, hx, Option.getD_some]

variable {file : Toml.Value}

/-- A section that is missing is read as an empty one. -/
theorem fieldOr?_section {origin : Toml.Origin} {sections : Toml.Entries} {name : String}
    (h : ∀ content ∈ sections.lookup name, ∃ origin entries, content = .table origin entries)
    {α : Type} {read : Toml.Value → Option α} {default : α}
    (hempty : read (.table .header []) = some default) :
    ∃ origin', Toml.Value.fieldOr? (sections.lookup name) read default =
      read (.table origin' (sectionEntries (.table origin sections) name)) := by
  unfold sectionEntries
  dsimp only
  cases hlookup : sections.lookup name with
  | none => exact ⟨.header, hempty.symm⟩
  | some content =>
      obtain ⟨origin', entries, rfl⟩ := h content hlookup
      exact ⟨origin', rfl⟩

/-- What a setting is under a configuration file. -/
def Setting.underFile (s : Setting) (file : Toml.Value) (available : Nat) : s.Choice :=
  (s.given? file).getD (s.default available)

/-- Under a well-typed file each setting is what the file says, or its default. -/
theorem WellTyped.fieldOr?_setting (h : WellTyped file) (s : Setting) (available : Nat) :
    Toml.Value.fieldOr? ((sectionEntries file s.group).lookup s.key) s.read? (s.default available) =
      some (s.underFile file available) :=
  fieldOr?_eq (h.values s) (s.default available)

/-- The section on extraction is read setting by setting. -/
theorem WellTyped.ofValue?_extraction (h : WellTyped file) (origin : Toml.Origin)
    (available : Nat) :
    Extraction.Settings.ofValue? (.table origin (sectionEntries file "extractor")) =
      some (Configuration.ofChoices fun s => s.underFile file available).extraction := by
  have hplaceholder := h.fieldOr?_setting .placeholder available
  have hbreaks := h.fieldOr?_setting .paragraphBreaks available
  have hleast := h.fieldOr?_setting .minSentenceChars available
  have hselector := h.fieldOr?_setting .descriptionSelector available
  have hkeys := h.fieldOr?_setting .fragmentKeys available
  simp only [Setting.read?, Setting.group, Setting.key, Setting.default]
    at hplaceholder hbreaks hleast hselector hkeys
  simp only [Extraction.Settings.ofValue?, Toml.Value.fields?, hplaceholder, hbreaks, hleast,
    hselector, hkeys, Option.bind_eq_bind, Option.bind_some, Option.pure_def]
  rfl

theorem WellTyped.ofValue?_run (h : WellTyped file) (origin : Toml.Origin) (available : Nat) :
    Run.Settings.ofValue? available (.table origin (sectionEntries file "pipeline")) =
      some (Configuration.ofChoices fun s => s.underFile file available).run := by
  have hworkers := h.fieldOr?_setting .workerCount available
  have htimeout := h.fieldOr?_setting .drainTimeoutSecs available
  have hlinks := h.fieldOr?_setting .followLinks available
  simp only [Setting.read?, Setting.group, Setting.key, Setting.default] at hworkers htimeout hlinks
  simp only [Run.Settings.ofValue?, Run.Settings.default, Toml.Value.fields?, hworkers, htimeout,
    hlinks, Option.bind_eq_bind, Option.bind_some, Option.pure_def]
  rfl

theorem WellTyped.ofValue?_output (h : WellTyped file) (origin : Toml.Origin) (available : Nat) :
    OutputSettings.ofValue? (.table origin (sectionEntries file "output")) =
      some (Configuration.ofChoices fun s => s.underFile file available).output := by
  have hpath := h.fieldOr?_setting .outputPath available
  have hprogress := h.fieldOr?_setting .progress available
  have hcolor := h.fieldOr?_setting .color available
  have hformat := h.fieldOr?_setting .format available
  simp only [Setting.read?, Setting.group, Setting.key, Setting.default]
    at hpath hprogress hcolor hformat
  simp only [OutputSettings.ofValue?, Toml.Value.fields?, hpath, hprogress, hcolor, hformat,
    Option.bind_eq_bind, Option.bind_some, Option.pure_def]
  rfl

/-- A setting is what the file says about it, or has its default. -/
theorem WellTyped.ofValue?_eq (h : WellTyped file) (available : Nat) :
    Configuration.ofValue? available file =
      some (.ofChoices fun s => s.underFile file available) := by
  obtain ⟨origin, sections, rfl, hsections⟩ := h.sections
  have hnone : Extraction.Settings.ofValue? (.table .header []) = some {} := rfl
  have hnorun : Run.Settings.ofValue? available (.table .header []) = some (.default available) :=
    rfl
  have hnooutput : OutputSettings.ofValue? (.table .header []) = some {} := rfl
  obtain ⟨_, hextraction⟩ := fieldOr?_section (hsections "extractor" (by decide)) hnone
  obtain ⟨_, hrun⟩ := fieldOr?_section (hsections "pipeline" (by decide)) hnorun
  obtain ⟨_, houtput⟩ := fieldOr?_section (hsections "output" (by decide)) hnooutput
  rw [h.ofValue?_extraction _ available] at hextraction
  rw [h.ofValue?_run] at hrun
  rw [h.ofValue?_output _ available] at houtput
  simp only [Configuration.ofValue?, Toml.Value.fields?, Configuration.default, hextraction, hrun,
    houtput, Option.bind_eq_bind, Option.bind_some, Option.pure_def]

/-! ## Files for all choices -/

section Choices

variable (given : (s : Setting) → Option s.Choice)

/-- All settings, in the order in which they are written. -/
def Setting.all : List Setting :=
  [placeholder, paragraphBreaks, minSentenceChars, descriptionSelector, fragmentKeys, workerCount,
    drainTimeoutSecs, followLinks, outputPath, progress, color, format]

/-- How a choice is written. -/
def Setting.scalar : (s : Setting) → s.Choice → Toml.Scalar
  | placeholder | descriptionSelector | outputPath => Toml.Scalar.string
  | minSentenceChars | workerCount | drainTimeoutSecs => fun n : Nat => Toml.Scalar.integer n
  | paragraphBreaks | fragmentKeys | followLinks | progress | color => Toml.Scalar.boolean
  | format => fun format => Toml.Scalar.string format.name

/-- The choice of a setting, if it is made and the setting stands in the section. -/
def chosenField? (group : String) (s : Setting) : Option (String × Toml.Scalar) :=
  if s.group = group then (given s).map fun choice => (s.key, s.scalar choice) else none

/-- The choices that are made in a section. -/
def chosenFields (group : String) : List (String × Toml.Scalar) :=
  Setting.all.filterMap (chosenField? given group)

/-- The choices that are made, by their sections. -/
def chosenSections : List (String × List (String × Toml.Scalar)) :=
  sectionNames.map fun name => (name, chosenFields given name)

theorem Setting.mem_all (s : Setting) : s ∈ all := by
  cases s <;> decide

/-- Every choice is read back from the scalar it is written as. -/
theorem Setting.read?_scalar (s : Setting) (choice : s.Choice) :
    s.read? (.scalar (s.scalar choice)) = some choice := by
  cases s with
  | minSentenceChars => exact Toml.Value.natural?_natCast choice
  | workerCount => exact Toml.Value.natural?_natCast choice
  | drainTimeoutSecs => exact Toml.Value.natural?_natCast choice
  | format => exact SummaryFormat.ofName?_name choice
  | _ => rfl

/-- No two settings of a section share a key. -/
theorem Setting.eq_of_key_eq {s other : Setting} (hgroup : s.group = other.group)
    (hkey : s.key = other.key) : s = other := by
  have hdistinct : (all.map fun s => (s.group, s.key)).Nodup := by decide
  exact List.inj_on_of_nodup_map hdistinct s.mem_all other.mem_all (Prod.ext hgroup hkey)

theorem Setting.isBareKey_key (s : Setting) : Toml.IsBareKey s.key := by
  cases s <;> decide

theorem Setting.group_mem (s : Setting) : s.group ∈ sectionNames := by
  cases s <;> decide

section Fields

variable {group : String} {field : String × Toml.Scalar}

/-- A setting has a field in its own section only, and only if it is chosen. -/
theorem chosenField?_eq_some_iff (s : Setting) :
    chosenField? given group s = some field ↔
      s.group = group ∧ ∃ choice, given s = some choice ∧ (s.key, s.scalar choice) = field := by
  unfold chosenField?
  by_cases hgroup : s.group = group
  · simp [hgroup]
  · simp [hgroup]

/-- The fields of a section are those of its settings that are chosen. -/
theorem mem_chosenFields_iff :
    field ∈ chosenFields given group ↔
      ∃ s : Setting, s.group = group ∧ ∃ choice, given s = some choice ∧
        (s.key, s.scalar choice) = field := by
  simp only [chosenFields, List.mem_filterMap, Setting.mem_all, true_and,
    chosenField?_eq_some_iff]

theorem distinct_chosenFields (group : String) :
    ((chosenFields given group).map Prod.fst).Nodup := by
  have hall : Setting.all.Nodup := by decide
  rw [chosenFields, List.map_filterMap]
  refine hall.filterMap fun s other key hs hother => ?_
  obtain ⟨field, hfield, rfl⟩ := Option.map_eq_some_iff.mp hs
  obtain ⟨same, hsame, hkey⟩ := Option.map_eq_some_iff.mp hother
  obtain ⟨hgroup, _, -, rfl⟩ := (chosenField?_eq_some_iff given s).mp hfield
  obtain ⟨hgroup', _, -, rfl⟩ := (chosenField?_eq_some_iff given other).mp hsame
  exact Setting.eq_of_key_eq (hgroup.trans hgroup'.symm) hkey.symm

end Fields

/-- The choices can be written: their numbers are not too large. -/
def AreReadable : Prop := ∀ s : Setting, ∀ choice ∈ given s, (s.scalar choice).IsReadable

variable {given}

/-- Readable choices make regular fields. -/
theorem AreReadable.isRegular (h : AreReadable given) (group : String) :
    Toml.IsRegular (chosenFields given group) where
  bare := by
    intro name hname
    obtain ⟨field, hfield, rfl⟩ := List.mem_map.mp hname
    obtain ⟨s, -, choice, -, rfl⟩ := (mem_chosenFields_iff given).mp hfield
    exact s.isBareKey_key
  distinct := distinct_chosenFields given group
  readable := by
    intro field hfield
    obtain ⟨s, -, choice, hchoice, rfl⟩ := (mem_chosenFields_iff given).mp hfield
    exact h s choice hchoice

/-- The file in which the choices are made. -/
def chosenFile (given : (s : Setting) → Option s.Choice) : Toml.Value :=
  .table .header ((chosenSections given).map Toml.sectionOf)

theorem names_chosenSections : (chosenSections given).map Prod.fst = sectionNames := by
  rw [chosenSections, List.map_map]
  exact List.map_id _

theorem distinct_chosenSections : ((chosenSections given).map Prod.fst).Nodup := by
  rw [names_chosenSections]
  decide

/-- Each section of the file holds the chosen fields. -/
theorem lookup_chosenSections {name : String} (hname : name ∈ sectionNames) :
    ((chosenSections given).map Toml.sectionOf).lookup name =
      some (.table .header ((chosenFields given name).map Toml.entryOf)) :=
  Toml.lookup_sectionOf distinct_chosenSections (List.mem_map_of_mem hname)

theorem sectionEntries_chosenFile {name : String} (hname : name ∈ sectionNames) :
    sectionEntries (chosenFile given) name = (chosenFields given name).map Toml.entryOf := by
  unfold sectionEntries chosenFile
  dsimp only
  rw [lookup_chosenSections hname]

/-- The file has a value for a setting exactly if it is chosen. -/
theorem Setting.value?_chosenFile (s : Setting) :
    s.value? (chosenFile given) = (given s).map fun choice => .scalar (s.scalar choice) := by
  rw [value?, sectionEntries_chosenFile s.group_mem]
  cases hchoice : given s with
  | some choice =>
      have hmem : (s.key, s.scalar choice) ∈ chosenFields given s.group :=
        (mem_chosenFields_iff given).mpr ⟨s, rfl, choice, hchoice, rfl⟩
      exact Toml.lookup_entryOf (distinct_chosenFields given s.group) hmem
  | none =>
      refine Toml.Entries.lookup_eq_none fun hmem => ?_
      rw [List.map_map] at hmem
      obtain ⟨field, hfield, hkey⟩ := List.mem_map.mp hmem
      obtain ⟨other, hgroup, choice, hother, rfl⟩ := (mem_chosenFields_iff given).mp hfield
      obtain rfl := eq_of_key_eq hgroup hkey
      cases hchoice.symm.trans hother

/-- The file gives each setting the choice that was made for it. -/
theorem Setting.given?_chosenFile (s : Setting) : s.given? (chosenFile given) = given s := by
  rw [given?, s.value?_chosenFile]
  cases given s with
  | none => rfl
  | some choice => exact s.read?_scalar choice

/-- A file of choices is well typed. -/
theorem wellTyped_chosenFile : WellTyped (chosenFile given) where
  sections := by
    refine ⟨_, _, rfl, fun name hname content hcontent => ?_⟩
    rw [lookup_chosenSections hname] at hcontent
    cases hcontent
    exact ⟨_, _, rfl⟩
  values := by
    intro s hs
    rw [s.given?_chosenFile]
    rwa [s.value?_chosenFile, Option.isSome_map] at hs

/-- Whatever is chosen, for whichever settings, there is a text that says so and nothing else. -/
theorem AreReadable.exists_text (h : AreReadable given) :
    ∃ text file, Toml.read text = some file ∧ WellTyped file ∧
      ∀ s : Setting, s.given? file = given s := by
  have hbare : ∀ name ∈ (chosenSections given).map Prod.fst, Toml.IsBareKey name := by
    rw [names_chosenSections]
    decide
  have hregular : ∀ group ∈ chosenSections given, Toml.IsRegular group.2 :=
    List.forall_mem_map.mpr fun name _ => h.isRegular name
  exact ⟨_, chosenFile given, Toml.read_sectionsText hbare distinct_chosenSections hregular,
    wellTyped_chosenFile, fun s => s.given?_chosenFile⟩

end Choices

/-! ## The configuration in effect -/

theorem isFile_of_read {t : FileTree} {path : Path} {bytes : List UInt8}
    (h : t.read path = .ok bytes) : t.isFile path = true := by
  unfold FileTree.read at h
  split at h
  next hfind => exact FileTree.isFile_iff.mpr ⟨_, _, hfind⟩
  all_goals cases h

/-- A file of settings is loaded, and then each setting is what the options say about it, or else
what the file says, or else its default. The switches among the options turn fragment keys and links
only on and progress only off, and giving the options once more changes nothing. -/
theorem exists_load_withOptions {w : World} {a : Arguments} {path : Path} {bytes : List UInt8}
    {text : List Char} {file : Toml.Value}
    (hpath : (a.config.map Path.ofString).or w.usualFile = some path)
    (hread : w.tree.read path = .ok bytes) (htext : Utf8.decode? bytes = some text)
    (hfile : Toml.read text = some file) (htyped : WellTyped file) :
    ∃ c, load w a = .ok (some path, c) ∧ ∀ options : ExtractOptions,
      (∀ s : Setting, s.get (c.withOptions options) =
        ((s.option? options).or (s.given? file)).getD (s.default w.available)) ∧
      (c.extraction.fragmentKeys = true →
        (c.withOptions options).extraction.fragmentKeys = true) ∧
      (c.run.followLinks = true → (c.withOptions options).run.followLinks = true) ∧
      (c.output.progress = false → (c.withOptions options).output.progress = false) ∧
      (c.withOptions options).withOptions options = c.withOptions options := by
  have hloaded : Configuration.ofFile w.tree w.available path =
      .ok (.ofChoices fun s => s.underFile file w.available) := by
    rw [Configuration.ofFile, hread]
    dsimp only
    rw [htext]
    dsimp only
    rw [Configuration.ofText?, hfile, Option.bind_some, htyped.ofValue?_eq]
  have hnamed := Configuration.file?_of_isFile hpath (isFile_of_read hread)
  refine ⟨_, Configuration.load_of_ofFile hnamed hloaded, fun options =>
    ⟨fun s => ?_, fun hkeys => ?_, fun hlinks => ?_, fun hprogress => ?_,
      Configuration.withOptions_withOptions _ options⟩⟩
  · rw [s.get_withOptions, s.get_ofChoices, Setting.underFile]
    cases s.option? options <;> rfl
  · simp [Configuration.withOptions, hkeys]
  · simp [Configuration.withOptions, hlinks]
  · simp [Configuration.withOptions, hprogress]

/-- A file with some settings of two sections. -/
def someSettings : String :=
  "pipeline = \x7b worker_count = 0x10 \x7d\n[output]\npath = 'all.csv'\nformat = \"json\"\n"

/-- A world with this file. -/
def settingsWorld : World :=
  { Configuration.emptyWorld with
    tree :=
      { entries := [([Utf8.encode "a.toml".toList], .file (Utf8.encode someSettings.toList))] } }

theorem settingsWorld_load_withOptions :
    ∃ c, load settingsWorld { config := some "a.toml", request := .configShow } =
        .ok (some (.ofString "a.toml"), c) ∧
      c.withOptions { sources := [], output := some "b.csv", noProgress := true } =
        { Configuration.default 4 with
          run := { workerCount := 16 }
          output := { path := "b.csv", progress := false, format := .json } } := by
  have hread : settingsWorld.tree.read (.ofString "a.toml") =
      .ok (Utf8.encode someSettings.toList) := by cbv
  have hfile : Toml.read someSettings.toList = some
      (.table .header [("pipeline", .table .inline [("worker_count", .scalar (.integer 16))]),
        ("output", .table .header [("path", .scalar (.string "all.csv")),
          ("format", .scalar (.string "json"))])]) := by cbv
  have htyped : WellTyped
      (.table .header [("pipeline", .table .inline [("worker_count", .scalar (.integer 16))]),
        ("output", .table .header [("path", .scalar (.string "all.csv")),
          ("format", .scalar (.string "json"))])]) := by
    constructor
    · refine ⟨_, _, rfl, ?_⟩
      simp [sectionNames, List.lookup]
    · intro s hs
      cases s <;> first | rfl | cases hs
  obtain ⟨c, hload, hoptions⟩ := exists_load_withOptions (w := settingsWorld)
    (a := { config := some "a.toml", request := .configShow }) rfl hread (Utf8.decode?_encode _)
    hfile htyped
  refine ⟨c, hload, Configuration.eq_of_forall_get fun s => ((hoptions _).1 s).trans ?_⟩
  cases s <;> rfl

end DocSentences.Command
