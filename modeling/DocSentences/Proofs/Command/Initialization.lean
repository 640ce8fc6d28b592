import DocSentences.Proofs.Command.SavedConfiguration
import DocSentences.Proofs.FileTree.Directories

/-!
# Writing the initial configuration

The configuration of a user who has chosen nothing can be written to the file that is named on the
command line. That file is read first, as for every command, so it has to be there and to hold a
configuration, which is then replaced if the user insists. A file that is not there yet is never
made, although this is what the command is for.
-/

namespace DocSentences.Command

variable {w : World} {a : Arguments} {name : String} {force : Bool} {path : Path}

/-! ## What is expected -/

/-- The directory that the file at a path stands in is there, or can be made. -/
def HasDirectory (t : FileTree) (path : Path) : Prop :=
  ∃ parent made, path.parent? = some parent ∧ t.makeDirectories parent = .ok made

/-- The command succeeds, and the file that is named holds the initial configuration. -/
def Initialized (w : World) (a : Arguments) (path : Path) : Prop :=
  (execute w a).failure = none ∧
    load { w with tree := (execute w a).tree } a =
      .ok (some path, Configuration.default w.available)

/-- The command fails, and every file is as it was. -/
def Refused (w : World) (a : Arguments) : Prop :=
  (execute w a).failure ≠ none ∧ (execute w a).tree = w.tree

/-- No file has come, gone or changed, but for the one that a path leads to. -/
def SameFilesExcept (path : Path) (t changed : FileTree) : Prop :=
  ∀ place, changed.filePlace path ≠ .ok place → ∀ content,
    changed.entry? place = some (.file content) ↔ t.entry? place = some (.file content)

/-- What is expected of the command that writes the initial configuration to the file that is
named. -/
structure InitializesNamed (w : World) (a : Arguments) (force : Bool) (path : Path) : Prop where
  creates : w.tree.exists? path = false → HasDirectory w.tree path → Initialized w a path
  refuses : w.tree.exists? path = true → force = false → Refused w a
  replaces : force = true → (∃ c, load w a = .ok (some path, c)) → Initialized w a path
  others : SameFilesExcept path w.tree (execute w a).tree

/-! ## What is done -/

/-- The default configuration can be written. -/
theorem Configuration.isWritable_default {available : Nat}
    (h : (available : Int) ≤ Toml.maxInteger) : (default available).IsWritable where
  extraction := ⟨show (2 : Int) ≤ Toml.maxInteger by decide⟩
  run := ⟨h, show (30 : Int) ≤ Toml.maxInteger by decide⟩

theorem exists?_of_isFile {t : FileTree} (h : t.isFile path = true) : t.exists? path = true := by
  obtain ⟨place, content, hfind⟩ := FileTree.isFile_iff.mp h
  rw [FileTree.exists?, hfind]

/-- The file that is named has to be there, and is the one that is loaded. -/
theorem load_named (hconfig : a.config = some name) {file : Option Path} {c : Configuration}
    (h : load w a = .ok (file, c)) :
    file = some (.ofString name) ∧ w.tree.isFile (.ofString name) = true := by
  have hnamed : Configuration.file? w.tree w.usualFile a.config =
      if w.tree.isFile (.ofString name) then .ok (some (.ofString name))
      else .error (.configuration
        s!"Configuration file not found: {(Path.ofString name).display}") := by
    rw [hconfig]
    rfl
  cases hfile : w.tree.isFile (.ofString name) with
  | false =>
      rw [load, hnamed, hfile] at h
      cases h
  | true =>
      rw [hfile, if_pos rfl] at hnamed
      cases hread : Configuration.ofFile w.tree w.available (.ofString name) with
      | error failure =>
          rw [load, hnamed] at h
          change (do return (some _, ← Configuration.ofFile _ _ _)) = _ at h
          rw [hread] at h
          cases h
      | ok read =>
          rw [Configuration.load_of_ofFile hnamed hread] at h
          cases h
          exact ⟨rfl, rfl⟩

/-- A request without a configuration that can be loaded is refused. -/
theorem refused_of_not_loaded (h : ¬ ∃ file c, load w a = .ok (file, c)) : Refused w a := by
  cases hload : load w a with
  | error failure => simp [Refused, execute, hload]
  | ok loaded => exact absurd ⟨loaded.1, loaded.2, hload⟩ h

/-- What the command does once a configuration has been loaded. -/
theorem execute_of_loaded (hconfig : a.config = some name)
    (hrequest : a.request = .configInit force) {file : Option Path} {c : Configuration}
    (h : load w a = .ok (file, c)) :
    (∃ failure t, writeInitial w (.ofString name) force = .error (failure, t) ∧
      (execute w a).failure = some failure ∧ (execute w a).tree = t) ∨
    ∃ written, writeInitial w (.ofString name) force = .ok written ∧
      (execute w a).failure = none ∧ (execute w a).tree = written := by
  rw [execute, h]
  dsimp only [executeLoaded]
  rw [hconfig, hrequest, perform]
  dsimp only [World.namedFile]
  cases writeInitial w (.ofString name) force with
  | error failed => exact .inl ⟨failed.1, failed.2, rfl, rfl, rfl⟩
  | ok written => exact .inr ⟨written, rfl, rfl, rfl⟩

/-- The initial configuration replaces the one in a file, and nothing else. -/
theorem save_default (havailable : (w.available : Int) ≤ Toml.maxInteger)
    (hfile : w.tree.isFile path = true) :
    ∃ place content, w.tree.filePlace path = .ok place ∧
      (Configuration.default w.available).save w.tree path =
        .ok (w.tree.put place (.file content)) := by
  obtain ⟨parent, hparent, hmade⟩ := FileTree.makeDirectories_parent hfile
  obtain ⟨place, old, hfind⟩ := FileTree.isFile_iff.mp hfile
  have hplace := FileTree.filePlace_of_find hfind
  exact ⟨place, _, hplace, Configuration.save_of_filePlace
    (Configuration.isWritable_default havailable) hparent hmade hplace⟩

/-- Writing one file keeps all others. -/
theorem sameFilesExcept_put {t : FileTree} {place : Place} (h : t.filePlace path = .ok place)
    (content : List UInt8) : SameFilesExcept path t (t.put place (.file content)) := by
  intro other hother old
  have hfound := FileTree.filePlace_of_find (FileTree.find_put h content)
  have hne : other ≠ place := by
    rintro rfl
    exact hother hfound
  rw [FileTree.entry?_put_of_ne hne]

/-- The command does what is expected if it is told to replace a file with a configuration in it,
and is refused otherwise. -/
theorem execute_cases (havailable : (w.available : Int) ≤ Toml.maxInteger)
    (hconfig : a.config = some name) (hrequest : a.request = .configInit force) :
    ((force = true ∧ ∃ c, load w a = .ok (some (.ofString name), c)) ∧
      Initialized w a (.ofString name) ∧
      SameFilesExcept (.ofString name) w.tree (execute w a).tree) ∨
    ¬ (force = true ∧ ∃ c, load w a = .ok (some (.ofString name), c)) ∧ Refused w a := by
  by_cases hloaded : ∃ file c, load w a = .ok (file, c)
  swap
  · exact .inr ⟨fun ⟨_, c, hload⟩ => hloaded ⟨_, c, hload⟩, refused_of_not_loaded hloaded⟩
  obtain ⟨file, c, hload⟩ := hloaded
  -- a configuration that is loaded is the file that the request wants to write
  obtain ⟨rfl, hfile⟩ := load_named hconfig hload
  have hdone := execute_of_loaded hconfig hrequest hload
  cases force with
  | false =>
      rw [writeInitial, exists?_of_isFile hfile] at hdone
      obtain ⟨failure, t, hfailed, hfailure, htree⟩ | ⟨_, hwritten, -⟩ := hdone
      · -- nothing has been made yet
        obtain rfl : w.tree = t := (Prod.mk.inj (Except.error.inj hfailed)).2
        refine .inr ⟨fun h => Bool.false_ne_true h.1, ?_, htree⟩
        rw [hfailure]
        simp
      · cases hwritten
  | true =>
      obtain ⟨place, content, hplace, hsave⟩ := save_default havailable hfile
      have hwrite : writeInitial w (.ofString name) true =
          .ok (w.tree.put place (.file content)) := by
        rw [writeInitial, Bool.not_true, Bool.and_false, if_neg Bool.false_ne_true, hsave]
      rw [hwrite] at hdone
      obtain ⟨_, _, hfailed, -⟩ | ⟨written, hwritten, hfailure, htree⟩ := hdone
      · cases hfailed
      cases hwritten
      rw [Initialized, htree]
      have hwritable := Configuration.isWritable_default havailable
      obtain ⟨hthere, hread⟩ := Configuration.ofFile_of_save hwritable w.available hsave
      have hnamed : (a.config.map Path.ofString).or w.usualFile = some (.ofString name) := by
        rw [hconfig]
        rfl
      exact .inl ⟨⟨rfl, c, hload⟩, ⟨hfailure, Configuration.load_of_ofFile
        (Configuration.file?_of_isFile hnamed hthere) hread⟩, sameFilesExcept_put hplace content⟩

/-- No request is both carried out and refused. -/
theorem Initialized.not_refused (h : Initialized w a path) : ¬ Refused w a :=
  fun hrefused => hrefused.1 h.1

/-- A request that is refused keeps all files. -/
theorem Refused.sameFilesExcept (h : Refused w a) (path : Path) :
    SameFilesExcept path w.tree (execute w a).tree := by
  rw [h.2]
  exact fun _ _ _ => Iff.rfl

/-- The command does what is expected exactly if something is at the path that is named, or cannot
be there: a file that is missing is never made. It succeeds on a file with a configuration that it
is told to replace, and in every other case it fails and leaves every file as it was. -/
theorem initializesNamed_iff (havailable : (w.available : Int) ≤ Toml.maxInteger)
    (hconfig : a.config = some name) (hrequest : a.request = .configInit force) :
    (InitializesNamed w a force (.ofString name) ↔
      w.tree.exists? (.ofString name) = true ∨ ¬ HasDirectory w.tree (.ofString name)) ∧
    (Initialized w a (.ofString name) ↔
      force = true ∧ ∃ c, load w a = .ok (some (.ofString name), c)) ∧
    (Refused w a ↔ ¬ (force = true ∧ ∃ c, load w a = .ok (some (.ofString name), c))) ∧
    (w.tree.exists? (.ofString name) = false → Refused w a) := by
  rcases execute_cases havailable hconfig hrequest with
    ⟨hgiven, hdone, hothers⟩ | ⟨hnot, hrefused⟩
  · obtain ⟨hforce, c, hload⟩ := hgiven
    have hthere := exists?_of_isFile (load_named hconfig hload).2
    refine ⟨iff_of_true ?_ (.inl hthere), iff_of_true hdone ⟨hforce, c, hload⟩,
      iff_of_false hdone.not_refused (not_not_intro ⟨hforce, c, hload⟩),
      fun hmissing => absurd (hthere.symm.trans hmissing) (by simp)⟩
    exact
      { creates := fun hmissing => absurd (hthere.symm.trans hmissing) (by simp)
        refuses := fun _ hkeep => absurd (hforce.symm.trans hkeep) (by simp)
        replaces := fun _ _ => hdone
        others := hothers }
  · have hundone : ¬ Initialized w a (.ofString name) := fun h => h.not_refused hrefused
    refine ⟨⟨fun h => ?_, fun h => ?_⟩, iff_of_false hundone hnot, iff_of_true hrefused hnot,
      fun _ => hrefused⟩
    · cases hthere : w.tree.exists? (.ofString name) with
      | true => exact .inl rfl
      | false => exact .inr fun hdirectory => hundone (h.creates hthere hdirectory)
    · exact
        { creates := fun hmissing hdirectory =>
            absurd h (not_or.mpr ⟨by simp [hmissing], not_not_intro hdirectory⟩)
          refuses := fun _ _ => hrefused
          replaces := fun hforce hload => absurd ⟨hforce, hload⟩ hnot
          others := hrefused.sameFilesExcept _ }

/-- A world with one file, which turns colors off. -/
def plainWorld : World :=
  { Configuration.emptyWorld with
    tree :=
      { entries :=
          [([Utf8.encode "a.toml".toList],
            .file (Utf8.encode "[output]\ncolor = false\n".toList))] } }

/-- A command line that asks for the initial configuration in a file. -/
def initArguments (name : String) (force : Bool) : Arguments :=
  { config := some name, request := .configInit force }

theorem initialized_plainWorld :
    InitializesNamed plainWorld (initArguments "a.toml" true) true (.ofString "a.toml") ∧
      Initialized plainWorld (initArguments "a.toml" true) (.ofString "a.toml") ∧
      Refused plainWorld (initArguments "a.toml" false) ∧
      Refused plainWorld (initArguments "b.toml" true) := by
  have havailable : (plainWorld.available : Int) ≤ Toml.maxInteger := by decide
  have hthere : plainWorld.tree.exists? (.ofString "a.toml") = true := by cbv
  have hfile : plainWorld.tree.isFile (.ofString "a.toml") = true := by cbv
  have hread : Configuration.ofFile plainWorld.tree plainWorld.available (.ofString "a.toml") =
      .ok { Configuration.default 4 with output := { color := false } } := by cbv
  have hload := Configuration.load_of_ofFile (w := plainWorld)
    (a := initArguments "a.toml" true) (Configuration.file?_of_isFile rfl hfile) hread
  obtain ⟨hexpected, hdone, -⟩ :=
    initializesNamed_iff (w := plainWorld) (a := initArguments "a.toml" true) havailable rfl rfl
  refine ⟨hexpected.mpr (.inl hthere), hdone.mpr ⟨rfl, _, hload⟩, ?_, ?_⟩
  · have hkept := initializesNamed_iff (w := plainWorld) (a := initArguments "a.toml" false)
      havailable rfl rfl
    exact hkept.2.2.1.mpr fun h => Bool.false_ne_true h.1
  · have hmissing := initializesNamed_iff (w := plainWorld) (a := initArguments "b.toml" true)
      havailable rfl rfl
    exact hmissing.2.2.2 (by cbv)

/-- A file that is not there is looked for before it can be written. -/
theorem not_forall_initializesNamed :
    ¬ ∀ (w : World) (a : Arguments) (name : String) (force : Bool),
      (w.available : Int) ≤ Toml.maxInteger → a.config = some name →
        a.request = .configInit force → InitializesNamed w a force (.ofString name) := by
  intro h
  have hexpected := h Configuration.emptyWorld (initArguments "new.toml" false) "new.toml" false
    (by decide) rfl rfl
  have hmissing : Configuration.emptyWorld.tree.exists? (.ofString "new.toml") = false := by cbv
  have hnone : Configuration.emptyWorld.tree.isFile (.ofString "new.toml") = false := by cbv
  have hparent : (Path.ofString "new.toml").parent? = some ⟨[]⟩ := by decide
  have hdone := hexpected.creates hmissing ⟨_, _, hparent, rfl⟩
  refine hdone.not_refused (refused_of_not_loaded ?_)
  rintro ⟨file, c, hload⟩
  exact absurd (load_named rfl hload).2 (by simp [hnone])

end DocSentences.Command
