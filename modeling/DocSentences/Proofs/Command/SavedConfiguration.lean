import DocSentences.Command.Execution
import DocSentences.Proofs.FileTree.Writing
import DocSentences.Proofs.Text.Utf8
import DocSentences.Proofs.Toml.Document
import Mathlib

/-!
# Configuration files

A configuration that is saved is the configuration that is loaded. Settings that a file does not
give take their defaults, so a setting that was written under one name and read under another would
be lost without an error; none is.
-/

namespace DocSentences

/-- Every number within the range of the format can be read back. -/
theorem Toml.Scalar.isReadable_natural {n : Nat} (h : (n : Int) ≤ Toml.maxInteger) :
    (Scalar.integer n).IsReadable :=
  ⟨Int.le_trans (by decide) (Int.natCast_nonneg n), h⟩

theorem Toml.Value.natural?_natCast (n : Nat) : natural? (.scalar (.integer n)) = some n := by
  rw [natural?, if_pos (Int.natCast_nonneg n), Int.toNat_natCast]

/-! ## Settings of an extraction -/

namespace Extraction.Settings

/-- The number among the settings can be written. -/
structure IsWritable (s : Settings) : Prop where
  minSentenceChars : (s.minSentenceChars : Int) ≤ Toml.maxInteger

variable {s : Settings}

theorem distinct_toFields (s : Settings) : (s.toFields.map Prod.fst).Nodup := by
  change ["placeholder", "paragraph_breaks", "min_sentence_chars", "description_selector",
    "fragment_keys"].Nodup
  decide

/-- The fields of an extraction are regular. -/
theorem isRegular_toFields (h : s.IsWritable) : Toml.IsRegular s.toFields where
  bare := by
    change ∀ name ∈ ["placeholder", "paragraph_breaks", "min_sentence_chars",
      "description_selector", "fragment_keys"], Toml.IsBareKey name
    decide
  distinct := s.distinct_toFields
  readable := by
    simp only [toFields, List.forall_mem_cons]
    exact ⟨trivial, trivial, Toml.Scalar.isReadable_natural h.minSentenceChars, trivial, trivial,
      by simp⟩

/-- The settings of an extraction are read back from their fields. -/
theorem ofValue?_toFields (s : Settings) :
    ofValue? (.table .header (s.toFields.map Toml.entryOf)) = some s := by
  have hplaceholder := Toml.lookup_entryOf s.distinct_toFields (.head _)
  have hbreaks := Toml.lookup_entryOf s.distinct_toFields (.tail _ (.head _))
  have hleast := Toml.lookup_entryOf s.distinct_toFields (.tail _ (.tail _ (.head _)))
  have hselector := Toml.lookup_entryOf s.distinct_toFields
    (.tail _ (.tail _ (.tail _ (.head _))))
  have hkeys := Toml.lookup_entryOf s.distinct_toFields
    (.tail _ (.tail _ (.tail _ (.tail _ (.head _)))))
  simp only [ofValue?, Toml.Value.fields?, hplaceholder, hbreaks, hleast, hselector, hkeys,
    Toml.Value.fieldOr?, Toml.Value.string?, Toml.Value.boolean?, Toml.Value.natural?_natCast,
    Option.pure_def, Option.bind_eq_bind, Option.bind_some]

theorem text?_eq (h : s.IsWritable) : s.text? = some (Toml.fieldsText s.toFields) :=
  Toml.writeFields?_eq (isRegular_toFields h)

/-- The settings of an extraction are read back from their text. -/
theorem ofText?_fieldsText (h : s.IsWritable) : ofText? (Toml.fieldsText s.toFields) = some s := by
  rw [ofText?, Toml.read_fieldsText (isRegular_toFields h), Option.bind_some, ofValue?_toFields]

end Extraction.Settings

/-! ## Settings of a run -/

namespace Run.Settings

/-- The numbers among the settings can be written. -/
structure IsWritable (s : Settings) : Prop where
  workerCount : (s.workerCount : Int) ≤ Toml.maxInteger
  drainTimeoutSecs : (s.drainTimeoutSecs : Int) ≤ Toml.maxInteger

variable {s : Settings}

theorem distinct_toFields (s : Settings) : (s.toFields.map Prod.fst).Nodup := by
  change ["worker_count", "drain_timeout_secs", "follow_links"].Nodup
  decide

theorem isRegular_toFields (h : s.IsWritable) : Toml.IsRegular s.toFields where
  bare := by
    change ∀ name ∈ ["worker_count", "drain_timeout_secs", "follow_links"], Toml.IsBareKey name
    decide
  distinct := s.distinct_toFields
  readable := by
    simp only [toFields, List.forall_mem_cons]
    exact ⟨Toml.Scalar.isReadable_natural h.workerCount,
      Toml.Scalar.isReadable_natural h.drainTimeoutSecs, trivial, by simp⟩

theorem ofValue?_toFields (available : Nat) (s : Settings) :
    ofValue? available (.table .header (s.toFields.map Toml.entryOf)) = some s := by
  have hworkers := Toml.lookup_entryOf s.distinct_toFields (.head _)
  have htimeout := Toml.lookup_entryOf s.distinct_toFields (.tail _ (.head _))
  have hlinks := Toml.lookup_entryOf s.distinct_toFields (.tail _ (.tail _ (.head _)))
  simp only [ofValue?, Toml.Value.fields?, hworkers, htimeout, hlinks, Toml.Value.fieldOr?,
    Toml.Value.boolean?, Toml.Value.natural?_natCast, Option.pure_def, Option.bind_eq_bind,
    Option.bind_some]

theorem text?_eq (h : s.IsWritable) : s.text? = some (Toml.fieldsText s.toFields) :=
  Toml.writeFields?_eq (isRegular_toFields h)

/-- The settings of a run are read back from their text. -/
theorem ofText?_fieldsText (available : Nat) (h : s.IsWritable) :
    ofText? available (Toml.fieldsText s.toFields) = some s := by
  rw [ofText?, Toml.read_fieldsText (isRegular_toFields h), Option.bind_some, ofValue?_toFields]

end Run.Settings

namespace Command

/-! ## Settings of the output -/

/-- Every format is found by its name. -/
theorem SummaryFormat.ofName?_name (format : SummaryFormat) :
    ofName? format.name = some format := by
  cases format <;> rfl

namespace OutputSettings

theorem distinct_toFields (s : OutputSettings) : (s.toFields.map Prod.fst).Nodup := by
  change ["path", "progress", "color", "format"].Nodup
  decide

theorem isRegular_toFields (s : OutputSettings) : Toml.IsRegular s.toFields where
  bare := by
    change ∀ name ∈ ["path", "progress", "color", "format"], Toml.IsBareKey name
    decide
  distinct := s.distinct_toFields
  readable := by
    simp only [toFields, List.forall_mem_cons]
    exact ⟨trivial, trivial, trivial, trivial, by simp⟩

theorem ofValue?_toFields (s : OutputSettings) :
    ofValue? (.table .header (s.toFields.map Toml.entryOf)) = some s := by
  have hpath := Toml.lookup_entryOf s.distinct_toFields (.head _)
  have hprogress := Toml.lookup_entryOf s.distinct_toFields (.tail _ (.head _))
  have hcolor := Toml.lookup_entryOf s.distinct_toFields (.tail _ (.tail _ (.head _)))
  have hformat := Toml.lookup_entryOf s.distinct_toFields (.tail _ (.tail _ (.tail _ (.head _))))
  simp only [ofValue?, Toml.Value.fields?, hpath, hprogress, hcolor, hformat,
    Toml.Value.fieldOr?, Toml.Value.string?, Toml.Value.boolean?, Toml.Value.choice?,
    SummaryFormat.ofName?_name, Option.pure_def, Option.bind_eq_bind, Option.bind_some]

end OutputSettings

/-! ## Configurations -/

namespace Configuration

/-- All numbers among the settings can be written. -/
structure IsWritable (c : Configuration) : Prop where
  extraction : c.extraction.IsWritable
  run : c.run.IsWritable

variable {c : Configuration}

theorem distinct_toSections (c : Configuration) : (c.toSections.map Prod.fst).Nodup := by
  change ["extractor", "pipeline", "output"].Nodup
  decide

theorem isRegular_of_mem_toSections (h : c.IsWritable) :
    ∀ group ∈ c.toSections, Toml.IsRegular group.2 := by
  simp only [toSections, List.forall_mem_cons]
  exact ⟨Extraction.Settings.isRegular_toFields h.extraction,
    Run.Settings.isRegular_toFields h.run, c.output.isRegular_toFields, by simp⟩

/-- A configuration is read back from its sections. -/
theorem ofValue?_toSections (available : Nat) (c : Configuration) :
    ofValue? available (.table .header (c.toSections.map Toml.sectionOf)) = some c := by
  have hextraction := Toml.lookup_sectionOf c.distinct_toSections (.head _)
  have hrun := Toml.lookup_sectionOf c.distinct_toSections (.tail _ (.head _))
  have houtput := Toml.lookup_sectionOf c.distinct_toSections (.tail _ (.tail _ (.head _)))
  simp only [ofValue?, Toml.Value.fields?, hextraction, hrun, houtput, Toml.Value.fieldOr?,
    Extraction.Settings.ofValue?_toFields, Run.Settings.ofValue?_toFields,
    OutputSettings.ofValue?_toFields, Option.pure_def, Option.bind_eq_bind, Option.bind_some]

theorem text?_eq (h : c.IsWritable) : c.text? = some (Toml.sectionsText c.toSections) :=
  Toml.writeSections?_eq (isRegular_of_mem_toSections h)

/-- A configuration is read back from its text. -/
theorem ofText?_sectionsText (available : Nat) (h : c.IsWritable) :
    ofText? available (Toml.sectionsText c.toSections) = some c := by
  have hbare : ∀ name ∈ c.toSections.map Prod.fst, Toml.IsBareKey name := by
    change ∀ name ∈ ["extractor", "pipeline", "output"], Toml.IsBareKey name
    decide
  rw [ofText?, Toml.read_sectionsText hbare c.distinct_toSections (isRegular_of_mem_toSections h),
    Option.bind_some, ofValue?_toSections]

/-! ## Saving and loading -/

section Saving

variable {t written : FileTree} {path : Path}

/-- What is saved is written once, after the directories for it have been made. -/
theorem exists_write_of_save (h : c.save t path = .ok written) :
    ∃ text base, c.text? = some text ∧
      FileTree.write base path (Utf8.encode text) = .ok written := by
  unfold save at h
  split at h
  next => cases h
  next base _ =>
    split at h
    next => cases h
    next text htext =>
      split at h
      next result hresult =>
        cases h
        exact ⟨text, base, htext, hresult⟩
      next => cases h

/-- A file that a configuration was saved to is read as that configuration. -/
theorem ofFile_of_save (hc : c.IsWritable) (available : Nat) (h : c.save t path = .ok written) :
    written.isFile path = true ∧ ofFile written available path = .ok c := by
  obtain ⟨text, base, htext, hwrite⟩ := exists_write_of_save h
  obtain ⟨hfile, hread⟩ := FileTree.read_of_write hwrite
  rw [text?_eq hc] at htext
  cases htext
  refine ⟨hfile, ?_⟩
  rw [ofFile, hread]
  dsimp only
  rw [Utf8.decode?_encode]
  dsimp only
  rw [ofText?_sectionsText available hc]

/-- The file that a configuration was saved to is in effect if it is named, or if none is named and
it is the usual one. -/
theorem file?_of_isFile {usual : Option Path} {named : Option String}
    (hpath : (named.map Path.ofString).or usual = some path) (hfile : t.isFile path = true) :
    file? t usual named = .ok (some path) := by
  cases named with
  | none =>
    rw [Option.map_none, Option.none_or] at hpath
    simp [file?, hpath, Option.filter, hfile]
  | some name =>
    rw [Option.map_some, Option.some_or] at hpath
    cases hpath
    simp [file?, hfile]

/-- A configuration that can be read from its file is loaded. -/
theorem load_of_ofFile {w : World} {a : Arguments}
    (hfile : file? w.tree w.usualFile a.config = .ok (some path))
    (hread : ofFile w.tree w.available path = .ok c) : load w a = .ok (some path, c) := by
  unfold load
  rw [hfile]
  change (do return (some path, ← ofFile w.tree w.available path)) = _
  rw [hread]
  rfl

/-- If the directories for a file can be made and the file can be written there, a configuration is
saved to it. -/
theorem save_of_filePlace (hc : c.IsWritable) {parent : Path} {base : FileTree} {place : Place}
    (hparent : path.parent? = some parent) (hmade : t.makeDirectories parent = .ok base)
    (hplace : base.filePlace path = .ok place) :
    c.save t path =
      .ok (base.put place (.file (Utf8.encode (Toml.sectionsText c.toSections)))) := by
  have hdirectories : makeDirectories t path = .ok base := by
    rw [makeDirectories, hparent]
    exact hmade
  have hwrite (content : List UInt8) :
      base.write path content = .ok (base.put place (.file content)) := by
    rw [FileTree.write, hplace]
    rfl
  rw [save, hdirectories, text?_eq hc]
  dsimp only
  rw [hwrite]

end Saving

/-- Settings and configurations whose numbers can be written have a text, and are what is read from
it. A configuration that is saved is the one that is loaded from then on. -/
theorem read_back {c : Configuration} (hc : c.IsWritable) {e : Extraction.Settings}
    (he : e.IsWritable) {r : Run.Settings} (hr : r.IsWritable) (available : Nat) :
    (∃ text, c.text? = some text ∧ ofText? available text = some c) ∧
    (∃ text, e.text? = some text ∧ Extraction.Settings.ofText? text = some e) ∧
    (∃ text, r.text? = some text ∧ Run.Settings.ofText? available text = some r) ∧
    (∀ t path written, c.save t path = .ok written → ofFile written available path = .ok c) ∧
    ∀ (w : World) (a : Arguments) (path : Path) (written : FileTree),
      (a.config.map Path.ofString).or w.usualFile = some path →
      c.save w.tree path = .ok written →
      load { w with tree := written } a = .ok (some path, c) := by
  refine ⟨?configuration, ?extraction, ?run, ?saved, ?loaded⟩
  case configuration => exact ⟨_, text?_eq hc, ofText?_sectionsText available hc⟩
  case extraction =>
    exact ⟨_, Extraction.Settings.text?_eq he, Extraction.Settings.ofText?_fieldsText he⟩
  case run => exact ⟨_, Run.Settings.text?_eq hr, Run.Settings.ofText?_fieldsText available hr⟩
  case saved => exact fun t path written h => (ofFile_of_save hc available h).2
  case loaded =>
    intro w a path written hpath hsave
    obtain ⟨hfile, hread⟩ := ofFile_of_save hc w.available hsave
    exact load_of_ofFile (file?_of_isFile hpath hfile) hread

/-- A configuration with texts that are written in different ways, none of them as it is. -/
def awkward : Configuration where
  extraction :=
    { placeholder := "it's \"code\"", minSentenceChars := 9223372036854775807,
      descriptionSelector := "a\\b\n'''\x07" }
  run := { workerCount := 0, drainTimeoutSecs := 7, followLinks := true }
  output := { path := "\"\"\"\"\n\t", format := .quiet }

/-- A world without files. -/
def emptyWorld : World where
  tree := {}
  configDirectory := none
  available := 4
  colors := false

theorem isWritable_awkward : awkward.IsWritable :=
  ⟨⟨by decide⟩, ⟨by decide, by decide⟩⟩

theorem awkward_read_back :
    (∃ text, awkward.text? = some text ∧ ofText? 4 text = some awkward) ∧
    (∃ text, awkward.extraction.text? = some text ∧
      Extraction.Settings.ofText? text = some awkward.extraction) ∧
    (∃ text, awkward.run.text? = some text ∧
      Run.Settings.ofText? 4 text = some awkward.run) ∧
    ∃ written, awkward.save {} (.ofString "a.toml") = .ok written ∧
      ofFile written 4 (.ofString "a.toml") = .ok awkward ∧
      load { emptyWorld with tree := written } { config := some "a.toml", request := .configShow } =
        .ok (some (.ofString "a.toml"), awkward) := by
  have hc := isWritable_awkward
  obtain ⟨htext, hextraction, hrun, hsaved, hloaded⟩ := read_back hc hc.extraction hc.run 4
  refine ⟨htext, hextraction, hrun, ?_⟩
  have hparent : (Path.ofString "a.toml").parent? = some ⟨[]⟩ := by decide
  have hplace : FileTree.filePlace {} (Path.ofString "a.toml") =
      .ok [Utf8.encode "a.toml".toList] := by cbv
  have hsave := save_of_filePlace hc hparent (t := {}) rfl hplace
  exact ⟨_, hsave, hsaved _ _ _ hsave, hloaded emptyWorld _ _ _ rfl hsave⟩

end Configuration

end Command

end DocSentences
