import DocSentences.Proofs.Toml.Statement

/-!
# Written settings are read back as tables

The statements of a written file put each setting into the table of its group. No group and no
setting of a group is named twice, so nothing is put in the place of something else.
-/

namespace DocSentences.Toml

/-! ## Keys of a table -/

namespace Entries

variable {entries : Entries} {key : String} {old value : Value}

theorem lookup_eq_none (h : key ∉ entries.map Prod.fst) : entries.lookup key = none := by
  rw [List.lookup_eq_none_iff]
  intro entry hentry
  have hne : key ≠ entry.1 := fun heq => h (heq ▸ List.mem_map_of_mem hentry)
  simpa using hne

/-- A key that is given once has the value that it is given. -/
theorem lookup_of_mem (h : (entries.map Prod.fst).Nodup) (hmem : (key, value) ∈ entries) :
    entries.lookup key = some value := by
  obtain ⟨before, after, rfl⟩ := List.append_of_mem hmem
  rw [List.map_append, List.nodup_append] at h
  have hnew : key ∉ before.map Prod.fst := fun hkey => h.2.2 key hkey key List.mem_cons_self rfl
  rw [List.lookup_append, lookup_eq_none hnew]
  simp

theorem lookup_concat (h : key ∉ entries.map Prod.fst) :
    (entries ++ [(key, value)]).lookup key = some value := by
  rw [List.lookup_append, lookup_eq_none h]
  simp

theorem put_concat (h : key ∉ entries.map Prod.fst) :
    put (entries ++ [(key, old)]) key value = entries ++ [(key, value)] := by
  induction entries with
  | nil => simp [put]
  | cons entry entries ih =>
    rw [List.map_cons, List.mem_cons, not_or] at h
    rw [List.cons_append, put, if_neg (Ne.symm h.1), ih h.2, List.cons_append]

/-- A key that is new is added at the end. -/
theorem assign_nil (h : key ∉ entries.map Prod.fst) (value : Value) :
    entries.assign [] key value = some (entries ++ [(key, value)]) := by
  rw [assign, within, lookup_eq_none h]

/-- A section whose name is new is added at the end, without keys. -/
theorem begin_nil (h : key ∉ entries.map Prod.fst) :
    entries.begin [] key = some (entries ++ [(key, .table .header [])]) := by
  rw [begin, within, lookup_eq_none h]

end Entries

/-! ## Settings of a table -/

/-- The entry that a setting becomes. -/
def entryOf (field : String × Scalar) : String × Value := (field.1, .scalar field.2)

/-- The entry that a group of settings becomes. -/
def sectionOf (group : String × List (String × Scalar)) : String × Value :=
  (group.1, .table .header (group.2.map entryOf))

section Lookup

variable {name : String}

/-- Each field of a table is found under its name. -/
theorem lookup_entryOf {fields : List (String × Scalar)} (h : (fields.map Prod.fst).Nodup)
    {value : Scalar} (hmem : (name, value) ∈ fields) :
    (fields.map entryOf).lookup name = some (.scalar value) := by
  apply Entries.lookup_of_mem
  · rw [List.map_map]
    exact h
  · exact List.mem_map_of_mem hmem

/-- Each section is found under its name, as a table of its fields. -/
theorem lookup_sectionOf {sections : List (String × List (String × Scalar))}
    (h : (sections.map Prod.fst).Nodup) {fields : List (String × Scalar)}
    (hmem : (name, fields) ∈ sections) :
    (sections.map sectionOf).lookup name = some (.table .header (fields.map entryOf)) := by
  apply Entries.lookup_of_mem
  · rw [List.map_map]
    exact h
  · exact List.mem_map_of_mem hmem

end Lookup

/-- Assignments go to the table that the assembly is given by. -/
def Appends (assemblyOf : Entries → Assembly) : Prop :=
  ∀ (entries : Entries) (field : String × Scalar), field.1 ∉ entries.map Prod.fst →
    (assemblyOf entries).step (assignment field) = some (assemblyOf (entries ++ [entryOf field]))

theorem appends_root : Appends fun entries => ⟨entries, []⟩ := by
  intro entries field hfield
  rw [assignment, Assembly.step, Entries.within, Entries.assign_nil hfield]
  rfl

/-- After the header of a table, assignments go to it. -/
theorem appends_table {before : Entries} {name : String} (hname : name ∉ before.map Prod.fst) :
    Appends fun entries => ⟨before ++ [(name, .table .header entries)], [name]⟩ := by
  intro entries field hfield
  rw [assignment, Assembly.step, Entries.within, Entries.lookup_concat hname]
  simp only [Entries.mayEnter, Entries.within, Entries.assign_nil hfield]
  simp [Entries.put_concat hname, entryOf]

/-- The entries of a table after an assignment for each of some settings. -/
theorem Appends.foldlM {assemblyOf : Entries → Assembly} (h : Appends assemblyOf)
    {fields : List (String × Scalar)} (entries : Entries)
    (hdistinct : (entries.map Prod.fst ++ fields.map Prod.fst).Nodup) :
    (fields.map assignment).foldlM Assembly.step (assemblyOf entries) =
      some (assemblyOf (entries ++ fields.map entryOf)) := by
  induction fields generalizing entries with
  | nil => simp
  | cons field fields ih =>
    have hnew : field.1 ∉ entries.map Prod.fst := by
      intro hmem
      rw [List.nodup_append] at hdistinct
      exact hdistinct.2.2 field.1 hmem field.1 List.mem_cons_self rfl
    have hrest : ((entries ++ [entryOf field]).map Prod.fst ++ fields.map Prod.fst).Nodup := by
      simpa [entryOf] using hdistinct
    rw [List.map_cons, List.foldlM_cons, h entries field hnew, Option.bind_eq_bind,
      Option.bind_some, ih _ hrest]
    simp

/-- A table for each of some groups, in their order. -/
theorem foldlM_sectionStatements {sections : List (String × List (String × Scalar))}
    (entries : Entries) (current : List String)
    (hnames : (entries.map Prod.fst ++ sections.map Prod.fst).Nodup)
    (hfields : ∀ group ∈ sections, (group.2.map Prod.fst).Nodup) :
    ∃ last, (sectionStatements sections).foldlM Assembly.step ⟨entries, current⟩ =
      some ⟨entries ++ sections.map sectionOf, last⟩ := by
  -- by induction on the sections, whatever was read before them
  induction sections generalizing entries current with
  | nil => exact ⟨current, by simp [sectionStatements]⟩
  | cons group sections ih =>
    obtain ⟨hgroup, hfields⟩ := List.forall_mem_cons.1 hfields
    have hnew : group.1 ∉ entries.map Prod.fst := by
      intro hmem
      rw [List.nodup_append] at hnames
      exact hnames.2.2 group.1 hmem group.1 List.mem_cons_self rfl
    have hrest : ((entries ++ [sectionOf group]).map Prod.fst ++ sections.map Prod.fst).Nodup := by
      simpa [sectionOf] using hnames
    have hbegin : Assembly.step ⟨entries, current⟩ (.table [] group.1) =
        some ⟨entries ++ [(group.1, .table .header [])], [group.1]⟩ := by
      rw [Assembly.step, Entries.begin_nil hnew]
      rfl
    have hassign := (appends_table hnew).foldlM [] (by simpa using hgroup)
    obtain ⟨last, hlast⟩ := ih _ [group.1] hrest hfields
    refine ⟨last, ?_⟩
    calc (sectionStatements (group :: sections)).foldlM Assembly.step ⟨entries, current⟩
        = (sectionStatements sections).foldlM Assembly.step
            ⟨entries ++ [sectionOf group], [group.1]⟩ := by
          rw [sectionStatements_cons, List.foldlM_cons, hbegin, Option.bind_eq_bind,
            Option.bind_some, List.foldlM_append, hassign, Option.bind_eq_bind, Option.bind_some,
            List.nil_append]
          rfl
      _ = some ⟨entries ++ (group :: sections).map sectionOf, last⟩ := by
          rw [hlast]
          simp

/-! ## Files -/

theorem dropMark_cons {c : Char} (h : c ≠ '\uFEFF') (s : List Char) :
    dropMark (c :: s) = c :: s := by
  rw [dropMark]
  intro rest hrest
  exact h (List.cons.inj hrest).1

/-- What the statements of a text add up to is what is read. -/
theorem read_of_spells {s : List Char} {statements : List Statement} {assembly : Assembly}
    (hmark : dropMark s = s) (hspells : Spells s statements)
    (hassembly : statements.foldlM Assembly.step ⟨[], []⟩ = some assembly) :
    read s = some (.table .header assembly.root) := by
  rw [read, hmark, hspells _ (Nat.lt_succ_self _), Option.bind_eq_bind, Option.bind_some, hassembly,
    Option.bind_eq_bind, Option.bind_some]
  rfl

/-- Settings that can be written and read: with keys without quotes, none of them twice, and with
values that the reader has a place for. -/
structure IsRegular (fields : List (String × Scalar)) : Prop where
  bare : ∀ name ∈ fields.map Prod.fst, IsBareKey name
  distinct : (fields.map Prod.fst).Nodup
  readable : ∀ field ∈ fields, field.2.IsReadable

theorem IsRegular.field {fields : List (String × Scalar)} (h : IsRegular fields)
    {field : String × Scalar} (hfield : field ∈ fields) :
    IsBareKey field.1 ∧ field.2.IsReadable :=
  ⟨h.bare field.1 (List.mem_map_of_mem hfield), h.readable field hfield⟩

theorem dropMark_fieldsText {fields : List (String × Scalar)} (h : IsRegular fields) :
    dropMark (fieldsText fields) = fieldsText fields := by
  cases fields with
  | nil => rfl
  | cons field fields =>
    obtain ⟨c, tail, hkey, hc⟩ := (h.field List.mem_cons_self).1.exists_cons
    rw [fieldsText_cons, hkey]
    exact dropMark_cons (ne_of_isBare hc (by decide)) _

theorem dropMark_sectionsText (sections : List (String × List (String × Scalar))) :
    dropMark (sectionsText sections) = sectionsText sections := by
  unfold sectionsText
  split
  · rfl
  · exact dropMark_cons (by decide) _
  · exact dropMark_cons (by decide) _

/-- Settings are read back as a table with an entry for each. -/
theorem read_fieldsText {fields : List (String × Scalar)} (h : IsRegular fields) :
    read (fieldsText fields) = some (.table .header (fields.map entryOf)) := by
  have hspells := spells_nil.fields fun field => h.field
  rw [List.append_nil, List.append_nil] at hspells
  exact read_of_spells (dropMark_fieldsText h) hspells
    (appends_root.foldlM [] (by simpa using h.distinct))

/-- Groups of settings are read back as a table with a table for each. -/
theorem read_sectionsText {sections : List (String × List (String × Scalar))}
    (hbare : ∀ name ∈ sections.map Prod.fst, IsBareKey name)
    (hdistinct : (sections.map Prod.fst).Nodup)
    (hfields : ∀ group ∈ sections, IsRegular group.2) :
    read (sectionsText sections) = some (.table .header (sections.map sectionOf)) := by
  have hspells := spells_sectionsText fun group hgroup =>
    ⟨hbare group.1 (List.mem_map_of_mem hgroup), fun field => (hfields group hgroup).field⟩
  obtain ⟨last, hlast⟩ := foldlM_sectionStatements [] [] (by simpa using hdistinct)
    fun group hgroup => (hfields group hgroup).distinct
  exact read_of_spells (dropMark_sectionsText sections) hspells hlast

/-! ## Writing -/

theorem Scalar.IsReadable.isWritable {value : Scalar} (h : value.IsReadable) :
    value.isWritable = true := by
  cases value with
  | string text => rfl
  | integer n => exact decide_eq_true h.2
  | boolean b => rfl

theorem IsRegular.isWritable {fields : List (String × Scalar)} (h : IsRegular fields) :
    fields.all (·.2.isWritable) = true :=
  List.all_eq_true.2 fun field hfield => (h.readable field hfield).isWritable

/-- Regular fields are written without a fault. -/
theorem writeFields?_eq {fields : List (String × Scalar)} (h : IsRegular fields) :
    writeFields? fields = some (fieldsText fields) := by
  rw [writeFields?, if_pos h.isWritable]

/-- Sections of regular fields are written without a fault. -/
theorem writeSections?_eq {sections : List (String × List (String × Scalar))}
    (h : ∀ group ∈ sections, IsRegular group.2) :
    writeSections? sections = some (sectionsText sections) := by
  rw [writeSections?, if_pos (List.all_eq_true.2 fun group hgroup => (h group hgroup).isWritable)]

end DocSentences.Toml
