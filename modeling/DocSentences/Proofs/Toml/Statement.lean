import DocSentences.Proofs.Toml.Number
import DocSentences.Proofs.Toml.Quoted

/-!
# Settings are read back as the statements they were written as

Each setting is written on a line of its own, as an assignment of a value to a key without quotes;
each group of settings begins with a line that begins a table. The reader finds these statements and
no others.
-/

namespace DocSentences.Toml

variable {rest : List Char}

/-! ## Values -/

/-- Whether the reader has a place for a value: integers have 64 bits with a sign. -/
def Scalar.IsReadable : Scalar → Prop
  | integer n => -9223372036854775808 ≤ n ∧ n ≤ maxInteger
  | _ => True

theorem exists_cons_of_readString {s : List Char} {r : List Char × List Char}
    (h : readString s = some r) : ∃ after, s = '"' :: after ∨ s = '\'' :: after := by
  unfold readString at h
  split at h
  · exact ⟨_, .inl rfl⟩
  · exact ⟨_, .inl rfl⟩
  · exact ⟨_, .inr rfl⟩
  · exact ⟨_, .inr rfl⟩
  · cases h

theorem readValue_of_readString {depth fuel : Nat} {s text : List Char}
    (h : readString s = some (text, rest)) :
    readValue depth (fuel + 1) s = some (.scalar (.string (String.ofList text)), rest) := by
  obtain ⟨after, rfl | rfl⟩ := exists_cons_of_readString h
  · rw [readValue, h, Option.map_some]
  · rw [readValue, h, Option.map_some]

/-- What begins with neither a quote nor a bracket is a word. -/
theorem readValue_word {depth fuel : Nat} {c : Char} (hquote : c ≠ '"') (hapostrophe : c ≠ '\'')
    (hbracket : c ≠ '[') (hbrace : c ≠ '\x7B') (s : List Char) :
    readValue depth (fuel + 1) (c :: s) = readWord (c :: s) := by
  rw [readValue] <;> simp [hquote, hapostrophe, hbracket, hbrace]

theorem exists_toString_cons (n : Int) : ∃ c tail, (toString n).toList = c :: tail := by
  apply List.exists_cons_of_ne_nil
  rw [toList_toString]
  exact List.append_ne_nil_of_right_ne_nil _ Nat.toDigits_ne_nil

/-- No value begins with blank space. -/
theorem Scalar.exists_write_cons (value : Scalar) :
    ∃ c tail, value.write = c :: tail ∧ isLineSpace c = false := by
  cases value with
  | string text =>
    have hread : readString (writeString text.toList ++ []) = some (text.toList, []) :=
      readString_writeString _ rfl rfl
    rw [List.append_nil] at hread
    obtain ⟨tail, h | h⟩ := exists_cons_of_readString hread
    · exact ⟨_, tail, h, by decide⟩
    · exact ⟨_, tail, h, by decide⟩
  | integer n =>
    obtain ⟨c, tail, hn⟩ := exists_toString_cons n
    have hc := endsWord_of_mem_toString (n := n) (c := c) (by rw [hn]; exact List.mem_cons_self)
    refine ⟨c, tail, hn, ?_⟩
    simp only [endsWord, Bool.or_eq_false_iff] at hc
    simp only [hc]
  | boolean b =>
    cases b with
    | true => exact ⟨_, _, rfl, by decide⟩
    | false => exact ⟨_, _, rfl, by decide⟩

/-- Every readable value is read back up to the end of its line. -/
theorem readValue_write {value : Scalar} (h : value.IsReadable) (depth fuel : Nat)
    (rest : List Char) :
    readValue depth (fuel + 1) (value.write ++ '\n' :: rest) =
      some (.scalar value, '\n' :: rest) := by
  cases value with
  | string text =>
    have hread := readString_writeString text.toList (leadingRun_cons_of_ne (by decide) rest)
      (leadingRun_cons_of_ne (c := '\'') (d := '\n') (by decide) rest)
    rw [Scalar.write, readValue_of_readString hread, String.ofList_toList]
  | integer n =>
    obtain ⟨c, word, hn⟩ := exists_toString_cons n
    have hne : ∀ d, d ≠ '-' → d.isDigit = false → c ≠ d := by
      rintro d hminus hdigit rfl
      have hmem : c ∈ (toString n).toList := by rw [hn]; exact List.mem_cons_self
      simpa [hminus, hdigit] using eq_minus_or_isDigit_of_mem hmem
    have hword := readWord_integer h.1 h.2 rest
    rw [hn, List.cons_append] at hword
    rw [Scalar.write, hn, List.cons_append, readValue_word _ _ _ _, hword]
    all_goals exact hne _ (by decide) (by decide)
  | boolean b =>
    have hword := readWord_boolean b rest
    cases b with
    | true => exact (readValue_word (by decide) (by decide) (by decide) (by decide) _).trans hword
    | false => exact (readValue_word (by decide) (by decide) (by decide) (by decide) _).trans hword

/-! ## Keys -/

/-- A key that can be written without quotes. -/
def IsBareKey (name : String) : Prop :=
  name.toList.isEmpty = false ∧ name.toList.all isBare = true

instance (name : String) : Decidable (IsBareKey name) := inferInstanceAs (Decidable (_ ∧ _))

theorem ne_of_isBare {c d : Char} (h : isBare c = true) (hd : isBare d = false) : c ≠ d := by
  rintro rfl
  rw [h] at hd
  cases hd

theorem skipSpace_cons {c : Char} (h : isLineSpace c = false) (s : List Char) :
    skipSpace (c :: s) = c :: s := by
  rw [skipSpace, List.dropWhile_cons_of_neg (by simp [h])]

/-- A key begins with one of its characters. -/
theorem IsBareKey.exists_cons {name : String} (h : IsBareKey name) :
    ∃ c tail, name.toList = c :: tail ∧ isBare c = true := by
  obtain ⟨c, tail, hname⟩ := List.exists_cons_of_ne_nil (List.isEmpty_eq_false_iff.1 h.1)
  have hall := h.2
  rw [hname, List.all_cons, Bool.and_eq_true] at hall
  exact ⟨c, tail, hname, hall.1⟩

/-- A bare key is read up to the first character that is none of its own. -/
theorem readKeyPart_bare {name : String} (h : IsBareKey name) {c : Char} (hc : isBare c = false) :
    readKeyPart (name.toList ++ c :: rest) = some (name.toList, c :: rest) := by
  obtain ⟨htake, hdrop⟩ := takeWhile_dropWhile_append (List.all_eq_true.1 h.2) hc rest
  obtain ⟨d, tail, hname, hd⟩ := h.exists_cons
  rw [readKeyPart, htake, hdrop, h.1, if_neg Bool.false_ne_true]
  · simp [hname, ne_of_isBare hd (d := '"') (by decide)]
  · simp [hname, ne_of_isBare hd (d := '\'') (by decide)]

/-- A bare key without a dot after it is a key of one part. -/
theorem readKey_bare {name : String} (h : IsBareKey name) {c : Char} (hc : isBare c = false)
    (hdot : ∀ s, skipSpace (c :: rest) ≠ '.' :: s) (fuel : Nat) :
    readKey (fuel + 1) (name.toList ++ c :: rest) = some ([name], skipSpace (c :: rest)) := by
  have hspace : skipSpace (name.toList ++ c :: rest) = name.toList ++ c :: rest := by
    obtain ⟨d, tail, hname, hd⟩ := h.exists_cons
    rw [hname]
    exact skipSpace_cons (by simp (disch := decide) [isLineSpace, ne_of_isBare hd]) _
  rw [readKey, hspace, readKeyPart_bare h hc]
  dsimp only
  split
  next h => exact absurd h (hdot _)
  next => rw [String.ofList_toList]

/-! ## Statements -/

/-- The statement that a setting is written as. -/
def assignment (field : String × Scalar) : Statement := .assign [] field.1 (.scalar field.2)

/-- A key and its value on a line are read as an assignment. -/
theorem readStatement_assignment {name : String} {value : Scalar} (hname : IsBareKey name)
    (hvalue : value.IsReadable) (rest : List Char) :
    readStatement (name.toList ++ ' ' :: '=' :: ' ' :: (value.write ++ '\n' :: rest)) =
      some (assignment (name, value), '\n' :: rest) := by
  have hkey : readKey 80 (name.toList ++ ' ' :: '=' :: ' ' :: (value.write ++ '\n' :: rest)) =
      some ([name], '=' :: ' ' :: (value.write ++ '\n' :: rest)) :=
    readKey_bare hname (by decide) (by intro s hs; cases hs) 79
  have hread := readValue_write hvalue 0 (' ' :: (value.write ++ '\n' :: rest)).length rest
  have hspace : skipSpace (' ' :: (value.write ++ '\n' :: rest)) = value.write ++ '\n' :: rest := by
    obtain ⟨c, tail, hcons, hc⟩ := value.exists_write_cons
    rw [hcons]
    exact skipSpace_cons hc _
  obtain ⟨c, tail, hcons, hc⟩ := hname.exists_cons
  have hbracket : c ≠ '[' := ne_of_isBare hc (by decide)
  rw [readStatement, nestingLimit, hkey]
  · split
    next h =>
      cases h
      rw [hspace, hread]
      rfl
    next h => exact absurd rfl (h _ _)
  · simp [hcons, hbracket]
  · simp [hcons, hbracket]

/-- A name between brackets is read as the header of a table. -/
theorem readStatement_table {name : String} (hname : IsBareKey name) :
    readStatement ('[' :: (name.toList ++ ']' :: '\n' :: rest)) =
      some (.table [] name, '\n' :: rest) := by
  have hkey : readKey 80 (name.toList ++ ']' :: '\n' :: rest) =
      some ([name], ']' :: '\n' :: rest) :=
    readKey_bare hname (by decide) (by intro s hs; cases hs) 79
  obtain ⟨c, tail, hcons, hc⟩ := hname.exists_cons
  rw [readStatement, nestingLimit, hkey]
  · rfl
  · simp [hcons, ne_of_isBare hc (d := '[') (by decide)]

/-! ## Texts -/

/-- A text consists of some statements, which are read if there is fuel for every character. -/
def Spells (s : List Char) (statements : List Statement) : Prop :=
  ∀ fuel, s.length < fuel → readStatements fuel s = some statements

theorem spells_nil : Spells [] [] := by
  intro fuel hfuel
  cases fuel with
  | zero => cases hfuel
  | succ fuel => rfl

theorem Spells.newline {statements : List Statement} (h : Spells rest statements) :
    Spells ('\n' :: rest) statements := by
  intro fuel hfuel
  have hread := h fuel (by simp only [List.length_cons] at hfuel; omega)
  cases fuel with
  | zero => cases hfuel
  | succ fuel =>
    rw [readStatements] at hread ⊢
    rwa [skipFiller]

/-- A statement comes before those of the lines after it. -/
theorem Spells.statement {c : Char} {s : List Char} {statement : Statement}
    {statements : List Statement} (h : Spells rest statements) (hc : isBare c = true ∨ c = '[')
    (hread : readStatement (c :: s) = some (statement, '\n' :: rest))
    (hlength : rest.length < s.length) : Spells (c :: s) (statement :: statements) := by
  intro fuel hfuel
  cases fuel with
  | zero => cases hfuel
  | succ fuel =>
    have hne : ∀ d, isBare d = false → d ≠ '[' → c ≠ d := by
      intro d hd hbracket
      rcases hc with hc | rfl
      · exact ne_of_isBare hc hd
      · exact Ne.symm hbracket
    have hfiller : skipFiller false (c :: s) = some (c :: s) := by
      rw [skipFiller] <;> simp (disch := decide) [isLineSpace, hne]
    have hrest := h.newline fuel (by simp only [List.length_cons] at hfuel ⊢; omega)
    rw [readStatements, hfiller]
    dsimp only
    rw [hread]
    dsimp only
    rw [if_pos (by rfl), hrest, Option.map_some]

theorem fieldsText_cons (field : String × Scalar) (fields : List (String × Scalar)) :
    fieldsText (field :: fields) =
      field.1.toList ++ ' ' :: '=' :: ' ' :: (field.2.write ++ '\n' :: fieldsText fields) := by
  simp [fieldsText]

/-- Fields in front of a text are read as their assignments. -/
theorem Spells.fields {fields : List (String × Scalar)} {statements : List Statement}
    (h : Spells rest statements)
    (hfields : ∀ field ∈ fields, IsBareKey field.1 ∧ field.2.IsReadable) :
    Spells (fieldsText fields ++ rest) (fields.map assignment ++ statements) := by
  induction fields with
  | nil => exact h
  | cons field fields ih =>
    obtain ⟨⟨hname, hvalue⟩, hfields⟩ := List.forall_mem_cons.1 hfields
    have hread := readStatement_assignment hname hvalue (fieldsText fields ++ rest)
    obtain ⟨c, tail, hkey, hc⟩ := hname.exists_cons
    rw [fieldsText_cons, List.append_assoc, List.cons_append, List.cons_append, List.cons_append,
      List.append_assoc, List.cons_append]
    rw [hkey, List.cons_append] at hread ⊢
    apply (ih hfields).statement (.inl hc) hread
    simp only [List.length_append, List.length_cons]
    omega

/-- The statements that groups of settings are written as. -/
def sectionStatements (sections : List (String × List (String × Scalar))) : List Statement :=
  sections.flatMap fun (name, fields) => .table [] name :: fields.map assignment

theorem sectionStatements_cons (group : String × List (String × Scalar))
    (sections : List (String × List (String × Scalar))) :
    sectionStatements (group :: sections) =
      .table [] group.1 :: (group.2.map assignment ++ sectionStatements sections) := by
  simp [sectionStatements]

/-- A header in front of a text is read as the beginning of a section. -/
theorem Spells.header {name : String} {statements : List Statement} (h : Spells rest statements)
    (hname : IsBareKey name) :
    Spells ('[' :: (name.toList ++ ']' :: '\n' :: rest)) (.table [] name :: statements) := by
  apply h.statement (.inr rfl) (readStatement_table hname)
  simp only [List.length_append, List.length_cons]
  omega

/-- Sections are read as their headers, each followed by its assignments. -/
theorem spells_sectionsText {sections : List (String × List (String × Scalar))}
    (hsections : ∀ group ∈ sections, IsBareKey group.1 ∧
      ∀ field ∈ group.2, IsBareKey field.1 ∧ field.2.IsReadable) :
    Spells (sectionsText sections) (sectionStatements sections) := by
  induction sections with
  | nil => exact spells_nil
  | cons group sections ih =>
    obtain ⟨⟨hname, hfields⟩, hsections⟩ := List.forall_mem_cons.1 hsections
    have ih := ih hsections
    cases sections with
    | nil =>
      have h := (spells_nil.fields hfields).header hname
      simpa [sectionsText, sectionStatements] using h
    | cons next more =>
      have h := (ih.newline.fields hfields).header hname
      simpa [sectionsText, sectionStatements] using h

end DocSentences.Toml
