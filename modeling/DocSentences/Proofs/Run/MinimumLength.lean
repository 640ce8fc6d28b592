import DocSentences.Proofs.Extraction.PlainClass
import DocSentences.Proofs.Run.Shape
import DocSentences.Proofs.Sentence.Undivided
import DocSentences.Proofs.Text.Collapse

/-!
# The least length of rows

The least length of a sentence is required of the sentences that are extracted. What a run writes of
them can be shorter, down to two characters, so that rows have the required length in every run only
if no more than two characters are required.
-/

namespace DocSentences

/-! ## Sentences that are extracted -/

namespace Extraction

variable {settings : Settings} {segmenter : Segmenter}

/-- A sentence that the segmenter finds in some text, trimmed, with the length that is required. -/
def IsExtracted (settings : Settings) (segmenter : Segmenter) (trimmed : List Char) : Prop :=
  settings.minSentenceChars ≤ trimmed.length ∧
    ∃ text, ∃ sentence ∈ segmenter text, trimmed = Text.trim sentence

theorem isExtracted_of_mem_recordsOfText {key : String} {text : List Char} {r : Record}
    (h : r ∈ recordsOfText settings segmenter key text) :
    IsExtracted settings segmenter r.sentence.toList := by
  obtain ⟨trimmed, htrimmed, rfl⟩ := List.mem_map.mp h
  obtain ⟨hmem, hlong⟩ := List.mem_filter.mp htrimmed
  obtain ⟨sentence, hsentence, rfl⟩ := List.mem_map.mp hmem
  rw [String.toList_ofList]
  exact ⟨of_decide_eq_true hlong, text, sentence, hsentence, rfl⟩

theorem isExtracted_of_mem_recordsOfPage {document : Document} {descriptions : List (List Char)}
    {r : Record} (h : r ∈ recordsOfPage settings segmenter document descriptions) :
    IsExtracted settings segmenter r.sentence.toList := by
  unfold recordsOfPage at h
  split at h
  · obtain ⟨⟨text, n⟩, -, hr⟩ := List.mem_flatMap.mp h
    exact isExtracted_of_mem_recordsOfText hr
  · exact isExtracted_of_mem_recordsOfText h

/-- Every record of a file is an extracted sentence. -/
theorem isExtracted_of_mem_recordsOfFile {document : Document} {content : FileContent}
    {records : List Record}
    (hrecords : recordsOfFile settings segmenter document content = .ok records) {r : Record}
    (hr : r ∈ records) : IsExtracted settings segmenter r.sentence.toList := by
  unfold recordsOfFile at hrecords
  split at hrecords
  · cases hrecords
  · split at hrecords
    · cases hrecords
    · unfold recordsOfSource at hrecords
      split at hrecords <;> split at hrecords <;> cases hrecords
      · cases hr
      · exact isExtracted_of_mem_recordsOfText hr
      · exact isExtracted_of_mem_recordsOfPage hr

end Extraction

namespace Run

variable {settings : Extraction.Settings} {segmenter : Segmenter}

/-- What is known of a document is what extracting it gives under some settings, from whatever its
file holds. A segmenter may break down. -/
def Job.IsExtractedBy (settings : Extraction.Settings) (segmenter : Segmenter) (job : Job) : Prop :=
  match job.extracted with
  | .records records => ∃ content,
      Extraction.recordsOfFile settings segmenter job.document content = .ok records
  | .failed failure => ∃ content,
      Extraction.recordsOfFile settings segmenter job.document content = .error failure
  | .broke _ => True

/-- Every row that the sink takes, in any run over documents extracted like that, has the length
that is required of a sentence. -/
def KeepsMinLength (settings : Extraction.Settings) (segmenter : Segmenter) : Prop :=
  ∀ setup sink choices s, (∀ job ∈ setup.jobs, job.IsExtractedBy settings segmenter) →
    (State.initial setup sink).steps setup choices = some s →
      ∀ row ∈ (State.initial setup sink).rowsTaken setup choices,
        settings.minSentenceChars ≤ row.sentence.toList.length

/-- Every record of an extracted document is an extracted sentence. -/
theorem Job.IsExtractedBy.isExtracted {job : Job} (h : job.IsExtractedBy settings segmenter)
    {r : Record} (hr : r ∈ job.records) :
    Extraction.IsExtracted settings segmenter r.sentence.toList := by
  unfold Job.IsExtractedBy at h
  unfold Job.records at hr
  split at hr
  next records hextracted =>
    rw [hextracted] at h
    obtain ⟨content, hrecords⟩ := h
    exact Extraction.isExtracted_of_mem_recordsOfFile hrecords hr
  all_goals cases hr

/-- The length that is required is that of the sentence of which a row is left. -/
theorem exists_record_of_run {setup : Setup} {sink : Sink} {choices : List Choice} {s : State}
    (hjobs : ∀ job ∈ setup.jobs, job.IsExtractedBy settings segmenter)
    (hrun : (State.initial setup sink).steps setup choices = some s) {row : Record}
    (hrow : row ∈ (State.initial setup sink).rowsTaken setup choices) :
    ∃ r, Extraction.IsExtracted settings segmenter r.sentence.toList ∧ LeavesRow r row := by
  obtain ⟨a, rfl, hreached⟩ := exists_reached hrun
  rw [← hreached.rows_eq] at hrow
  obtain ⟨job, hjob, r, hr, hleaves⟩ := hreached.exists_record hrow
  have hmem : job ∈ setup.jobs := hreached.ledger.corpus ▸ List.mem_append_left _ hjob
  exact ⟨r, (hjobs job hmem).isExtracted hr, hleaves⟩

/-- A bound of two characters or less is kept by the bound on what is written. -/
theorem keepsMinLength_of_le_two (h : settings.minSentenceChars ≤ 2) (segmenter : Segmenter) :
    KeepsMinLength settings segmenter := by
  intro setup sink choices s hjobs hrun row hrow
  obtain ⟨r, -, hleaves⟩ := exists_record_of_run hjobs hrun hrow
  exact h.trans hleaves.written.two_le

/-- Any length is kept by sentences of nothing but letters, digits and plain spaces. -/
theorem keepsMinLength_of_isKept
    (h : ∀ text, ∀ sentence ∈ segmenter text, ∀ c ∈ sentence, Sentence.isKept c = true) :
    KeepsMinLength settings segmenter := by
  intro setup sink choices s hjobs hrun row hrow
  obtain ⟨r, ⟨hlong, text, sentence, hsentence, htrimmed⟩, hleaves⟩ :=
    exists_record_of_run hjobs hrun hrow
  have hkept : Sentence.sanitize (Text.trim sentence) = Text.trim sentence :=
    List.filter_eq_self.mpr fun c hc => h text sentence hsentence c
      ((Text.isInfix_trim sentence).subset hc)
  have hwhole : row.sentence.toList = r.sentence.toList := by
    rw [hleaves.sentence, htrimmed, hkept, Text.trim_trim]
  rwa [hwhole]

/-! ## A sentence that gets shorter -/

/-- Two letters, followed by marks up to a length. -/
def markedWord (n : Nat) : List Char := 'a' :: 'b' :: List.replicate (n - 2) '-'

theorem length_markedWord {n : Nat} (h : 2 ≤ n) : (markedWord n).length = n := by
  simp only [markedWord, List.length_cons, List.length_replicate]
  omega

theorem mem_markedWord {n : Nat} {c : Char} (h : c ∈ markedWord n) :
    c = 'a' ∨ c = 'b' ∨ c = '-' := by
  rcases List.mem_cons.mp h with rfl | h
  · exact .inl rfl
  · rcases List.mem_cons.mp h with rfl | h
    · exact .inr (.inl rfl)
    · exact .inr (.inr (List.eq_of_mem_replicate h))

theorem forall_mem_markedWord {property : Char → Prop} (ha : property 'a') (hb : property 'b')
    (hmark : property '-') (n : Nat) : ∀ c ∈ markedWord n, property c := by
  intro c hc
  rcases mem_markedWord hc with rfl | rfl | rfl
  · exact ha
  · exact hb
  · exact hmark

/-- Of a marked word two letters are left. -/
theorem sanitize_markedWord (n : Nat) : Sentence.sanitize (markedWord n) = ['a', 'b'] := by
  have hletters : Sentence.isKept 'a' = true ∧ Sentence.isKept 'b' = true := by decide +kernel
  have hmark : Sentence.isKept '-' = false := by decide +kernel
  simp [Sentence.sanitize, markedWord, hletters, hmark]

theorem isSpaced_markedWord (n : Nat) : Text.IsSpaced (markedWord n) :=
  .of_not_isBlank (forall_mem_markedWord (by decide) (by decide) (by decide) n)

theorem trim_markedWord (n : Nat) : Text.trim (markedWord n) = markedWord n :=
  Text.trim_eq_self (isSpaced_markedWord n).first (isSpaced_markedWord n).last

theorem split_markedWord (n : Nat) : Sentence.split (markedWord n) = [markedWord n] :=
  Sentence.split_eq_singleton (List.cons_ne_nil 'a' _)
    (forall_mem_markedWord (by decide) (by decide) (by decide) n)

theorem isProse_markedWord (n : Nat) : DocComment.IsProse (markedWord n) where
  noBreak h := absurd (mem_markedWord h) (by decide)
  noInlineTag h := absurd (mem_markedWord (h.subset List.mem_cons_self)) (by decide)
  noBlockTag := nofun
  noEnd h := absurd (mem_markedWord (h.subset List.mem_cons_self)) (by decide)

theorem not_mem_markedWord (n : Nat) : '<' ∉ markedWord n ∧ '&' ∉ markedWord n :=
  ⟨fun h => absurd (mem_markedWord h) (by decide), fun h => absurd (mem_markedWord h) (by decide)⟩

/-- A class with such a word as its comment. -/
def markedClass (n : Nat) : Extraction.PlainClass where
  lines := [markedWord n]
  hlines := List.forall_mem_singleton.mpr (isProse_markedWord n)
  hmarkup := List.forall_mem_singleton.mpr (not_mem_markedWord n)
  modifiers := []
  hmodifiers := nofun
  hapart := trivial
  name := ⟨"Marked".toList, by decide⟩
  body := []
  hbody := .nil
  hend := trivial

def markedSource : Document := ⟨.ofString "Marked.java", .structured, "Marked"⟩

def markedRecord (n : Nat) : Record := ⟨"Marked", String.ofList (markedWord n)⟩

/-- What is left of this record, whatever its length. -/
def unmarkedRow : Record := ⟨"Marked", "ab"⟩

/-- A class with a marked word in its comment is described by that word. -/
theorem sourceDescription_markedClass (style : Markup.PlainStyle) (n : Nat) :
    Extraction.sourceDescription style markedSource.stem (markedClass n).text =
      .ok (some (markedWord n)) := by
  have hstem : markedSource.stem = "Marked" := by decide +kernel
  have hfound : ([(markedClass n).source.declaration].find? (·.name = "Marked")).bind
      (·.comment) = some (String.ofList (DocComment.starred [markedWord n])) := by
    rw [(markedClass n).declaration_source]
    rfl
  have hplain : Extraction.commentDescription style
      (some (String.ofList (DocComment.starred [markedWord n]))) =
        .ok (some (Text.collapse (markedWord n))) :=
    (markedClass n).commentDescription_starred style
  rw [Extraction.sourceDescription_of_topLevel (markedClass n).topLevel_text, hstem, hfound, hplain,
    Text.collapse_of_isSpaced (isSpaced_markedWord n)]

/-- The segmenter of the settings keeps a marked word of the least length whole. -/
theorem segmenter_markedWord (h : 2 ≤ settings.minSentenceChars) :
    settings.segmenter (markedWord settings.minSentenceChars) =
      [markedWord settings.minSentenceChars] := by
  have hnonempty : (markedWord settings.minSentenceChars).isEmpty = false := rfl
  rw [Extraction.Settings.segmenter, Segmenter.unicode, split_markedWord]
  simp [trim_markedWord, hnonempty, length_markedWord h]

/-- A file with a marked word of the least length has one record. -/
theorem recordsOfFile_markedClass (h : 2 ≤ settings.minSentenceChars) :
    Extraction.recordsOfFile settings settings.segmenter markedSource
        (.ok (Utf8.encode (markedClass settings.minSentenceChars).text)) =
      .ok [markedRecord settings.minSentenceChars] := by
  have hformat : markedSource.format = .structured := rfl
  have hrecords : Extraction.recordsOfText settings settings.segmenter markedSource.key
      (markedWord settings.minSentenceChars) = [markedRecord settings.minSentenceChars] := by
    simp [Extraction.recordsOfText, segmenter_markedWord h, trim_markedWord, length_markedWord h,
      markedRecord, markedSource]
  rw [Extraction.recordsOfFile]
  simp only [Utf8.decode?_encode, Extraction.recordsOfSource, hformat,
    sourceDescription_markedClass, hrecords]

/-! ## Runs that write less -/

/-- A run over the file of such a class. -/
def markedFile (n : Nat) : Setup where
  settings := { workerCount := 1 }
  jobs := [⟨markedSource, .records [markedRecord n]⟩]
  skipped := 0
  writer := .willing

/-- Of the record of a marked word a row with two letters is left. -/
theorem rowOf?_markedRecord (n : Nat) : rowOf? (markedRecord n) = some unmarkedRow := by
  have hemitted : Sentence.emitted? (markedWord n) = some ['a', 'b'] := by
    rw [Sentence.emitted?, sanitize_markedWord]
    decide +kernel
  rw [rowOf?_eq, markedRecord, String.toList_ofList, hemitted]
  rfl

/-- A run over the file takes the row with two letters. -/
theorem rowsTaken_markedFile (n : Nat) {sink : Sink}
    (hdone : (sink.append .willing unmarkedRow).2 = .done) :
    ∃ s, (State.initial (markedFile n) sink).steps (markedFile n)
        [.controller 0, .worker 0, .worker 0] = some s ∧
      (State.initial (markedFile n) sink).rowsTaken (markedFile n)
        [.controller 0, .worker 0, .worker 0] = [unmarkedRow] := by
  let task : Task := ⟨⟨markedSource, .records [markedRecord n]⟩, .writing [markedRecord n]⟩
  let writing : State :=
    { State.initial (markedFile n) sink with waiting := [], tasks := [task] }
  have hwriting : (State.initial (markedFile n) sink).steps (markedFile n)
      [.controller 0, .worker 0] = some writing := rfl
  have htaken : writing.taken? (markedFile n) (.worker 0) = some unmarkedRow := by
    have htask : writing.tasks[0]? = some task := rfl
    have hsink : writing.sink = sink := rfl
    have hwriter : (markedFile n).writer = .willing := rfl
    simp only [State.taken?, htask, hsink, Option.bind_some, Task.taken?, task, hwriter,
      rowOf?_markedRecord, Option.filter_some, hdone, decide_true, if_true]
  have hstep : (writing.step (markedFile n) (.worker 0)).isSome = true := rfl
  obtain ⟨s, hs⟩ := Option.isSome_iff_exists.mp hstep
  refine ⟨s, ?_, ?_⟩
  · have hsteps := State.steps_concat (markedFile n) (State.initial (markedFile n) sink)
      [.controller 0, .worker 0] (.worker 0)
    rwa [hwriting, Option.bind_some, hs] at hsteps
  · have hrows := State.rowsTaken_concat hwriting hstep
    rw [htaken] at hrows
    exact hrows

theorem isExtractedBy_markedFile (h : 2 ≤ settings.minSentenceChars) :
    ∀ job ∈ (markedFile settings.minSentenceChars).jobs,
      job.IsExtractedBy settings settings.segmenter :=
  List.forall_mem_singleton.mpr ⟨_, recordsOfFile_markedClass h⟩

/-- A bound above two characters is broken by the file with the marked word. -/
theorem le_two_of_keepsMinLength (h : KeepsMinLength settings settings.segmenter) :
    settings.minSentenceChars ≤ 2 := by
  by_contra hlong
  have htwo : 2 ≤ settings.minSentenceChars := by omega
  have hdone : ((Sink.create .willing).append .willing unmarkedRow).2 = .done := by
    decide +kernel
  obtain ⟨s, hrun, hrows⟩ := rowsTaken_markedFile settings.minSentenceChars hdone
  have hkept := h _ _ _ s (isExtractedBy_markedFile htwo) hrun unmarkedRow
    (hrows ▸ List.mem_singleton_self _)
  exact hlong hkept

/-- The length that is required of a sentence is kept by the rows of every run, whatever the
segmenter, exactly if it is at most two. The segmenter that goes with the settings, which requires
the same length itself, makes no difference. -/
theorem keepsMinLength_iff (settings : Extraction.Settings) :
    ((∀ segmenter, KeepsMinLength settings segmenter) ↔ settings.minSentenceChars ≤ 2) ∧
      (KeepsMinLength settings settings.segmenter ↔ settings.minSentenceChars ≤ 2) := by
  refine ⟨⟨fun h => le_two_of_keepsMinLength (h _), keepsMinLength_of_le_two⟩, ?_⟩
  exact ⟨le_two_of_keepsMinLength, fun h => keepsMinLength_of_le_two h _⟩

/-- Settings that require ten characters. -/
def longSentences : Extraction.Settings := { minSentenceChars := 10 }

theorem not_forall_keepsMinLength :
    ¬ ∀ settings : Extraction.Settings, settings.fault? = none →
      ∀ segmenter, KeepsMinLength settings segmenter := by
  intro h
  have hvalid : longSentences.fault? = none := by decide +kernel
  have hshort : longSentences.minSentenceChars ≤ 2 := le_two_of_keepsMinLength (h _ hvalid _)
  exact absurd hshort (by decide)

end Run

end DocSentences
