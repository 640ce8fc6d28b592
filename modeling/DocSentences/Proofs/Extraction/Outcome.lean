import DocSentences.Extraction.Records
import DocSentences.Proofs.Comment.Offsets
import DocSentences.Proofs.Declaration.Layout
import DocSentences.Proofs.Declaration.Scanner
import DocSentences.Proofs.Extraction.Description
import DocSentences.Proofs.Markup.Truncation
import DocSentences.Proofs.Text.Utf8

/-!
# Outcomes of an extraction

An extraction that takes every part of its texts by position never goes wrong, whatever the file
holds, and gives what reading from front to back gives: records, or a failure that concerns the one
document.
-/

namespace DocSentences.Extraction

/-! ## Extraction by position -/

/-- A part of an extraction that may fail, or reach for something that is not there. -/
abbrev Checked := ExceptT Failure Option

/-- The plain text of the comment with the given body, if there is a comment. -/
def commentDescription? (style : Markup.PlainStyle) :
    Option String → Checked (Option (List Char))
  | none => return none
  | some body => do
      let comment ← DocComment.read? body.toList
      let text ← ofExcept (comment.text.mapError .unknownElement)
      let plain ← Markup.normalize? style text
      return some plain

/-- The description of the type with the given name in a source text. -/
def sourceDescription? (style : Markup.PlainStyle) (name : String) (source : List Char) :
    Checked (Option (List Char)) := do
  let declarations ← (Declaration.topLevel? source).adapt fun error => .malformed error.message
  commentDescription? style ((declarations.find? (·.name = name)).bind (·.comment))

/-- The descriptions in a page: the text of each selected element that has any. -/
def elementTexts? (style : Markup.PlainStyle) (selector : Selector) (page : List Char) :
    Option (List (List Char)) := do
  let tree := Markup.parseDocument page
  let texts ← (Selector.select tree selector).mapM fun id => (tree.nodeAt id).plainText? style
  return texts.filter (!·.isEmpty)

/-- The records of a document with the given text. -/
def recordsOfSource? (settings : Settings) (segmenter : Segmenter) (document : Document)
    (text : List Char) : Checked (List Record) :=
  match document.format with
  | .structured => do
      match ← sourceDescription? settings.style document.stem text with
      | none => return []
      | some description => return recordsOfText settings segmenter document.key description
  | .markup =>
      match Selector.read settings.descriptionSelector.toList with
      | .ok selector => do
          let descriptions ← elementTexts? settings.style selector text
          return recordsOfPage settings segmenter document descriptions
      | .error cause => throw <| .badSettings
          s!"invalid selector '{settings.descriptionSelector}': {cause.message}"

/-- The records of a document whose file has the given content. -/
def recordsOfFile? (settings : Settings) (segmenter : Segmenter) (document : Document)
    (content : FileContent) : Checked (List Record) :=
  match content with
  | .error reason => throw (.unreadable document.path reason)
  | .ok bytes =>
      match Utf8.decode? bytes with
      | none => throw (.notText document.path)
      | some text => recordsOfSource? settings segmenter document text

/-! ### Agreement -/

theorem liftM_some_bind {α β : Type} (a : α) (f : α → Checked β) :
    ((liftM (some a) : Checked α) >>= f) = f a :=
  rfl

theorem commentDescription?_eq (style : Markup.PlainStyle) (comment : Option String) :
    commentDescription? style comment =
      ExceptT.mk (some (commentDescription style comment)) := by
  cases comment with
  | none => rfl
  | some body =>
      rw [commentDescription?, commentDescription, DocComment.read?_eq, liftM_some_bind]
      cases (DocComment.read body.toList).text with
      | error kind => rfl
      | ok text =>
          simp only [Markup.normalize?_eq]
          rfl

/-- Describing a source by position never misses. -/
theorem sourceDescription?_eq (style : Markup.PlainStyle) (name : String) (source : List Char) :
    sourceDescription? style name source =
      ExceptT.mk (some (sourceDescription style name source)) := by
  rw [sourceDescription?, Declaration.topLevel?_eq]
  cases htop : Declaration.topLevel source with
  | error error => rw [sourceDescription_of_error htop]; rfl
  | ok declarations =>
      rw [sourceDescription_of_topLevel htop]
      exact commentDescription?_eq style _

theorem elementTexts?_eq (style : Markup.PlainStyle) (selector : Selector) (page : List Char) :
    elementTexts? style selector page = some (pageDescriptions style selector page) := by
  have htexts : (fun id => ((Markup.parseDocument page).nodeAt id).plainText? style) = fun id =>
      pure (((Markup.parseDocument page).nodeAt id).plainText style) :=
    funext fun _ => Markup.Node.plainText?_eq style _
  rw [elementTexts?, htexts, List.mapM_pure]
  rfl

/-- Extracting by position from a text never misses. -/
theorem recordsOfSource?_eq (settings : Settings) (segmenter : Segmenter) (document : Document)
    (text : List Char) :
    recordsOfSource? settings segmenter document text =
      ExceptT.mk (some (recordsOfSource settings segmenter document text)) := by
  unfold recordsOfSource? recordsOfSource
  cases document.format with
  | structured =>
      dsimp only
      rw [sourceDescription?_eq]
      cases sourceDescription settings.style document.stem text with
      | error failure => rfl
      | ok found => cases found <;> rfl
  | markup =>
      dsimp only [pageDescriptions?]
      cases Selector.read settings.descriptionSelector.toList with
      | error cause => rfl
      | ok selector =>
          dsimp only
          rw [elementTexts?_eq]
          rfl

/-- Nothing that an extraction reaches for is missing. -/
theorem recordsOfFile?_eq (settings : Settings) (segmenter : Segmenter) (document : Document)
    (content : FileContent) :
    recordsOfFile? settings segmenter document content =
      ExceptT.mk (some (recordsOfFile settings segmenter document content)) := by
  cases content with
  | error reason => rfl
  | ok bytes =>
      cases hdecode : Utf8.decode? bytes with
      | none => simp only [recordsOfFile?, recordsOfFile, hdecode]; rfl
      | some text =>
          simp only [recordsOfFile?, recordsOfFile, hdecode, recordsOfSource?_eq]

/-! ## Failures -/

/-- Whether a failure says something about the file of a document, and not about the settings or the
extraction. Only source text can be malformed. -/
def Failure.IsAbout (document : Document) : Failure → Prop
  | .unreadable path _ | .notText path => path = document.path
  | .malformed _ => document.format = .structured
  | .unknownElement _ | .badSettings _ => False

/-- A failure that is about a document does not end the run. -/
theorem Failure.IsAbout.isFatal_eq_false {failure : Failure} {document : Document}
    (h : failure.IsAbout document) : failure.isFatal = false := by
  cases failure with
  | unknownElement => cases h
  | _ => rfl

/-- The selector of settings that are not refused can be read. -/
theorem exists_selector_of_fault? {settings : Settings} (h : settings.fault? = none) :
    ∃ selector, Selector.read settings.descriptionSelector.toList = .ok selector := by
  unfold Settings.fault? at h
  repeat' split at h
  all_goals first | contradiction | exact ⟨_, ‹_›⟩

theorem isAbout_of_recordsOfSource {settings : Settings} (h : settings.fault? = none)
    {segmenter : Segmenter} {document : Document} {text : List Char} {failure : Failure}
    (hfails : recordsOfSource settings segmenter document text = .error failure) :
    failure.IsAbout document := by
  unfold recordsOfSource at hfails
  cases hformat : document.format with
  | structured =>
      cases htop : Declaration.topLevel text with
      | error error =>
          rw [hformat, sourceDescription_of_error htop] at hfails
          cases hfails
          exact hformat
      | ok declarations =>
          obtain ⟨description, hread⟩ := exists_commentDescription settings.style
            ((declarations.find? (·.name = document.stem)).bind (·.comment))
          rw [hformat, sourceDescription_of_topLevel htop, hread] at hfails
          cases description <;> cases hfails
  | markup =>
      obtain ⟨selector, hselector⟩ := exists_selector_of_fault? h
      rw [hformat, pageDescriptions?, hselector] at hfails
      cases hfails

/-- Under valid settings, extraction from a file fails only for what is in the file, or not in it.
-/
theorem isAbout_of_recordsOfFile {settings : Settings} (h : settings.fault? = none)
    {segmenter : Segmenter} {document : Document} {content : FileContent} {failure : Failure}
    (hfails : recordsOfFile settings segmenter document content = .error failure) :
    failure.IsAbout document := by
  unfold recordsOfFile at hfails
  split at hfails
  · cases hfails
    rfl
  · split at hfails
    · cases hfails
      rfl
    · exact isAbout_of_recordsOfSource h hfails

/-- An extraction under settings that are not refused comes to its end, whatever the file holds. If
it fails, that says something about the one document, and does not stop a run. -/
theorem recordsOfFile_outcome (settings : Settings) (h : settings.fault? = none)
    (segmenter : Segmenter) (document : Document) (content : FileContent) :
    ∃ outcome : Except Failure (List Record),
      recordsOfFile? settings segmenter document content = ExceptT.mk (some outcome) ∧
        recordsOfFile settings segmenter document content = outcome ∧
          ∀ failure, outcome = .error failure →
            failure.IsAbout document ∧ failure.isFatal = false := by
  refine ⟨_, recordsOfFile?_eq settings segmenter document content, rfl, fun failure hfails => ?_⟩
  have habout := isAbout_of_recordsOfFile h hfails
  exact ⟨habout, habout.isFatal_eq_false⟩

/-- A source file that ends inside of a class. -/
def unclosedDocument : Document := ⟨.ofString "A.java", .structured, "A"⟩

def unclosedLexemes : List Declaration.Lexeme :=
  [.word (Declaration.keyword .classType), Declaration.space,
    .word ⟨"A".toList, by decide⟩, Declaration.space, Declaration.openingBrace]

open Declaration in

theorem unclosedDocument_outcome :
    ({} : Settings).fault? = none ∧
      recordsOfFile? {} (Segmenter.between '.') unclosedDocument
          (.ok (Utf8.encode "class A \x7b".toList)) =
        ExceptT.mk (some (.error (.malformed "unexpected end of file inside a block"))) ∧
      Failure.IsAbout unclosedDocument (.malformed "unexpected end of file inside a block") := by
  have hvalid : ({} : Settings).fault? = none := by decide +kernel
  obtain ⟨outcome, hposition, hread, habout⟩ := recordsOfFile_outcome {} hvalid
    (Segmenter.between '.') unclosedDocument (.ok (Utf8.encode "class A \x7b".toList))
  have hrun : Outline.start.run (tokensOf unclosedLexemes) =
      .ok ⟨.braces 0, none, none, false, [⟨.classType, "A", none⟩]⟩ := rfl
  have htop : topLevel "class A \x7b".toList = .error .unclosedBlock :=
    topLevel_textOf (by decide) hrun
  have hfails : outcome = .error (.malformed "unexpected end of file inside a block") := by
    rw [← hread, recordsOfFile]
    simp only [Utf8.decode?_encode, recordsOfSource, unclosedDocument,
      sourceDescription_of_error htop]
    rfl
  exact ⟨hvalid, hfails ▸ hposition, (habout _ hfails).1⟩

end DocSentences.Extraction
