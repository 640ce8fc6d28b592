import DocSentences.Extraction.Records
import DocSentences.Proofs.Comment.Spellings
import DocSentences.Proofs.Declaration.LineEnds
import DocSentences.Proofs.Extraction.Description
import Mathlib

/-!
# Line ends and records

The carriage returns of source text are in the comments of its declarations too, but a comment is
read line by line, so none of them gets into a record. Nor do they move the line at which source
text breaks off.
-/

namespace DocSentences.Extraction

open Declaration Text

/-- The description of a comment is the same with either line end. -/
theorem commentDescription_withReturns (style : Markup.PlainStyle) (comment : Option String) :
    commentDescription style (comment.map bodyWithReturns) = commentDescription style comment := by
  cases comment with
  | none => rfl
  | some body =>
      have hread : DocComment.read (bodyWithReturns body).toList = DocComment.read body.toList := by
        unfold bodyWithReturns
        split
        · rfl
        · next hreturn => rw [String.toList_ofList, DocComment.read_withReturns hreturn]
      rw [Option.map_some, commentDescription, commentDescription, hread]

/-- The declaration with a given name does not depend on the comments. -/
theorem find?_mapComment (f : String → String) (declarations : List Declaration) (name : String) :
    ((declarations.map (mapComment f)).find? (·.name = name)).bind (·.comment) =
      ((declarations.find? (·.name = name)).bind (·.comment)).map f := by
  have hname : ((fun declaration : Declaration => decide (declaration.name = name)) ∘
      mapComment f) = fun declaration => decide (declaration.name = name) := rfl
  rw [List.find?_map, hname]
  cases declarations.find? (·.name = name) <;> rfl

section Source

variable {source : List Char} (hreturn : '\r' ∉ source) (hescape : NoEscapedNewline source)

include hreturn hescape

/-- The description of a source is the same with either line end, and so is its error. -/
theorem sourceDescription_withReturns (style : Markup.PlainStyle) (name : String) :
    sourceDescription style name (withReturns source) = sourceDescription style name source := by
  have hsame := topLevel_withReturns hreturn hescape
  cases htop : topLevel source with
  | error error =>
      rw [htop] at hsame
      rw [sourceDescription_of_error hsame, sourceDescription_of_error htop]
  | ok declarations =>
      rw [htop] at hsame
      rw [sourceDescription_of_topLevel hsame, sourceDescription_of_topLevel htop,
        find?_mapComment, commentDescription_withReturns]

/-- A source file gives the same records, or fails at the same line, with a carriage return before
each of its line feeds. -/
theorem recordsOfSource_withReturns (settings : Settings) (segmenter : Segmenter)
    (document : Document) (hformat : document.format = .structured) :
    recordsOfSource settings segmenter document (withReturns source) =
      recordsOfSource settings segmenter document source := by
  rw [recordsOfSource, recordsOfSource, hformat]
  dsimp only
  rw [sourceDescription_withReturns hreturn hescape]

end Source

def gadgetDocument : Document := ⟨.ofString "Gadget.java", .structured, "Gadget"⟩

/-- A class whose comment has blank lines, an inline tag over two lines and a block tag. -/
def gadgetSource : List Char :=
  "/**\n * Has \x7b@code\n * parts\x7d. Use it.\n *\n * @since 1\n */\n".toList ++
    "class Gadget \x7b\x7d\n".toList

/-- A class that is broken off by the end of its third line. -/
def brokenSource : List Char :=
  "/** Has no end. */\nclass Gadget \x7b\n  char end = 'x;\n\x7d\n".toList

theorem gadgetSource_records :
    gadgetDocument.format = .structured ∧
      ('\r' ∉ gadgetSource ∧ NoEscapedNewline gadgetSource ∧
        recordsOfSource {} (Segmenter.between '.') gadgetDocument (withReturns gadgetSource) =
          .ok [⟨"Gadget", "Has parts"⟩, ⟨"Gadget", "Use it"⟩]) ∧
      '\r' ∉ brokenSource ∧ NoEscapedNewline brokenSource ∧
        recordsOfSource {} (Segmenter.between '.') gadgetDocument (withReturns brokenSource) =
          .error (.malformed "unterminated character literal (line 4)") := by
  have hreturn : '\r' ∉ gadgetSource ∧ '\r' ∉ brokenSource := by decide +kernel
  have hescape : NoEscapedNewline gadgetSource ∧ NoEscapedNewline brokenSource := by decide +kernel
  refine ⟨rfl, ⟨hreturn.1, hescape.1, ?_⟩, hreturn.2, hescape.2, ?_⟩
  · rw [recordsOfSource_withReturns hreturn.1 hescape.1 _ _ _ rfl]
    cbv
  · have hcut : topLevel brokenSource = .error (.unterminated .characterLiteral 4) := by cbv
    rw [recordsOfSource_withReturns hreturn.2 hescape.2 _ _ _ rfl]
    simp only [recordsOfSource, gadgetDocument, sourceDescription_of_error hcut]
    rfl

end DocSentences.Extraction
