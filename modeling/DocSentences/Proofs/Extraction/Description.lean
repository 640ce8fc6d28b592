import DocSentences.Extraction.Description
import DocSentences.Proofs.Comment.Prose

/-!
# Descriptions of source text

The description in a source text follows from its declarations and from one comment, and a comment
that is there always has a plain text.
-/

namespace DocSentences.Extraction

/-- The plain text of the comment with the given body, read from front to back. -/
def commentDescription (style : Markup.PlainStyle) :
    Option String → Except Failure (Option (List Char))
  | none => .ok none
  | some body =>
      match (DocComment.read body.toList).text with
      | .error kind => .error (.unknownElement kind)
      | .ok text => .ok (some (Markup.normalize style text))

/-- The comment of the first declaration with the given name decides the description. -/
theorem sourceDescription_of_topLevel {source : List Char} {declarations : List Declaration}
    (h : Declaration.topLevel source = .ok declarations) (style : Markup.PlainStyle)
    (name : String) :
    sourceDescription style name source =
      commentDescription style ((declarations.find? (·.name = name)).bind (·.comment)) := by
  have hprimary : Declaration.primary? source name =
      .ok (declarations.find? (·.name = name)) := by
    rw [Declaration.primary?, h]
    rfl
  rw [sourceDescription, hprimary]
  cases declarations.find? (·.name = name) with
  | none => rfl
  | some declaration =>
      dsimp only [Option.bind_some]
      cases declaration.comment with
      | none => rfl
      | some body => rfl

/-- A source that cannot be read is malformed, with the message of its error. -/
theorem sourceDescription_of_error {source : List Char} {error : Declaration.SourceError}
    (h : Declaration.topLevel source = .error error) (style : Markup.PlainStyle) (name : String) :
    sourceDescription style name source = .error (.malformed error.message) := by
  have hprimary : Declaration.primary? source name = .error error := by
    rw [Declaration.primary?, h]
    rfl
  rw [sourceDescription, hprimary]

/-- Every comment that is there has a plain text. -/
theorem exists_commentDescription (style : Markup.PlainStyle) (comment : Option String) :
    ∃ description, commentDescription style comment = .ok description := by
  cases comment with
  | none => exact ⟨none, rfl⟩
  | some body =>
      obtain ⟨text, htext⟩ := DocComment.exists_text_read body.toList
      exact ⟨some (Markup.normalize style text), by rw [commentDescription, htext]⟩

end DocSentences.Extraction
