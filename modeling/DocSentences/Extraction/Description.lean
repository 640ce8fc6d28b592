import DocSentences.Comment.Reading
import DocSentences.Declaration.TopLevel
import DocSentences.Extraction.Failure
import DocSentences.Extraction.Settings
import DocSentences.Selector.Matching

/-!
# Descriptions

The description of a type as plain text. A source file holds it in the comment before the type that
has the file's name; a page holds it in the elements that a selector finds, so that it may come in
several pieces.
-/

namespace DocSentences.Extraction

/-- The description of the type with the given name in a source text; `none` if there is no such
type or it has no comment. -/
def sourceDescription (style : Markup.PlainStyle) (name : String) (source : List Char) :
    Except Failure (Option (List Char)) :=
  match Declaration.primary? source name with
  | .error error => .error (.malformed error.message)
  | .ok none => .ok none
  | .ok (some declaration) =>
      match declaration.comment with
      | none => .ok none
      | some body =>
          match (DocComment.read body.toList).text with
          | .error kind => .error (.unknownElement kind)
          | .ok text => .ok (some (Markup.normalize style text))

/-- The descriptions in a page: the text of each selected element that has any. -/
def pageDescriptions (style : Markup.PlainStyle) (selector : Selector) (page : List Char) :
    List (List Char) :=
  let tree := Markup.parseDocument page
  ((Selector.select tree selector).map fun id => (tree.nodeAt id).plainText style).filter
    (!·.isEmpty)

/-- The descriptions in a page, for a selector that is still to be read. -/
def pageDescriptions? (style : Markup.PlainStyle) (selector : String) (page : List Char) :
    Except Failure (List (List Char)) :=
  match Selector.read selector.toList with
  | .ok read => .ok (pageDescriptions style read page)
  | .error cause => .error (.badSettings s!"invalid selector '{selector}': {cause.message}")

end DocSentences.Extraction
