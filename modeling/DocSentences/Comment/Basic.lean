import DocSentences.Text.Blank

/-!
# Documentation comments

A documentation comment is a description, made of plain text and inline tags, followed by block
tags. Its text is what a reader sees of the description: snippets as they stand, and of an inline
tag its content without blank characters at the ends.
-/

namespace DocSentences

/-- One element of a description. -/
inductive DocElement
  /-- Plain text. -/
  | snippet (text : String)
  /-- A tag such as `{@code x}`; the content keeps the blank characters after the name. -/
  | inlineTag (name content : String)
  /-- Something that is neither; a description that holds it has no text. -/
  | unrecognized (kind : String)
  deriving DecidableEq, Repr

/-- A tag such as `@since 1.2` after the description. -/
structure BlockTag where
  name : String
  content : String
  deriving DecidableEq, Repr

/-- A documentation comment. -/
structure DocComment where
  description : List DocElement
  blockTags : List BlockTag
  deriving DecidableEq, Repr

namespace DocComment

/-- Whether the description has nothing but blank text. -/
def hasEmptyDescription (comment : DocComment) : Bool :=
  comment.description.all fun
    | .snippet text => Text.isBlankText text.toList
    | .inlineTag _ _ => false
    | .unrecognized _ => false

/-- What a reader sees of one element, or the kind of an element that cannot be read. -/
def elementText : DocElement → Except String (List Char)
  | .snippet text => .ok text.toList
  | .inlineTag _ content => .ok (Text.trim content.toList)
  | .unrecognized kind => .error kind

/-- The text of the elements, or the kind of the first one that cannot be read. -/
def elementsText : List DocElement → Except String (List Char)
  | [] => .ok []
  | element :: rest =>
      match elementText element, elementsText rest with
      | .error kind, _ => .error kind
      | .ok _, .error kind => .error kind
      | .ok text, .ok more => .ok (text ++ more)

/-- The text of the description, or the kind of the first element that cannot be read. -/
def text (comment : DocComment) : Except String (List Char) :=
  elementsText comment.description

end DocComment

end DocSentences
