/-!
# Markup tokens

What the characters of a page say before any structure is given to them: tags with their attributes,
comments, a document type, and characters. A start tag holds each attribute name once.
-/

namespace DocSentences.Markup

/-- The namespace of an element name. -/
inductive Space
  | html
  | svg
  | math
  deriving DecidableEq, Repr, Inhabited

/-- The namespace of an attribute name. -/
inductive AttributeSpace
  | none
  | xlink
  | xml
  | xmlns
  deriving DecidableEq, Repr, Inhabited

/-- An attribute with its value. -/
structure Attribute where
  space : AttributeSpace
  name : String
  value : String
  deriving DecidableEq, Repr, Inhabited

/-- A tag, with its name in lower case. -/
structure Tag where
  name : String
  attributes : List Attribute
  selfClosing : Bool
  deriving DecidableEq, Repr, Inhabited

/-- A document type declaration. -/
structure Doctype where
  name : Option String
  publicId : Option String
  systemId : Option String
  /-- The declaration is broken. -/
  isMalformed : Bool
  deriving DecidableEq, Repr, Inhabited

/-- A token of markup. The null character is a token like any other character. -/
inductive Token
  | doctype (doctype : Doctype)
  | startTag (tag : Tag)
  | endTag (tag : Tag)
  | comment (text : String)
  | character (c : Char)
  | endOfFile
  deriving DecidableEq, Repr, Inhabited

/-- The blank characters of markup. -/
def isSpace (c : Char) : Bool :=
  c = ' ' || c = '\t' || c = '\n' || c = '\r' || c = '\x0c'

/-- The kinds of text in which tags have no meaning. -/
inductive RawText
  /-- Text with character references. -/
  | escapable
  | plain
  | script
  /-- Everything up to the end. -/
  | unending
  deriving DecidableEq, Repr, Inhabited

end DocSentences.Markup
