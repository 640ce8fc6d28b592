import DocSentences.Markup.Reader
import DocSentences.Text.Blank

/-!
# Plain text of markup

The text of a node as a sentence reader wants it: code blocks become a placeholder, paragraphs end a
sentence, block elements part words, and what would be read as markup again is left out. The result
has single spaces between its words, so writing it out again changes nothing.
-/

namespace DocSentences.Markup

/-- How markup is turned into plain text. -/
structure PlainStyle where
  /-- What stands for a code block. -/
  placeholder : List Char
  /-- Whether a paragraph ends a sentence. -/
  paragraphBreaks : Bool
  deriving DecidableEq, Repr

/-- Elements whose borders part words. -/
def partingNames : List String :=
  ["address", "blockquote", "dd", "div", "dl", "dt", "h1", "h2", "h3", "h4", "h5", "h6", "hr", "li",
    "ol", "section", "table", "td", "th", "tr", "ul"]

/-- Elements whose text is not for reading. -/
def skippedNames : List String := ["script", "style", "template"]

/-- Whether a character would be read as markup. -/
def isMarkupChar (c : Char) : Bool := c = '<' || c = '&'

/-- A character of text; one that would be read as markup becomes a space. -/
def plainChar (c : Char) : Char := if isMarkupChar c then ' ' else c

/-- Whether a character ends a sentence. -/
def isTerminator (c : Char) : Bool := ['.', '!', '?', ':', ';'].contains c

/-- Ends the sentence in a text that has its latest character first, unless there is none or it has
an end. -/
def closeSentence (out : List Char) : List Char :=
  match out.dropWhile Text.isBlank with
  | [] => out
  | last :: before =>
      if isTerminator last then ' ' :: last :: before else ' ' :: '.' :: last :: before

mutual

/-- Adds the text of a node to a text that has its latest character first. -/
def render (style : PlainStyle) (out : List Char) : Node → List Char
  | .text content => (content.map plainChar).reverse ++ out
  | .silent => out
  | .element name children =>
      if name = "pre" then ' ' :: style.placeholder.reverse ++ ' ' :: out
      else if name = "p" && style.paragraphBreaks then
        closeSentence (renderAll style (closeSentence out) children)
      else if name = "br" then ' ' :: out
      else if skippedNames.contains name then out
      else if name = "p" || partingNames.contains name then
        ' ' :: renderAll style (' ' :: out) children
      else renderAll style out children

/-- Adds the text of some nodes to a text that has its latest character first. -/
def renderAll (style : PlainStyle) (out : List Char) : List Node → List Char
  | [] => out
  | node :: rest => renderAll style (render style out node) rest

end

/-- The nodes inside a node. -/
def Node.children : Node → List Node
  | .element _ children => children
  | _ => []

/-- The plain text inside a node. -/
def Node.plainText (style : PlainStyle) (node : Node) : List Char :=
  Text.collapse (renderAll style [] node.children).reverse

/-- The outermost element of a tree. -/
def Tree.rootElement? (t : Tree) : Option NodeId :=
  (t.children Tree.root).find? fun id => (t.element? id).isSome

/-- The plain text of a fragment of markup. Text without any markup needs no reading. -/
def normalize (style : PlainStyle) (s : List Char) : List Char :=
  if s.any isMarkupChar then
    let tree := parseFragment s
    match tree.rootElement? with
    | some id => (tree.nodeAt id).plainText style
    | none => []
  else Text.collapse s

end DocSentences.Markup
