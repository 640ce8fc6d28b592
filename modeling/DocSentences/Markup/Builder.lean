import DocSentences.Markup.ElementClass

/-!
# The state of tree construction

Tree construction keeps the elements that are open, the innermost first, and the formatting elements
that are opened again inside new blocks, the latest first. What a token means depends on the
insertion mode. Content that may not stand inside a table is put in front of it.
-/

namespace DocSentences.Markup

/-- The part of a page in which construction is. -/
inductive Mode
  | initial
  | beforeHtml
  | beforeHead
  | inHead
  | afterHead
  | inBody
  | text
  | inTable
  | inTableText
  | inCaption
  | inColumnGroup
  | inTableBody
  | inRow
  | inCell
  | inSelect
  | inSelectInTable
  | inTemplate
  | afterBody
  | inFrameset
  | afterFrameset
  | afterAfterBody
  | afterAfterFrameset
  deriving DecidableEq, Repr, Inhabited

/-- An entry in the list of formatting elements. -/
inductive FormatEntry
  /-- The border of a cell, a caption or an embedded object. -/
  | marker
  | element (node : NodeId) (tag : Tag)
  deriving DecidableEq, Repr, Inhabited

/-- Where a new node goes. -/
inductive Place
  | lastIn (parent : NodeId)
  | before (sibling : NodeId)
  deriving DecidableEq, Repr

/-- A tree under construction. -/
structure Builder where
  tree : Tree
  mode : Mode
  /-- The mode to return to after text, or after text in a table. -/
  returnMode : Mode
  /-- The modes of the templates around, the innermost first. -/
  templateModes : List Mode
  /-- The open elements, the innermost first. -/
  stack : List NodeId
  /-- The formatting elements, the latest first. -/
  formatting : List FormatEntry
  head : Option NodeId
  form : Option NodeId
  /-- Whether a frameset may still take the place of the body. -/
  framesetOk : Bool
  /-- Whether a line feed that comes next is dropped. -/
  skipLineFeed : Bool
  /-- Whether content goes in front of the table around it. -/
  fosterParenting : Bool
  /-- Whether the page follows old rules. -/
  oldRules : Bool
  /-- Text inside a table that is not placed yet, the latest first. -/
  pendingText : List Char
  /-- The element that a fragment is the content of. -/
  context : Option NodeId
  /-- The text that follows the last tag, if it is not markup. -/
  rawText : Option RawText
  deriving Repr, Inhabited

namespace Builder

/-- Before the first token of a page. -/
def start : Builder where
  tree := .empty
  mode := .initial
  returnMode := .initial
  templateModes := []
  stack := []
  formatting := []
  head := none
  form := none
  framesetOk := true
  skipLineFeed := false
  fosterParenting := false
  oldRules := false
  pendingText := []
  context := none
  rawText := none

/-- What a node of the tree is when no element is meant. -/
def noElement : Element := ⟨.html, "", []⟩

/-- The element at a node. -/
def elementAt (b : Builder) (id : NodeId) : Element :=
  (b.tree.element? id).getD noElement

/-- The innermost open element. -/
def current? (b : Builder) : Option NodeId := b.stack.head?

/-- The innermost open element. -/
def currentElement (b : Builder) : Element :=
  match b.current? with
  | some id => b.elementAt id
  | none => noElement

/-- Whether the innermost open element has the given name. -/
def currentIs (b : Builder) (name : String) : Bool := b.currentElement.isHtml name

/-- Whether the innermost open element has one of the given names. -/
def currentIsIn (b : Builder) (names : List String) : Bool := b.currentElement.isHtmlIn names

/-- The element whose namespace decides how a token is read: inside a fragment, the element that the
fragment is the content of stands for the outermost one. -/
def adjustedCurrent (b : Builder) : Element :=
  match b.stack, b.context with
  | [_], some context => b.elementAt context
  | _, _ => b.currentElement

/-- Opens an element. -/
def push (b : Builder) (id : NodeId) : Builder := { b with stack := id :: b.stack }

/-- Closes the innermost element. -/
def pop (b : Builder) : Builder := { b with stack := b.stack.tail }

/-- Whether an element with one of the given names is open. -/
def hasOpen (b : Builder) (name : String) : Bool :=
  b.stack.any fun id => (b.elementAt id).isHtml name

/-- Whether an open element is wanted, with none around the search that bounds the scope. -/
def inScope (b : Builder) (bounds : Element → Bool) (wanted : NodeId → Bool) : Bool :=
  go b.stack
where
  go : List NodeId → Bool
    | [] => false
    | id :: outer => wanted id || (!bounds (b.elementAt id) && go outer)

/-- Whether an element of the given name is in scope. -/
def nameInScope (b : Builder) (bounds : Element → Bool) (name : String) : Bool :=
  b.inScope bounds fun id => (b.elementAt id).isHtml name

/-- Whether an element with one of the given names is in scope. -/
def anyInScope (b : Builder) (bounds : Element → Bool) (names : List String) : Bool :=
  b.inScope bounds fun id => (b.elementAt id).isHtmlIn names

/-- Closes elements while the innermost one passes a test. -/
def popWhile (b : Builder) (test : Element → Bool) : Builder :=
  { b with stack := b.stack.dropWhile fun id => test (b.elementAt id) }

/-- Closes elements up to one that is wanted, and that one. -/
def popThrough (b : Builder) (wanted : Element → Bool) : Builder :=
  { b with stack := (b.stack.dropWhile fun id => !wanted (b.elementAt id)).tail }

/-- Closes elements up to one of the given name, and that one. -/
def popThroughName (b : Builder) (name : String) : Builder :=
  b.popThrough (·.isHtml name)

/-- Closes elements up to one of the given names, but not that one. -/
def popTo (b : Builder) (names : List String) : Builder :=
  b.popWhile fun e => !e.isHtmlIn names

/-- Closes the elements whose end tag may be left out. -/
def closeImplied (b : Builder) : Builder :=
  b.popWhile (·.isHtmlIn impliedEndNames)

/-- Closes the elements whose end tag may be left out, except those of the given name. -/
def closeImpliedExcept (b : Builder) (name : String) : Builder :=
  b.popWhile fun e => e.isHtmlIn impliedEndNames && !e.isHtml name

/-- Closes the elements whose end tag may be left out, parts of tables included. -/
def closeImpliedThoroughly (b : Builder) : Builder :=
  b.popWhile (·.isHtmlIn thoroughImpliedEndNames)

/-- Closes an open paragraph. -/
def closeParagraph (b : Builder) : Builder :=
  (b.closeImpliedExcept "p").popThroughName "p"

/-- Closes a paragraph that is in scope. -/
def closeParagraphInScope (b : Builder) : Builder :=
  if b.nameInScope Element.boundsButtonScope "p" then b.closeParagraph else b

/-- The content of a template, or the node itself. -/
def contentOf (b : Builder) (id : NodeId) : NodeId :=
  if (b.elementAt id).isHtml "template" then ((b.tree.children id).head?).getD id else id

/-- The place in front of the innermost table, as seen from a list of open elements: right before
the table if it has a parent, else last inside the element that was open around it. A template that
is nearer takes the node up instead. -/
def fosterPlace (b : Builder) : List NodeId → Place
  | [] => .lastIn ((b.stack.getLast?).getD Tree.root)
  | id :: outer =>
      if (b.elementAt id).isHtml "template" then .lastIn (b.contentOf id)
      else if (b.elementAt id).isHtml "table" then
        if (b.tree.parent? id).isSome then .before id
        else .lastIn ((outer.head?).getD Tree.root)
      else fosterPlace b outer

/-- The place for a new node that is meant to go last inside `target`. -/
def placeIn (b : Builder) (target : NodeId) : Place :=
  if b.fosterParenting &&
      (b.elementAt target).isHtmlIn ["table", "tbody", "tfoot", "thead", "tr"] then
    b.fosterPlace b.stack
  else .lastIn (b.contentOf target)

/-- The place for a new node. -/
def place (b : Builder) : Place :=
  b.placeIn ((b.current?).getD Tree.root)

/-- Puts a node at its place. -/
def put (b : Builder) (place : Place) (id : NodeId) : Builder :=
  match place with
  | .lastIn parent => { b with tree := b.tree.append parent id }
  | .before sibling => { b with tree := b.tree.insertBefore sibling id }

/-- Inserts a character. -/
def insertCharacter (b : Builder) (c : Char) : Builder :=
  match b.place with
  | .lastIn parent => { b with tree := b.tree.appendCharacter parent c }
  | .before sibling => { b with tree := b.tree.insertCharacterBefore sibling c }

/-- Makes a new element that has no place yet. The content of a template is a node of its own. -/
def create (b : Builder) (e : Element) : Builder × NodeId :=
  let (tree, id) := b.tree.create (.element e)
  if e.isHtml "template" then
    let (tree, content) := tree.create .fragment
    ({ b with tree := tree.append id content }, id)
  else ({ b with tree }, id)

/-- Inserts an element, and opens it. -/
def insertElement (b : Builder) (e : Element) : Builder × NodeId :=
  let (b, id) := b.create e
  ((b.put b.place id).push id, id)

/-- The element of a page that a tag stands for. -/
def elementOf (tag : Tag) : Element := ⟨.html, tag.name, tag.attributes⟩

/-- Inserts the element of a tag, and opens it. -/
def insert (b : Builder) (tag : Tag) : Builder := (b.insertElement (elementOf tag)).1

/-- Inserts an element that no tag stands for, and opens it. -/
def insertNamed (b : Builder) (name : String) : Builder :=
  (b.insertElement ⟨.html, name, []⟩).1

/-- Inserts the element of a tag that has no content. -/
def insertClosed (b : Builder) (tag : Tag) : Builder := (b.insert tag).pop

/-- Inserts a comment. -/
def insertComment (b : Builder) (text : String) : Builder :=
  let (tree, id) := b.tree.create (.comment text)
  let b := { b with tree }
  b.put b.place id

/-- Inserts a comment at the end of a node. -/
def insertCommentIn (b : Builder) (parent : NodeId) (text : String) : Builder :=
  let (tree, id) := b.tree.create (.comment text)
  { b with tree := tree.append parent id }

/-- Makes the outermost element of the page. -/
def createRoot (b : Builder) (attributes : List Attribute) : Builder :=
  let (b, id) := b.create ⟨.html, "html", attributes⟩
  { b with tree := b.tree.append Tree.root id, stack := [id] }

/-- Inserts an element whose content is not markup. -/
def insertRaw (b : Builder) (tag : Tag) (kind : RawText) : Builder :=
  { b.insert tag with mode := .text, returnMode := b.mode, rawText := some kind }

/-- Forgets that a frameset may take the place of the body. -/
def noFrameset (b : Builder) : Builder := { b with framesetOk := false }

/-- The insertion mode that the open elements ask for. -/
def modeOfStack (b : Builder) : List NodeId → Mode
  | [] => .inBody
  | id :: outer =>
      let last := outer.isEmpty
      let e := match last, b.context with
        | true, some context => b.elementAt context
        | _, _ => b.elementAt id
      if e.space ≠ .html then modeOfStack b outer
      else
        match e.name with
        | "select" =>
            match outer.find? fun id => (b.elementAt id).isHtmlIn ["template", "table"] with
            | some around =>
                if (b.elementAt around).isHtml "table" then .inSelectInTable else .inSelect
            | none => .inSelect
        | "td" | "th" => if last then modeOfStack b outer else .inCell
        | "tr" => .inRow
        | "tbody" | "thead" | "tfoot" => .inTableBody
        | "caption" => .inCaption
        | "colgroup" => .inColumnGroup
        | "table" => .inTable
        | "template" => (b.templateModes.head?).getD .inTemplate
        | "head" => if last then modeOfStack b outer else .inHead
        | "body" => .inBody
        | "frameset" => .inFrameset
        | "html" => if b.head.isSome then .afterHead else .beforeHead
        | _ => modeOfStack b outer

/-- The insertion mode that the open elements ask for. -/
def naturalMode (b : Builder) : Mode := b.modeOfStack b.stack

/-- Goes on in the insertion mode that the open elements ask for. -/
def resetMode (b : Builder) : Builder := { b with mode := b.naturalMode }

end Builder

end DocSentences.Markup
