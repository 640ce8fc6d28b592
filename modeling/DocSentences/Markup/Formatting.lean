import DocSentences.Markup.Builder

/-!
# Formatting elements

A formatting element that a block has closed is opened again for the text that follows. An end tag
that crosses a block splits its element: the part inside the block becomes an element of its own.
-/

namespace DocSentences.Markup.Builder

/-- Whether an entry needs no opening. -/
def isSettled (b : Builder) : FormatEntry → Bool
  | .marker => true
  | .element id _ => b.stack.contains id

/-- Opens entries again, the earliest first, and gives their new form, the latest first. -/
def reopen (b : Builder) : List FormatEntry → Builder × List FormatEntry
  | [] => (b, [])
  | .marker :: rest => reopen b rest
  | .element _ tag :: rest =>
      let (b, id) := b.insertElement (elementOf tag)
      let (b, more) := reopen b rest
      (b, more ++ [.element id tag])

/-- Opens again what was closed since the last entry that is open. -/
def reconstruct (b : Builder) : Builder :=
  let closed := b.formatting.takeWhile (!b.isSettled ·)
  let settled := b.formatting.dropWhile (!b.isSettled ·)
  let (b, renewed) := b.reopen closed.reverse
  { b with formatting := renewed ++ settled }

/-- Forgets the entries up to the last marker, and the marker. -/
def clearToMarker (b : Builder) : Builder :=
  { b with formatting := (b.formatting.dropWhile (· != .marker)).tail }

/-- Marks a border. -/
def pushMarker (b : Builder) : Builder := { b with formatting := .marker :: b.formatting }

/-- The entries since the last marker. -/
def recentFormatting (b : Builder) : List FormatEntry :=
  b.formatting.takeWhile (· != .marker)

/-- The position of a node among the formatting elements. -/
def formatIndex? (b : Builder) (id : NodeId) : Option Nat :=
  b.formatting.findIdx? fun
    | .marker => false
    | .element other _ => other = id

/-- Forgets the entry of a node. -/
def forgetFormat (b : Builder) (id : NodeId) : Builder :=
  match b.formatIndex? id with
  | some i => { b with formatting := b.formatting.eraseIdx i }
  | none => b

/-- Closes one element wherever it is among the open ones. -/
def closeNode (b : Builder) (id : NodeId) : Builder :=
  { b with stack := b.stack.erase id }

/-- Whether two tags make equal formatting elements. -/
def sameFormat (a b : Tag) : Bool :=
  a.name = b.name && a.attributes.length = b.attributes.length &&
    a.attributes.all b.attributes.contains

/-- Inserts a formatting element. Of three equal ones since the last marker, the earliest is
forgotten. -/
def insertFormatting (b : Builder) (tag : Tag) : Builder :=
  let equal := b.recentFormatting.filterMap fun
    | .marker => none
    | .element id other => if sameFormat tag other then some id else none
  let b := match equal.getLast? with
    | some earliest => if 3 ≤ equal.length then b.forgetFormat earliest else b
    | none => b
  let (b, id) := b.insertElement (elementOf tag)
  { b with formatting := .element id tag :: b.formatting }

/-- Closes the innermost element of the given name and all inside it, unless a special element lies
between. -/
def closeOrdinary (b : Builder) (name : String) : Builder :=
  match b.stack.find? fun id => (b.elementAt id).isHtml name || (b.elementAt id).isSpecial with
  | some id =>
      if (b.elementAt id).isHtml name then
        let b := b.closeImpliedExcept name
        { b with stack := (b.stack.dropWhile (· != id)).tail }
      else b
  | none => b

/-- What the walk over the elements between a block and a formatting element has done so far. -/
structure Walk where
  builder : Builder
  /-- The node that goes into the next one. -/
  last : NodeId
  /-- The new element right inside the block's new parent, after whose entry the new one goes. -/
  bookmark : Option NodeId

/-- Walks over the elements between the block and the formatting element, from the inside out: the
first three formatting ones are copied around the block, all others are closed. -/
def walkUp (block : NodeId) : Nat → List NodeId → Walk → Walk
  | _, [], w => w
  | count, node :: outer, w =>
      let b := w.builder
      match (if count < 3 then b.formatIndex? node else none) with
      | none =>
          let b := if count < 3 then b else b.forgetFormat node
          walkUp block (count + 1) outer { w with builder := b.closeNode node }
      | some i =>
          match b.formatting[i]? with
          | some (.element _ tag) =>
              let (b, copy) := b.create (elementOf tag)
              let b := { b with
                stack := b.stack.map fun id => if id = node then copy else id
                formatting := b.formatting.set i (.element copy tag)
                tree := (b.tree.detach w.last).append copy w.last }
              let bookmark := if w.last = block then some copy else w.bookmark
              walkUp block (count + 1) outer ⟨b, copy, bookmark⟩
          | _ => walkUp block (count + 1) outer w

/-- Inserts an element into a list right after another, seen from the end of the list. -/
def insertInside (target new : NodeId) : List NodeId → List NodeId
  | [] => []
  | id :: rest => if id = target then new :: id :: rest else id :: insertInside target new rest

/-- Splits one formatting element at the outermost block inside it. `none` if nothing more is to be
done for the end tag. -/
def splitFormat (b : Builder) (node : NodeId) (tag : Tag) (block : NodeId) : Builder :=
  let between := (b.stack.dropWhile (· != block)).tail.takeWhile (· != node)
  let ancestor := (((b.stack.dropWhile (· != node)).tail).head?).getD Tree.root
  let walk := walkUp block 0 between ⟨b, block, none⟩
  let b := { walk.builder with tree := walk.builder.tree.detach walk.last }
  let b := b.put (b.placeIn ancestor) walk.last
  let (b, new) := b.create (elementOf tag)
  let b := { b with tree := (b.tree.moveChildren block new).append block new }
  let b := match walk.bookmark with
    | none =>
        match b.formatIndex? node with
        | some i => { b with formatting := b.formatting.set i (.element new tag) }
        | none => b
    | some previous =>
        match b.formatIndex? previous with
        | some i =>
            { b with formatting := b.formatting.insertIdx i (.element new tag) }.forgetFormat node
        | none => b
  let b := b.closeNode node
  { b with stack := insertInside block new b.stack }

/-- Applies the end tag of a formatting element, at most `rounds` times: closes it, or splits it as
long as blocks are open inside it. -/
def closeFormatting (name : String) : Nat → Builder → Builder
  | 0, b => b
  | rounds + 1, b =>
      let found := b.recentFormatting.findSome? fun
        | .marker => none
        | .element id tag => if tag.name = name then some (id, tag) else none
      match found with
      | none => b.closeOrdinary name
      | some (node, tag) =>
          if !b.stack.contains node then b.forgetFormat node
          else if !b.inScope Element.boundsScope (· = node) then b
          else
            let inside := b.stack.takeWhile (· != node)
            match inside.reverse.find? fun id => (b.elementAt id).isSpecial with
            | none =>
                { b with stack := (b.stack.dropWhile (· != node)).tail }.forgetFormat node
            | some block => closeFormatting name rounds (b.splitFormat node tag block)

/-- Applies the end tag of a formatting element. -/
def endFormatting (b : Builder) (name : String) : Builder :=
  match b.current? with
  | some id =>
      if b.currentIs name && (b.formatIndex? id).isNone then b.pop
      else closeFormatting name 8 b
  | none => closeFormatting name 8 b

end DocSentences.Markup.Builder
