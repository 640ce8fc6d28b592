import DocSentences.Markup.Basic

/-!
# Markup trees

A tree under construction is an array of nodes in the order of their creation, each of which knows
its parent and its children. A node may be taken out of its place and put into another. What a
finished tree says is read off the inductive view of a node: its text, or its name and its children.
-/

namespace DocSentences.Markup

/-- A node, by its place in the order of creation. -/
abbrev NodeId := Nat

/-- An element without its children. -/
structure Element where
  space : Space
  name : String
  attributes : List Attribute
  deriving DecidableEq, Repr, Inhabited

/-- What a node is. -/
inductive NodeKind
  | document
  /-- The content of a template, which has no parent element. -/
  | fragment
  | doctype
  | comment (text : String)
  | text (content : String)
  | element (element : Element)
  deriving DecidableEq, Repr, Inhabited

/-- A node with its place in the tree. -/
structure TreeNode where
  kind : NodeKind
  parent : Option NodeId
  children : List NodeId
  deriving DecidableEq, Repr, Inhabited

/-- The nodes in the order of their creation. -/
structure Tree where
  nodes : Array TreeNode
  deriving DecidableEq, Repr, Inhabited

namespace Tree

/-- A tree that is only a document. -/
def empty : Tree := ⟨#[⟨.document, none, []⟩]⟩

/-- The node at the root. -/
def root : NodeId := 0

/-- What a node is; a node that is not there is an empty fragment. -/
def kind (t : Tree) (id : NodeId) : NodeKind :=
  match t.nodes[id]? with
  | some node => node.kind
  | none => .fragment

/-- The children of a node, in order. -/
def children (t : Tree) (id : NodeId) : List NodeId :=
  match t.nodes[id]? with
  | some node => node.children
  | none => []

/-- The parent of a node. -/
def parent? (t : Tree) (id : NodeId) : Option NodeId :=
  match t.nodes[id]? with
  | some node => node.parent
  | none => none

/-- The element that a node is. -/
def element? (t : Tree) (id : NodeId) : Option Element :=
  match t.kind id with
  | .element e => some e
  | _ => none

/-- Changes one node. -/
def update (t : Tree) (id : NodeId) (f : TreeNode → TreeNode) : Tree :=
  ⟨t.nodes.modify id f⟩

/-- A new node that has no place yet. -/
def create (t : Tree) (kind : NodeKind) : Tree × NodeId :=
  (⟨t.nodes.push ⟨kind, none, []⟩⟩, t.nodes.size)

/-- Takes a node out of its place. -/
def detach (t : Tree) (id : NodeId) : Tree :=
  match t.parent? id with
  | none => t
  | some parent =>
      let t := t.update parent fun node => { node with children := node.children.erase id }
      t.update id fun node => { node with parent := none }

/-- Puts a node last among the children of another. -/
def append (t : Tree) (parent id : NodeId) : Tree :=
  let t := t.detach id
  let t := t.update parent fun node => { node with children := node.children ++ [id] }
  t.update id fun node => { node with parent := some parent }

/-- Inserts a node into a list of siblings, right before one of them. -/
def insertBeforeIn (sibling id : NodeId) : List NodeId → List NodeId
  | [] => [id]
  | other :: rest =>
      if other = sibling then id :: other :: rest else other :: insertBeforeIn sibling id rest

/-- Puts a node right before one that has a place. -/
def insertBefore (t : Tree) (sibling id : NodeId) : Tree :=
  let t := t.detach id
  match t.parent? sibling with
  | none => t
  | some parent =>
      let t := t.update parent fun node =>
        { node with children := insertBeforeIn sibling id node.children }
      t.update id fun node => { node with parent := some parent }

/-- Adds a character to a text node. -/
def extendText (t : Tree) (id : NodeId) (c : Char) : Tree :=
  t.update id fun node =>
    match node.kind with
    | .text content => { node with kind := .text (content.push c) }
    | _ => node

/-- Whether a node is text. -/
def isText (t : Tree) (id : NodeId) : Bool :=
  match t.kind id with
  | .text _ => true
  | _ => false

/-- Puts a character last inside a node; text next to it takes it up. -/
def appendCharacter (t : Tree) (parent : NodeId) (c : Char) : Tree :=
  match (t.children parent).getLast? with
  | some last =>
      if t.isText last then t.extendText last c
      else
        let (t, id) := t.create (.text (String.singleton c))
        t.append parent id
  | none =>
      let (t, id) := t.create (.text (String.singleton c))
      t.append parent id

/-- The sibling right before a node. -/
def previousIn (id : NodeId) : List NodeId → Option NodeId
  | a :: b :: rest => if b = id then some a else previousIn id (b :: rest)
  | _ => none

/-- The sibling right before a node. -/
def previous? (t : Tree) (id : NodeId) : Option NodeId := do
  previousIn id (t.children (← t.parent? id))

/-- Puts a character right before a node; text next to it takes it up. -/
def insertCharacterBefore (t : Tree) (sibling : NodeId) (c : Char) : Tree :=
  match t.previous? sibling with
  | some before =>
      if t.isText before then t.extendText before c
      else
        let (t, id) := t.create (.text (String.singleton c))
        t.insertBefore sibling id
  | none =>
      let (t, id) := t.create (.text (String.singleton c))
      t.insertBefore sibling id

/-- Moves all children of one node to the end of another. -/
def moveChildren (t : Tree) (source target : NodeId) : Tree :=
  (t.children source).foldl (fun t child => t.append target child) t

/-- Gives an element the attributes that it does not have yet. -/
def addAttributes (t : Tree) (id : NodeId) (attributes : List Attribute) : Tree :=
  t.update id fun node =>
    match node.kind with
    | .element e =>
        let new := attributes.filter fun a =>
          !e.attributes.any fun b => b.space = a.space && b.name = a.name
        { node with kind := .element { e with attributes := e.attributes ++ new } }
    | _ => node

end Tree

/-- A node as a reader sees it, with all that is inside it. -/
inductive Node
  | text (content : List Char)
  | element (name : String) (children : List Node)
  /-- A comment, a document type or the content of a template: nothing to read. -/
  | silent

mutual

/-- The view of a node, down to `depth` levels. -/
def Tree.view (t : Tree) : Nat → NodeId → Node
  | 0, _ => .silent
  | depth + 1, id =>
      match t.kind id with
      | .text content => .text content.toList
      | .element e => .element e.name (t.viewAll depth (t.children id))
      | _ => .silent

/-- The views of some nodes, down to `depth` levels. -/
def Tree.viewAll (t : Tree) : Nat → List NodeId → List Node
  | _, [] => []
  | depth, id :: rest => t.view depth id :: t.viewAll depth rest

end

/-- The view of a node. A tree has no more levels than nodes. -/
def Tree.nodeAt (t : Tree) (id : NodeId) : Node :=
  t.view t.nodes.size id

end DocSentences.Markup
