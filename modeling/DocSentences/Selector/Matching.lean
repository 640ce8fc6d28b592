import DocSentences.Selector.Basic

/-!
# Matching selectors

Whether an element of a tree matches a selector. The chain is followed from the element outwards; an
element inside the content of a template has no parent element.
-/

namespace DocSentences.Selector

open Markup

/-- Whether a node is an element. -/
def isElement (t : Tree) (id : NodeId) : Bool := (t.element? id).isSome

/-- The parent of a node, if it is an element. -/
def parentElement? (t : Tree) (id : NodeId) : Option NodeId :=
  match t.parent? id with
  | some parent => if isElement t parent then some parent else none
  | none => none

/-- The elements around a node, at most as many as given. -/
def ancestors (t : Tree) : Nat → NodeId → List NodeId
  | 0, _ => []
  | limit + 1, id =>
      match parentElement? t id with
      | some parent => parent :: ancestors t limit parent
      | none => []

/-- The elements that have the same parent, the element itself included. -/
def siblings (t : Tree) (id : NodeId) : List NodeId :=
  match t.parent? id with
  | some parent => (t.children parent).filter (isElement t)
  | none => [id]

/-- The siblings before an element, the nearest first. -/
def earlierSiblings (t : Tree) (id : NodeId) : List NodeId :=
  ((siblings t id).takeWhile (· != id)).reverse

/-- Whether two elements have the same name. -/
def sameType (a b : Element) : Bool := a.space = b.space && a.name = b.name

/-- The words of an attribute value. -/
def valueWords (value : String) : List (List Char) :=
  value.toList.splitOnP Markup.isSpace

/-- Whether one text begins with another. -/
def beginsWith (value wanted : List Char) : Bool := wanted.isPrefixOf value

/-- Whether a text occurs in another. -/
def occursIn (wanted : List Char) : List Char → Bool
  | [] => wanted.isEmpty
  | c :: rest => wanted.isPrefixOf (c :: rest) || occursIn wanted rest

/-- Compares an attribute value with the wanted one. -/
def valueMatches (operator : AttributeOperator) (ignoreCase : Bool) (value wanted : String) :
    Bool :=
  let fold (s : String) := if ignoreCase then s.toList.map Char.toLower else s.toList
  let e := fold value
  let w := fold wanted
  match operator with
  | .equals => e = w
  | .startsWith => !w.isEmpty && beginsWith e w
  | .endsWith => !w.isEmpty && beginsWith e.reverse w.reverse
  | .contains => !w.isEmpty && occursIn w e
  | .includes => !w.isEmpty && (e.splitOnP Markup.isSpace).contains w
  | .dashMatch => e = w || beginsWith e (w ++ ['-'])

/-- The spelling of a name to look for: elements of a page have their names in lower case. -/
def spelling (e : Element) (name : String) : String :=
  if e.space = .html then String.ofList (name.toList.map Char.toLower) else name

/-- Whether an element meets a condition on its attributes. -/
def attributeMatches (e : Element) (test : AttributeTest) : Bool :=
  e.attributes.any fun a =>
    (test.anySpace || a.space = .none) && a.name = spelling e test.name &&
      match test.value with
      | none => true
      | some (operator, rule, wanted) =>
          let ignoreCase := match rule with
            | .sensitive => false
            | .insensitive => true
            | .insensitiveInHtml => e.space = .html
          valueMatches operator ignoreCase a.value wanted

/-- The value of an attribute. -/
def attribute? (e : Element) (name : String) : Option String :=
  (e.attributes.find? (·.name = name)).map (·.value)

/-- Whether a place is `step * n + offset` for some n that is not negative. -/
def isNth (step offset place : Int) : Bool :=
  let distance := place - offset
  if step = 0 then distance = 0 else distance % step = 0 && 0 ≤ distance / step

/-- The place of an element among its siblings, counted from 1. -/
def placeOf (t : Tree) (ofType fromEnd : Bool) (id : NodeId) (e : Element) : Nat :=
  let all := siblings t id
  let all := if fromEnd then all.reverse else all
  let before := all.takeWhile (· != id)
  let counted := if ofType then
    before.filter fun other => match t.element? other with
      | some o => sameType o e
      | none => false
    else before
  counted.length + 1

/-- Whether a node is the root of the page. -/
def isRoot (t : Tree) (id : NodeId) : Bool :=
  match t.parent? id with
  | some parent => t.kind parent = .document
  | none => false

/-- Whether a node has neither elements nor text inside. -/
def isEmptyElement (t : Tree) (id : NodeId) : Bool :=
  (t.children id).all fun child => !isElement t child && !t.isText child

mutual

/-- Whether an element meets a condition. `anchor` is the element that a search inside `:has` starts
from. -/
def Simple.matches (t : Tree) (anchor : Option NodeId) (id : NodeId) : Simple → Bool
  | .anyElement => true
  | .noSpace => false
  | .typeName name => match t.element? id with
      | some e => e.name = spelling e name
      | none => false
  | .id name => match t.element? id with
      | some e => attribute? e "id" = some name
      | none => false
  | .className name => match t.element? id with
      | some e => match attribute? e "class" with
          | some value => (valueWords value).contains name.toList && !name.isEmpty
          | none => false
      | none => false
  | .attribute test => match t.element? id with
      | some e => attributeMatches e test
      | none => false
  | .nth ofType fromEnd step offset => match t.element? id with
      | some e => isNth step offset (placeOf t ofType fromEnd id e)
      | none => false
  | .only ofType => match t.element? id with
      | some e => placeOf t ofType false id e = 1 && placeOf t ofType true id e = 1
      | none => false
  | .root => isRoot t id
  | .empty => isEmptyElement t id
  | .anyOf alternatives => anyMatches t anchor id alternatives
  | .noneOf alternatives => !anyMatches t anchor id alternatives
  | .holds alternatives =>
      (List.range t.nodes.size).any fun other =>
        isElement t other && anyMatches t (some id) other alternatives
  | .anchor => anchor = some id
  | .never => false

/-- Whether an element meets all of some conditions. -/
def allMatch (t : Tree) (anchor : Option NodeId) (id : NodeId) : List Simple → Bool
  | [] => true
  | condition :: rest => condition.matches t anchor id && allMatch t anchor id rest

/-- Whether an element is the last of a chain. -/
def Complex.matches (t : Tree) (anchor : Option NodeId) (id : NodeId) : Complex → Bool
  | .compound parts => allMatch t anchor id parts
  | .combined before combinator parts =>
      allMatch t anchor id parts &&
        match combinator with
        | .child => match parentElement? t id with
            | some parent => before.matches t anchor parent
            | none => false
        | .descendant =>
            (ancestors t t.nodes.size id).any fun outer => before.matches t anchor outer
        | .nextSibling => match (earlierSiblings t id).head? with
            | some other => before.matches t anchor other
            | none => false
        | .laterSibling =>
            (earlierSiblings t id).any fun other => before.matches t anchor other

/-- Whether an element is the last of one of some chains. -/
def anyMatches (t : Tree) (anchor : Option NodeId) (id : NodeId) : List Complex → Bool
  | [] => false
  | alternative :: rest => alternative.matches t anchor id || anyMatches t anchor id rest

end

/-- The elements of a tree that match a selector and have a place in it, in the order of their
creation. -/
def select (t : Tree) (s : DocSentences.Selector) : List NodeId :=
  (List.range t.nodes.size).filter fun id =>
    isElement t id && (t.parent? id).isSome && anyMatches t none id s.alternatives

end DocSentences.Selector
