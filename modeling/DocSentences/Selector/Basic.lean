import DocSentences.Markup.Tree

/-!
# Selectors

A selector says which elements of a page hold the text that is wanted. It is a list of alternatives;
each is a chain of compounds, read from the selected element outwards, and a compound is a list of
conditions on one element.
-/

namespace DocSentences.Selector

/-- How one element of a chain lies with respect to the one before it. -/
inductive Combinator
  | descendant
  | child
  | nextSibling
  | laterSibling
  deriving DecidableEq, Repr

/-- How an attribute value is compared. -/
inductive AttributeOperator
  | equals
  /-- One of the words of the value. -/
  | includes
  /-- The value up to its first hyphen, or all of it. -/
  | dashMatch
  | startsWith
  | endsWith
  | contains
  deriving DecidableEq, Repr

/-- Whether case matters in an attribute value. -/
inductive CaseRule
  | sensitive
  | insensitive
  /-- Case does not matter in an element of a page, but in others. -/
  | insensitiveInHtml
  deriving DecidableEq, Repr

/-- A condition on the attributes of an element. -/
structure AttributeTest where
  /-- Whether the attribute may have a namespace. -/
  anySpace : Bool
  name : String
  value : Option (AttributeOperator × CaseRule × String)
  deriving DecidableEq, Repr

mutual

/-- A condition on one element. -/
inductive Simple
  | anyElement
  /-- Elements without a namespace; a page has none. -/
  | noSpace
  | typeName (name : String)
  | id (name : String)
  | className (name : String)
  | attribute (test : AttributeTest)
  /-- The place among the siblings, or among those of the same type, is `step * n + offset`. -/
  | nth (ofType fromEnd : Bool) (step offset : Int)
  | only (ofType : Bool)
  | root
  | empty
  | anyOf (alternatives : List Complex)
  | noneOf (alternatives : List Complex)
  /-- An element that lies as the alternatives say, starting from this one. -/
  | holds (alternatives : List Complex)
  /-- The element that such alternatives start from. -/
  | anchor
  /-- A condition that could not be read where that is forgiven. -/
  | never

/-- A chain of compounds. -/
inductive Complex
  | compound (parts : List Simple)
  | combined (before : Complex) (combinator : Combinator) (parts : List Simple)

end

end DocSentences.Selector

namespace DocSentences

/-- A selector: the alternatives of which an element has to match one. -/
structure Selector where
  alternatives : List Selector.Complex

end DocSentences
