import DocSentences.Markup.Rules

/-!
# Tree construction

Tokens are taken one by one. Inside a drawing or a formula they follow rules of their own, until a
tag that cannot stand there ends the foreign content. A token that is looked at again changes the
mode or closes elements, so a bound on the number of looks is never reached.
-/

namespace DocSentences.Markup.Builder

/-- Whether a token follows the rules of foreign content. -/
def isForeign (b : Builder) (token : Token) : Bool :=
  let e := b.adjustedCurrent
  let isCharacter := match token with
    | .character _ => true
    | _ => false
  let startName? := match token with
    | .startTag tag => some tag.name
    | _ => none
  if token = .endOfFile || b.stack.isEmpty || e.space = .html then false
  else if e.isFormulaText && (isCharacter ||
      (match startName? with
        | some name => name != "mglyph" && name != "malignmark"
        | none => false)) then false
  else if e.isDrawingMarkup && (isCharacter || startName?.isSome) then false
  else !(e.space = .math && e.name = "annotation-xml" && startName? = some "svg")

/-- Inserts the element of a start tag in foreign content. -/
def insertForeign (b : Builder) (tag : Tag) : Builder :=
  let space := b.adjustedCurrent.space
  let name := if space = .svg then spelledAs drawingNames tag.name else tag.name
  let (b, _) := b.insertElement ⟨space, name, foreignAttributes space tag.attributes⟩
  if tag.selfClosing then b.pop else b

/-- Leaves foreign content for a tag that cannot stand there. -/
def leaveForeign (b : Builder) (token : Token) : Step :=
  (b.popWhile fun e => e.space ≠ .html && !e.isFormulaText && !e.isDrawingMarkup).rules token

/-- Looks for the foreign element that an end tag closes, from the inside out. -/
def endForeign (b : Builder) (tag : Tag) : Bool → List NodeId → Step
  | _, [] | _, [_] => b.done
  | first, id :: outer =>
      let e := b.elementAt id
      if !first && e.space = .html then b.rules (.endTag tag)
      else if lowerName e.name = tag.name then { b with stack := outer }.done
      else endForeign b tag false outer

/-- What a token does in foreign content. -/
def foreignRules (b : Builder) (token : Token) : Step :=
  match token with
  | .character c =>
      let shown := if c.toNat = 0 then '\uFFFD' else c
      let b := b.insertCharacter shown
      (if isSpace c || c.toNat = 0 then b else b.noFrameset).done
  | .comment text => (b.insertComment text).done
  | .startTag tag =>
      let hasFontAttribute := tag.attributes.any fun a =>
        a.space = .none && ["color", "face", "size"].contains a.name
      if breakoutNames.contains tag.name || (tag.name = "font" && hasFontAttribute) then
        b.leaveForeign token
      else (b.insertForeign tag).done
  | .endTag tag =>
      if tag.name = "br" || tag.name = "p" then b.leaveForeign token
      else b.endForeign tag true b.stack
  | _ => b.done

/-- Looks at a token until it is dealt with, at most `looks` times. -/
def process (token : Token) : Nat → Builder → Builder
  | 0, b => b
  | looks + 1, b =>
      let (b, more) := if b.isForeign token then b.foreignRules token else b.rules token
      if more then process token looks b else b

/-- A bound on the number of looks at one token. -/
def maxLooks (b : Builder) : Nat := 2 * b.stack.length + 2 * b.templateModes.length + 32

/-- Takes one more token. -/
def receive (b : Builder) (token : Token) : Builder :=
  let skip := b.skipLineFeed
  let b := { b with skipLineFeed := false, rawText := none }
  match token with
  | .doctype d =>
      if b.mode = .initial then
        let (tree, id) := b.tree.create .doctype
        { b with tree := tree.append Tree.root id, oldRules := d.followsOldRules, mode := .beforeHtml }
      else b
  | .character c => if skip && c = '\n' then b else process token b.maxLooks b
  | _ => process token b.maxLooks b

/-- Before the first token of a fragment that is the content of an element of the given name. -/
def startFragment (name : String) : Builder :=
  let (b, context) := start.create ⟨.html, name, []⟩
  let b := { b with context := some context }.createRoot []
  b.resetMode

end DocSentences.Markup.Builder
