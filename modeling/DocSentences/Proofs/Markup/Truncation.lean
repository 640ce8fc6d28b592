import DocSentences.Markup.PlainText
import DocSentences.Proofs.Text.Offsets

/-!
# Plain text cut off by offset

To end a sentence the blank characters after it are cut off, by the byte offset at which they begin.
That offset always lies between two characters, so the plain text of markup is the same.
-/

namespace DocSentences.Markup

open Text

/-- Ends the sentence in a text that has its latest character first, where the text is cut off at
the byte offset at which the blank characters at its end begin. -/
def closeSentence? (out : List Char) : Option (List Char) :=
  let length := byteLength (trimEnd out.reverse)
  if length = 0 then some out
  else do
    let (kept, _) ← splitBytes? length out.reverse
    let closed := if kept.getLast?.any isTerminator then kept else kept ++ ['.']
    return (closed ++ [' ']).reverse

mutual

/-- Adds the text of a node to a text that has its latest character first. -/
def render? (style : PlainStyle) (out : List Char) : Node → Option (List Char)
  | .text content => some ((content.map plainChar).reverse ++ out)
  | .silent => some out
  | .element name children =>
      if name = "pre" then some (' ' :: style.placeholder.reverse ++ ' ' :: out)
      else if name = "p" && style.paragraphBreaks then do
        let before ← closeSentence? out
        let inside ← renderAll? style before children
        closeSentence? inside
      else if name = "br" then some (' ' :: out)
      else if skippedNames.contains name then some out
      else if name = "p" || partingNames.contains name then do
        let inside ← renderAll? style (' ' :: out) children
        return ' ' :: inside
      else renderAll? style out children

def renderAll? (style : PlainStyle) (out : List Char) : List Node → Option (List Char)
  | [] => some out
  | node :: rest => do
      let more ← render? style out node
      renderAll? style more rest

end

/-- The plain text inside a node. -/
def Node.plainText? (style : PlainStyle) (node : Node) : Option (List Char) :=
  (renderAll? style [] node.children).map fun out => collapse out.reverse

/-- The plain text of a fragment of markup. -/
def normalize? (style : PlainStyle) (s : List Char) : Option (List Char) :=
  if s.any isMarkupChar then
    let tree := parseFragment s
    match tree.rootElement? with
    | some id => (tree.nodeAt id).plainText? style
    | none => some []
  else some (collapse s)

/-! ## Agreement -/

theorem closeSentence?_eq (out : List Char) : closeSentence? out = some (closeSentence out) := by
  have htrim : trimEnd out.reverse = (out.dropWhile isBlank).reverse := by
    rw [trimEnd, List.reverse_reverse]
  have hsplit : splitBytes? (byteLength (trimEnd out.reverse)) out.reverse =
      some ((out.dropWhile isBlank).reverse, (out.takeWhile isBlank).reverse) := by
    have hout : out.reverse =
        (out.dropWhile isBlank).reverse ++ (out.takeWhile isBlank).reverse := by
      rw [← List.reverse_append, List.takeWhile_append_dropWhile]
    rw [htrim, hout, splitBytes?_append]
  unfold closeSentence? closeSentence
  dsimp only
  rw [hsplit, htrim]
  cases hlast : out.dropWhile isBlank with
  | nil => rfl
  | cons last before =>
      have hlength : byteLength (last :: before).reverse ≠ 0 := by
        have := last.utf8Size_pos
        simp; omega
      rw [if_neg hlength]
      cases hend : isTerminator last <;> simp [hend]

mutual

/-- Rendering a node by truncation never misses. -/
theorem render?_eq (style : PlainStyle) (out : List Char) (node : Node) :
    render? style out node = some (render style out node) := by
  cases node with
  | text content => rw [render?, render]
  | silent => rw [render?, render]
  | element name children =>
      rw [render?, render]
      simp only [closeSentence?_eq, renderAll?_eq style _ children, Option.bind_eq_bind,
        Option.bind_some, Option.pure_def]
      repeat' split
      all_goals rfl

theorem renderAll?_eq (style : PlainStyle) (out : List Char) (nodes : List Node) :
    renderAll? style out nodes = some (renderAll style out nodes) := by
  cases nodes with
  | nil => rw [renderAll?, renderAll]
  | cons node rest =>
      rw [renderAll?, renderAll, render?_eq style out node]
      exact renderAll?_eq style _ rest

end

theorem Node.plainText?_eq (style : PlainStyle) (node : Node) :
    node.plainText? style = some (node.plainText style) := by
  rw [plainText?, renderAll?_eq]
  rfl

/-- Normalizing by truncation never misses. -/
theorem normalize?_eq (style : PlainStyle) (s : List Char) :
    normalize? style s = some (normalize style s) := by
  unfold normalize? normalize
  dsimp only
  cases s.any isMarkupChar with
  | false => rfl
  | true =>
      cases (parseFragment s).rootElement? with
      | none => rfl
      | some id => exact Node.plainText?_eq style _

end DocSentences.Markup
