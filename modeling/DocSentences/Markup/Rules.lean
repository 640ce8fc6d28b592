import DocSentences.Markup.Formatting

/-!
# What tokens mean

One function per insertion mode says what a token does there. It answers whether the token is dealt
with, or is to be looked at again in the mode that the builder is in by then.
-/

namespace DocSentences.Markup.Builder

/-- The builder after a token, and whether the token is to be looked at again. -/
abbrev Step := Builder × Bool

/-- The token is dealt with. -/
def done (b : Builder) : Step := (b, false)

/-- The token is to be looked at again in another mode. -/
def again (b : Builder) (mode : Mode) : Step := ({ b with mode }, true)

/-- The token is dealt with, and the next one is looked at in another mode. -/
def enter (b : Builder) (mode : Mode) : Step := ({ b with mode }, false)

/-- A second `html` tag adds its attributes to the first. -/
def mergeRoot (b : Builder) (tag : Tag) : Builder :=
  if b.hasOpen "template" then b
  else
    match b.stack.getLast? with
    | some root => { b with tree := b.tree.addAttributes root tag.attributes }
    | none => b

/-- Before the document type. -/
def initialRules (b : Builder) (token : Token) : Step :=
  match token with
  | .character c => if isSpace c then b.done else { b with oldRules := true }.again .beforeHtml
  | .comment text => (b.insertCommentIn Tree.root text).done
  | _ => { b with oldRules := true }.again .beforeHtml

/-- Before the outermost element. -/
def beforeHtmlRules (b : Builder) (token : Token) : Step :=
  match token with
  | .character c => if isSpace c then b.done else (b.createRoot []).again .beforeHead
  | .comment text => (b.insertCommentIn Tree.root text).done
  | .startTag tag =>
      if tag.name = "html" then (b.createRoot tag.attributes).enter .beforeHead
      else (b.createRoot []).again .beforeHead
  | .endTag tag =>
      if ["head", "body", "html", "br"].contains tag.name then (b.createRoot []).again .beforeHead
      else b.done
  | _ => (b.createRoot []).again .beforeHead

/-- Opens a head and remembers it. -/
def openHead (b : Builder) (attributes : List Attribute) : Builder :=
  let (b, id) := b.insertElement ⟨.html, "head", attributes⟩
  { b with head := some id }

/-- Before the head. -/
def beforeHeadRules (b : Builder) (token : Token) : Step :=
  match token with
  | .character c => if isSpace c then b.done else (b.openHead []).again .inHead
  | .comment text => (b.insertComment text).done
  | .startTag tag =>
      match tag.name with
      | "html" => (b.mergeRoot tag).done
      | "head" => (b.openHead tag.attributes).enter .inHead
      | _ => (b.openHead []).again .inHead
  | .endTag tag =>
      if ["head", "body", "html", "br"].contains tag.name then (b.openHead []).again .inHead
      else b.done
  | _ => (b.openHead []).again .inHead

/-- Closes the innermost template. -/
def closeTemplate (b : Builder) : Builder :=
  let b := (b.popThroughName "template").clearToMarker
  { b with templateModes := b.templateModes.tail }.resetMode

/-- A tag that belongs into the head of a page, or the end tag of a template. -/
def headTag (b : Builder) (token : Token) : Builder :=
  match token with
  | .startTag tag =>
      match tag.name with
      | "title" => b.insertRaw tag .escapable
      | "noframes" | "style" | "noscript" => b.insertRaw tag .plain
      | "script" => b.insertRaw tag .script
      | "template" =>
          let b := (b.insert tag).pushMarker.noFrameset
          { b with mode := .inTemplate, templateModes := .inTemplate :: b.templateModes }
      | _ => b.insertClosed tag
  | _ => if b.hasOpen "template" then b.closeImpliedThoroughly.closeTemplate else b

/-- Inside the head. -/
def inHeadRules (b : Builder) (token : Token) : Step :=
  match token with
  | .character c => if isSpace c then (b.insertCharacter c).done else b.pop.again .afterHead
  | .comment text => (b.insertComment text).done
  | .startTag tag =>
      if tag.name = "html" then (b.mergeRoot tag).done
      else if tag.name = "noscript" || headNames.contains tag.name then (b.headTag token).done
      else if tag.name = "head" then b.done
      else b.pop.again .afterHead
  | .endTag tag =>
      match tag.name with
      | "head" => b.pop.enter .afterHead
      | "body" | "html" | "br" => b.pop.again .afterHead
      | "template" => (b.headTag token).done
      | _ => b.done
  | _ => b.pop.again .afterHead

/-- Between head and body. -/
def afterHeadRules (b : Builder) (token : Token) : Step :=
  match token with
  | .character c =>
      if isSpace c then (b.insertCharacter c).done else (b.insertNamed "body").again .inBody
  | .comment text => (b.insertComment text).done
  | .startTag tag =>
      if tag.name = "html" then (b.mergeRoot tag).done
      else if tag.name = "body" then (b.insert tag).noFrameset.enter .inBody
      else if tag.name = "frameset" then (b.insert tag).enter .inFrameset
      else if headNames.contains tag.name then
        match b.head with
        | some head => (((b.push head).headTag token).closeNode head).done
        | none => (b.headTag token).done
      else if tag.name = "head" then b.done
      else (b.insertNamed "body").again .inBody
  | .endTag tag =>
      match tag.name with
      | "body" | "html" | "br" => (b.insertNamed "body").again .inBody
      | "template" => (b.headTag token).done
      | _ => b.done
  | _ => (b.insertNamed "body").again .inBody

/-- The body of the page, if it is open. -/
def body? (b : Builder) : Option NodeId :=
  match b.stack.reverse with
  | _ :: second :: _ => if (b.elementAt second).isHtml "body" then some second else none
  | _ => none

/-- Closes the item or entry that a new one follows. -/
def closeItem (b : Builder) (names : List String) : Builder :=
  let stop (id : NodeId) :=
    let e := b.elementAt id
    e.isHtmlIn names || (e.isSpecial && !e.isHtmlIn ["address", "div", "p"])
  match b.stack.find? stop with
  | some id =>
      let e := b.elementAt id
      if e.isHtmlIn names then (b.closeImpliedExcept e.name).popThroughName e.name else b
  | none => b

/-- Whether an input field is hidden. -/
def isHiddenInput (tag : Tag) : Bool :=
  match tag.attributes.find? fun a => a.space = .none && a.name = "type" with
  | some a => lowerName a.value = "hidden"
  | none => false

/-- Inserts the outermost element of a drawing or a formula. -/
def enterForeign (b : Builder) (space : Space) (tag : Tag) : Builder :=
  let b := b.reconstruct
  let (b, _) := b.insertElement ⟨space, tag.name, foreignAttributes space tag.attributes⟩
  if tag.selfClosing then b.pop else b

/-- A start tag inside the body. -/
def bodyStartTag (b : Builder) (tag : Tag) : Builder :=
  if tag.name = "html" then b.mergeRoot tag
  else if headNames.contains tag.name then b.headTag (.startTag tag)
  else if blockNames.contains tag.name then b.closeParagraphInScope.insert tag
  else if headingNames.contains tag.name then
    let b := b.closeParagraphInScope
    (if b.currentIsIn headingNames then b.pop else b).insert tag
  else if formattingNames.contains tag.name then b.reconstruct.insertFormatting tag
  else if tablePartNames.contains tag.name || ["frame", "head"].contains tag.name then b
  else
    match tag.name with
    | "body" =>
        match b.body? with
        | some body =>
            if b.hasOpen "template" then b
            else { b with tree := b.tree.addAttributes body tag.attributes }.noFrameset
        | none => b
    | "frameset" =>
        match b.framesetOk, b.body? with
        | true, some body =>
            let b := { b with
              tree := b.tree.detach body
              stack := b.stack.getLast?.toList }
            { b.insert tag with mode := .inFrameset }
        | _, _ => b
    | "pre" | "listing" =>
        { b.closeParagraphInScope.insert tag with skipLineFeed := true, framesetOk := false }
    | "form" =>
        if b.form.isSome && !b.hasOpen "template" then b
        else
          let inTemplate := b.hasOpen "template"
          let (b, id) := b.closeParagraphInScope.insertElement (elementOf tag)
          if inTemplate then b else { b with form := some id }
    | "li" => ((b.noFrameset.closeItem ["li"]).closeParagraphInScope).insert tag
    | "dd" | "dt" => ((b.noFrameset.closeItem ["dd", "dt"]).closeParagraphInScope).insert tag
    | "plaintext" => { b.closeParagraphInScope.insert tag with rawText := some .unending }
    | "button" =>
        let b := if b.nameInScope Element.boundsScope "button" then
          b.closeImplied.popThroughName "button" else b
        (b.reconstruct.insert tag).noFrameset
    | "a" =>
        let earlier := b.recentFormatting.findSome? fun
          | .marker => none
          | .element id _ => if (b.elementAt id).isHtml "a" then some id else none
        let b := match earlier with
          | some id => ((b.endFormatting "a").forgetFormat id).closeNode id
          | none => b
        b.reconstruct.insertFormatting tag
    | "nobr" =>
        let b := b.reconstruct
        let b := if b.nameInScope Element.boundsScope "nobr" then
          (b.endFormatting "nobr").reconstruct else b
        b.insertFormatting tag
    | "applet" | "marquee" | "object" => (b.reconstruct.insert tag).pushMarker.noFrameset
    | "table" =>
        let b := if b.oldRules then b else b.closeParagraphInScope
        { (b.insert tag).noFrameset with mode := .inTable }
    | "area" | "br" | "embed" | "img" | "keygen" | "wbr" =>
        (b.reconstruct.insertClosed tag).noFrameset
    | "image" => (b.reconstruct.insertClosed { tag with name := "img" }).noFrameset
    | "input" =>
        let b := b.reconstruct.insertClosed tag
        if isHiddenInput tag then b else b.noFrameset
    | "param" | "source" | "track" => b.insertClosed tag
    | "hr" => (b.closeParagraphInScope.insertClosed tag).noFrameset
    | "textarea" => { b.noFrameset.insertRaw tag .escapable with skipLineFeed := true }
    | "xmp" => b.closeParagraphInScope.reconstruct.noFrameset.insertRaw tag .plain
    | "iframe" => b.noFrameset.insertRaw tag .plain
    | "noembed" | "noscript" => b.insertRaw tag .plain
    | "select" =>
        let inTable := [Mode.inTable, .inCaption, .inTableBody, .inRow, .inCell].contains b.mode
        let b := (b.reconstruct.insert tag).noFrameset
        { b with mode := if inTable then .inSelectInTable else .inSelect }
    | "optgroup" | "option" =>
        let b := if b.currentIs "option" then b.pop else b
        b.reconstruct.insert tag
    | "rb" | "rtc" =>
        (if b.nameInScope Element.boundsScope "ruby" then b.closeImplied else b).insert tag
    | "rp" | "rt" =>
        (if b.nameInScope Element.boundsScope "ruby" then b.closeImpliedExcept "rtc"
          else b).insert tag
    | "math" => b.enterForeign .math tag
    | "svg" => b.enterForeign .svg tag
    | _ => b.reconstruct.insert tag

/-- The end tag of a form. -/
def closeForm (b : Builder) : Builder :=
  if b.hasOpen "template" then
    if b.nameInScope Element.boundsScope "form" then b.closeImplied.popThroughName "form" else b
  else
    match b.form with
    | none => b
    | some form =>
        let b := { b with form := none }
        if b.inScope Element.boundsScope (· = form) then b.closeImplied.closeNode form else b

/-- An end tag inside the body. -/
def bodyEndTag (b : Builder) (tag : Tag) : Step :=
  if blockEndNames.contains tag.name then
    if b.nameInScope Element.boundsScope tag.name then
      (b.closeImplied.popThroughName tag.name).done
    else b.done
  else if headingNames.contains tag.name then
    if b.anyInScope Element.boundsScope headingNames then
      (b.closeImplied.popThrough (·.isHtmlIn headingNames)).done
    else b.done
  else if ["a", "nobr"].contains tag.name || formattingNames.contains tag.name then
    (b.endFormatting tag.name).done
  else
    match tag.name with
    | "template" => (b.headTag (.endTag tag)).done
    | "body" =>
        if b.nameInScope Element.boundsScope "body" then b.enter .afterBody else b.done
    | "html" =>
        if b.nameInScope Element.boundsScope "body" then b.again .afterBody else b.done
    | "form" => b.closeForm.done
    | "p" =>
        let b := if b.nameInScope Element.boundsButtonScope "p" then b else b.insertNamed "p"
        b.closeParagraph.done
    | "li" =>
        if b.nameInScope Element.boundsListScope "li" then
          ((b.closeImpliedExcept "li").popThroughName "li").done
        else b.done
    | "dd" | "dt" =>
        if b.nameInScope Element.boundsScope tag.name then
          ((b.closeImpliedExcept tag.name).popThroughName tag.name).done
        else b.done
    | "applet" | "marquee" | "object" =>
        if b.nameInScope Element.boundsScope tag.name then
          (b.closeImplied.popThroughName tag.name).clearToMarker.done
        else b.done
    | "br" => ((b.reconstruct.insertNamed "br").pop.noFrameset).done
    | _ => (b.closeOrdinary tag.name).done

/-- The end of the file inside a template, or elsewhere in the body. -/
def endInBody (b : Builder) : Step :=
  if b.templateModes.isEmpty || !b.hasOpen "template" then b.done
  else
    let b := b.closeTemplate
    b.again b.mode

/-- Inside the body. -/
def inBodyRules (b : Builder) (token : Token) : Step :=
  match token with
  | .character c =>
      if c.toNat = 0 then b.done
      else
        let b := b.reconstruct.insertCharacter c
        (if isSpace c then b else b.noFrameset).done
  | .comment text => (b.insertComment text).done
  | .startTag tag => (b.bodyStartTag tag).done
  | .endTag tag => b.bodyEndTag tag
  | .endOfFile => b.endInBody
  | .doctype _ => b.done

/-- Inside text that is not markup. -/
def textRules (b : Builder) (token : Token) : Step :=
  match token with
  | .character c => (b.insertCharacter c).done
  | .endOfFile => b.pop.again b.returnMode
  | .endTag _ => b.pop.enter b.returnMode
  | _ => b.done

/-- Applies the rules of the body to content that goes in front of the table around it. -/
def foster (b : Builder) (token : Token) : Step :=
  let (b, more) := { b with fosterParenting := true }.inBodyRules token
  ({ b with fosterParenting := false }, more)

/-- Inside a table. -/
def inTableRules (b : Builder) (token : Token) : Step :=
  match token with
  | .character _ =>
      if b.currentIsIn ["table", "tbody", "tfoot", "thead", "tr"] then
        { b with returnMode := b.mode }.again .inTableText
      else b.foster token
  | .comment text => (b.insertComment text).done
  | .startTag tag =>
      let outer := ["table", "template", "html"]
      match tag.name with
      | "caption" => ((b.popTo outer).pushMarker.insert tag).enter .inCaption
      | "colgroup" => ((b.popTo outer).insert tag).enter .inColumnGroup
      | "col" => ((b.popTo outer).insertNamed "colgroup").again .inColumnGroup
      | "tbody" | "tfoot" | "thead" => ((b.popTo outer).insert tag).enter .inTableBody
      | "td" | "th" | "tr" => ((b.popTo outer).insertNamed "tbody").again .inTableBody
      | "table" =>
          if b.nameInScope Element.boundsTableScope "table" then
            let b := (b.popThroughName "table").resetMode
            b.again b.mode
          else b.done
      | "style" | "script" | "template" => (b.headTag token).done
      | "input" => if isHiddenInput tag then (b.insertClosed tag).done else b.foster token
      | "form" =>
          if b.form.isSome || b.hasOpen "template" then b.done
          else
            let (b, id) := b.insertElement (elementOf tag)
            { b.pop with form := some id }.done
      | _ => b.foster token
  | .endTag tag =>
      if tag.name = "table" then
        if b.nameInScope Element.boundsTableScope "table" then
          (b.popThroughName "table").resetMode.done
        else b.done
      else if tablePartNames.contains tag.name || ["body", "html"].contains tag.name then b.done
      else if tag.name = "template" then (b.headTag token).done
      else b.foster token
  | .endOfFile => b.inBodyRules token
  | .doctype _ => b.done

/-- Places the text that a table has held back: blank text stays inside, other text goes in
front. -/
def placePendingText (b : Builder) : Builder :=
  let text := b.pendingText.reverse
  let b := { b with pendingText := [] }
  if text.all isSpace then text.foldl insertCharacter b
  else text.foldl (fun b c => (b.foster (.character c)).1) b

/-- Inside text of a table. -/
def inTableTextRules (b : Builder) (token : Token) : Step :=
  match token with
  | .character c =>
      if c.toNat = 0 then b.done else { b with pendingText := c :: b.pendingText }.done
  | _ =>
      let b := b.placePendingText
      b.again b.returnMode

/-- Closes a caption, if one is open. -/
def closeCaption (b : Builder) : Builder :=
  (b.closeImplied.popThroughName "caption").clearToMarker

/-- Inside the caption of a table. -/
def inCaptionRules (b : Builder) (token : Token) : Step :=
  let open_ := b.nameInScope Element.boundsTableScope "caption"
  match token with
  | .startTag tag =>
      if tablePartNames.contains tag.name then
        if open_ then b.closeCaption.again .inTable else b.done
      else b.inBodyRules token
  | .endTag tag =>
      if tag.name = "table" then if open_ then b.closeCaption.again .inTable else b.done
      else if tag.name = "caption" then if open_ then b.closeCaption.enter .inTable else b.done
      else if tablePartNames.contains tag.name || ["body", "html"].contains tag.name then b.done
      else b.inBodyRules token
  | _ => b.inBodyRules token

/-- Inside a column group. -/
def inColumnGroupRules (b : Builder) (token : Token) : Step :=
  let leave := if b.currentIs "colgroup" then b.pop.again .inTable else b.done
  match token with
  | .character c => if isSpace c then (b.insertCharacter c).done else leave
  | .comment text => (b.insertComment text).done
  | .startTag tag =>
      match tag.name with
      | "html" => (b.mergeRoot tag).done
      | "col" => (b.insertClosed tag).done
      | "template" => (b.headTag token).done
      | _ => leave
  | .endTag tag =>
      match tag.name with
      | "colgroup" => if b.currentIs "colgroup" then b.pop.enter .inTable else b.done
      | "col" => b.done
      | "template" => (b.headTag token).done
      | _ => leave
  | .endOfFile => b.inBodyRules token
  | .doctype _ => b.done

/-- Inside the body, head or foot of a table. -/
def inTableBodyRules (b : Builder) (token : Token) : Step :=
  let sections := ["tbody", "tfoot", "thead"]
  let outer := ["tbody", "tfoot", "thead", "template", "html"]
  let leave :=
    if b.anyInScope Element.boundsTableScope sections then (b.popTo outer).pop.again .inTable
    else b.done
  match token with
  | .startTag tag =>
      match tag.name with
      | "tr" => ((b.popTo outer).insert tag).enter .inRow
      | "th" | "td" => ((b.popTo outer).insertNamed "tr").again .inRow
      | "caption" | "col" | "colgroup" | "tbody" | "tfoot" | "thead" => leave
      | _ => b.inTableRules token
  | .endTag tag =>
      match tag.name with
      | "tbody" | "tfoot" | "thead" =>
          if b.nameInScope Element.boundsTableScope tag.name then
            (b.popTo outer).pop.enter .inTable
          else b.done
      | "table" => leave
      | "body" | "caption" | "col" | "colgroup" | "html" | "td" | "th" | "tr" => b.done
      | _ => b.inTableRules token
  | _ => b.inTableRules token

/-- Inside a row of a table. -/
def inRowRules (b : Builder) (token : Token) : Step :=
  let outer := ["tr", "template", "html"]
  let rowOpen := b.nameInScope Element.boundsTableScope "tr"
  let leave := if rowOpen then (b.popTo outer).pop.again .inTableBody else b.done
  match token with
  | .startTag tag =>
      match tag.name with
      | "th" | "td" => ((b.popTo outer).insert tag).pushMarker.enter .inCell
      | "caption" | "col" | "colgroup" | "tbody" | "tfoot" | "thead" | "tr" => leave
      | _ => b.inTableRules token
  | .endTag tag =>
      match tag.name with
      | "tr" => if rowOpen then (b.popTo outer).pop.enter .inTableBody else b.done
      | "table" => leave
      | "tbody" | "tfoot" | "thead" =>
          if b.nameInScope Element.boundsTableScope tag.name then leave else b.done
      | "body" | "caption" | "col" | "colgroup" | "html" | "td" | "th" => b.done
      | _ => b.inTableRules token
  | _ => b.inTableRules token

/-- Closes the cell that is open. -/
def closeCell (b : Builder) : Builder :=
  (b.closeImplied.popThrough (·.isHtmlIn ["td", "th"])).clearToMarker

/-- Inside a cell of a table. -/
def inCellRules (b : Builder) (token : Token) : Step :=
  match token with
  | .startTag tag =>
      if tablePartNames.contains tag.name then
        if b.anyInScope Element.boundsTableScope ["td", "th"] then b.closeCell.again .inRow
        else b.done
      else b.inBodyRules token
  | .endTag tag =>
      match tag.name with
      | "td" | "th" =>
          if b.nameInScope Element.boundsTableScope tag.name then
            (b.closeImplied.popThroughName tag.name).clearToMarker.enter .inRow
          else b.done
      | "body" | "caption" | "col" | "colgroup" | "html" => b.done
      | "table" | "tbody" | "tfoot" | "thead" | "tr" =>
          if b.nameInScope Element.boundsTableScope tag.name then b.closeCell.again .inRow
          else b.done
      | _ => b.inBodyRules token
  | _ => b.inBodyRules token

/-- Inside a selection list. -/
def inSelectRules (b : Builder) (token : Token) : Step :=
  let inScope := b.nameInScope Element.boundsSelectScope "select"
  let closed := (b.popThroughName "select").resetMode
  match token with
  | .character c => if c.toNat = 0 then b.done else (b.insertCharacter c).done
  | .comment text => (b.insertComment text).done
  | .startTag tag =>
      match tag.name with
      | "html" => (b.mergeRoot tag).done
      | "option" => ((if b.currentIs "option" then b.pop else b).insert tag).done
      | "optgroup" =>
          let b := if b.currentIs "option" then b.pop else b
          ((if b.currentIs "optgroup" then b.pop else b).insert tag).done
      | "hr" =>
          let b := if b.currentIs "option" then b.pop else b
          ((if b.currentIs "optgroup" then b.pop else b).insertClosed tag).done
      | "select" => if inScope then closed.done else b.done
      | "input" | "keygen" | "textarea" => if inScope then closed.again closed.mode else b.done
      | "script" | "template" => (b.headTag token).done
      | _ => b.done
  | .endTag tag =>
      match tag.name with
      | "optgroup" =>
          let b := match b.stack with
            | a :: c :: _ =>
                if (b.elementAt a).isHtml "option" && (b.elementAt c).isHtml "optgroup" then b.pop
                else b
            | _ => b
          (if b.currentIs "optgroup" then b.pop else b).done
      | "option" => (if b.currentIs "option" then b.pop else b).done
      | "select" => if inScope then closed.done else b.done
      | "template" => (b.headTag token).done
      | _ => b.done
  | .endOfFile => b.inBodyRules token
  | .doctype _ => b.done

/-- Inside a selection list in a table. -/
def inSelectInTableRules (b : Builder) (token : Token) : Step :=
  let parts := ["caption", "table", "tbody", "tfoot", "thead", "tr", "td", "th"]
  let closed := (b.popThroughName "select").resetMode
  match token with
  | .startTag tag =>
      if parts.contains tag.name then closed.again closed.mode else b.inSelectRules token
  | .endTag tag =>
      if parts.contains tag.name then
        if b.nameInScope Element.boundsTableScope tag.name then closed.again closed.mode else b.done
      else b.inSelectRules token
  | _ => b.inSelectRules token

/-- Inside a template. -/
def inTemplateRules (b : Builder) (token : Token) : Step :=
  let become (mode : Mode) : Step :=
    { b with templateModes := mode :: b.templateModes.tail }.again mode
  match token with
  | .startTag tag =>
      if headNames.contains tag.name then (b.headTag token).done
      else
        match tag.name with
        | "caption" | "colgroup" | "tbody" | "tfoot" | "thead" => become .inTable
        | "col" => become .inColumnGroup
        | "tr" => become .inTableBody
        | "td" | "th" => become .inRow
        | _ => become .inBody
  | .endTag tag => (if tag.name = "template" then b.headTag token else b).done
  | .endOfFile => b.endInBody
  | _ => b.inBodyRules token

/-- After the body. -/
def afterBodyRules (b : Builder) (token : Token) : Step :=
  match token with
  | .character c => if isSpace c then b.inBodyRules token else b.again .inBody
  | .comment text => (b.insertCommentIn ((b.stack.getLast?).getD Tree.root) text).done
  | .startTag tag => if tag.name = "html" then (b.mergeRoot tag).done else b.again .inBody
  | .endTag tag =>
      if tag.name = "html" then
        if b.context.isSome then b.done else b.enter .afterAfterBody
      else b.again .inBody
  | _ => b.done

/-- Inside a frameset. -/
def inFramesetRules (b : Builder) (token : Token) : Step :=
  match token with
  | .character c => (if isSpace c then b.insertCharacter c else b).done
  | .comment text => (b.insertComment text).done
  | .startTag tag =>
      match tag.name with
      | "html" => (b.mergeRoot tag).done
      | "frameset" => (b.insert tag).done
      | "frame" => (b.insertClosed tag).done
      | "noframes" => (b.headTag token).done
      | _ => b.done
  | .endTag tag =>
      if tag.name = "frameset" && 1 < b.stack.length then
        let b := b.pop
        if b.context.isNone && !b.currentIs "frameset" then b.enter .afterFrameset else b.done
      else b.done
  | _ => b.done

/-- After a frameset. -/
def afterFramesetRules (b : Builder) (token : Token) : Step :=
  match token with
  | .character c => (if isSpace c then b.insertCharacter c else b).done
  | .comment text => (b.insertComment text).done
  | .startTag tag =>
      match tag.name with
      | "html" => (b.mergeRoot tag).done
      | "noframes" => (b.headTag token).done
      | _ => b.done
  | .endTag tag => if tag.name = "html" then b.enter .afterAfterFrameset else b.done
  | _ => b.done

/-- After the page. -/
def afterAfterBodyRules (b : Builder) (token : Token) : Step :=
  match token with
  | .character c => if isSpace c then b.inBodyRules token else b.again .inBody
  | .comment text => (b.insertCommentIn Tree.root text).done
  | .startTag tag => if tag.name = "html" then (b.mergeRoot tag).done else b.again .inBody
  | .endTag _ => b.again .inBody
  | _ => b.done

/-- After a page that is a frameset. -/
def afterAfterFramesetRules (b : Builder) (token : Token) : Step :=
  match token with
  | .character c => if isSpace c then b.inBodyRules token else b.done
  | .comment text => (b.insertCommentIn Tree.root text).done
  | .startTag tag =>
      match tag.name with
      | "html" => (b.mergeRoot tag).done
      | "noframes" => (b.headTag token).done
      | _ => b.done
  | _ => b.done

/-- What a token does in the mode that the builder is in. -/
def rules (b : Builder) (token : Token) : Step :=
  match b.mode with
  | .initial => b.initialRules token
  | .beforeHtml => b.beforeHtmlRules token
  | .beforeHead => b.beforeHeadRules token
  | .inHead => b.inHeadRules token
  | .afterHead => b.afterHeadRules token
  | .inBody => b.inBodyRules token
  | .text => b.textRules token
  | .inTable => b.inTableRules token
  | .inTableText => b.inTableTextRules token
  | .inCaption => b.inCaptionRules token
  | .inColumnGroup => b.inColumnGroupRules token
  | .inTableBody => b.inTableBodyRules token
  | .inRow => b.inRowRules token
  | .inCell => b.inCellRules token
  | .inSelect => b.inSelectRules token
  | .inSelectInTable => b.inSelectInTableRules token
  | .inTemplate => b.inTemplateRules token
  | .afterBody => b.afterBodyRules token
  | .inFrameset => b.inFramesetRules token
  | .afterFrameset => b.afterFramesetRules token
  | .afterAfterBody => b.afterAfterBodyRules token
  | .afterAfterFrameset => b.afterAfterFramesetRules token

end DocSentences.Markup.Builder
