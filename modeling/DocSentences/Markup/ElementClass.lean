import DocSentences.Markup.Tree

/-!
# Classes of elements

The sets of element names on which tree construction depends: what bounds a scope, what may be
closed without an end tag, what cannot stand inside foreign content, and how foreign names are
spelled.
-/

namespace DocSentences.Markup

namespace Element

/-- Whether this is an element of a page with the given name. -/
def isHtml (e : Element) (name : String) : Bool :=
  e.space = .html && e.name = name

/-- Whether this is an element of a page with one of the given names. -/
def isHtmlIn (e : Element) (names : List String) : Bool :=
  e.space = .html && names.contains e.name

/-- Elements of a formula whose content is text of the page. -/
def isFormulaText (e : Element) : Bool :=
  e.space = .math && ["mi", "mo", "mn", "ms", "mtext"].contains e.name

/-- Elements of a drawing whose content is markup of the page. -/
def isDrawingMarkup (e : Element) : Bool :=
  e.space = .svg && ["foreignObject", "desc", "title"].contains e.name

/-- The elements that bound every scope. -/
def boundsScope (e : Element) : Bool :=
  e.isHtmlIn ["applet", "caption", "html", "table", "td", "th", "marquee", "object", "template"] ||
    e.isFormulaText || e.isDrawingMarkup

/-- The elements that bound the scope in which a list item is looked for. -/
def boundsListScope (e : Element) : Bool :=
  e.boundsScope || e.isHtmlIn ["ol", "ul"]

/-- The elements that bound the scope in which a paragraph is looked for. -/
def boundsButtonScope (e : Element) : Bool :=
  e.boundsScope || e.isHtml "button"

/-- The elements that bound the scope in which parts of a table are looked for. -/
def boundsTableScope (e : Element) : Bool :=
  e.isHtmlIn ["html", "table", "template"]

/-- The elements that bound the scope in which a selection list is looked for. -/
def boundsSelectScope (e : Element) : Bool :=
  !e.isHtmlIn ["optgroup", "option"]

/-- The elements that an unrelated end tag does not close. -/
def specialNames : List String :=
  ["address", "applet", "area", "article", "aside", "base", "basefont", "bgsound",
    "blockquote", "body", "br", "button", "caption", "center", "col", "colgroup", "dd",
    "details", "dir", "div", "dl", "dt", "embed", "fieldset", "figcaption", "figure",
    "footer", "form", "frame", "frameset", "h1", "h2", "h3", "h4", "h5", "h6", "head",
    "header", "hgroup", "hr", "html", "iframe", "img", "input", "isindex", "li", "link",
    "listing", "main", "marquee", "menu", "meta", "nav", "noembed", "noframes", "noscript",
    "object", "ol", "p", "param", "plaintext", "pre", "script", "section", "select", "source",
    "style", "summary", "table", "tbody", "td", "template", "textarea", "tfoot", "th",
    "thead", "title", "tr", "track", "ul", "wbr", "xmp"]

/-- Whether an unrelated end tag does not close this element. -/
def isSpecial (e : Element) : Bool :=
  e.isHtmlIn specialNames

end Element

/-- Headings. -/
def headingNames : List String := ["h1", "h2", "h3", "h4", "h5", "h6"]

/-- Elements whose end tag may be left out. -/
def impliedEndNames : List String :=
  ["dd", "dt", "li", "option", "optgroup", "p", "rb", "rp", "rt", "rtc"]

/-- Elements whose end tag may be left out, parts of tables included. -/
def thoroughImpliedEndNames : List String :=
  impliedEndNames ++ ["caption", "colgroup", "tbody", "td", "tfoot", "th", "thead", "tr"]

/-- Tags that belong into the head of a page. -/
def headNames : List String :=
  ["base", "basefont", "bgsound", "link", "meta", "noframes", "script", "style", "template",
    "title"]

/-- Tags that close an open paragraph. -/
def blockNames : List String :=
  ["address", "article", "aside", "blockquote", "center", "details", "dialog", "dir", "div", "dl",
    "fieldset", "figcaption", "figure", "footer", "header", "hgroup", "main", "menu", "nav", "ol",
    "p", "section", "summary", "ul"]

/-- End tags that close their element and what is open inside it. -/
def blockEndNames : List String :=
  ["address", "article", "aside", "blockquote", "button", "center", "details", "dialog", "dir",
    "div", "dl", "fieldset", "figcaption", "figure", "footer", "header", "hgroup", "listing",
    "main", "menu", "nav", "ol", "pre", "section", "summary", "ul"]

/-- Elements that format text and are opened again after a block has closed them. -/
def formattingNames : List String :=
  ["b", "big", "code", "em", "font", "i", "s", "small", "strike", "strong", "tt", "u"]

/-- The parts of a table, the table itself apart. -/
def tablePartNames : List String :=
  ["caption", "col", "colgroup", "tbody", "td", "tfoot", "th", "thead", "tr"]

/-- Tags that end foreign content. -/
def breakoutNames : List String :=
  ["b", "big", "blockquote", "body", "br", "center", "code", "dd", "div", "dl", "dt", "em", "embed",
    "h1", "h2", "h3", "h4", "h5", "h6", "head", "hr", "i", "img", "li", "listing", "menu", "meta",
    "nobr", "ol", "p", "pre", "ruby", "s", "small", "span", "strong", "strike", "sub", "sup",
    "table", "tt", "u", "ul", "var"]

/-- Names of drawing elements that are not in lower case. -/
def drawingNames : List String :=
  ["altGlyph", "altGlyphDef", "altGlyphItem", "animateColor", "animateMotion", "animateTransform",
    "clipPath", "feBlend", "feColorMatrix", "feComponentTransfer", "feComposite",
    "feConvolveMatrix", "feDiffuseLighting", "feDisplacementMap", "feDistantLight", "feDropShadow",
    "feFlood", "feFuncA", "feFuncB", "feFuncG", "feFuncR", "feGaussianBlur", "feImage", "feMerge",
    "feMergeNode", "feMorphology", "feOffset", "fePointLight", "feSpecularLighting", "feSpotLight",
    "feTile", "feTurbulence", "foreignObject", "glyphRef", "linearGradient", "radialGradient",
    "textPath"]

/-- Names of drawing attributes that are not in lower case. -/
def drawingAttributeNames : List String :=
  ["attributeName", "attributeType", "baseFrequency", "baseProfile", "calcMode", "clipPathUnits",
    "diffuseConstant", "edgeMode", "filterUnits", "glyphRef", "gradientTransform", "gradientUnits",
    "kernelMatrix", "kernelUnitLength", "keyPoints", "keySplines", "keyTimes", "lengthAdjust",
    "limitingConeAngle", "markerHeight", "markerUnits", "markerWidth", "maskContentUnits",
    "maskUnits", "numOctaves", "pathLength", "patternContentUnits", "patternTransform",
    "patternUnits", "pointsAtX", "pointsAtY", "pointsAtZ", "preserveAlpha", "preserveAspectRatio",
    "primitiveUnits", "refX", "refY", "repeatCount", "repeatDur", "requiredExtensions",
    "requiredFeatures", "specularConstant", "specularExponent", "spreadMethod", "startOffset",
    "stdDeviation", "stitchTiles", "surfaceScale", "systemLanguage", "tableValues", "targetX",
    "targetY", "textLength", "viewBox", "viewTarget", "xChannelSelector", "yChannelSelector",
    "zoomAndPan"]

/-- The letters of a name in lower case. -/
def lowerName (name : String) : String :=
  String.ofList (name.toList.map Char.toLower)

/-- The spelling of a name in a list of names, looked up without regard to case. -/
def spelledAs (spellings : List String) (name : String) : String :=
  (spellings.find? fun spelling => lowerName spelling = name).getD name

/-- An attribute of a foreign element, with the namespace that its name asks for. -/
def Attribute.foreign (a : Attribute) : Attribute :=
  match a.name with
  | "xlink:actuate" => { a with space := .xlink, name := "actuate" }
  | "xlink:arcrole" => { a with space := .xlink, name := "arcrole" }
  | "xlink:href" => { a with space := .xlink, name := "href" }
  | "xlink:role" => { a with space := .xlink, name := "role" }
  | "xlink:show" => { a with space := .xlink, name := "show" }
  | "xlink:title" => { a with space := .xlink, name := "title" }
  | "xlink:type" => { a with space := .xlink, name := "type" }
  | "xml:lang" => { a with space := .xml, name := "lang" }
  | "xml:space" => { a with space := .xml, name := "space" }
  | "xmlns" => { a with space := .xmlns }
  | "xmlns:xlink" => { a with space := .xmlns, name := "xlink" }
  | _ => a

/-- The attributes of an element in foreign content. -/
def foreignAttributes (space : Space) (attributes : List Attribute) : List Attribute :=
  attributes.map fun a =>
    let spelled := match space with
      | .html => a
      | .svg => { a with name := spelledAs drawingAttributeNames a.name }
      | .math => if a.name = "definitionurl" then { a with name := "definitionURL" } else a
    spelled.foreign

namespace Doctype

/-- Public identifiers of pages that were written for old rules. -/
def oldPublicIds : List String :=
  ["-//w3o//dtd w3 html strict 3.0//en//", "-/w3c/dtd html 4.0 transitional/en", "html"]

/-- How public identifiers of pages begin that were written for old rules. -/
def oldPublicPrefixes : List String :=
  ["+//silmaril//dtd html pro v0r11 19970101//",
    "-//advasoft ltd//dtd html 3.0 aswedit + extensions//",
    "-//as//dtd html 3.0 aswedit + extensions//", "-//ietf//dtd html 2.0 level 1//",
    "-//ietf//dtd html 2.0 level 2//", "-//ietf//dtd html 2.0 strict level 1//",
    "-//ietf//dtd html 2.0 strict level 2//", "-//ietf//dtd html 2.0 strict//",
    "-//ietf//dtd html 2.0//", "-//ietf//dtd html 2.1e//", "-//ietf//dtd html 3.0//",
    "-//ietf//dtd html 3.2 final//", "-//ietf//dtd html 3.2//", "-//ietf//dtd html 3//",
    "-//ietf//dtd html level 0//", "-//ietf//dtd html level 1//", "-//ietf//dtd html level 2//",
    "-//ietf//dtd html level 3//", "-//ietf//dtd html strict level 0//",
    "-//ietf//dtd html strict level 1//", "-//ietf//dtd html strict level 2//",
    "-//ietf//dtd html strict level 3//", "-//ietf//dtd html strict//", "-//ietf//dtd html//",
    "-//metrius//dtd metrius presentational//",
    "-//microsoft//dtd internet explorer 2.0 html strict//",
    "-//microsoft//dtd internet explorer 2.0 html//",
    "-//microsoft//dtd internet explorer 2.0 tables//",
    "-//microsoft//dtd internet explorer 3.0 html strict//",
    "-//microsoft//dtd internet explorer 3.0 html//",
    "-//microsoft//dtd internet explorer 3.0 tables//", "-//netscape comm. corp.//dtd html//",
    "-//netscape comm. corp.//dtd strict html//", "-//o'reilly and associates//dtd html 2.0//",
    "-//o'reilly and associates//dtd html extended 1.0//",
    "-//o'reilly and associates//dtd html extended relaxed 1.0//",
    "-//softquad software//dtd hotmetal pro 6.0::19990601::extensions to html 4.0//",
    "-//softquad//dtd hotmetal pro 4.0::19971010::extensions to html 4.0//",
    "-//spyglass//dtd html 2.0 extended//", "-//sq//dtd html 2.0 hotmetal + extensions//",
    "-//sun microsystems corp.//dtd hotjava html//",
    "-//sun microsystems corp.//dtd hotjava strict html//", "-//w3c//dtd html 3 1995-03-24//",
    "-//w3c//dtd html 3.2 draft//", "-//w3c//dtd html 3.2 final//", "-//w3c//dtd html 3.2//",
    "-//w3c//dtd html 3.2s draft//", "-//w3c//dtd html 4.0 frameset//",
    "-//w3c//dtd html 4.0 transitional//", "-//w3c//dtd html experimental 19960712//",
    "-//w3c//dtd html experimental 970421//", "-//w3c//dtd w3 html//", "-//w3o//dtd w3 html 3.0//",
    "-//webtechs//dtd mozilla html 2.0//", "-//webtechs//dtd mozilla html//"]

/-- How public identifiers of pages begin that follow old rules unless they name a system. -/
def oldPublicPrefixesAlone : List String :=
  ["-//w3c//dtd html 4.01 frameset//", "-//w3c//dtd html 4.01 transitional//"]

/-- System identifiers of pages that were written for old rules, after the scheme. -/
def oldSystemIds : List String :=
  ["//www.ibm.com/data/dtd/v11/ibmxhtml1-transitional.dtd"]

/-- Whether a page with this declaration follows the old rules, in which a table may stand inside a
paragraph. -/
def followsOldRules (d : Doctype) : Bool :=
  let publicId := d.publicId.map lowerName
  let systemId := d.systemId.map lowerName
  let publicStarts (starts : List String) := match publicId with
    | some id => starts.any fun start => start.toList.isPrefixOf id.toList
    | none => false
  d.isMalformed || d.name != some "html" ||
    (match publicId with | some id => oldPublicIds.contains id | none => false) ||
    (match systemId with
      | some id => oldSystemIds.any fun old => id = "http:" ++ old
      | none => false) ||
    publicStarts oldPublicPrefixes || (publicStarts oldPublicPrefixesAlone && systemId.isNone)

end Doctype

end DocSentences.Markup
