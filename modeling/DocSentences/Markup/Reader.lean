import DocSentences.Markup.CharacterReference
import DocSentences.Markup.Construction
import DocSentences.Markup.Doctype

/-!
# Reading markup

The characters of a page are taken one by one. A reader remembers which part of a tag, a comment or
a text it is in, and hands each finished token to the tree under construction, which may answer that
the text that follows is not markup. Reading a page is therefore a left fold over its characters.
-/

namespace DocSentences.Markup

/-- How far a comment-like part of a script hides its end tag. -/
inductive Escape
  | escaped
  | doubleEscaped
  deriving DecidableEq, Repr

/-- The kinds of text that only the matching end tag ends. -/
inductive TextKind
  | escapable
  | plain
  | script
  | scriptEscaped (escape : Escape)
  deriving DecidableEq, Repr

/-- How an attribute value is written. -/
inductive Quoting
  | double
  | single
  | unquoted
  deriving DecidableEq, Repr

/-- Where a reader is. -/
inductive ReaderState
  | data
  | unending
  | text (kind : TextKind)
  | tagOpen
  | endTagOpen
  | tagName
  | textLessThan (kind : TextKind)
  | textEndTagOpen (kind : TextKind)
  | textEndTagName (kind : TextKind)
  | escapeStart (escape : Escape)
  | escapeStartDash
  | escapedDash (escape : Escape)
  | escapedDashDash (escape : Escape)
  | doubleEscapeEnd
  | beforeAttributeName
  | attributeName
  | afterAttributeName
  | beforeAttributeValue
  | attributeValue (quoting : Quoting)
  | afterAttributeValue
  | selfClosing
  | bogusComment
  /-- After `<!`, with the characters since then, the latest first. -/
  | declaration (read : List Char)
  | commentStart
  | commentStartDash
  | comment
  | commentEndDash
  | commentEnd
  | commentEndBang
  /-- Inside a document type, with its characters, the latest first. -/
  | doctype (read : List Char)
  | characterData
  | characterDataBracket
  | characterDataEnd
  deriving DecidableEq, Repr

/-- A character reference that is not complete. -/
inductive Reference
  /-- After the ampersand. -/
  | start
  /-- A name, the latest character first. -/
  | named (name : List Char)
  /-- After the number sign. -/
  | hash
  /-- Digits, the latest first, and the letter that makes them hexadecimal. -/
  | number (marker : Option Char) (digits : List Char)
  deriving DecidableEq, Repr

/-- A page that is being read. Texts under construction have their latest character first. -/
structure Reader where
  builder : Builder
  state : ReaderState
  reference : Option Reference
  isEndTag : Bool
  name : List Char
  attributes : List Attribute
  attributeName : List Char
  attributeValue : List Char
  isSelfClosing : Bool
  lastStartTag : String
  buffer : List Char
  comment : List Char

namespace Reader

/-- Before the first character. -/
def start (builder : Builder) : Reader where
  builder
  state := .data
  reference := none
  isEndTag := false
  name := []
  attributes := []
  attributeName := []
  attributeValue := []
  isSelfClosing := false
  lastStartTag := ""
  buffer := []
  comment := []

/-- Goes on in another state. -/
def enter (r : Reader) (state : ReaderState) : Reader := { r with state }

/-- Hands a token over. -/
def emit (r : Reader) (token : Token) : Reader := { r with builder := r.builder.receive token }

/-- Hands a character over. -/
def emitChar (r : Reader) (c : Char) : Reader := r.emit (.character c)

/-- Hands characters over. -/
def emitChars (r : Reader) (s : List Char) : Reader := s.foldl emitChar r

/-- Hands a character over; the null character is replaced. -/
def emitShown (r : Reader) (c : Char) : Reader :=
  r.emitChar (if c.toNat = 0 then '\uFFFD' else c)

/-- The replacement of the null character in names and values. -/
def shown (c : Char) : Char := if c.toNat = 0 then '\uFFFD' else c

/-- Starts a tag. -/
def createTag (r : Reader) (isEndTag : Bool) (c : Char) : Reader :=
  { r with
    isEndTag
    name := [c.toLower]
    attributes := []
    attributeName := []
    attributeValue := []
    isSelfClosing := false }

/-- Completes the attribute that was read; the first of several with one name counts. -/
def finishAttribute (r : Reader) : Reader :=
  if r.attributeName.isEmpty then r
  else
    let name := String.ofList r.attributeName.reverse
    let attributes :=
      if r.attributes.any (·.name = name) then r.attributes
      else ⟨.none, name, String.ofList r.attributeValue.reverse⟩ :: r.attributes
    { r with attributes, attributeName := [], attributeValue := [] }

/-- Starts an attribute. -/
def createAttribute (r : Reader) (c : Char) : Reader :=
  { r.finishAttribute with attributeName := [(shown c).toLower], state := .attributeName }

/-- Adds a character to the value of the attribute. -/
def pushValue (r : Reader) (c : Char) : Reader :=
  { r with attributeValue := c :: r.attributeValue }

/-- The state in which the text after a start tag is read. -/
def stateAfterTag : Option RawText → ReaderState
  | none => .data
  | some .escapable => .text .escapable
  | some .plain => .text .plain
  | some .script => .text .script
  | some .unending => .unending

/-- Hands the tag over. -/
def emitTag (r : Reader) : Reader :=
  let r := r.finishAttribute
  let tag : Tag := ⟨String.ofList r.name.reverse, r.attributes.reverse, r.isSelfClosing⟩
  if r.isEndTag then (r.enter .data).emit (.endTag tag)
  else
    let r := { r with lastStartTag := tag.name }.emit (.startTag tag)
    r.enter (stateAfterTag r.builder.rawText)

/-- Adds characters to the comment. -/
def pushComment (r : Reader) (s : List Char) : Reader :=
  { r with comment := s.reverse ++ r.comment }

/-- Hands the comment over. -/
def emitComment (r : Reader) : Reader :=
  (r.emit (.comment (String.ofList r.comment.reverse))).enter .data

/-- Hands a document type over. -/
def emitDoctype (r : Reader) (d : Doctype) : Reader := (r.emit (.doctype d)).enter .data

/-- Whether the end tag that is being read ends the text around it. -/
def isAppropriateEnd (r : Reader) : Bool :=
  r.isEndTag && String.ofList r.name.reverse = r.lastStartTag

/-- Whether markup may hold sections of character data here. -/
def allowsCharacterData (r : Reader) : Bool :=
  !r.builder.stack.isEmpty && r.builder.adjustedCurrent.space != .html

/-! What a character does in the states that others fall back on. -/

/-- Outside of tags. -/
def inData (r : Reader) (c : Char) : Reader :=
  if c = '&' then { r with reference := some .start, state := .data }
  else if c = '<' then r.enter .tagOpen
  else (r.enter .data).emitChar c

/-- Inside text that only its end tag ends. -/
def inText (r : Reader) (kind : TextKind) (c : Char) : Reader :=
  let r := r.enter (.text kind)
  if kind = .escapable && c = '&' then { r with reference := some .start }
  else if c = '<' then
    let r := if kind = .scriptEscaped .doubleEscaped then r.emitChar '<' else r
    r.enter (.textLessThan kind)
  else
    match kind with
    | .scriptEscaped escape =>
        if c = '-' then (r.emitChar '-').enter (.escapedDash escape) else r.emitShown c
    | _ => r.emitShown c

/-- Between the attributes of a tag. -/
def inBeforeAttributeName (r : Reader) (c : Char) : Reader :=
  if isSpace c then r.enter .beforeAttributeName
  else if c = '/' then r.enter .selfClosing
  else if c = '>' then r.emitTag
  else r.createAttribute c

/-- Inside an attribute value without quotes. -/
def inUnquotedValue (r : Reader) (c : Char) : Reader :=
  if isSpace c then r.enter .beforeAttributeName
  else if c = '>' then r.emitTag
  else
    let r := r.enter (.attributeValue .unquoted)
    if c = '&' then { r with reference := some .start } else r.pushValue (shown c)

/-- Inside a comment that is none. -/
def inBogusComment (r : Reader) (c : Char) : Reader :=
  if c = '>' then r.emitComment else (r.pushComment [shown c]).enter .bogusComment

/-- After `<!`: a comment, a document type, character data, or something that is read as a
comment. -/
def inDeclaration (r : Reader) (read : List Char) : Reader :=
  let text := read.reverse
  let lower := text.map Char.toLower
  let characterData := "[CDATA[".toList
  if text = ['-', '-'] then { r with comment := [], state := .commentStart }
  else if lower = "doctype".toList then r.enter (.doctype [])
  else if text = characterData && r.allowsCharacterData then r.enter .characterData
  else if text.isPrefixOf ['-', '-'] || lower.isPrefixOf "doctype".toList ||
      (text.isPrefixOf characterData && r.allowsCharacterData) then r.enter (.declaration read)
  else text.foldl inBogusComment { r with comment := [], state := .bogusComment }

/-- Takes one character, when no character reference is open. -/
def step (r : Reader) (c : Char) : Reader :=
  match r.state with
  | .data => r.inData c
  | .unending => r.emitShown c
  | .text kind => r.inText kind c
  | .tagOpen =>
      if c = '!' then r.enter (.declaration [])
      else if c = '/' then r.enter .endTagOpen
      else if c = '?' then { r with comment := [] }.inBogusComment c
      else if c.isAlpha then (r.createTag false c).enter .tagName
      else (r.emitChar '<').inData c
  | .endTagOpen =>
      if c = '>' then r.enter .data
      else if c.isAlpha then (r.createTag true c).enter .tagName
      else { r with comment := [] }.inBogusComment c
  | .tagName =>
      if isSpace c then r.enter .beforeAttributeName
      else if c = '/' then r.enter .selfClosing
      else if c = '>' then r.emitTag
      else { r with name := (shown c).toLower :: r.name }
  | .textLessThan (.scriptEscaped .doubleEscaped) =>
      if c = '/' then ({ r with buffer := [] }.emitChar '/').enter .doubleEscapeEnd
      else r.inText (.scriptEscaped .doubleEscaped) c
  | .textLessThan kind =>
      if c = '/' then { r with buffer := [], state := .textEndTagOpen kind }
      else if kind = .script && c = '!' then
        ((r.emitChar '<').emitChar '!').enter (.escapeStart .escaped)
      else if kind = .scriptEscaped .escaped && c.isAlpha then
        let r := ({ r with buffer := [c.toLower] }.emitChar '<').emitChar c
        r.enter (.escapeStart .doubleEscaped)
      else (r.emitChar '<').inText kind c
  | .textEndTagOpen kind =>
      if c.isAlpha then
        { r.createTag true c with buffer := c :: r.buffer, state := .textEndTagName kind }
      else ((r.emitChar '<').emitChar '/').inText kind c
  | .textEndTagName kind =>
      if r.isAppropriateEnd && isSpace c then r.enter .beforeAttributeName
      else if r.isAppropriateEnd && c = '/' then r.enter .selfClosing
      else if r.isAppropriateEnd && c = '>' then r.emitTag
      else if c.isAlpha then { r with name := c.toLower :: r.name, buffer := c :: r.buffer }
      else (r.emitChars ('<' :: '/' :: r.buffer.reverse)).inText kind c
  | .escapeStart .doubleEscaped =>
      if isSpace c || c = '/' || c = '>' then
        let escape := if r.buffer.reverse = "script".toList then .doubleEscaped else .escaped
        (r.emitChar c).enter (.text (.scriptEscaped escape))
      else if c.isAlpha then { r with buffer := c.toLower :: r.buffer }.emitChar c
      else r.inText (.scriptEscaped .escaped) c
  | .escapeStart .escaped =>
      if c = '-' then (r.emitChar '-').enter .escapeStartDash else r.inText .script c
  | .escapeStartDash =>
      if c = '-' then (r.emitChar '-').enter (.escapedDashDash .escaped) else r.inText .script c
  | .escapedDash escape =>
      if c = '-' then (r.emitChar '-').enter (.escapedDashDash escape)
      else r.inText (.scriptEscaped escape) c
  | .escapedDashDash escape =>
      if c = '-' then r.emitChar '-'
      else if c = '>' then (r.emitChar '>').enter (.text .script)
      else r.inText (.scriptEscaped escape) c
  | .doubleEscapeEnd =>
      if isSpace c || c = '/' || c = '>' then
        let escape := if r.buffer.reverse = "script".toList then .escaped else .doubleEscaped
        (r.emitChar c).enter (.text (.scriptEscaped escape))
      else if c.isAlpha then { r with buffer := c.toLower :: r.buffer }.emitChar c
      else r.inText (.scriptEscaped .doubleEscaped) c
  | .beforeAttributeName => r.inBeforeAttributeName c
  | .attributeName =>
      if isSpace c then r.enter .afterAttributeName
      else if c = '/' then r.enter .selfClosing
      else if c = '=' then r.enter .beforeAttributeValue
      else if c = '>' then r.emitTag
      else { r with attributeName := (shown c).toLower :: r.attributeName }
  | .afterAttributeName =>
      if isSpace c then r
      else if c = '/' then r.enter .selfClosing
      else if c = '=' then r.enter .beforeAttributeValue
      else if c = '>' then r.emitTag
      else r.createAttribute c
  | .beforeAttributeValue =>
      if isSpace c then r
      else if c = '"' then r.enter (.attributeValue .double)
      else if c = '\'' then r.enter (.attributeValue .single)
      else r.inUnquotedValue c
  | .attributeValue .unquoted => r.inUnquotedValue c
  | .attributeValue quoting =>
      if c = (if quoting = .double then '"' else '\'') then r.enter .afterAttributeValue
      else if c = '&' then { r with reference := some .start }
      else r.pushValue (shown c)
  | .afterAttributeValue => r.inBeforeAttributeName c
  | .selfClosing =>
      if c = '>' then { r with isSelfClosing := true }.emitTag else r.inBeforeAttributeName c
  | .bogusComment => r.inBogusComment c
  | .declaration read => r.inDeclaration (c :: read)
  | .commentStart =>
      if c = '-' then r.enter .commentStartDash
      else if c = '>' then r.emitComment
      else (r.pushComment [shown c]).enter .comment
  | .commentStartDash =>
      if c = '-' then r.enter .commentEnd
      else if c = '>' then r.emitComment
      else (r.pushComment ['-', shown c]).enter .comment
  | .comment => if c = '-' then r.enter .commentEndDash else r.pushComment [shown c]
  | .commentEndDash =>
      if c = '-' then r.enter .commentEnd else (r.pushComment ['-', shown c]).enter .comment
  | .commentEnd =>
      if c = '>' then r.emitComment
      else if c = '!' then r.enter .commentEndBang
      else if c = '-' then r.pushComment ['-']
      else (r.pushComment ['-', '-', shown c]).enter .comment
  | .commentEndBang =>
      if c = '-' then (r.pushComment ['-', '-', '!']).enter .commentEndDash
      else if c = '>' then r.emitComment
      else (r.pushComment ['-', '-', '!', shown c]).enter .comment
  | .doctype read =>
      if c = '>' then r.emitDoctype (.read read.reverse) else r.enter (.doctype (c :: read))
  | .characterData => if c = ']' then r.enter .characterDataBracket else r.emitChar c
  | .characterDataBracket =>
      if c = ']' then r.enter .characterDataEnd else (r.enter .characterData).emitChars [']', c]
  | .characterDataEnd =>
      if c = ']' then r.emitChar ']'
      else if c = '>' then r.enter .data
      else (r.enter .characterData).emitChars [']', ']', c]

/-- Puts the characters that a reference stands for where the reference stands. -/
def substitute (r : Reader) (s : List Char) : Reader :=
  match r.state with
  | .attributeValue _ => s.foldl pushValue r
  | _ => r.emitChars s

/-- Closes the open reference: what it stands for is put in its place, and the characters that
turned out not to belong to it are read again. -/
def resolve (r : Reader) (characters rest : List Char) : Reader :=
  rest.foldl step ({ r with reference := none }.substitute characters)

/-- Whether the reader is inside an attribute value. -/
def inAttribute (r : Reader) : Bool :=
  match r.state with
  | .attributeValue _ => true
  | _ => false

/-- Closes a reference by name, with the characters since the ampersand. -/
def resolveNamed (r : Reader) (name : List Char) : Reader :=
  let (characters, rest) := namedReference r.inAttribute name
  r.resolve characters rest

/-- Closes a reference by number, with what was read after it. -/
def resolveNumber (r : Reader) (marker : Option Char) (digits after : List Char) : Reader :=
  if digits.isEmpty then r.resolve ['&'] ('#' :: marker.toList ++ after)
  else
    let base := if marker.isSome then 16 else 10
    let rest := match after with
      | ';' :: more => more
      | _ => after
    r.resolve [numericReference (numberOf base digits.reverse)] rest

/-- Whether a character is a digit of a numeric reference. -/
def isDigitOf (marker : Option Char) (c : Char) : Bool :=
  c.isDigit || (marker.isSome && (('a' ≤ c && c ≤ 'f') || ('A' ≤ c && c ≤ 'F')))

/-- Takes one character. -/
def feed (r : Reader) (c : Char) : Reader :=
  match r.reference with
  | none => r.step c
  | some .start =>
      if c.isAlphanum then { r with reference := some (.named [c]) }
      else if c = '#' then { r with reference := some .hash }
      else r.resolve ['&'] [c]
  | some (.named name) =>
      if c.isAlphanum then { r with reference := some (.named (c :: name)) }
      else r.resolveNamed (c :: name).reverse
  | some .hash =>
      if c = 'x' || c = 'X' then { r with reference := some (.number (some c) []) }
      else if c.isDigit then { r with reference := some (.number none [c]) }
      else r.resolve ['&'] ['#', c]
  | some (.number marker digits) =>
      if isDigitOf marker c then { r with reference := some (.number marker (c :: digits)) }
      else r.resolveNumber marker digits [c]

/-- Closes a reference that the end of the page cuts off. -/
def endReference (r : Reader) : Reader :=
  match r.reference with
  | none => r
  | some .start => r.resolve ['&'] []
  | some (.named name) => r.resolveNamed name.reverse
  | some .hash => r.resolve ['&'] ['#']
  | some (.number marker digits) => r.resolveNumber marker digits []

/-- Hands over what the end of the page cuts off, as far as it is shown. -/
def endState (r : Reader) : Reader :=
  match r.state with
  | .tagOpen => r.emitChar '<'
  | .endTagOpen => r.emitChars ['<', '/']
  | .textLessThan (.scriptEscaped .doubleEscaped) => r
  | .textLessThan _ => r.emitChar '<'
  | .textEndTagOpen _ => r.emitChars ['<', '/']
  | .textEndTagName _ => r.emitChars ('<' :: '/' :: r.buffer.reverse)
  | .bogusComment | .commentStart | .commentStartDash | .comment | .commentEndDash
  | .commentEnd | .commentEndBang => r.emitComment
  | .declaration read => { r with comment := read }.emitComment
  | .doctype read => r.emitDoctype { Doctype.read read.reverse with isMalformed := true }
  | .characterDataBracket => r.emitChar ']'
  | .characterDataEnd => r.emitChars [']', ']']
  | _ => r

/-- The tree of what was read. -/
def finish (r : Reader) : Tree :=
  (r.endReference.endState.emit .endOfFile).builder.tree

end Reader

/-- Line ends as single line feeds. -/
def unifyLineEnds : List Char → List Char
  | [] => []
  | '\r' :: '\n' :: rest => '\n' :: unifyLineEnds rest
  | '\r' :: rest => '\n' :: unifyLineEnds rest
  | c :: rest => c :: unifyLineEnds rest

/-- A text without the mark that may stand at its start. -/
def dropMark : List Char → List Char
  | '\uFEFF' :: rest => rest
  | s => s

/-- The characters that reading a page starts from. -/
def prepare (s : List Char) : List Char := unifyLineEnds (dropMark s)

/-- Reads a text into a tree under construction. -/
def readInto (builder : Builder) (s : List Char) : Tree :=
  ((prepare s).foldl Reader.feed (Reader.start builder)).finish

/-- The tree of a page. -/
def parseDocument (s : List Char) : Tree := readInto .start s

/-- The tree of a fragment of the body of a page. -/
def parseFragment (s : List Char) : Tree := readInto (.startFragment "body") s

end DocSentences.Markup
