import DocSentences.Text.Quoted
import DocSentences.Text.SinglePrecision

/-!
# Tokens of selectors

A selector is cut into the tokens of style sheets, and the tokens between two brackets become one
component. A bracket that is never closed reaches to the end, and one that closes nothing is a
token.
-/

namespace DocSentences.Selector

/-- A number as it is written: its value is the significand times a power of ten. -/
structure Numeral where
  hasSign : Bool
  isNegative : Bool
  significand : Nat
  exponent : Int
  /-- Whether it is written without a point and without an exponent. -/
  isInteger : Bool
  deriving DecidableEq, Repr

/-- A token. -/
inductive Token
  | ident (name : String)
  | atKeyword (name : String)
  /-- A number sign and a name that is no identifier. -/
  | hash (name : String)
  /-- A number sign and an identifier. -/
  | idHash (name : String)
  | string (text : String)
  | url (text : String)
  | delim (c : Char)
  | number (n : Numeral)
  | percentage (n : Numeral)
  | dimension (n : Numeral) (unit : String)
  | space
  | colon
  | semicolon
  | comma
  | includeMatch
  | dashMatch
  | prefixMatch
  | suffixMatch
  | substringMatch
  | commentOpen
  | commentClose
  /-- A name and an opening parenthesis. -/
  | function (name : String)
  | openParen
  | openSquare
  | openCurly
  | badUrl (text : String)
  | badString (text : String)
  | closeParen
  | closeSquare
  | closeCurly
  deriving DecidableEq, Repr

/-- The value of a number token as an integer of 32 bits, the nearest one if it is too large. -/
def Numeral.int? (n : Numeral) : Option Int :=
  if n.isInteger then
    let value : Int := if n.isNegative then -(n.significand : Int) else n.significand
    some (max (-2147483648) (min 2147483647 value))
  else none

/-- A number as it is shown: a sign that was written is shown in front of the value's own. -/
def Numeral.text (n : Numeral) (shift : Int) : List Char :=
  let size := SinglePrecision.text n.significand (n.exponent + shift)
  let value := if n.isNegative then '-' :: size else size
  if !n.hasSign then value
  else if !n.isNegative && size ≠ ['0'] then '+' :: value else '-' :: value

/-- A token as a message shows it. -/
def Token.text : Token → List Char
  | .ident name => name.toList
  | .atKeyword name => '@' :: name.toList
  | .hash name | .idHash name => '#' :: name.toList
  | .string text => '"' :: text.toList ++ ['"']
  | .url text => "url(".toList ++ text.toList ++ [')']
  | .delim c => [c]
  | .number n => n.text 0
  | .percentage n => n.text (-2) ++ ['%']
  | .dimension n unit => n.text 0 ++ unit.toList
  | .space => [' ']
  | .colon => [':']
  | .semicolon => [';']
  | .comma => [',']
  | .includeMatch => "~=".toList
  | .dashMatch => "|=".toList
  | .prefixMatch => "^=".toList
  | .suffixMatch => "$=".toList
  | .substringMatch => "*=".toList
  | .commentOpen => "<!--".toList
  | .commentClose => "-->".toList
  | .function name => name.toList ++ ['(', ')']
  | .openParen => ['<', '(']
  | .openSquare => ['<', '[']
  | .openCurly => ['<', '\x7b']
  | .badUrl text => "<Bad URL ".toList ++ Text.quoted text.toList ++ ['>']
  | .badString text => "<Bad String ".toList ++ Text.quoted text.toList ++ ['>']
  | .closeParen => ['<', ')']
  | .closeSquare => ['<', ']']
  | .closeCurly => ['<', '\x7d']

/-- Whether a token can only be a mistake. -/
def Token.isMistake : Token → Bool
  | .badUrl _ | .badString _ | .closeParen | .closeSquare | .closeCurly => true
  | _ => false

/-- The token that closes what a token opens. -/
def Token.closing? : Token → Option Token
  | .function _ | .openParen => some .closeParen
  | .openSquare => some .closeSquare
  | .openCurly => some .closeCurly
  | _ => none

/-- A token, or all that lies between two brackets. -/
inductive Component
  | token (token : Token)
  | block (opening : Token) (content : List Component)

/-- The first token of a component. -/
def Component.head : Component → Token
  | .token t => t
  | .block opening _ => opening

/-- Blocks that are open, the innermost first, each with the components in it so far, the latest
first. -/
abbrev OpenBlocks := List (Token × List Component)

/-- Adds a component to the innermost block, or to what is outside of all blocks. -/
def addComponent (c : Component) : OpenBlocks × List Component → OpenBlocks × List Component
  | ([], outside) => ([], c :: outside)
  | ((opening, content) :: blocks, outside) => ((opening, c :: content) :: blocks, outside)

/-- Takes one more token. -/
def addToken (state : OpenBlocks × List Component) (t : Token) : OpenBlocks × List Component :=
  match t.closing?, state with
  | some _, (blocks, outside) => ((t, []) :: blocks, outside)
  | none, ((opening, content) :: blocks, outside) =>
      if opening.closing? = some t then
        addComponent (.block opening content.reverse) (blocks, outside)
      else addComponent (.token t) state
  | none, ([], _) => addComponent (.token t) state

/-- Closes all open blocks. -/
def closeBlocks : OpenBlocks → List Component → List Component
  | [], outside => outside
  | [(opening, content)], outside => .block opening content.reverse :: outside
  | (opening, content) :: (outer, more) :: blocks, outside =>
      closeBlocks ((outer, .block opening content.reverse :: more) :: blocks) outside
termination_by blocks => blocks.length

/-- The components that tokens make up. -/
def components (tokens : List Token) : List Component :=
  let (blocks, outside) := tokens.foldl addToken ([], [])
  (closeBlocks blocks outside).reverse

end DocSentences.Selector
