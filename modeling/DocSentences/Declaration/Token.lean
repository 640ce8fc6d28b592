import DocSentences.Text.Blank
import DocSentences.Text.Letters

/-!
# Tokens of source text

Source text is cut into just enough tokens to see what stands at its top level: comments, words,
brackets, literals. Reading keeps count of lines, so that an unterminated token is reported with the
line on which it is found to be cut off.
-/

namespace DocSentences.Declaration

/-- A token of source text. What a literal or a plain comment holds does not matter. -/
inductive Token
  /-- A comment that opens with two stars, with the text between its delimiters. -/
  | docComment (body : String)
  | comment
  | word (text : String)
  | at
  | openBrace
  | closeBrace
  | openParen
  | closeParen
  | semicolon
  | literal
  | other
  deriving DecidableEq, Repr

/-- A token that can be cut off. -/
inductive Unterminated
  | comment
  | stringLiteral
  | textBlock
  | characterLiteral
  deriving DecidableEq, Repr

/-- A position in a source text: what is left to read, and the number of the current line. -/
structure Cursor where
  rest : List Char
  line : Nat
  deriving DecidableEq, Repr

/-- The line after a character. -/
def lineAfter (c : Char) (line : Nat) : Nat :=
  if c = '\n' then line + 1 else line

/-- Skips blank characters. -/
def skipBlank : List Char → Nat → Cursor
  | [], line => ⟨[], line⟩
  | c :: rest, line =>
      if Text.isBlank c then skipBlank rest (lineAfter c line) else ⟨c :: rest, line⟩

/-- Whether a character can begin a word. -/
def startsWord (c : Char) : Bool :=
  Text.isAlphabetic c || c = '_' || c = '$'

/-- Whether a character can continue a word. -/
def continuesWord (c : Char) : Bool :=
  Text.isAlphanumeric c || c = '_' || c = '$'

/-- The result of looking for the end of a token: the position after it, or the position at which
it is cut off. -/
abbrev Closed (α : Type) := Except Cursor (α × Cursor)

/-- Reads a comment up to the star and slash that close it, and gives what stands before them. -/
def closeComment : List Char → Nat → Closed (List Char)
  | [], line => .error ⟨[], line⟩
  | '*' :: '/' :: rest, line => .ok ([], ⟨rest, line⟩)
  | c :: rest, line =>
      match closeComment rest (lineAfter c line) with
      | .ok (content, after) => .ok (c :: content, after)
      | .error cursor => .error cursor

/-- Reads a literal up to the quote that closes it, on the same line. A backslash takes the next
character with it. -/
def closeQuote (quote : Char) : List Char → Nat → Closed Unit
  | [], line => .error ⟨[], line⟩
  | '\\' :: [], line => .error ⟨[], line⟩
  | '\\' :: c :: rest, line => closeQuote quote rest (lineAfter c line)
  | c :: rest, line =>
      if c = quote then .ok ((), ⟨rest, line⟩)
      else if c = '\n' then .error ⟨rest, line + 1⟩
      else closeQuote quote rest line

/-- Reads a text block up to the three quotes that close it. -/
def closeTextBlock : List Char → Nat → Closed Unit
  | [], line => .error ⟨[], line⟩
  | '\\' :: [], line => .error ⟨[], line⟩
  | '\\' :: c :: rest, line => closeTextBlock rest (lineAfter c line)
  | '"' :: '"' :: '"' :: rest, line => .ok ((), ⟨rest, line⟩)
  | c :: rest, line => closeTextBlock rest (lineAfter c line)

/-- One step of reading: a token and the position after it, or a token that is cut off and where. -/
abbrev Lexed := Except (Unterminated × Cursor) (Token × Cursor)

/-- Names what is cut off. -/
def Closed.lexed {α : Type} (kind : Unterminated) (token : α → Token) (closed : Closed α) : Lexed :=
  match closed with
  | .ok (content, after) => .ok (token content, after)
  | .error cursor => .error (kind, cursor)

/-- The token that begins with the character `c`, which is not blank. -/
def lexFrom (c : Char) (rest : List Char) (line : Nat) : Lexed :=
  match c, rest with
  | '/', '/' :: _ => .ok (.comment, ⟨rest.dropWhile (· != '\n'), line⟩)
  | '/', '*' :: '*' :: '/' :: after => .ok (.comment, ⟨after, line⟩)
  | '/', '*' :: '*' :: content =>
      (closeComment content line).lexed .comment fun body => .docComment (String.ofList body)
  | '/', '*' :: content => (closeComment content line).lexed .comment fun _ => .comment
  | '"', '"' :: '"' :: content => (closeTextBlock content line).lexed .textBlock fun _ => .literal
  | '"', _ => (closeQuote '"' rest line).lexed .stringLiteral fun _ => .literal
  | '\'', _ => (closeQuote '\'' rest line).lexed .characterLiteral fun _ => .literal
  | '{', _ => .ok (.openBrace, ⟨rest, line⟩)
  | '}', _ => .ok (.closeBrace, ⟨rest, line⟩)
  | '(', _ => .ok (.openParen, ⟨rest, line⟩)
  | ')', _ => .ok (.closeParen, ⟨rest, line⟩)
  | ';', _ => .ok (.semicolon, ⟨rest, line⟩)
  | '@', _ => .ok (.at, ⟨rest, line⟩)
  | _, _ =>
      if startsWord c then
        .ok (.word (String.ofList (c :: rest.takeWhile continuesWord)),
          ⟨rest.dropWhile continuesWord, line⟩)
      else .ok (.other, ⟨rest, line⟩)

/-- How the tokens of a source text end: with the text, on the given line, or with a token that is
cut off there. -/
inductive Ending
  | complete (line : Nat)
  | cutOff (kind : Unterminated) (line : Nat)
  deriving DecidableEq, Repr

/-- The tokens of a source text, up to its end or to the first token that is cut off. -/
structure Tokens where
  tokens : List Token
  ending : Ending
  deriving DecidableEq, Repr

end DocSentences.Declaration
