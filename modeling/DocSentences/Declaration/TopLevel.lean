import DocSentences.Declaration.Lexer

/-!
# Declarations at the top level

Source text is read just far enough to see the types that it declares outside all brackets, each
with the documentation comment before it. Braces and parentheses are opaque: inside the one only
braces are counted, inside the other only parentheses.
-/

namespace DocSentences

/-- The kinds of type. -/
inductive TypeKind
  | classType
  | interface
  | annotationType
  | enum
  | record
  deriving DecidableEq, Repr

/-- The name of a kind of type. -/
def TypeKind.name : TypeKind → String
  | .classType => "class"
  | .interface => "interface"
  | .annotationType => "annotation"
  | .enum => "enum"
  | .record => "record"

/-- A type declared at the top level of a source text, with the body of its documentation
comment. -/
structure Declaration where
  kind : TypeKind
  name : String
  comment : Option String
  deriving DecidableEq, Repr

namespace Declaration

/-- Why a source text has no list of declarations. -/
inductive SourceError
  | unterminated (kind : Unterminated) (line : Nat)
  /-- A parenthesis is still open at the end, on the given line. -/
  | unbalancedParentheses (line : Nat)
  /-- A closing brace has no opening one. -/
  | unbalancedBrace
  /-- A brace is still open at the end. -/
  | unclosedBlock
  deriving DecidableEq, Repr

/-- What is cut off, in words. -/
def Unterminated.message : Unterminated → String
  | .comment => "unterminated comment"
  | .stringLiteral => "unterminated string literal"
  | .textBlock => "unterminated text block"
  | .characterLiteral => "unterminated character literal"

/-- What is wrong with a source text, in words. -/
def SourceError.message : SourceError → String
  | .unterminated kind line => s!"{kind.message} (line {line})"
  | .unbalancedParentheses line => s!"unbalanced parentheses (line {line})"
  | .unbalancedBrace => "unbalanced '\x7d' at top level"
  | .unclosedBlock => "unexpected end of file inside a block"

/-- The brackets around the current token. -/
inductive Nesting
  | topLevel
  /-- Inside `deeper + 1` parentheses. -/
  | parentheses (deeper : Nat)
  /-- Inside `deeper + 1` braces. -/
  | braces (deeper : Nat)
  deriving DecidableEq, Repr

/-- What is known after some tokens. -/
structure Outline where
  nesting : Nesting
  /-- The documentation comment that waits for its declaration. -/
  pending : Option String
  /-- The kind of the declaration whose name comes next. -/
  expected : Option TypeKind
  /-- Whether the last token was `@`. -/
  afterAt : Bool
  /-- The declarations so far, the latest first. -/
  found : List Declaration
  deriving DecidableEq, Repr

namespace Outline

/-- Before the first token. -/
def start : Outline := ⟨.topLevel, none, none, false, []⟩

/-- The kind of declaration that a keyword announces. -/
def announced (afterAt : Bool) : String → Option TypeKind
  | "class" => some .classType
  | "interface" => some (if afterAt then .annotationType else .interface)
  | "enum" => some .enum
  | "record" => some .record
  | _ => none

/-- After a word at the top level: the name of the expected declaration, or a keyword, or a word
that means nothing here. -/
def word (o : Outline) (text : String) : Outline :=
  match o.expected with
  | some kind =>
      { o with pending := none, expected := none, afterAt := false,
               found := ⟨kind, text, o.pending⟩ :: o.found }
  | none =>
      if text = "package" ∨ text = "import" then { o with pending := none, afterAt := false }
      else { o with expected := announced o.afterAt text, afterAt := false }

/-- After one more token. -/
def step (o : Outline) (token : Token) : Except SourceError Outline :=
  match o.nesting with
  | .parentheses deeper =>
      match token with
      | .openParen => .ok { o with nesting := .parentheses (deeper + 1) }
      | .closeParen =>
          match deeper with
          | 0 => .ok { o with nesting := .topLevel }
          | outer + 1 => .ok { o with nesting := .parentheses outer }
      | _ => .ok o
  | .braces deeper =>
      match token with
      | .openBrace => .ok { o with nesting := .braces (deeper + 1) }
      | .closeBrace =>
          match deeper with
          | 0 => .ok { o with nesting := .topLevel }
          | outer + 1 => .ok { o with nesting := .braces outer }
      | _ => .ok o
  | .topLevel =>
      match token with
      | .docComment body => .ok { o with pending := some body, afterAt := false }
      | .comment => .ok { o with pending := none, afterAt := false }
      | .at => .ok { o with afterAt := true }
      | .word text => .ok (o.word text)
      | .openParen => .ok { o with nesting := .parentheses 0, afterAt := false }
      | .openBrace =>
          .ok { o with nesting := .braces 0, pending := none, expected := none, afterAt := false }
      | .closeBrace => .error .unbalancedBrace
      | .semicolon => .ok { o with pending := none, afterAt := false }
      | .closeParen | .literal | .other => .ok { o with afterAt := false }

/-- The declarations found, once the text has ended. -/
def finish (o : Outline) (ending : Ending) : Except SourceError (List Declaration) :=
  match ending, o.nesting with
  | .cutOff kind line, _ => .error (.unterminated kind line)
  | .complete line, .parentheses _ => .error (.unbalancedParentheses line)
  | .complete _, .braces _ => .error .unclosedBlock
  | .complete _, .topLevel => .ok o.found.reverse

end Outline

/-- The types declared at the top level of a source text, in order. -/
def topLevel (source : List Char) : Except SourceError (List Declaration) := do
  let ⟨tokens, ending⟩ := tokens source
  let outline ← tokens.foldlM Outline.step Outline.start
  outline.finish ending

/-- The first type with the given name: the one that the file of that name is about. -/
def primary? (source : List Char) (name : String) : Except SourceError (Option Declaration) := do
  let declarations ← topLevel source
  return declarations.find? (·.name = name)

end Declaration

end DocSentences
