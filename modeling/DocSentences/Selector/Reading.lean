import DocSentences.Selector.Basic
import DocSentences.Selector.Lexer

/-!
# Reading selectors

A selector is read left to right. What cannot be read is an error that names the token found, or one
of a large class that is only reported as such; alternatives of `:is` and `:where` that cannot be
read match nothing instead. Pseudo-elements, and classes that depend on a reader, are not known.
-/

namespace DocSentences.Selector

/-- Why a text is no selector. -/
inductive Cause
  | unexpectedToken (token : Token)
  | endOfInput
  /-- A name has to follow a colon. -/
  | expectedName (token : Token)
  /-- Anything else. -/
  | unsupported
  deriving DecidableEq, Repr

/-- What is wrong with a selector, in words. -/
def Cause.message : Cause → String
  | .unexpectedToken token =>
      "Token " ++ String.ofList (Text.quoted token.text) ++ " was not expected"
  | .endOfInput => "Unexpected EOL"
  | .expectedName token =>
      "Expected identity for pseudoelement, got " ++ String.ofList (Text.quoted token.text) ++
        " instead"
  | .unsupported => "Unexpected error occurred. Please report this to the developer"

/-- A cause, and the components after the place where it was found. -/
structure Failure where
  cause : Cause
  rest : List Component

/-- What was read, and the components after it. -/
abbrev Read (α : Type) := Except Failure (α × List Component)

/-- Drops blank space. -/
def skipSpace : List Component → List Component
  | .token .space :: rest => skipSpace rest
  | s => s

/-- Succeeds if nothing but blank space is left. -/
def expectEnd (s : List Component) : Except Failure Unit :=
  match skipSpace s with
  | [] => .ok ()
  | c :: _ => .error ⟨.unexpectedToken c.head, s⟩

/-- Names of attributes whose values have no case in a page. -/
def caselessAttributes : List String :=
  ["accept", "accept-charset", "align", "alink", "axis", "bgcolor", "charset", "checked", "clear",
    "codetype", "color", "compact", "declare", "defer", "dir", "direction", "disabled", "enctype",
    "face", "frame", "hreflang", "http-equiv", "lang", "language", "link", "media", "method",
    "multiple", "nohref", "noresize", "noshade", "nowrap", "readonly", "rel", "rev", "rules",
    "scope", "scrolling", "selected", "shape", "target", "text", "type", "valign", "valuetype",
    "vlink"]

/-- The ASCII letters of a name in lower case. -/
def lower (name : String) : String := String.ofList (name.toList.map Char.toLower)

/-- The namespace that a name asks for. -/
inductive NameSpace
  | implicit
  | any
  | none
  deriving DecidableEq, Repr

/-- Reads a name, or a star where one may stand, after the bar of a namespace. -/
def nameAfterBar (inAttribute : Bool) (space : NameSpace) :
    List Component → Read (Option (NameSpace × Option String))
  | [] => .error ⟨.endOfInput, []⟩
  | .token (.ident name) :: rest => .ok (some (space, some name), rest)
  | .token (.delim '*') :: rest =>
      if inAttribute then .error ⟨.unsupported, rest⟩ else .ok (some (space, none), rest)
  | _ :: rest => .error ⟨.unsupported, rest⟩

/-- Reads a name with the namespace in front of it; `none` if no name stands here. -/
def qualifiedName (inAttribute : Bool) :
    List Component → Read (Option (NameSpace × Option String))
  | [] => .error ⟨.endOfInput, []⟩
  | .token (.ident _) :: .token (.delim '|') :: rest => .error ⟨.unsupported, rest⟩
  | .token (.ident name) :: rest => .ok (some (.implicit, some name), rest)
  | .token (.delim '*') :: .token (.delim '|') :: rest => nameAfterBar inAttribute .any rest
  | .token (.delim '*') :: rest =>
      if inAttribute then
        match rest with
        | [] => .error ⟨.endOfInput, []⟩
        | _ :: rest => .error ⟨.unsupported, rest⟩
      else .ok (some (.implicit, none), rest)
  | .token (.delim '|') :: rest => nameAfterBar inAttribute .none rest
  | s => .ok (none, s)

/-- The operator that a token stands for. -/
def operator? : Token → Option AttributeOperator
  | .delim '=' => some .equals
  | .includeMatch => some .includes
  | .dashMatch => some .dashMatch
  | .prefixMatch => some .startsWith
  | .suffixMatch => some .endsWith
  | .substringMatch => some .contains
  | _ => none

/-- Reads whether case matters in a value. -/
def caseRule (space : NameSpace) (name : String) (s : List Component) : Read CaseRule :=
  match skipSpace s with
  | [] =>
      let caseless := space ≠ .any && caselessAttributes.contains (lower name)
      .ok (if caseless then .insensitiveInHtml else .sensitive, [])
  | c :: rest =>
      match c with
      | .token (.ident flag) =>
          match lower flag with
          | "i" => .ok (.insensitive, rest)
          | "s" => .ok (.sensitive, rest)
          | _ => .error ⟨.unexpectedToken c.head, rest⟩
      | _ => .error ⟨.unexpectedToken c.head, rest⟩

/-- Reads a condition on attributes: all that is between two square brackets. -/
def attributeTest (s : List Component) : Except Failure AttributeTest := do
  match ← qualifiedName true (skipSpace s) with
  | (some (space, some name), rest) =>
      let anySpace := space = .any
      match skipSpace rest with
      | [] => return ⟨anySpace, name, none⟩
      | c :: rest =>
          match operator? c.head with
          | none => .error ⟨.unsupported, rest⟩
          | some operator =>
              match skipSpace rest with
              | [] => .error ⟨.endOfInput, []⟩
              | .token (.ident value) :: rest | .token (.string value) :: rest =>
                  let (rule, rest) ← caseRule space name rest
                  expectEnd rest
                  return ⟨anySpace, name, some (operator, rule, value)⟩
              | _ :: rest => .error ⟨.unsupported, rest⟩
  | (_, rest) => .error ⟨.unsupported, rest⟩

/-- The value of a unit such as `n-12` that ends in a negative number. -/
def negativeOffset? (name : List Char) : Option Int :=
  match name with
  | n :: '-' :: digits =>
      if n.toLower = 'n' && !digits.isEmpty && digits.all Char.isDigit then
        some (max (-2147483648) (-(decimal digits : Int)))
      else none
  | _ => none

/-- Reads a number without a sign, to be taken with the given one. -/
def unsignedOffset (step sign : Int) (s : List Component) : Read (Int × Int) :=
  match skipSpace s with
  | [] => .error ⟨.endOfInput, []⟩
  | c :: rest =>
      match c.head with
      | .number n =>
          match n.hasSign, n.int? with
          | false, some value => .ok ((step, sign * value), rest)
          | _, _ => .error ⟨.unexpectedToken c.head, rest⟩
      | _ => .error ⟨.unexpectedToken c.head, rest⟩

/-- Reads the number that may follow a step. -/
def offset (step : Int) (s : List Component) : Read (Int × Int) :=
  match skipSpace s with
  | .token (.delim '+') :: rest => unsignedOffset step 1 rest
  | .token (.delim '-') :: rest => unsignedOffset step (-1) rest
  | .token (.number n) :: rest =>
      match n.hasSign, n.int? with
      | true, some value => .ok ((step, value), rest)
      | _, _ => .ok ((step, 0), s)
  | _ => .ok ((step, 0), s)

/-- Reads what follows a unit or a name that begins with the letter n. -/
def afterLetter (step : Int) (name : String) (rest : List Component) : Read (Int × Int) :=
  match lower name with
  | "n" => offset step rest
  | "n-" => unsignedOffset step (-1) rest
  | _ =>
      match negativeOffset? name.toList with
      | some value => .ok ((step, value), rest)
      | none => .error ⟨.unexpectedToken (.ident name), rest⟩

/-- Reads a step and an offset. -/
def stepAndOffset (s : List Component) : Read (Int × Int) :=
  match skipSpace s with
  | [] => .error ⟨.endOfInput, []⟩
  | c :: rest =>
      let unexpected : Read (Int × Int) := .error ⟨.unexpectedToken c.head, rest⟩
      match c.head with
      | .number n =>
          match n.int? with
          | some value => .ok ((0, value), rest)
          | none => unexpected
      | .dimension n unit =>
          match n.int? with
          | some step => afterLetter step unit rest
          | none => unexpected
      | .ident name =>
          match lower name with
          | "even" => .ok ((2, 0), rest)
          | "odd" => .ok ((2, 1), rest)
          | _ =>
              match name.toList with
              | '-' :: unsigned =>
                  match afterLetter (-1) (String.ofList unsigned) rest with
                  | .error ⟨.unexpectedToken (.ident _), rest⟩ =>
                      if [['-', 'n'], ['-', 'n', '-']].contains (lower name).toList then
                        afterLetter (-1) (String.ofList unsigned) rest
                      else .error ⟨.unexpectedToken (.ident name), rest⟩
                  | found => found
              | _ => afterLetter 1 name rest
      | .delim '+' =>
          match rest with
          | [] => .error ⟨.endOfInput, []⟩
          | next :: rest =>
              match next.head with
              | .ident name => afterLetter 1 name rest
              | token => .error ⟨.unexpectedToken token, rest⟩
      | _ => unexpected

/-- The condition that a pseudo-class without arguments stands for. -/
def plainClass? : String → Option Simple
  | "first-child" => some (.nth false false 0 1)
  | "last-child" => some (.nth false true 0 1)
  | "only-child" => some (.only false)
  | "first-of-type" => some (.nth true false 0 1)
  | "last-of-type" => some (.nth true true 0 1)
  | "only-of-type" => some (.only true)
  | "root" => some .root
  | "scope" => some .root
  | "empty" => some .empty
  | _ => none

/-- Whether the counting pseudo-class of the given name counts elements of one type, and from
the end. -/
def counting? : String → Option (Bool × Bool)
  | "nth-child" => some (false, false)
  | "nth-last-child" => some (false, true)
  | "nth-of-type" => some (true, false)
  | "nth-last-of-type" => some (true, true)
  | _ => none

/-- Pseudo-elements that may be written with one colon. -/
def oldPseudoElements : List String := ["before", "after", "first-line", "first-letter"]

/-- Reads a combinator, if one stands here before another compound. -/
def combinator? (s : List Component) : Option (Combinator × List Component) :=
  match skipSpace s with
  | [] => none
  | .token (.delim '>') :: rest => some (.child, rest)
  | .token (.delim '+') :: rest => some (.nextSibling, rest)
  | .token (.delim '~') :: rest => some (.laterSibling, rest)
  | after =>
      match s with
      | .token .space :: _ => some (.descendant, after)
      | _ => none

/-- The components between commas. -/
def betweenCommas (s : List Component) : List (List Component) :=
  s.splitOnP fun c => match c with
    | .token .comma => true
    | _ => false

mutual

/-- The first token that can only be a mistake, inside blocks too. -/
def mistake? : Component → Option Token
  | .token t => if t.isMistake then some t else none
  | .block _ content => mistakeIn? content

/-- The first token of some components that can only be a mistake. -/
def mistakeIn? : List Component → Option Token
  | [] => none
  | c :: rest => (mistake? c).or (mistakeIn? rest)

end

/-- Reads a type selector, if one stands here. -/
def typeSelector (s : List Component) : Read (Option (List Simple)) :=
  match qualifiedName false s with
  | .ok (none, rest) => .ok (none, rest)
  | .ok (some (space, name?), rest) =>
      let name := match name? with
        | some name => Simple.typeName name
        | none => Simple.anyElement
      .ok (some (if space = .none then [.noSpace, name] else [name]), rest)
  | .error ⟨.endOfInput, rest⟩ => .ok (none, rest)
  | .error failure => .error failure

mutual

/-- Reads one condition other than a type, if one stands here. -/
def simple (insideHas : Bool) : Nat → List Component → Read (Option Simple)
  | 0, s => .error ⟨.unsupported, s⟩
  | fuel + 1, s =>
      match s with
      | .token (.idHash name) :: rest => .ok (some (.id name), rest)
      | .token (.delim '.') :: rest =>
          match rest with
          | [] => .error ⟨.endOfInput, []⟩
          | .token (.ident name) :: rest => .ok (some (.className name), rest)
          | _ :: rest => .error ⟨.unsupported, rest⟩
      | .block .openSquare content :: rest =>
          match attributeTest content with
          | .ok test => .ok (some (.attribute test), rest)
          | .error failure => .error ⟨failure.cause, rest⟩
      | .token .colon :: .token .colon :: rest =>
          match rest with
          | [] => .error ⟨.endOfInput, []⟩
          | .token (.ident _) :: rest | .block (.function _) _ :: rest =>
              .error ⟨.unsupported, rest⟩
          | c :: rest => .error ⟨.expectedName c.head, rest⟩
      | .token .colon :: rest =>
          match rest with
          | [] => .error ⟨.endOfInput, []⟩
          | .token (.ident name) :: rest =>
              match plainClass? (lower name) with
              | some condition => .ok (some condition, rest)
              | none => .error ⟨.unsupported, rest⟩
          | .block (.function name) content :: rest =>
              match functionalClass insideHas (lower name) fuel content with
              | .ok condition => .ok (some condition, rest)
              | .error cause => .error ⟨cause, rest⟩
          | c :: rest => .error ⟨.expectedName c.head, rest⟩
      | _ => .ok (none, s)

/-- Reads a pseudo-class with arguments, of which all components are given. -/
def functionalClass (insideHas : Bool) (name : String) :
    Nat → List Component → Except Cause Simple
  | 0, _ => .error .unsupported
  | fuel + 1, content =>
      match counting? name with
      | some (ofType, fromEnd) =>
          match stepAndOffset content with
          | .error failure => .error failure.cause
          | .ok ((step, offset), rest) =>
              match expectEnd rest with
              | .error failure => .error failure.cause
              | .ok () => .ok (.nth ofType fromEnd step offset)
      | none =>
          if oldPseudoElements.contains name then .error .unsupported
          else
            match name with
            | "is" | "where" =>
                match readAlternatives insideHas true false fuel (betweenCommas content) with
                | .ok found => .ok (.anyOf found)
                | .error cause => .error cause
            | "not" =>
                match readAlternatives insideHas false false fuel (betweenCommas content) with
                | .ok found => .ok (.noneOf found)
                | .error cause => .error cause
            | "has" =>
                if insideHas then .error .unsupported
                else
                  match readAlternatives true false true fuel (betweenCommas content) with
                  | .ok found => .ok (.holds found)
                  | .error cause => .error cause
            | _ => .error .unsupported

/-- Reads the conditions of a compound after those that are known already. -/
def conditions (insideHas : Bool) (known : List Simple) :
    Nat → List Component → Read (List Simple)
  | 0, s => .error ⟨.unsupported, s⟩
  | fuel + 1, s =>
      match simple insideHas fuel s with
      | .error failure => .error failure
      | .ok (none, rest) => .ok (known, rest)
      | .ok (some condition, rest) => conditions insideHas (known ++ [condition]) fuel rest

/-- Reads a compound, and all that follows it in its chain. `before` is the chain up to it. -/
def chain (insideHas : Bool) (before : Option (Complex × Combinator)) :
    Nat → List Component → Read Complex
  | 0, s => .error ⟨.unsupported, s⟩
  | fuel + 1, s =>
      match typeSelector (skipSpace s) with
      | .error failure => .error failure
      | .ok (type?, rest) =>
          match conditions insideHas (type?.getD []) fuel rest with
          | .error failure => .error failure
          | .ok (parts, rest) =>
              if parts.isEmpty then .error ⟨.unsupported, rest⟩
              else
                let found := match before with
                  | none => Complex.compound parts
                  | some (outer, combinator) => Complex.combined outer combinator parts
                match combinator? rest with
                | none => .ok (found, rest)
                | some (combinator, rest) => chain insideHas (some (found, combinator)) fuel rest

/-- Reads the alternatives in which components between commas are given. -/
def readAlternatives (insideHas forgiving relative : Bool) :
    Nat → List (List Component) → Except Cause (List Complex)
  | 0, _ => .error .unsupported
  | _ + 1, [] => .ok []
  | fuel + 1, s :: more =>
      let (before, start) :=
        if relative then
          match combinator? s with
          | some (combinator, rest) => (some (Complex.compound [.anchor], combinator), rest)
          | none => (some (Complex.compound [.anchor], Combinator.descendant), skipSpace s)
        else (none, s)
      let whole : Except Failure Complex :=
        match chain insideHas before fuel start with
        | .error failure => .error failure
        | .ok (found, rest) =>
            match expectEnd rest with
            | .error failure => .error failure
            | .ok () => .ok found
      let settled : Except Cause Complex :=
        match whole with
        | .ok found => .ok found
        | .error failure =>
            if forgiving then
              match mistakeIn? failure.rest with
              | some token => .error (.unexpectedToken token)
              | none => .ok (.compound [.never])
            else .error failure.cause
      match settled with
      | .error cause => .error cause
      | .ok found =>
          match readAlternatives insideHas forgiving relative fuel more with
          | .error cause => .error cause
          | .ok others => .ok (found :: others)

end

end DocSentences.Selector

namespace DocSentences.Selector

/-- Reads a selector. -/
def read (s : List Char) : Except Cause Selector :=
  let tokens := tokens s
  let parts := betweenCommas (components tokens)
  match readAlternatives false false false (4 * tokens.length + 8) parts with
  | .ok found => .ok ⟨found⟩
  | .error cause => .error cause

end DocSentences.Selector
