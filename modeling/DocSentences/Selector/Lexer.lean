import DocSentences.Selector.Token

/-!
# Cutting a selector into tokens

Names may hold escapes and any character beyond ASCII. A string that a line end cuts off, and an
address with characters that cannot stand in it, become tokens that are mistakes. Comments vanish.
-/

namespace DocSentences.Selector

/-- Whether a character ends a line. -/
def isLineEnd (c : Char) : Bool := c = '\n' || c = '\r' || c = '\x0c'

/-- The blank characters of style sheets. -/
def isSpace (c : Char) : Bool := c = ' ' || c = '\t' || isLineEnd c

/-- Whether a character can begin a name. -/
def startsName (c : Char) : Bool := c.isAlpha || c = '_' || c.toNat = 0 || 0x80 ≤ c.toNat

/-- Whether a character can continue a name. -/
def continuesName (c : Char) : Bool := startsName c || c.isDigit || c = '-'

/-- Whether an identifier begins here. -/
def startsIdent : List Char → Bool
  | '-' :: c :: _ => startsName c || c = '-' || c = '\\'
  | '-' :: [] => false
  | '\\' :: c :: _ => !isLineEnd c
  | '\\' :: [] => true
  | c :: _ => startsName c
  | [] => false

/-- The character that stands for one that cannot be shown. -/
def replacement : Char := '\uFFFD'

/-- The value of a hexadecimal digit. -/
def hexValue? (c : Char) : Option Nat :=
  if c.isDigit then some (c.toNat - 0x30)
  else if 'a' ≤ c && c ≤ 'f' then some (c.toNat - 0x57)
  else if 'A' ≤ c && c ≤ 'F' then some (c.toNat - 0x37)
  else none

/-- Reads hexadecimal digits, at most as many as given. -/
def hexNumber : Nat → Nat → List Char → Nat × List Char
  | 0, n, s => (n, s)
  | _ + 1, n, [] => (n, [])
  | more + 1, n, c :: rest =>
      match hexValue? c with
      | some digit => hexNumber more (16 * n + digit) rest
      | none => (n, c :: rest)

/-- The character with the given code, if there is one other than the null character. -/
def charOfCode (code : Nat) : Char :=
  if code = 0 || 0x10FFFF < code || (0xD800 ≤ code && code ≤ 0xDFFF) then replacement
  else Char.ofNat code

/-- Drops one blank character; a carriage return and a line feed count as one. -/
def dropSpace : List Char → List Char
  | '\r' :: '\n' :: rest => rest
  | c :: rest => if isSpace c then rest else c :: rest
  | [] => []

/-- Reads what follows a backslash: the character meant, and the rest. -/
def escape : List Char → Char × List Char
  | [] => (replacement, [])
  | c :: rest =>
      if (hexValue? c).isSome then
        let (code, rest) := hexNumber 6 0 (c :: rest)
        (charOfCode code, dropSpace rest)
      else (if c.toNat = 0 then replacement else c, rest)

theorem length_hexNumber (more n : Nat) (s : List Char) :
    (hexNumber more n s).2.length ≤ s.length := by
  fun_induction hexNumber more n s with
  | case1 => simp
  | case2 => simp
  | case3 more n c rest digit _ ih => simp only [List.length_cons]; omega
  | case4 => simp

theorem length_dropSpace (s : List Char) : (dropSpace s).length ≤ s.length := by
  unfold dropSpace
  split
  · simp only [List.length_cons]; omega
  · split <;> simp
  · simp

theorem length_hexNumber_lt {c : Char} (h : (hexValue? c).isSome) (more n : Nat)
    (rest : List Char) :
    (hexNumber (more + 1) n (c :: rest)).2.length ≤ rest.length := by
  obtain ⟨digit, hdigit⟩ := Option.isSome_iff_exists.1 h
  simp only [hexNumber, hdigit]
  exact length_hexNumber _ _ _

theorem length_escape (s : List Char) : (escape s).2.length ≤ s.length := by
  unfold escape
  split
  · simp
  next c rest =>
    split
    next h =>
      have h1 := length_dropSpace (hexNumber 6 0 (c :: rest)).2
      have h2 : (hexNumber 6 0 (c :: rest)).2.length ≤ rest.length :=
        length_hexNumber_lt h 5 0 rest
      simp only [List.length_cons]
      omega
    next => simp

/-- Reads the rest of a name: its characters, and what follows. -/
def name (s : List Char) : List Char × List Char :=
  match s with
  | [] => ([], [])
  | '\\' :: [] => ([replacement], [])
  | '\\' :: c :: rest =>
      if isLineEnd c then ([], s)
      else
        let found := escape (c :: rest)
        let (more, after) := name found.2
        (found.1 :: more, after)
  | c :: rest =>
      if continuesName c then
        let (more, after) := name rest
        ((if c.toNat = 0 then replacement else c) :: more, after)
      else ([], s)
termination_by s.length
decreasing_by
  · have := length_escape (c :: rest)
    simp only [List.length_cons] at *
    omega
  · simp

/-- Reads the rest of a string: whether it is complete, its text, and what follows. -/
def string (quote : Char) (s : List Char) : Bool × List Char × List Char :=
  match s with
  | [] => (true, [], [])
  | '\\' :: [] => (true, [], [])
  | '\\' :: '\r' :: '\n' :: rest => string quote rest
  | '\\' :: c :: rest =>
      if isLineEnd c then string quote rest
      else
        let found := escape (c :: rest)
        let (complete, more, after) := string quote found.2
        (complete, found.1 :: more, after)
  | c :: rest =>
      if c = quote then (true, [], rest)
      else if isLineEnd c then (false, [], c :: rest)
      else
        let (complete, more, after) := string quote rest
        (complete, (if c.toNat = 0 then replacement else c) :: more, after)
termination_by s.length
decreasing_by
  · simp only [List.length_cons]; omega
  · simp only [List.length_cons]; omega
  · have := length_escape (c :: rest)
    simp only [List.length_cons] at *
    omega
  · simp

/-- Drops a comment, whose opening has been read. -/
def dropComment : List Char → List Char
  | [] => []
  | '*' :: '/' :: rest => rest
  | _ :: rest => dropComment rest

/-- The text of an address that is none, up to the parenthesis that closes it, and what follows. -/
def badUrl : List Char → List Char × List Char
  | [] => ([], [])
  | ')' :: rest => ([], rest)
  | '\\' :: c :: rest =>
      if c = ')' || c = '\\' then
        let (text, after) := badUrl rest
        ('\\' :: c :: text, after)
      else
        let (text, after) := badUrl (c :: rest)
        ('\\' :: text, after)
  | c :: rest =>
      let (text, after) := badUrl rest
      (c :: text, after)

/-- Reads the rest of an address: its text if it is one, and what follows. `start` is the address
from its beginning. -/
def url (start s : List Char) : Token × List Char :=
  match s with
  | [] => (.url "", [])
  | ')' :: rest => (.url "", rest)
  | '\\' :: c :: rest =>
      if isLineEnd c then bad
      else
        let found := escape (c :: rest)
        let (token, after) := url start found.2
        (push found.1 token, after)
  | c :: rest =>
      if isSpace c then
        match rest.dropWhile isSpace with
        | [] => (.url "", [])
        | ')' :: after => (.url "", after)
        | _ => bad
      else if c = '"' || c = '\'' || c = '(' || c = '\\' || c.toNat < 0x20 && c.toNat ≠ 0 ||
          c.toNat = 0x7F then bad
      else
        let (token, after) := url start rest
        (push (if c.toNat = 0 then replacement else c) token, after)
termination_by s.length
decreasing_by
  · have := length_escape (c :: rest)
    simp only [List.length_cons] at *
    omega
  · simp
where
  push (c : Char) : Token → Token
    | .url text => .url (String.ofList (c :: text.toList))
    | token => token
  bad : Token × List Char :=
    let (text, after) := badUrl start
    (.badUrl (String.ofList text), after)

/-- Reads an identifier, a function or an address. -/
def identLike (s : List Char) : Token × List Char :=
  let (text, after) := name s
  match after with
  | '(' :: rest =>
      if text.map Char.toLower = "url".toList then
        match rest.dropWhile isSpace with
        | '"' :: _ | '\'' :: _ => (.function (String.ofList text), rest)
        | inside => url inside inside
      else (.function (String.ofList text), rest)
  | _ => (.ident (String.ofList text), after)

/-- The number that decimal digits stand for. -/
def decimal (digits : List Char) : Nat :=
  digits.foldl (fun n c => 10 * n + (c.toNat - 0x30)) 0

/-- Reads the exponent of a number. -/
def exponent (s : List Char) : Option (Int × List Char) :=
  match s with
  | e :: sign :: rest =>
      if e = 'e' || e = 'E' then
        let digits := (sign :: rest).takeWhile Char.isDigit
        let signed := rest.takeWhile Char.isDigit
        if !digits.isEmpty then
          some (decimal digits, (sign :: rest).dropWhile Char.isDigit)
        else if (sign = '+' || sign = '-') && !signed.isEmpty then
          let size : Int := decimal signed
          some (if sign = '-' then -size else size, rest.dropWhile Char.isDigit)
        else none
      else none
  | _ => none

/-- Reads a number, a percentage or a dimension. -/
def numeric (s : List Char) : Token × List Char :=
  let (hasSign, isNegative, s) := match s with
    | '-' :: rest => (true, true, rest)
    | '+' :: rest => (true, false, rest)
    | _ => (false, false, s)
  let whole := s.takeWhile Char.isDigit
  let s := s.dropWhile Char.isDigit
  let (fraction, s) := match s with
    | '.' :: rest =>
        let digits := rest.takeWhile Char.isDigit
        if digits.isEmpty then ([], s) else (digits, rest.dropWhile Char.isDigit)
    | _ => ([], s)
  let (power, s, plain) := match exponent s with
    | some (power, rest) => (power, rest, false)
    | none => (0, s, true)
  let n : Numeral :=
    ⟨hasSign, isNegative, decimal (whole ++ fraction), power - fraction.length,
      plain && fraction.isEmpty⟩
  match s with
  | '%' :: rest => (.percentage n, rest)
  | _ =>
      if startsIdent s then
        let (unit, after) := name s
        (.dimension n (String.ofList unit), after)
      else (.number n, s)

/-- Whether a number begins here. -/
def startsNumber : List Char → Bool
  | sign :: rest =>
      if sign = '+' || sign = '-' then
        match rest with
        | '.' :: c :: _ => c.isDigit
        | c :: _ => c.isDigit
        | [] => false
      else
        match sign, rest with
        | '.', c :: _ => c.isDigit
        | c, _ => c.isDigit
  | [] => false

/-- The token at the start of a text, unless a comment stands there, and what follows. -/
def nextToken : List Char → Option Token × List Char
  | [] => (none, [])
  | '/' :: '*' :: rest => (none, dropComment rest)
  | '$' :: '=' :: rest => (some .suffixMatch, rest)
  | '*' :: '=' :: rest => (some .substringMatch, rest)
  | '^' :: '=' :: rest => (some .prefixMatch, rest)
  | '|' :: '=' :: rest => (some .dashMatch, rest)
  | '~' :: '=' :: rest => (some .includeMatch, rest)
  | '<' :: '!' :: '-' :: '-' :: rest => (some .commentOpen, rest)
  | '-' :: '-' :: '>' :: rest => (some .commentClose, rest)
  | c :: rest =>
      if isSpace c then (some .space, rest.dropWhile isSpace)
      else if c = '"' || c = '\'' then
        let (complete, text, after) := string c rest
        let text := String.ofList text
        (some (if complete then .string text else .badString text), after)
      else if c = '#' then
        let (text, after) := name rest
        if startsIdent rest then (some (.idHash (String.ofList text)), after)
        else
          match rest with
          | d :: _ =>
              if d.isDigit || d = '-' then (some (.hash (String.ofList text)), after)
              else (some (.delim '#'), rest)
          | [] => (some (.delim '#'), rest)
      else if c = '@' then
        if startsIdent rest then
          let (text, after) := name rest
          (some (.atKeyword (String.ofList text)), after)
        else (some (.delim '@'), rest)
      else if startsNumber (c :: rest) then
        let (token, after) := numeric (c :: rest)
        (some token, after)
      else if startsIdent (c :: rest) then
        let (token, after) := identLike (c :: rest)
        (some token, after)
      else
        let token := match c with
          | '(' => .openParen
          | ')' => .closeParen
          | '[' => .openSquare
          | ']' => .closeSquare
          | '\x7b' => .openCurly
          | '\x7d' => .closeCurly
          | ',' => .comma
          | ':' => .colon
          | ';' => .semicolon
          | _ => .delim c
        (some token, rest)

/-- The tokens of a text. Every token has at least one character, so there are no more of them than
characters. -/
def tokensFrom : Nat → List Char → List Token
  | 0, _ => []
  | _ + 1, [] => []
  | steps + 1, s =>
      let (token?, rest) := nextToken s
      token?.toList ++ tokensFrom steps rest

/-- The tokens of a text. -/
def tokens (s : List Char) : List Token := tokensFrom s.length s

end DocSentences.Selector
