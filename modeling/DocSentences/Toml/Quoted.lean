/-!
# Strings of a configuration file

A string is written in one of four ways: between quotes or apostrophes, one of them or three.
Between apostrophes every character stands for itself; between quotes a backslash begins an escape.
Three of them let the string go on over several lines. A string is written in the first of these
ways that shows it without escapes, and with escapes if there is none.
-/

namespace DocSentences.Toml

/-- What was read, and the text after it. -/
abbrev Scan (α : Type) := Option (α × List Char)

/-- Whether a character may stand in a line of a file: a tab, or no control character. -/
def isPlain (c : Char) : Bool := c = '\t' || (' ' ≤ c && c ≠ '\x7F')

/-- Puts a character before the text that was read. -/
def prepend (c : Char) : Scan (List Char) → Scan (List Char)
  | some (text, rest) => some (c :: text, rest)
  | none => none

/-- The value of a hexadecimal digit. -/
def hexDigit? (c : Char) : Option Nat :=
  if '0' ≤ c ∧ c ≤ '9' then some (c.toNat - 0x30)
  else if 'a' ≤ c ∧ c ≤ 'f' then some (c.toNat - 0x57)
  else if 'A' ≤ c ∧ c ≤ 'F' then some (c.toNat - 0x37)
  else none

/-- The character whose code point some hexadecimal digits spell. -/
def charOfHex? (digits : List Char) : Option Char := do
  let code := (← digits.mapM hexDigit?).foldl (fun n digit => 16 * n + digit) 0
  if code.isValidChar then some (Char.ofNat code) else none

/-- The character that a backslash with a letter stands for. -/
def escaped? : Char → Option Char
  | 'b' => some '\x08'
  | 't' => some '\t'
  | 'n' => some '\n'
  | 'f' => some '\x0C'
  | 'r' => some '\r'
  | '"' => some '"'
  | '\\' => some '\\'
  | _ => none

/-- Reads the rest of an escape, after the backslash. -/
def readEscape : List Char → Scan Char
  | 'u' :: a :: b :: c :: d :: rest => (charOfHex? [a, b, c, d]).map (·, rest)
  | 'U' :: a :: b :: c :: d :: e :: f :: g :: h :: rest =>
      (charOfHex? [a, b, c, d, e, f, g, h]).map (·, rest)
  | c :: rest => (escaped? c).map (·, rest)
  | [] => none

theorem length_of_readEscape {s rest : List Char} {c : Char} (h : readEscape s = some (c, rest)) :
    rest.length < s.length := by
  unfold readEscape at h
  split at h
  · obtain ⟨_, _, h⟩ := Option.map_eq_some_iff.1 h
    cases h
    simp only [List.length_cons]
    omega
  · obtain ⟨_, _, h⟩ := Option.map_eq_some_iff.1 h
    cases h
    simp only [List.length_cons]
    omega
  · obtain ⟨_, _, h⟩ := Option.map_eq_some_iff.1 h
    cases h
    simp
  · cases h

/-- Reads what stands between apostrophes, after the first one. -/
def readLiteral : List Char → Scan (List Char)
  | [] => none
  | '\'' :: rest => some ([], rest)
  | c :: rest => if isPlain c then prepend c (readLiteral rest) else none

/-- Reads what stands between quotes, after the first one. -/
def readBasic : List Char → Scan (List Char)
  | [] => none
  | '"' :: rest => some ([], rest)
  | '\\' :: rest =>
      match _h : readEscape rest with
      | some (c, after) => prepend c (readBasic after)
      | none => none
  | c :: rest => if isPlain c then prepend c (readBasic rest) else none
termination_by s => s.length
decreasing_by
  · have := length_of_readEscape _h
    simp only [List.length_cons]
    omega
  · simp

/-- Reads what stands between three apostrophes, after the first three. -/
def readLiteralLines : List Char → Scan (List Char)
  | [] => none
  | '\'' :: '\'' :: '\'' :: '\'' :: '\'' :: rest => some (['\'', '\''], rest)
  | '\'' :: '\'' :: '\'' :: '\'' :: rest => some (['\''], rest)
  | '\'' :: '\'' :: '\'' :: rest => some ([], rest)
  | '\r' :: '\n' :: rest => prepend '\n' (readLiteralLines rest)
  | c :: rest => if isPlain c || c = '\n' then prepend c (readLiteralLines rest) else none

/-- Drops blank space and line ends. -/
def dropBlankLines : List Char → List Char
  | ' ' :: rest | '\t' :: rest | '\n' :: rest | '\r' :: '\n' :: rest => dropBlankLines rest
  | s => s

theorem length_dropBlankLines (s : List Char) : (dropBlankLines s).length ≤ s.length := by
  fun_induction dropBlankLines s <;> grind

/-- Drops the rest of a line that is blank, and the blank space and line ends after it. -/
def foldLine? (s : List Char) : Option (List Char) :=
  match s.dropWhile fun c => c = ' ' || c = '\t' with
  | '\n' :: rest => some (dropBlankLines rest)
  | '\r' :: '\n' :: rest => some (dropBlankLines rest)
  | _ => none

theorem length_of_foldLine? {s rest : List Char} (h : foldLine? s = some rest) :
    rest.length < s.length := by
  have hdrop := (List.dropWhile_suffix (l := s) fun c => c = ' ' || c = '\t').length_le
  unfold foldLine? at h
  split at h
  next r hr =>
    cases h
    have := length_dropBlankLines r
    rw [hr] at hdrop
    simp only [List.length_cons] at hdrop
    omega
  next r hr =>
    cases h
    have := length_dropBlankLines r
    rw [hr] at hdrop
    simp only [List.length_cons] at hdrop
    omega
  next => cases h

/-- Reads what stands between three quotes, after the first three. -/
def readBasicLines : List Char → Scan (List Char)
  | [] => none
  | '"' :: '"' :: '"' :: '"' :: '"' :: rest => some (['"', '"'], rest)
  | '"' :: '"' :: '"' :: '"' :: rest => some (['"'], rest)
  | '"' :: '"' :: '"' :: rest => some ([], rest)
  | '\r' :: '\n' :: rest => prepend '\n' (readBasicLines rest)
  | '\\' :: rest =>
      match _h : foldLine? rest with
      | some after => readBasicLines after
      | none =>
          match _h' : readEscape rest with
          | some (c, after) => prepend c (readBasicLines after)
          | none => none
  | c :: rest => if isPlain c || c = '\n' then prepend c (readBasicLines rest) else none
termination_by s => s.length
decreasing_by
  · simp only [List.length_cons]
    omega
  · have := length_of_foldLine? _h
    simp only [List.length_cons]
    omega
  · have := length_of_readEscape _h'
    simp only [List.length_cons]
    omega
  · simp

/-- Drops a line end right at the start. -/
def dropLineEnd : List Char → List Char
  | '\n' :: rest => rest
  | '\r' :: '\n' :: rest => rest
  | s => s

/-- Reads a string in any of the four ways. -/
def readString : List Char → Scan (List Char)
  | '"' :: '"' :: '"' :: rest => readBasicLines (dropLineEnd rest)
  | '"' :: rest => readBasic rest
  | '\'' :: '\'' :: '\'' :: rest => readLiteralLines (dropLineEnd rest)
  | '\'' :: rest => readLiteral rest
  | _ => none

/-- Upper-case hexadecimal digits, four of them. -/
def hexDigits (n : Nat) : List Char :=
  [n / 0x1000, n / 0x100, n / 0x10, n].map fun k => (Nat.digitChar (k % 0x10)).toUpper

/-- A character with the escape it needs between quotes; a line end needs none if there are
three. -/
def escapedChar (lines : Bool) (c : Char) : List Char :=
  if c = '\x08' then ['\\', 'b']
  else if c = '\t' then ['\\', 't']
  else if c = '\n' then if lines then ['\n'] else ['\\', 'n']
  else if c = '\x0C' then ['\\', 'f']
  else if c = '\r' then ['\\', 'r']
  else if c = '\\' then ['\\', '\\']
  else if c < ' ' || c = '\x7F' then '\\' :: 'u' :: hexDigits c.toNat
  else [c]

/-- Writes characters between quotes. A quote is escaped where as many quotes as given have been
written before it. -/
def escapedText (lines : Bool) (quotes : Nat) : List Char → List Char
  | [] => []
  | '"' :: rest =>
      if quotes = 0 then '\\' :: '"' :: escapedText lines (if lines then 2 else 0) rest
      else '"' :: escapedText lines (quotes - 1) rest
  | c :: rest => escapedChar lines c ++ escapedText lines (if lines then 2 else 0) rest

/-- The length of the longest run of a character. -/
def longestRun (c : Char) (s : List Char) : Nat :=
  (s.foldl (fun (longest, current) x =>
    if x = c then (max longest (current + 1), current + 1) else (longest, 0)) (0, 0)).1

/-- Whether a character can only be written as an escape. -/
def needsEscape (c : Char) : Bool :=
  (c < ' ' && c ≠ '\t' && c ≠ '\n') || c = '\x7F'

/-- Writes a string. -/
def writeString (s : List Char) : List Char :=
  let escape := s.any needsEscape
  let backslash := s.contains '\\'
  let lines := s.contains '\n'
  let start := if lines then ['\n'] else []
  let quotes := ['"', '"', '"']
  let apostrophes := ['\'', '\'', '\'']
  if !escape && !backslash && !lines && !s.contains '"' then
    '"' :: escapedText false 0 s ++ ['"']
  else if !escape && !lines && !s.contains '\'' then '\'' :: s ++ ['\'']
  else if !escape && !backslash && longestRun '"' s ≤ 2 then
    quotes ++ start ++ escapedText true 2 s ++ quotes
  else if !escape && longestRun '\'' s ≤ 2 then apostrophes ++ start ++ s ++ apostrophes
  else if lines then quotes ++ start ++ escapedText true 2 s ++ quotes
  else '"' :: escapedText false 0 s ++ ['"']

end DocSentences.Toml
