import DocSentences.Toml.Number
import DocSentences.Toml.Table

/-!
# Reading configuration files

A file is read statement by statement. A statement ends with its line; what is between statements is
blank space, line ends and comments.
-/

namespace DocSentences.Toml

/-- Whether a character is blank space within a line. -/
def isLineSpace (c : Char) : Bool := c = ' ' || c = '\t'

/-- Drops blank space within a line. -/
def skipSpace (s : List Char) : List Char := s.dropWhile isLineSpace

/-- Drops blank space, line ends and comments. -/
def skipFiller (inComment : Bool) : List Char → Option (List Char)
  | [] => some []
  | '\n' :: rest => skipFiller false rest
  | '\r' :: '\n' :: rest => skipFiller false rest
  | c :: rest =>
      if inComment then if isPlain c then skipFiller true rest else none
      else if isLineSpace c then skipFiller false rest
      else if c = '#' then skipFiller true rest
      else some (c :: rest)

/-- Whether the rest of a line says nothing. -/
def endsLine (s : List Char) : Bool :=
  match skipSpace s with
  | [] => true
  | '\n' :: _ => true
  | '\r' :: '\n' :: _ => true
  | '#' :: _ => true
  | _ => false

/-- Whether a character may stand in a key without quotes. -/
def isBare (c : Char) : Bool := c.isAlphanum || c = '_' || c = '-'

/-- How deep values may be nested, and how long a key with dots may be, plus one. -/
def nestingLimit : Nat := 80

/-- Reads one part of a key. -/
def readKeyPart : List Char → Scan (List Char)
  | '"' :: rest => readBasic rest
  | '\'' :: rest => readLiteral rest
  | s =>
      if (s.takeWhile isBare).isEmpty then none
      else some (s.takeWhile isBare, s.dropWhile isBare)

/-- Reads a key, and the blank space around it: parts with dots between them. -/
def readKey : Nat → List Char → Scan (List String)
  | 0, _ => none
  | fuel + 1, s =>
      match readKeyPart (skipSpace s) with
      | none => none
      | some (part, rest) =>
          match skipSpace rest with
          | '.' :: more => (readKey fuel more).map fun (parts, rest) =>
              (String.ofList part :: parts, rest)
          | rest => some ([String.ofList part], rest)

/-- Splits a key into the path to a table and the key in it. -/
def splitKey? (parts : List String) : Option (List String × String) :=
  parts.getLast?.map (parts.dropLast, ·)

/-- Whether a character ends a value that has no quotes or brackets. -/
def endsWord (c : Char) : Bool :=
  isLineSpace c || c = '\n' || c = '\r' || c = ',' || c = ']' || c = '\x7D' || c = '#'

/-- Reads a truth value, a number or a moment. -/
def readWord (s : List Char) : Scan Value :=
  let word := s.takeWhile (!endsWord ·)
  let rest := s.dropWhile (!endsWord ·)
  if word = ['t', 'r', 'u', 'e'] then some (.scalar (.boolean true), rest)
  else if word = ['f', 'a', 'l', 's', 'e'] then some (.scalar (.boolean false), rest)
  else if isMoment word then
    match rest with
    | ' ' :: later =>
        let time := later.takeWhile (!endsWord ·)
        if afterDate? word = some [] && isZonedTime time then
          some (.moment (String.ofList (word ++ ' ' :: time)), later.dropWhile (!endsWord ·))
        else some (.moment (String.ofList word), rest)
    | _ => some (.moment (String.ofList word), rest)
  else match integer? word with
    | some n => some (.scalar (.integer n), rest)
    | none => if isFloat word then some (.float (String.ofList word), rest) else none

mutual

/-- Reads a value that stands inside `depth` others. -/
def readValue (depth : Nat) : Nat → List Char → Scan Value
  | 0, _ => none
  | fuel + 1, s =>
      match s with
      | '"' :: _ | '\'' :: _ => (readString s).map fun (text, rest) =>
          (.scalar (.string (String.ofList text)), rest)
      | '[' :: rest =>
          if nestingLimit ≤ depth + 1 then none
          else (readItems (depth + 1) fuel rest).map fun (items, rest) => (.array items, rest)
      | '\x7B' :: rest =>
          if nestingLimit ≤ depth + 1 then none
          else match skipSpace rest with
            | '\x7D' :: rest => some (.table .inline [], rest)
            | rest => (readPairs (depth + 1) [] fuel rest).map fun (entries, rest) =>
                (.table .inline entries, rest)
      | _ => readWord s

/-- Reads the rest of an array, after its bracket or after a comma. -/
def readItems (depth : Nat) : Nat → List Char → Scan (List Value)
  | 0, _ => none
  | fuel + 1, s =>
      match skipFiller false s with
      | none => none
      | some (']' :: rest) => some ([], rest)
      | some s =>
          match readValue depth fuel s with
          | none => none
          | some (item, rest) =>
              match skipFiller false rest with
              | some (',' :: rest) => (readItems depth fuel rest).map fun (items, rest) =>
                  (item :: items, rest)
              | some (']' :: rest) => some ([item], rest)
              | _ => none

/-- Reads the rest of a table between braces, in which some keys have values already. -/
def readPairs (depth : Nat) (entries : Entries) : Nat → List Char → Scan Entries
  | 0, _ => none
  | fuel + 1, s =>
      match readKey nestingLimit s with
      | some (parts, '=' :: rest) =>
          match splitKey? parts, readValue depth fuel (skipSpace rest) with
          | some (path, key), some (value, rest) =>
              match entries.assign path key value, skipSpace rest with
              | some entries, ',' :: rest => readPairs depth entries fuel rest
              | some entries, '\x7D' :: rest => some (entries, rest)
              | _, _ => none
          | _, _ => none
      | _ => none

end

/-- What one statement of a file says. -/
inductive Statement
  /-- A table begins. -/
  | table (path : List String) (key : String)
  /-- One of several tables begins. -/
  | element (path : List String) (key : String)
  | assign (path : List String) (key : String) (value : Value)

/-- Reads a statement, up to the end of its line. -/
def readStatement (s : List Char) : Scan Statement :=
  match s with
  | '[' :: '[' :: rest =>
      match readKey nestingLimit rest with
      | some (parts, ']' :: ']' :: rest) =>
          (splitKey? parts).map fun (path, key) => (.element path key, rest)
      | _ => none
  | '[' :: rest =>
      match readKey nestingLimit rest with
      | some (parts, ']' :: rest) =>
          (splitKey? parts).map fun (path, key) => (.table path key, rest)
      | _ => none
  | _ =>
      match readKey nestingLimit s with
      | some (parts, '=' :: rest) =>
          match splitKey? parts, readValue 0 (rest.length + 1) (skipSpace rest) with
          | some (path, key), some (value, rest) => some (.assign path key value, rest)
          | _, _ => none
      | _ => none

/-- Reads the statements of a text. -/
def readStatements : Nat → List Char → Option (List Statement)
  | 0, _ => none
  | fuel + 1, s =>
      match skipFiller false s with
      | none => none
      | some [] => some []
      | some s =>
          match readStatement s with
          | none => none
          | some (statement, rest) =>
              if endsLine rest then (readStatements fuel rest).map (statement :: ·) else none

/-- The tables after some statements, and the path of the table that assignments go to. -/
structure Assembly where
  root : Entries
  current : List String

/-- The tables after one more statement. -/
def Assembly.step (a : Assembly) : Statement → Option Assembly
  | .table path key => (a.root.begin path key).map (⟨·, path ++ [key]⟩)
  | .element path key => (a.root.beginElement path key).map (⟨·, path ++ [key]⟩)
  | .assign path key value =>
      (Entries.within false (·.assign path key value) a.current a.root).map (⟨·, a.current⟩)

/-- Drops the mark that may stand at the start of a file. -/
def dropMark : List Char → List Char
  | '\uFEFF' :: rest => rest
  | s => s

/-- The table that a text describes. -/
def read (s : List Char) : Option Value := do
  let statements ← readStatements (s.length + 1) (dropMark s)
  let assembly ← statements.foldlM Assembly.step ⟨[], []⟩
  return .table .header assembly.root

end DocSentences.Toml
