import Std.Data.HashMap
import DocSentences.Markup.EntityNames

/-!
# Character references

What stands for another character: a name after an ampersand, or the number of a code point. The
longest known name counts. Inside an attribute value a name without its semicolon is left alone when
something follows that could belong to it, as in the query of an address.
-/

namespace DocSentences.Markup

/-- The value of a hexadecimal digit. -/
def hexValue (c : Char) : Nat :=
  if c.isDigit then c.toNat - 0x30 else if c.toNat < 0x47 then c.toNat - 0x37 else c.toNat - 0x57

/-- The number that digits of a base stand for. -/
def numberOf (base : Nat) (digits : List Char) : Nat :=
  digits.foldl (fun n c => n * base + hexValue c) 0

/-- The entries of the list of names. -/
def readEntities (text : String) : List (String × List Char) :=
  ((text.toList.splitOnP isSeparator).filter (!·.isEmpty)).map fun entry =>
    (String.ofList (entry.takeWhile (· != '=')),
      ((entry.dropWhile (· != '=')).tail.splitOnP (· == '+')).map fun digits =>
        Char.ofNat (numberOf 16 digits))
where
  isSeparator (c : Char) : Bool := c = ' ' || c = '\n'

/-- The characters that each name stands for. -/
def entities : Std.HashMap String (List Char) :=
  Std.HashMap.ofList (readEntities entityText)

/-- The replacements of code points that are control characters but were meant in the code page of
another system. -/
def controlReplacements : List (Nat × Nat) :=
  [
    (0x80, 0x20AC), (0x82, 0x201A), (0x83, 0x192), (0x84, 0x201E), (0x85, 0x2026), (0x86,
    0x2020), (0x87, 0x2021), (0x88, 0x2C6), (0x89, 0x2030), (0x8A, 0x160), (0x8B, 0x2039),
    (0x8C, 0x152), (0x8E, 0x17D), (0x91, 0x2018), (0x92, 0x2019), (0x93, 0x201C), (0x94,
    0x201D), (0x95, 0x2022), (0x96, 0x2013), (0x97, 0x2014), (0x98, 0x2DC), (0x99, 0x2122),
    (0x9A, 0x161), (0x9B, 0x203A), (0x9C, 0x153), (0x9E, 0x17E), (0x9F, 0x178)]

/-- The character that a numeric reference stands for. -/
def numericReference (code : Nat) : Char :=
  if code = 0 || code > 0x10FFFF || (0xD800 ≤ code && code ≤ 0xDFFF) then '\uFFFD'
  else
    match controlReplacements.lookup code with
    | some meant => Char.ofNat meant
    | none => Char.ofNat code

/-- The longest beginning of `name` that is a known name, as its characters and what is left. -/
def longestEntity? (name : List Char) : Nat → Option (List Char × List Char)
  | 0 => none
  | length + 1 =>
      match entities[String.ofList (name.take (length + 1))]? with
      | some characters => some (characters, name.drop (length + 1))
      | none => longestEntity? name length

/-- The longest name that is known. -/
def maxEntityLength : Nat := 32

/-- Resolves what follows an ampersand. The text reaches to the first character that is neither a
letter nor a digit, and includes that character if there is one. The result is the characters that
the reference stands for, and what is left of the text; without a reference the ampersand stands for
itself. -/
def namedReference (inAttribute : Bool) (name : List Char) : List Char × List Char :=
  match longestEntity? name (min name.length maxEntityLength) with
  | none => (['&'], name)
  | some (characters, rest) =>
      let closed := (name.take (name.length - rest.length)).getLast? == some ';'
      let ambiguous := match rest with
        | [] => false
        | c :: _ => c = '=' || c.isAlphanum
      if inAttribute && !closed && ambiguous then (['&'], name) else (characters, rest)

end DocSentences.Markup
